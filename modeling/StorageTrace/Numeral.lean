import StorageTrace.Binary64

/-! # Numerals

Numbers as texts spell them: whole numbers in a base, and decimals with a point and an exponent.
-/

namespace StorageTrace

namespace Numeral

/-- The value of a digit below a base; letters in either case follow the nine. -/
def digit? (base : Nat) (c : Char) : Option Nat :=
  let value :=
    if c.isDigit then c.toNat - '0'.toNat
    else if 'a' ≤ c && c ≤ 'z' then c.toNat - 'a'.toNat + 10
    else if 'A' ≤ c && c ≤ 'Z' then c.toNat - 'A'.toNat + 10
    else base
  if value < base then some value else none

/-- The value of a list of digits, which may not be empty. -/
def ofDigits? (base : Nat) (digits : List Char) : Option Nat :=
  if digits.isEmpty then none
  else digits.foldlM (fun value c => (digit? base c).map (value * base + ·)) 0

/-- The value of decimal digits, zero for none. -/
def ofDecimalDigits (digits : List Char) : Nat := (ofDigits? 10 digits).getD 0

/-- A list without a sign that stands first. -/
def withoutSign (sign : Char) (chars : List Char) : List Char :=
  if chars.head? = some sign then chars.tail else chars

def startsSigned (chars : List Char) : Bool := chars.head? = some '+' || chars.head? = some '-'

/-- Whether digits start with a zero that does not stand for the number zero. -/
def hasLeadingZero (chars : List Char) : Bool :=
  1 < chars.length && chars.head? = some '0' && chars.all Char.isDigit

/-- The bases that a beginning announces. -/
def announced : List (List Char × Nat) :=
  [("0x".toList, 16), ("0o".toList, 8), ("0b".toList, 2)]

/-- A whole number below a limit: decimal without a leading zero, or in the base that its beginning
announces. A plus sign may stand first. -/
def natural? (limit : Nat) (text : String) : Option Nat :=
  let chars := withoutSign '+' text.toList
  let based := announced.findSome? fun (beginning, base) =>
    if beginning.isPrefixOf chars then
      (ofDigits? base (chars.drop beginning.length)).filter (· < limit)
    else none
  based.or
    (if hasLeadingZero chars then none else (ofDigits? 10 chars).filter (· < limit))

/-- The exponent behind the letter that announces it. -/
def exponent? : List Char → Option Int
  | [] => some 0
  | c :: rest =>
    if c = 'e' || c = 'E' then
      let negative := rest.head? = some '-'
      let digits := if startsSigned rest then rest.tail else rest
      (ofDigits? 10 digits).map fun value => if negative then -(value : Int) else value
    else none

/-- A decimal: digits with a point among, before or behind them, and an exponent if there is one. -/
def decimal? (chars : List Char) : Option Binary64.Decimal :=
  let whole := chars.takeWhile Char.isDigit
  let rest := chars.dropWhile Char.isDigit
  let behindPoint := if rest.head? = some '.' then rest.tail else []
  let fraction := behindPoint.takeWhile Char.isDigit
  let rest := if rest.head? = some '.' then behindPoint.dropWhile Char.isDigit else rest
  if whole.isEmpty && fraction.isEmpty then none
  else (exponent? rest).map fun exponent =>
    { digits := ofDecimalDigits (whole ++ fraction), exponent := exponent - fraction.length }

/-- The double that a decimal with a sign is nearest to, unless it is out of range. -/
def double? (chars : List Char) : Option Float := do
  let negative := chars.head? = some '-'
  let bits := Binary64.ofDecimal (← decimal? (if startsSigned chars then chars.tail else chars))
  if Binary64.infinity ≤ bits then none
  else some (Binary64.toFloat (if negative then Binary64.signBit + bits else bits))

end Numeral

end StorageTrace
