/-! # Binary fractions of 64 bits

A double is taken apart by its bits into a sign and a magnitude m · 2^q, all in whole numbers. Three
things are read off: the shortest decimal that reads back as the same double, the double nearest to a
given fraction, and a number that orders doubles totally. For the last a double is its bits, since the
order tells a NaN from another by its sign and its payload.
-/

namespace StorageTrace

namespace Binary64

/-- One unit of the exponent field. -/
def hidden : Nat := 0x0010000000000000

/-- The bit pattern of positive infinity. -/
def infinity : Nat := 0x7FF0000000000000

/-- The weight of the sign bit. -/
def signBit : Nat := 0x8000000000000000

/-- A double's kind, with m and q for the finite magnitude m · 2^q and whether the next smaller
double is only half as far away as the next greater one. -/
inductive Magnitude where
  | nan
  | infinite
  | finite (m : Nat) (q : Int) (lopsided : Bool)
  deriving DecidableEq, Repr

/-- The magnitude that a bit pattern stands for. -/
def magnitude (bits : Nat) : Magnitude :=
  let field := bits % signBit / hidden
  let fraction := bits % hidden
  if field = 2047 then if fraction = 0 then .infinite else .nan
  else if field = 0 then .finite fraction (-1074) false
  else .finite (hidden + fraction) (field - 1075) (fraction = 0 && field ≠ 1)

/-- A decimal: digits, most significant first, and the power of ten of the last one. -/
structure Decimal where
  digits : Nat
  exponent : Int
  deriving DecidableEq, Repr

/-- A power of ten. -/
def tenTo (exponent : Nat) : Nat := Nat.pow 10 exponent

/-- How many decimal digits a positive number has. -/
def digitCount (n : Nat) : Nat := (Nat.toDigits 10 n).length

/-- The power of ten of the leading digit of a positive fraction. -/
def leadingExponent (num den : Nat) : Int :=
  if den ≤ num then (digitCount (num / den) : Int) - 1
  else -(digitCount ((den + num - 1) / num - 1) : Int)

/-- The decimal with the given last place that is nearest to num / den among those that lie between
low / den and high / den, if any; of two equally near ones the greater. -/
def nearestOnGrid? (low num high den : Nat) (inclusive : Bool) (place : Int) : Option Decimal :=
  let scaleUp := tenTo (-place).toNat
  let unit := den * tenTo place.toNat
  let below := num * scaleUp / unit
  let inside (digits : Nat) : Bool :=
    let point := digits * unit
    if inclusive then low * scaleUp ≤ point && point ≤ high * scaleUp
    else low * scaleUp < point && point < high * scaleUp
  let gapBelow := num * scaleUp - below * unit
  let gapAbove := (below + 1) * unit - num * scaleUp
  match inside below, inside (below + 1) with
  | true, true => some ⟨if gapBelow < gapAbove then below else below + 1, place⟩
  | true, false => some ⟨below, place⟩
  | false, true => some ⟨below + 1, place⟩
  | false, false => none

/-- The first hit among a number of grids, each ten times finer than the one before. -/
def firstOnGrids? (low num high den : Nat) (inclusive : Bool) : Nat → Int → Option Decimal
  | 0, _ => none
  | grids + 1, place =>
    match nearestOnGrid? low num high den inclusive place with
    | some decimal => some decimal
    | none => firstOnGrids? low num high den inclusive grids (place - 1)

/-- The decimal of fewest digits that reads back as m · 2^q, and the nearest of those. -/
def shortest (m : Nat) (q : Int) (lopsided : Bool) : Decimal :=
  let scale := 1 <<< q.toNat
  let den := 4 <<< (-q).toNat
  let num := 4 * m * scale
  let low := (4 * m - if lopsided then 1 else 2) * scale
  let high := (4 * m + 2) * scale
  let lead := leadingExponent num den
  let nearby := firstOnGrids? low num high den (m % 2 = 0) 17 lead
  nearby.getD ⟨num * tenTo (17 - lead).toNat / (den * tenTo (lead - 17).toNat), lead - 17⟩

/-- The digits of a positive decimal without an exponent. -/
def positional (decimal : Decimal) : String :=
  let digits := Nat.toDigits 10 decimal.digits
  if 0 ≤ decimal.exponent then String.ofList (digits ++ List.replicate decimal.exponent.toNat '0')
  else
    let places := (-decimal.exponent).toNat
    let padded := List.replicate (places + 1 - digits.length) '0' ++ digits
    let whole := padded.take (padded.length - places)
    let fraction := (padded.drop (padded.length - places)).reverse.dropWhile (· = '0')
    if fraction.isEmpty then String.ofList whole
    else String.ofList (whole ++ '.' :: fraction.reverse)

/-- The text of the magnitude that a bit pattern stands for. -/
def magnitudeText (bits : Nat) : String :=
  match magnitude bits with
  | .nan => "NaN"
  | .infinite => "inf"
  | .finite 0 _ _ => "0"
  | .finite m q lopsided => positional (shortest m q lopsided)

/-- The shortest decimal text that reads back as a double, never with an exponent. -/
def text (value : Float) : String :=
  let bits := value.toBits.toNat
  if bits < signBit || value.isNaN then magnitudeText bits else "-" ++ magnitudeText bits

/-- The nearest whole number to num / den; a half goes to the even neighbour. -/
def roundToEven (num den : Nat) : Nat :=
  let whole := num / den
  let twice := 2 * (num % den)
  if twice < den then whole
  else if den < twice then whole + 1
  else whole + whole % 2

/-- The power of two of the leading bit of a positive fraction. -/
def leadingBit (num den : Nat) : Int :=
  let guess : Int := (num.log2 : Int) - den.log2
  if den <<< guess.toNat ≤ num <<< (-guess).toNat then guess else guess - 1

/-- The bits of the double nearest to a fraction, or infinity beyond the greatest double. -/
def ofFraction (num den : Nat) : Nat :=
  if num = 0 then 0
  else
    let q := max (-1074) (leadingBit num den - 52)
    let m := roundToEven (num <<< (-q).toNat) (den <<< q.toNat)
    min infinity (if m < hidden then m else (q + 1075).toNat * hidden + (m - hidden))

/-- The bits of the double nearest to digits · 10^exponent. Exponents that put every digit beyond
the range of doubles are settled without computing the power. -/
def ofDecimal (decimal : Decimal) : Nat :=
  let magnitude : Int := digitCount decimal.digits + decimal.exponent
  if decimal.digits = 0 || magnitude < -330 then 0
  else if 400 < magnitude then infinity
  else ofFraction (decimal.digits * tenTo decimal.exponent.toNat) (tenTo (-decimal.exponent).toNat)

/-- The double with the given bits. -/
def toFloat (bits : Nat) : Float := Float.ofBits (UInt64.ofNat bits)

end Binary64

/-- A double, every bit of it. -/
structure Double where
  bits : UInt64
  deriving DecidableEq, Repr, Inhabited

namespace Double

open Binary64

instance : OfNat Double 0 := ⟨⟨0⟩⟩

/-- The double that a computed value is. -/
def ofFloat (value : Float) : Double := ⟨value.toBits⟩

/-- The value to compute with. -/
def toFloat (double : Double) : Float := Float.ofBits double.bits

/-- Whether the sign bit is set, be it of a number or of a NaN. -/
def isNegative (double : Double) : Bool := signBit ≤ double.bits.toNat

def isNaN (double : Double) : Bool := magnitude double.bits.toNat = .nan

/-- The place of a double in the total order: the sign first, then all bits below it, which count
downwards under a negative sign. -/
def rank (double : Double) : Nat :=
  let bits := double.bits.toNat
  if double.isNegative then 2 * signBit - 1 - bits else signBit + bits

/-- A NaN that passes through an operation gets the leading bit of its fraction set. -/
def quiet (double : Double) : Double := ⟨double.bits ||| 0x0008000000000000⟩

/-- One way to add, that of common processors: a NaN is passed on, the left one before the right one,
and where there is no sum the result is the NaN of negative sign without a payload. -/
def sum (left right : Double) : Double :=
  if left.isNaN then left.quiet
  else if right.isNaN then right.quiet
  else
    let sum := left.toFloat + right.toFloat
    if sum.isNaN then ⟨0xFFF8000000000000⟩ else ofFloat sum

end Double

end StorageTrace
