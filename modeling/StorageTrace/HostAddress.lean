import StorageTrace.Numeral

/-! # Addresses of hosts

A host is written either as four octets, of which the last number may stand for several, or as eight
groups of two octets each, where one run of zeros may be left out.
-/

namespace StorageTrace

/-- An address of a host. -/
inductive HostAddress where
  /-- Four octets, as one number. -/
  | four (value : Nat)
  /-- Eight groups, and the number of the interface that they are meant for, zero for none. -/
  | six (groups : List Nat) (scope : Nat)
  deriving DecidableEq, Repr, Inhabited

namespace HostAddress

/-- A list cut at each occurrence of a character. -/
def cutAt (separator : Char) : List Char → List (List Char)
  | [] => [[]]
  | c :: rest =>
    match cutAt separator rest with
    | first :: more => if c = separator then [] :: first :: more else (c :: first) :: more
    | [] => [[c]]

/-! ## Four octets -/

/-- A number: in base 16 behind `0x`, in base 8 behind any other zero, else in base 10. -/
def part? : List Char → Option Nat
  | '0' :: next :: rest =>
    if next = 'x' || next = 'X' then Numeral.ofDigits? 16 rest
    else Numeral.ofDigits? 8 (next :: rest)
  | digits => Numeral.ofDigits? 10 digits

/-- The values of so many octets. -/
def octetLimit (count : Nat) : Nat := Nat.pow 256 count

/-- Up to four numbers between points. Each but the last is an octet, and the last stands for all
octets that are left. -/
def four? (chars : List Char) : Option Nat := do
  let parts ← (cutAt '.' chars).mapM part?
  let octets := parts.dropLast
  let last ← parts.getLast?
  let limit := octetLimit (4 - octets.length)
  if octets.length < 4 && octets.all (· < 256) && last < limit then
    some (octets.foldl (fun value octet => value * 256 + octet) 0 * limit + last)
  else none

/-- Four decimal octets without leading zeros. -/
def octets? (chars : List Char) : Option (List Nat) := do
  let octets ← (cutAt '.' chars).mapM fun digits => do
    if Numeral.hasLeadingZero digits then failure
    let value ← Numeral.ofDigits? 10 digits
    if value < 256 then some value else none
  if octets.length = 4 then some octets else none

/-! ## Eight groups -/

/-- One group: up to four digits in base 16. -/
def group? (digits : List Char) : Option Nat :=
  if digits.length ≤ 4 then Numeral.ofDigits? 16 digits else none

/-- Groups between colons, as many as there are. Four octets may stand for the last two. -/
def groups? (octetsAllowed : Bool) (chars : List Char) : Option (List Nat) :=
  if chars.isEmpty then some []
  else do
    let fields := cutAt ':' chars
    let leading ← fields.dropLast.mapM group?
    let last := fields.getLast?.getD []
    match octets? last with
    | some [a, b, c, d] =>
      if octetsAllowed then some (leading ++ [a * 256 + b, c * 256 + d]) else none
    | _ => return leading ++ [← group? last]

/-- What stands before and behind the first two colons in a row. -/
def cutAtGap : List Char → Option (List Char × List Char)
  | ':' :: ':' :: rest => some ([], rest)
  | c :: rest => (cutAtGap rest).map fun (before, behind) => (c :: before, behind)
  | [] => none

/-- Eight groups. Two colons in a row stand for those that are left out, at least one. -/
def six? (chars : List Char) : Option (List Nat) :=
  match cutAtGap chars with
  | none => (groups? true chars).filter fun groups => groups.length = 8
  | some (before, behind) => do
    let first ← groups? false before
    let last ← groups? true behind
    let missing := 8 - (first.length + last.length)
    if missing = 0 then none else some (first ++ List.replicate missing 0 ++ last)

/-- Whether groups are an address on the link alone. -/
def isLinkLocal (groups : List Nat) : Bool := groups.headD 0 / 64 = 0x3FA

/-- Whether groups are an address of many hosts. -/
def isMulticast (groups : List Nat) : Bool := groups.headD 0 / 256 = 0xFF

/-- Whether groups are an address of many hosts on the link. -/
def isLinkMulticast (groups : List Nat) : Bool := isMulticast groups && groups.headD 0 % 16 = 2

/-- Whether groups stand for four octets. -/
def isMapped (groups : List Nat) : Bool := groups.take 6 = [0, 0, 0, 0, 0, 0xFFFF]

/-- The interface that every machine has. -/
def loopbackName : List Char := "lo".toList

/-- The number of an interface. Where names are admitted, an address that is of use on the link alone
may name it. -/
def scope? (named : Bool) (groups : List Nat) (scope : List Char) : Option Nat :=
  if named && (isLinkLocal groups || isLinkMulticast groups) && scope = loopbackName then some 1
  else (Numeral.ofDigits? 10 scope).filter (· < UInt32.size)

/-- Groups with the interface behind a percent sign. -/
def scoped? (named : Bool) (chars : List Char) : Option HostAddress := do
  let groups ← six? (chars.takeWhile (· ≠ '%'))
  match chars.dropWhile (· ≠ '%') with
  | [] => return .six groups 0
  | _ :: scope => return .six groups (← scope? named groups scope)

/-! ## Either -/

/-- The address that a text is. -/
def ofChars? (chars : List Char) : Option HostAddress :=
  ((four? chars).map .four).or (scoped? true chars)

/-- The address that stands in brackets. -/
def ofBracketed? : List Char → Option HostAddress
  | '[' :: rest => if rest.getLast? = some ']' then scoped? false rest.dropLast else none
  | _ => none

end HostAddress

end StorageTrace
