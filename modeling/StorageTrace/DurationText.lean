import StorageTrace.Numeral
import StorageTrace.Time
import StorageTrace.Unicode

/-! # Texts of durations

A duration is written as amounts of time units, such as `1h 30m` or `1.5s`, which add up. A single
zero needs no unit. Blanks may stand between amounts and anywhere in a number. Amounts that words
cannot count are refused, as are fractions that do not come out even and a point in a number of
nanoseconds.
-/

namespace StorageTrace

namespace DurationText

/-- Letters of units. -/
def isUnitChar (c : Char) : Bool := c.isAlpha || c = 'µ'

/-- So many nanoseconds, or so many whole seconds. -/
inductive Measure where
  | nanos (count : Nat)
  | seconds (count : Nat)
  deriving DecidableEq, Repr

/-- A unit of time, and what its fractions are fractions of, if it has any. -/
structure TimeUnit where
  names : List String
  whole : Measure
  fraction : Option Measure

def units : List TimeUnit :=
  [⟨["nanos", "nsec", "ns"], .nanos 1, none⟩,
    ⟨["usec", "us", "µs"], .nanos 1000, some (.nanos 1000)⟩,
    ⟨["millis", "msec", "ms"], .nanos 1000000, some (.nanos 1000000)⟩,
    ⟨["seconds", "second", "secs", "sec", "s"], .seconds 1, some (.nanos 1000000000)⟩,
    ⟨["minutes", "minute", "min", "mins", "m"], .seconds 60, some (.nanos 60000000000)⟩,
    ⟨["hours", "hour", "hrs", "hr", "h"], .seconds 3600, some (.seconds 3600)⟩,
    ⟨["days", "day", "d"], .seconds 86400, some (.seconds 86400)⟩,
    ⟨["weeks", "week", "wks", "wk", "w"], .seconds 604800, some (.seconds 604800)⟩,
    ⟨["months", "month", "M"], .seconds 2630016, some (.seconds 2630016)⟩,
    ⟨["years", "year", "yrs", "yr", "y"], .seconds 31557600, some (.seconds 31557600)⟩]

/-- The unit of a name. -/
def unit? (name : String) : Option TimeUnit := units.find? fun unit => unit.names.contains name

/-- The number of values of a word. -/
def wordLimit : Nat := UInt64.size

/-- A number that fits a word. -/
def fitting? (n : Nat) : Option Nat := if n < wordLimit then some n else none

/-- Adds a measure, taken a number of times over a divisor, to a duration. The product must fit a word
and the division come out even. -/
def add? (total : Duration) (measure : Measure) (times divisor : Nat) : Option Duration := do
  let share? (count : Nat) : Option Nat := do
    let product ← fitting? (times * count)
    if product % divisor = 0 then some (product / divisor) else none
  match measure with
  | .nanos count =>
    let nanos ← fitting? (total.subsecond + (← share? count))
    let seconds ← fitting? (total.seconds + nanos / nanosPerSecond)
    return Duration.ofParts seconds (nanos % nanosPerSecond)
  | .seconds count =>
    let seconds ← fitting? (total.seconds + (← share? count))
    return Duration.ofParts seconds total.subsecond

/-- The number that a list of digits and blanks spells, if it fits a word. -/
def number? (chars : List Char) : Option Nat := do
  fitting? (← Numeral.ofDigits? 10 (chars.filter Char.isDigit))

def isNumberChar (c : Char) : Bool := c.isDigit || Unicode.isWhiteSpace c

/-- Adds one amount, and gives what follows it. -/
def amount? (total : Duration) (chars : List Char) : Option (Duration × List Char) := do
  let whole ← number? (chars.takeWhile isNumberChar)
  let rest := chars.dropWhile isNumberChar
  let pointed := rest.head? = some '.'
  let decimals := if pointed then (rest.tail.takeWhile isNumberChar).filter Char.isDigit else []
  let rest := if pointed then rest.tail.dropWhile isNumberChar else rest
  if pointed && decimals.isEmpty then failure
  let unit ← unit? (String.ofList (rest.takeWhile isUnitChar))
  let total ← add? total unit.whole whole 1
  let total ←
    if pointed then do
      let divisor ← fitting? (Binary64.tenTo decimals.length)
      add? total (← unit.fraction) (Numeral.ofDecimalDigits decimals) divisor
    else some total
  return (total, rest.dropWhile isUnitChar)

/-- Adds all amounts. Each starts with a digit. -/
def amounts? : Nat → Duration → List Char → Option Duration
  | 0, _, _ => none
  | fuel + 1, total, chars => do
    let (total, rest) ← amount? total chars
    let next := rest.dropWhile Unicode.isWhiteSpace
    match next with
    | [] => return total
    | c :: _ => if c.isDigit then amounts? fuel total next else none

end DurationText

namespace Duration

/-- The duration that a text spells. -/
def ofText? (text : String) : Option Duration :=
  if text = "0" then some ⟨0⟩
  else
    let chars := text.toList.dropWhile Unicode.isWhiteSpace
    if (chars.head?.map Char.isDigit).getD false then
      DurationText.amounts? (chars.length + 1) ⟨0⟩ chars
    else none

end Duration

end StorageTrace
