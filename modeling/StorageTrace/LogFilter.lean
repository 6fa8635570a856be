import StorageTrace.Numeral
import StorageTrace.Pattern
import StorageTrace.Unicode.Alphanumeric

/-! # Log filters

A filter is a list of rules between commas, each a level, a target, a span in brackets with a field in
braces, or a target or span with a level behind an equals sign. A field may have a value, which is a
pattern unless it is a truth value or a number. Only the form is checked here.

White space around a rule means nothing for its form, but its parts are cut out of the whole rule at
their distances in bytes from the start of the form. Behind white space they are therefore cut too
early, and a cut may fall inside of a character.
-/

namespace StorageTrace

/-- Why a filter is refused. -/
inductive LogFilterError where
  | malformed
  | unknownLevel
  | field (cause : PatternError)
  /-- A part of a rule would have to be cut out inside of a character. -/
  | brokenCut
  deriving DecidableEq, Repr, Inhabited

namespace LogFilterError

def levelMessage : String :=
  "error parsing level filter: expected one of \"off\", \"error\", \"warn\", " ++
    "\"info\", \"debug\", \"trace\", or a number 0-5"

/-- The texts of a refusal and of its causes. A broken cut has none. -/
def chain : LogFilterError → List String
  | .malformed => ["invalid filter directive"]
  | .unknownLevel => [levelMessage, levelMessage]
  | .field cause =>
    (cause.chain.take 1).map ("invalid field filter: " ++ ·) ++ cause.chain
  | .brokenCut => []

end LogFilterError

namespace LogFilter

def levelNames : List String := ["off", "error", "warn", "info", "debug", "trace"]

/-- Whether a text names a level, by a word in either case or by a number. -/
def isLevel (level : List Char) : Bool :=
  levelNames.contains (String.ofList (level.map Char.toLower)) ||
    (Numeral.ofDigits? 10 (Numeral.withoutSign '+' level)).any (· ≤ 5)

/-- Characters that a target may start with. -/
def startsTarget (c : Char) : Bool :=
  Unicode.isAlphanumeric c || c = '-' || c = ':' || c = '_'

/-! ## Cuts -/

/-- The characters up to a distance in bytes, and those behind it; none if a character lies across. -/
def cut? : Nat → List Char → Option (List Char × List Char)
  | 0, chars => some ([], chars)
  | _ + 1, [] => none
  | distance + 1, c :: rest =>
    if c.utf8Size ≤ distance + 1 then
      (cut? (distance + 1 - c.utf8Size) rest).map fun (before, behind) => (c :: before, behind)
    else none

/-- The part of a rule from a distance on. -/
def partFrom (rule : List Char) (start : Nat) : Except LogFilterError (List Char) :=
  match cut? start rule with
  | some (_, behind) => .ok behind
  | none => .error .brokenCut

/-- The part of a rule between two distances. -/
def partOf (rule : List Char) (start stop : Nat) : Except LogFilterError (List Char) := do
  match cut? (stop - start) (← partFrom rule start) with
  | some (part, _) => return part
  | none => throw .brokenCut

/-! ## Parts of rules -/

/-- Whether a value is a truth value or a number, which is no pattern. -/
def isConstant (value : List Char) : Bool :=
  let unsigned := if Numeral.startsSigned value then value.tail else value
  let word := String.ofList (unsigned.map Char.toLower)
  ["true", "false"].contains (String.ofList value) ||
    ["inf", "infinity", "nan"].contains word || (Numeral.decimal? unsigned).isSome

/-- The value of a field, which stands between the first two equals signs. -/
def valueOf (field : List Char) : List Char :=
  (field.dropWhile (· ≠ '=')).tail.takeWhile (· ≠ '=')

/-- Checks a field, which may not be empty. -/
def checkField (field : List Char) : Except LogFilterError Unit :=
  if field.isEmpty then .error .malformed
  else
    let value := valueOf field
    if isConstant value then .ok ()
    else (Pattern.check (String.ofList value)).mapError .field

/-- Checks a level, which may be left out. -/
def checkLevel (level : List Char) : Except LogFilterError Unit :=
  if level.isEmpty || isLevel level then .ok () else .error .unknownLevel

/-! ## Rules -/

/-- Where a reader of a rule stands, and where the part started that it is in. -/
inductive State where
  | start
  | target
  | span (start : Nat)
  | field (start : Nat)
  | fields
  | closed
  | level (start : Nat)
  deriving DecidableEq, Repr, Inhabited

/-- Moves over one character of a rule at a distance from the start of its form. -/
def step (rule : List Char) (distance : Nat) (c : Char) :
    State → Except LogFilterError State
  | .start =>
    if c = '[' then .ok (.span (distance + 1))
    else if startsTarget c then .ok .target
    else .error .malformed
  | .target =>
    if c = '=' || c = '[' then do
      let _ ← partOf rule 0 distance
      return if c = '=' then .level (distance + 1) else .span (distance + 1)
    else .ok .target
  | .span start =>
    if c = ']' || c = '\x7b' then do
      let _ ← partOf rule start distance
      return if c = ']' then .closed else .field (distance + 1)
    else .ok (.span start)
  | .field start =>
    if c = '\x7d' then do
      checkField (← partOf rule start distance)
      return .fields
    else .ok (.field start)
  | .fields => if c = ']' then .ok .closed else .error .malformed
  | .closed => if c = '=' then .ok (.level (distance + 1)) else .error .malformed
  | .level start => .ok (.level start)

/-- The state behind a list of characters. -/
def run (rule : List Char) : Nat → State → List Char → Except LogFilterError State
  | _, state, [] => .ok state
  | distance, state, c :: rest => do
    run rule (distance + c.utf8Size) (← step rule distance c state) rest

/-- A list without the white space at either end. -/
def trim (chars : List Char) : List Char :=
  ((chars.dropWhile Unicode.isWhiteSpace).reverse.dropWhile Unicode.isWhiteSpace).reverse

/-- Checks one rule. -/
def checkRule (rule : List Char) : Except LogFilterError Unit := do
  match ← run rule 0 .start (trim rule) with
  | .target | .closed => return
  | .level start => checkLevel (← partFrom rule start)
  | _ => throw .malformed

/-- The rules of a filter. -/
def rules (filter : String) : List (List Char) :=
  ((filter.splitOn ",").map String.toList).filter (!·.isEmpty)

/-- Checks the rules of a filter in order. -/
def check (filter : String) : Except LogFilterError Unit := (rules filter).forM checkRule

end LogFilter

end StorageTrace
