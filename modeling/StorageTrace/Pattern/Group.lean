import StorageTrace.Pattern.Cursor
import StorageTrace.Pattern.Syntax
import StorageTrace.Unicode.Alphanumeric

/-! # Openings of groups

What may follow an opening parenthesis: a name, flags for the group or for what follows, or nothing.
-/

namespace StorageTrace.Pattern

/-- What an opening parenthesis starts. -/
inductive Opening where
  /-- A group, with flags that hold in it. -/
  | group (flags : Flags)
  /-- Flags that hold from there on. -/
  | flags (flags : Flags)
  deriving DecidableEq, Repr, Inhabited

/-- The letters of flags. -/
def flagLetters : List Char := ['i', 'm', 's', 'U', 'u', 'R', 'x']

/-- The flags that letters spell, of which those behind a hyphen are switched off. -/
def Flags.ofLetters (letters : List Char) : Flags where
  raised := letters.takeWhile (· ≠ '-')
  lowered := (letters.dropWhile (· ≠ '-')).tail

def Flags.isEmpty (flags : Flags) : Bool := flags.raised.isEmpty && flags.lowered.isEmpty

/-- Characters that the name of a group may start with, and others that may follow. -/
def isNameChar (isFirst : Bool) (c : Char) : Bool :=
  c = '_' || if isFirst then Unicode.isAlphabetic c
    else ['.', '[', ']'].contains c || Unicode.isAlphanumeric c

namespace Reading

/-- The letter of a flag or the hyphen that comes next, with its place; none at the end of flags. Those
that come before it are given. -/
def flag? (before : List (Char × Span)) : Reading (Option (Char × Span)) := do
  match ← peek? with
  | none => refuse .unclosedFlags (← here)
  | some c =>
    if c = ':' || c = ')' then return none
    else
      let span ← charSpan
      if c ≠ '-' && !flagLetters.contains c then refuse .unknownFlag span
      match before.lookup c with
      | some earlier =>
        refuseRepeated (if c = '-' then .repeatedNegation else .repeatedFlag) span earlier
      | none =>
        skip
        return some (c, span)

/-- Reads flags up to what ends them. A hyphen may not stand last. -/
def flags (before : List (Char × Span)) : Nat → Reading Flags
  | 0 => return {}
  | fuel + 1 => do
    match ← flag? before with
    | some flag => flags (flag :: before) fuel
    | none =>
      match before.head? with
      | some ('-', span) => refuse .danglingNegation span
      | _ => return Flags.ofLetters (before.map Prod.fst).reverse

/-- Reads the name of a group and the bracket that ends it. Names may not be repeated. -/
def groupName : Reading Unit := do
  let start ← place
  let chars ← gather do
    match ← peek? with
    | none => refuse .unclosedName (← here)
    | some '>' => return none
    | some c =>
      if isNameChar ((← place) = start) c then
        skip
        return some c
      else refuse .nameCharacter (← charSpan)
  if ← isAtEnd then refuse .unclosedName (← here)
  let span ← since start
  skip
  if chars.isEmpty then refuse .emptyName span
  let name := String.ofList chars
  match (← get).names.lookup name with
  | some earlier => refuseRepeated .repeatedName span earlier
  | none => modify fun cursor => { cursor with names := (name, span) :: cursor.names }

/-- How conditions on what stands before or behind a place start, which are not known here. -/
def lookarounds : List String := ["?=", "?!", "?<=", "?<!"]

/-- How a group with a name starts. -/
def named : List String := ["?P<", "?<"]

/-- Moves over the first of some texts that comes next, and tells whether there is one. -/
def takeAny? : List String → Reading Bool
  | [] => return false
  | text :: rest => do
    if ← take? text then return true else takeAny? rest

/-- Reads the opening of a group from its parenthesis on, of which the span is given. -/
def opening (parenthesis : Span) : Reading Opening := do
  let _ ← advance
  if ← takeAny? lookarounds then refuse .lookaround (← since parenthesis.start)
  let start ← here
  if ← takeAny? named then
    groupName
    return .group {}
  else if ← take? "?" then
    if ← isAtEnd then refuse .unclosedGroup parenthesis
    let flags ← flags [] ((← get).rest.length + 1)
    let isGroup := (← peek?) = some ':'
    skip
    if isGroup then return .group flags
    else if flags.isEmpty then refuse .nothingToRepeat start
    else return .flags flags
  else return .group {}

end Reading

end StorageTrace.Pattern
