import StorageTrace.Numeral
import StorageTrace.Pattern.Fault
import StorageTrace.Unicode

/-! # Reading a pattern

A cursor is a place in a pattern together with the characters that follow it. In the verbose way of
writing, white space and comments between the parts mean nothing.
-/

namespace StorageTrace.Pattern

/-- A place in a pattern and the characters that follow it, the way of writing that is in force there,
and the names of groups before it with their places. -/
structure Cursor where
  place : Place := {}
  rest : List Char
  isVerbose : Bool := false
  names : List (String × Span) := []

/-- An action of a reader that may find a fault. -/
abbrev Reading := StateT Cursor (Except Finding)

namespace Cursor

/-- The cursor behind the next character. -/
def next (cursor : Cursor) : Cursor :=
  match cursor.rest with
  | [] => cursor
  | c :: rest => { cursor with place := cursor.place.after c, rest }

/-- The place behind white space and comments, and what follows it. -/
def behindSpace (place : Place) (inComment : Bool) : List Char → Place × List Char
  | [] => (place, [])
  | c :: rest =>
    if inComment then behindSpace (place.after c) (c ≠ '\n') rest
    else if Unicode.isWhiteSpace c then behindSpace (place.after c) false rest
    else if c = '#' then behindSpace (place.after c) true rest
    else (place, c :: rest)

/-- The character behind the next one. -/
def second? (cursor : Cursor) : Option Char := cursor.rest.tail.head?

/-- The first character behind the next one that means something. A number sign counts as white space
where it stands first. -/
def secondToken? (cursor : Cursor) : Option Char :=
  if cursor.isVerbose then
    let rest := cursor.rest.tail.dropWhile Unicode.isWhiteSpace
    if rest.head? = some '#' then (rest.tail.dropWhile Unicode.isWhiteSpace).head? else rest.head?
  else cursor.second?

end Cursor

namespace Reading

def peek? : Reading (Option Char) := return (← get).rest.head?

def isAtEnd : Reading Bool := return (← get).rest.isEmpty

def place : Reading Place := return (← get).place

/-- The span from a place up to the cursor. -/
def since (start : Place) : Reading Span := return ⟨start, ← place⟩

/-- The empty span at the cursor. -/
def here : Reading Span := do since (← place)

/-- The span of the next character. -/
def charSpan : Reading Span := do
  let cursor ← get
  return ⟨cursor.place, cursor.next.place⟩

/-- Ends with a fault in a span. -/
def refuse {α : Type} (fault : Fault) (span : Span) : Reading α := throw { fault, span }

/-- Ends with a fault in a span that repeats an earlier one. -/
def refuseRepeated {α : Type} (fault : Fault) (span earlier : Span) : Reading α :=
  throw { fault, span, earlier := some earlier }

/-- Moves over a character. -/
def skip : Reading Unit := modify Cursor.next

/-- Moves over white space and comments where they mean nothing. -/
def skipSpace : Reading Unit :=
  modify fun cursor =>
    if cursor.isVerbose then
      let (place, rest) := Cursor.behindSpace cursor.place false cursor.rest
      { cursor with place, rest }
    else cursor

/-- Moves over a character and the space behind it, and tells whether anything follows. -/
def advance : Reading Bool := do
  skip
  skipSpace
  return !(← isAtEnd)

/-- Moves over a text if it comes next, and tells whether it did. -/
def take? (text : String) : Reading Bool := do
  if text.toList.isPrefixOf (← get).rest then
    text.toList.forM fun _ => skip
    return true
  else return false

/-- Repeats a step as long as it gives something. -/
def gather {α : Type} (step : Reading (Option α)) : Reading (List α) := do
  repeated (← get).rest.length
where
  repeated : Nat → Reading (List α)
    | 0 => return []
    | fuel + 1 => do
      match ← step with
      | some item => return item :: (← repeated fuel)
      | none => return []

/-- The characters of a class that come next, and the space between them. -/
def chars (isMember : Char → Bool) : Reading (List Char) := gather do
  match ← peek? with
  | some c =>
    if isMember c then
      let _ ← advance
      return some c
    else return none
  | none => return none

end Reading

end StorageTrace.Pattern
