/-! # Places in a pattern

Where the characters of a pattern stand, as reports name it: by line and column.
-/

namespace StorageTrace.Pattern

/-- A place in a text. Lines and columns are counted in characters and start at one. -/
structure Place where
  line : Nat := 1
  column : Nat := 1
  deriving DecidableEq, Repr, Inhabited

/-- The place behind a character. -/
def Place.after (place : Place) (c : Char) : Place :=
  if c = '\n' then ⟨place.line + 1, 1⟩ else ⟨place.line, place.column + 1⟩

/-- The part of a text from one place up to another. -/
structure Span where
  start : Place
  stop : Place
  deriving DecidableEq, Repr, Inhabited

namespace Span

def isOnOneLine (span : Span) : Bool := span.start.line = span.stop.line

/-- How many columns of its line a span covers where it is pointed at: one at least. -/
def width (span : Span) : Nat := max 1 (span.stop.column - span.start.column)

end Span

end StorageTrace.Pattern
