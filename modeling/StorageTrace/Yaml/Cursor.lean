/-! # Characters and places in a YAML text

A text is a list of characters in which every line break has been written in one way. A cursor is a
place in it together with the characters that follow. Lines and columns are counted in characters, the
offset in bytes, as lengths of keys are.
-/

namespace StorageTrace.Yaml

/-- Characters that a text may hold. -/
def isAllowed (c : Char) : Bool :=
  let n := c.toNat
  n = 0x09 || n = 0x0A || n = 0x0D || (0x20 ≤ n && n ≤ 0x7E) || n = 0x85 ||
    (0xA0 ≤ n && n ≤ 0xFFFD) || 0x10000 ≤ n

/-- Writes every way to end a line as a line feed, save for the two separators that are kept. -/
def unifyBreaks : List Char → List Char
  | [] => []
  | '\r' :: '\n' :: rest => '\n' :: unifyBreaks rest
  | c :: rest => (if c = '\r' || c = '\u0085' then '\n' else c) :: unifyBreaks rest

/-- A text ready to be read, unless it holds a character that it may not. -/
def prepare? (text : String) : Option (List Char) :=
  let chars := text.toList
  if chars.all isAllowed then some (unifyBreaks chars) else none

/-- Marks a text as Unicode. It means nothing at the start of a line. -/
def byteOrderMark : Char := '\uFEFF'

def isBreak (c : Char) : Bool := c = '\n' || c = '\u2028' || c = '\u2029'

def isBlank (c : Char) : Bool := c = ' ' || c = '\t'

/-- Characters of anchors, of directive names and of tag handles. -/
def isWord (c : Char) : Bool := c.isAlphanum || c = '_' || c = '-'

/-- The characters that divide flow collections. -/
def isFlowIndicator (c : Char) : Bool :=
  c = ',' || c = '[' || c = ']' || c = '\x7b' || c = '\x7d'

/-- Whether a list is empty or starts with a blank or a break. -/
def startsBlank : List Char → Bool
  | [] => true
  | c :: _ => isBlank c || isBreak c

/-- A place in a text: its line, its column, and its distance in bytes from the start. -/
structure Place where
  line : Nat := 0
  column : Nat := 0
  offset : Nat := 0

/-- The place behind a character. -/
def Place.after (place : Place) (c : Char) : Place :=
  if isBreak c then ⟨place.line + 1, 0, place.offset + c.utf8Size⟩
  else ⟨place.line, place.column + 1, place.offset + c.utf8Size⟩

/-- A place in a text and the characters that follow it. -/
structure Cursor extends Place where
  rest : List Char

namespace Cursor

def peek? (cursor : Cursor) : Option Char := cursor.rest.head?

/-- Whether the next character is the given one. -/
def at? (cursor : Cursor) (c : Char) : Bool := cursor.rest.head? = some c

def atEnd (cursor : Cursor) : Bool := cursor.rest.isEmpty

/-- Whether the line has nothing more to say: its end or that of the text. -/
def atLineEnd (cursor : Cursor) : Bool := (cursor.peek?.map isBreak).getD true

/-- Moves over one character. -/
def advance (cursor : Cursor) : Cursor :=
  match cursor.rest with
  | [] => cursor
  | c :: rest => { cursor.after c with rest }

/-- Moves over a number of characters. -/
def forward (cursor : Cursor) (count : Nat) : Cursor :=
  { (cursor.rest.take count).foldl Place.after cursor.toPlace with rest := cursor.rest.drop count }

/-- Moves to a later place, given by what follows it. -/
def moveTo (cursor : Cursor) (rest : List Char) : Cursor :=
  cursor.forward (cursor.rest.length - rest.length)

/-- Takes the characters that satisfy a test, up to the first that does not. -/
def span (cursor : Cursor) (test : Char → Bool) : List Char × Cursor :=
  let taken := cursor.rest.takeWhile test
  (taken, cursor.forward taken.length)

def skipBlanks (cursor : Cursor) : Cursor := (cursor.span isBlank).2

/-- Moves over a comment, if there is one. -/
def skipComment (cursor : Cursor) : Cursor :=
  if cursor.at? '#' then (cursor.span fun c => !isBreak c).2 else cursor

/-- Moves over blanks, a comment and a break, if nothing else is left on the line. -/
def endLine? (cursor : Cursor) : Option Cursor :=
  let cursor := cursor.skipBlanks.skipComment
  if cursor.atLineEnd then some cursor.advance else none

/-- Whether a line starts here with three of the given character and nothing attached to them. -/
def atMarker (cursor : Cursor) (c : Char) : Bool :=
  cursor.column = 0 && cursor.rest.take 3 = [c, c, c] && startsBlank (cursor.rest.drop 3)

/-- Whether a document starts or ends here. -/
def atDocumentMarker (cursor : Cursor) : Bool := cursor.atMarker '-' || cursor.atMarker '.'

end Cursor

end StorageTrace.Yaml
