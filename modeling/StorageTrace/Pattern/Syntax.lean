import StorageTrace.Pattern.Place

/-! # The syntax of patterns

A pattern is a choice between sequences of parts. What the parts match is left out as far as no check
asks for it: a single character, a class of characters, a condition on a place, a repetition or a
group.
-/

namespace StorageTrace.Pattern

/-- A character that stands for itself. It may be given as an octet, by two digits. -/
structure Literal where
  span : Span
  char : Char
  isOctet : Bool := false
  deriving DecidableEq, Repr, Inhabited

/-- A part that is written with a character or an escape sequence. -/
inductive Atom where
  | literal (literal : Literal)
  /-- Any character but a line feed. -/
  | any (span : Span)
  /-- A condition on a place, and whether it asks for the edge of a word. -/
  | condition (span : Span) (onWords : Bool)
  /-- The characters with a property. -/
  | property (span : Span)
  /-- The digits, the white space or the characters of words, or all others. -/
  | shorthand (span : Span) (negated : Bool)
  deriving DecidableEq, Repr, Inhabited

def Atom.span : Atom → Span
  | .literal sign => sign.span
  | .any span | .condition span _ | .property span | .shorthand span _ => span

/-- How two sets are put together. -/
inductive SetOperation where
  | intersection
  | difference
  | symmetricDifference
  deriving DecidableEq, Repr, Inhabited

/-- A set of characters. -/
inductive CharSet where
  | empty (span : Span)
  | literal (literal : Literal)
  | range (span : Span) (first last : Literal)
  /-- A class of ASCII characters that has a name. -/
  | named (span : Span) (negated : Bool)
  | property (span : Span)
  | shorthand (span : Span) (negated : Bool)
  /-- A set in brackets. -/
  | bracketed (span : Span) (negated : Bool) (content : CharSet)
  | union (span : Span) (members : List CharSet)
  | operation (span : Span) (kind : SetOperation) (left right : CharSet)
  deriving Inhabited

def CharSet.span : CharSet → Span
  | .literal sign => sign.span
  | .empty span | .range span _ _ | .named span _ | .property span | .shorthand span _
  | .bracketed span _ _ | .union span _ | .operation span _ _ _ => span

/-- Letters that are switched on or off in a group or from a place on. -/
structure Flags where
  raised : List Char := []
  lowered : List Char := []
  deriving DecidableEq, Repr, Inhabited

/-- What becomes of a letter, if anything does. -/
def Flags.state? (flags : Flags) (letter : Char) : Option Bool :=
  if flags.raised.contains letter then some true
  else if flags.lowered.contains letter then some false
  else none

/-- A pattern or a part of one. -/
inductive Node where
  | empty (span : Span)
  | flags (span : Span) (flags : Flags)
  | atom (atom : Atom)
  | bracketed (span : Span) (negated : Bool) (content : CharSet)
  | repetition (span : Span) (operand : Node)
  | group (span : Span) (flags : Flags) (content : Node)
  | sequence (span : Span) (parts : List Node)
  | choice (span : Span) (branches : List Node)
  deriving Inhabited

namespace Node

def span : Node → Span
  | .atom sign => sign.span
  | .empty span | .flags span _ | .bracketed span _ _ | .repetition span _ | .group span _ _
  | .sequence span _ | .choice span _ => span

/-- Parts one behind the other. A single part stands for itself. -/
def ofParts (span : Span) : List Node → Node
  | [] => .empty span
  | [part] => part
  | parts => .sequence span parts

/-- A choice between branches. A single branch stands for itself. -/
def ofBranches (span : Span) : List Node → Node
  | [branch] => branch
  | branches => .choice span branches

end Node

end StorageTrace.Pattern
