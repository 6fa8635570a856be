import StorageTrace.Pattern.Escape

/-! # Classes of characters

A set of characters in brackets: characters, ranges, named classes and further sets in brackets, and
operations between sets. Operations are carried out from left to right.
-/

namespace StorageTrace.Pattern

/-- Sets that are gathered to a union, the last one first, and the span that they cover. -/
structure Gathered where
  span : Span
  members : List CharSet := []

namespace Gathered

def push (gathered : Gathered) (member : CharSet) : Gathered :=
  let start := if gathered.members.isEmpty then member.span.start else gathered.span.start
  ⟨⟨start, member.span.stop⟩, member :: gathered.members⟩

/-- The union. A single set stands for itself. -/
def toSet (gathered : Gathered) : CharSet :=
  match gathered.members with
  | [] => .empty gathered.span
  | [member] => member
  | members => .union gathered.span members.reverse

/-- The union as the right side of an operation that is still open, if there is one. -/
def closeOperation (gathered : Gathered) : Option (SetOperation × CharSet) → CharSet
  | none => gathered.toSet
  | some (kind, left) =>
    let right := gathered.toSet
    .operation ⟨left.span.start, right.span.stop⟩ kind left right

end Gathered

/-- The operations and the characters that denote them when written twice. -/
def SetOperation.ofChar? : Char → Option SetOperation
  | '&' => some .intersection
  | '-' => some .difference
  | '~' => some .symmetricDifference
  | _ => none

/-- The names of classes of ASCII characters. -/
def classNames : List String :=
  ["alnum", "alpha", "ascii", "blank", "cntrl", "digit", "graph", "lower", "print", "punct", "space",
    "upper", "word", "xdigit"]

namespace Reading

/-- Reads a named class between colons in brackets; nothing is read if there is none. -/
def namedClass? : Reading (Option CharSet) := do
  let cursor ← get
  if ← take? "[:" then
    let negated ← take? "^"
    let name ← gather do
      match ← peek? with
      | none | some ':' => return none
      | some c =>
        skip
        return some c
    if classNames.contains (String.ofList name) && (← take? ":]") then
      return some (.named (← since cursor.place) negated)
  set cursor
  return none

/-- Reads what stands for itself or for a class: a character or an escape sequence. -/
def classAtom : Reading Atom := do
  match ← peek? with
  | some '\\' => escape
  | c =>
    let span ← charSpan
    skip
    return .literal { span, char := c.getD ' ' }

/-- A boundary of a range, which must be a character. -/
def boundary : Atom → Reading Literal
  | .literal sign => return sign
  | other => refuse .classBoundary other.span

/-- A member of a class. -/
def memberOf : Atom → Reading CharSet
  | .literal sign => return .literal sign
  | .property span => return .property span
  | .shorthand span negated => return .shorthand span negated
  | other => refuse .classEscape other.span

/-- Reads a member of the class that an opening started: a range or what may start one. -/
def classMember (opening : Span) : Reading CharSet := do
  let first ← classAtom
  skipSpace
  if ← isAtEnd then refuse .unclosedClass opening
  let second? := (← get).secondToken?
  if (← peek?) ≠ some '-' || second? = some ']' || second? = some '-' then memberOf first
  else
    if !(← advance) then refuse .unclosedClass opening
    let last ← classAtom
    let span : Span := ⟨first.span.start, last.span.stop⟩
    let lower ← boundary first
    let upper ← boundary last
    if lower.char ≤ upper.char then return .range span lower upper
    else refuse .emptyRange span

/-- Reads the opening of a class: whether it is negated, its first characters where they would mean
something else later, and the span of all this. -/
def classOpening : Reading (Span × Bool × Gathered) := do
  let start ← place
  if !(← advance) then refuse .unclosedClass (← since start)
  let negated := (← peek?) = some '^'
  if negated then
    if !(← advance) then refuse .unclosedClass (← since start)
  let inside ← here
  let hyphens ← gather do
    if (← peek?) = some '-' then
      let span ← charSpan
      if !(← advance) then refuse .unclosedClass ⟨start, start⟩
      return some (CharSet.literal { span, char := '-' })
    else return none
  if hyphens.isEmpty && (← peek?) = some ']' then
    let span ← charSpan
    if !(← advance) then refuse .unclosedClass (← since start)
    let bracket := CharSet.literal { span, char := ']' }
    return (← since start, negated, ({ span := inside } : Gathered).push bracket)
  else return (← since start, negated, hyphens.foldl Gathered.push { span := inside })

mutual

/-- Reads a class from its opening bracket on. -/
def characterClass : Nat → Reading (Span × Bool × CharSet)
  | 0 => do refuse .unclosedClass (← here)
  | fuel + 1 => do
    let start ← place
    let (opening, negated, gathered) ← classOpening
    let content ← classContent opening none gathered fuel
    skip
    return (← since start, negated, content)

/-- Reads what follows in the class that an opening started, up to its closing bracket. -/
def classContent (opening : Span) (operation : Option (SetOperation × CharSet))
    (gathered : Gathered) : Nat → Reading CharSet
  | 0 => refuse .unclosedClass opening
  | fuel + 1 => do
    skipSpace
    let second? := (← get).second?
    match ← peek? with
    | none => refuse .unclosedClass opening
    | some ']' => return gathered.closeOperation operation
    | some '[' =>
      match ← namedClass? with
      | some named => classContent opening operation (gathered.push named) fuel
      | none =>
        let (span, negated, content) ← characterClass fuel
        classContent opening operation (gathered.push (.bracketed span negated content)) fuel
    | some c =>
      match (SetOperation.ofChar? c).filter fun _ => second? = some c with
      | some kind =>
        skip
        skip
        let left := gathered.closeOperation operation
        classContent opening (some (kind, left)) { span := ← here } fuel
      | none =>
        let member ← classMember opening
        classContent opening operation (gathered.push member) fuel

end

end Reading

end StorageTrace.Pattern
