import StorageTrace.Pattern.CharacterClass
import StorageTrace.Pattern.Group

/-! # Patterns as texts

The pattern that a text spells. Bounds on repetitions need a closing brace, which no pattern holds, so
that an opening brace is a fault wherever it does not stand for itself.
-/

namespace StorageTrace.Pattern

namespace Reading

/-- What a repetition repeats: the part before it, which may not be flags. Given are the parts before
the repetition, the last one first. -/
def operand : List Node → Reading Node
  | [] | .flags .. :: _ => do refuse .nothingToRepeat (← here)
  | operand :: _ => return operand

/-- Reads the sign of a repetition, and one that makes it reluctant, behind its operand. -/
def repetition (operand : Node) : Reading Node := do
  skip
  let _ ← take? "?"
  return .repetition (← since operand.span.start) operand

/-- Ends with the fault of a bound on repetitions, which an opening brace starts. -/
def bound {α : Type} : Reading α := do
  let start ← place
  if !(← advance) then refuse .unclosedBound (← since start)
  let _ ← spaces
  let digitsStart ← place
  let digits ← chars Char.isDigit
  let span ← since digitsStart
  let _ ← spaces
  if ← isAtEnd then refuse .unclosedBound (← since start)
  else if digits.isEmpty then refuse .missingBound span
  else if UInt32.size ≤ Numeral.ofDecimalDigits digits then refuse .hugeBound span
  else refuse .unclosedBound (← since start)
where
  spaces : Reading (List Char) := chars Unicode.isWhiteSpace

/-- Reads a part that is neither a group nor a class nor a repetition. -/
def atom : Reading Atom := do
  let span ← charSpan
  match ← peek? with
  | some '\\' => escape
  | some '.' =>
    skip
    return .any span
  | some c =>
    skip
    if c = '^' || c = '$' then return .condition span false
    else return .literal { span, char := c }
  | none => refuse .unfinishedEscape span

/-- Takes over the way of writing that flags ask for. -/
def setVerbose (flags : Flags) : Reading Unit :=
  modify fun cursor => { cursor with isVerbose := (flags.state? 'x').getD cursor.isVerbose }

mutual

/-- Reads branches up to a closing parenthesis or the end, from the first one on. Those before it are
given, the last one first. -/
def branches (start : Place) (before : List Node) : Nat → Reading Node
  | 0 => do return .empty (← here)
  | fuel + 1 => do
    let branchStart ← place
    let parts ← parts [] fuel
    let branch := Node.ofParts (← since branchStart) parts.reverse
    if ← take? "|" then branches start (branch :: before) fuel
    else return Node.ofBranches (← since start) (branch :: before).reverse

/-- Reads the parts of a branch, the last one first. Those read already are given. -/
def parts (before : List Node) : Nat → Reading (List Node)
  | 0 => return before
  | fuel + 1 => do
    skipSpace
    match ← peek? with
    | none | some ')' | some '|' => return before
    | some '(' =>
      let part ← group fuel
      parts (part :: before) fuel
    | some '[' =>
      let (span, negated, content) ← characterClass fuel
      parts (.bracketed span negated content :: before) fuel
    | some '\x7b' =>
      let _ ← operand before
      bound
    | some c =>
      if c = '?' || c = '*' || c = '+' then
        let operand ← operand before
        let part ← repetition operand
        parts (part :: before.tail) fuel
      else
        let atom ← atom
        parts (.atom atom :: before) fuel

/-- Reads a group from its opening parenthesis on, or flags in parentheses. The way of writing that
holds in a group ends with it. -/
def group : Nat → Reading Node
  | 0 => do return .empty (← here)
  | fuel + 1 => do
    let parenthesis ← charSpan
    match ← opening parenthesis with
    | .flags flags =>
      setVerbose flags
      return .flags (← since parenthesis.start) flags
    | .group flags =>
      let wasVerbose := (← get).isVerbose
      setVerbose flags
      let content ← branches (← place) [] fuel
      modify fun cursor => { cursor with isVerbose := wasVerbose }
      if ← take? ")" then return .group (← since parenthesis.start) flags content
      else refuse .unclosedGroup parenthesis

end

end Reading

/-- The pattern that a text spells. -/
def Node.ofText (text : String) : Except Finding Node := do
  let (node, cursor) ← (Reading.branches {} [] (3 * text.length + 3)).run { rest := text.toList }
  if cursor.rest.isEmpty then return node
  else throw { fault := .unopenedGroup, span := ⟨cursor.place, cursor.next.place⟩ }

end StorageTrace.Pattern
