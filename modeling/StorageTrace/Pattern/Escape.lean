import StorageTrace.Pattern.Cursor
import StorageTrace.Pattern.Syntax

/-! # Escape sequences

What a backslash announces. Since no brace can be closed in a pattern, whatever a brace opens behind
an escape character ends with a fault, unless it may still be taken for a bound on repetitions.
-/

namespace StorageTrace.Pattern

namespace Reading

/-- Ends with the fault of hexadecimal digits in a brace. -/
def openDigits {α : Type} : Reading α := do
  let brace ← place
  let _ ← advance
  let _ ← chars fun c => (Numeral.digit? 16 c).isSome
  if ← isAtEnd then refuse .unfinishedEscape (← since brace)
  else refuse .hexadecimalDigit (← charSpan)

/-- The number that hexadecimal digits spell behind others. -/
def hexadecimal (value : Nat) : Nat → Reading Nat
  | 0 => return value
  | count + 1 => do
    match ← peek? with
    | none => refuse .unfinishedEscape (← here)
    | some c =>
      match Numeral.digit? 16 c with
      | none => refuse .hexadecimalDigit (← charSpan)
      | some digit =>
        let _ ← advance
        hexadecimal (value * 16 + digit) count

/-- Reads a character that is given by its number, from the letter behind the backslash on. -/
def numbered (backslash : Place) (digits : Nat) : Reading Atom := do
  if !(← advance) then refuse .unfinishedEscape (← here)
  if (← peek?) = some '\x7b' then openDigits
  else
    let start ← place
    let value ← hexadecimal 0 digits
    if value.isValidChar then
      return .literal ⟨← since backslash, Char.ofNat value, digits = 2⟩
    else refuse .hexadecimalValue (← since start)

/-- Reads a property, from the letter behind the backslash on. -/
def property (backslash : Place) : Reading Atom := do
  if !(← advance) then refuse .unfinishedEscape (← here)
  match ← peek? with
  | some '\x7b' =>
    let _ ← gather do
      skip
      return if ← isAtEnd then none else some ()
    refuse .unfinishedEscape (← here)
  | some '\\' => refuse .propertyName (← charSpan)
  | _ =>
    let _ ← advance
    return .property (← since backslash)

/-- Looks behind the edge of a word for the name of a special kind of edge, which no brace closes. -/
def checkBoundary (backslash : Place) : Reading Unit := do
  let cursor ← get
  if cursor.rest.head? = some '\x7b' then
    if !(← advance) then refuse .boundaryOrBound (← since backslash)
    let name ← chars fun c => c.isAlpha || c = '-'
    if name.isEmpty then set cursor
    else refuse .unclosedBoundary (← since cursor.place)

/-- Characters that stand for others behind a backslash. -/
def controls : List (Char × Char) :=
  [('a', '\x07'), ('f', '\x0C'), ('t', '\t'), ('n', '\n'), ('r', '\r'), ('v', '\x0B')]

/-- Characters that stand for themselves behind a backslash. -/
def standsForItself (c : Char) : Bool :=
  c.toNat < 0x80 && !c.isAlphanum && c ≠ '<' && c ≠ '>'

/-- Reads what a backslash announces. -/
def escape : Reading Atom := do
  let backslash ← place
  skip
  match ← peek? with
  | none => refuse .unfinishedEscape (← since backslash)
  | some c =>
    if c.isDigit then refuse .backreference ⟨backslash, (← charSpan).stop⟩
    else if c = 'x' then numbered backslash 2
    else if c = 'u' then numbered backslash 4
    else if c = 'U' then numbered backslash 8
    else if c.toLower = 'p' then property backslash
    else
      skip
      let span ← since backslash
      if ['d', 's', 'w'].contains c then return .shorthand span false
      else if ['D', 'S', 'W'].contains c then return .shorthand span true
      else if standsForItself c then return .literal { span, char := c }
      else if let some control := controls.lookup c then
        return .literal { span, char := control }
      else if c = 'A' || c = 'z' then return .condition span false
      else if c = 'b' then
        checkBoundary backslash
        return .condition span true
      else if c = 'B' || c = '<' || c = '>' then return .condition span true
      else refuse .unknownEscape span

end Reading

end StorageTrace.Pattern
