import StorageTrace.Pattern.Place

/-! # Faults of patterns

What may be wrong with a pattern, where it is wrong, and the report of it: the lines of the pattern
with marks below the place, and what is wrong there.
-/

namespace StorageTrace.Pattern

/-- What is wrong at a place. -/
inductive Fault where
  | unclosedGroup
  | unopenedGroup
  | unclosedName
  | emptyName
  | nameCharacter
  | repeatedName
  | unknownFlag
  | repeatedFlag
  | repeatedNegation
  | danglingNegation
  | unclosedFlags
  | nothingToRepeat
  | unclosedBound
  | missingBound
  | hugeBound
  | unclosedClass
  | classEscape
  | classBoundary
  | emptyRange
  | unfinishedEscape
  | unknownEscape
  | backreference
  | lookaround
  | hexadecimalDigit
  | hexadecimalValue
  | propertyName
  | boundaryOrBound
  | unclosedBoundary
  | tooDeep
  | notUnicode
  | invalidOctets
  | unknownProperty
  | unknownShorthand
  | caseUnknown
  deriving DecidableEq, Repr, Inhabited

/-- How deep groups, repetitions, classes and their parts may be nested. -/
def nestingLimit : Nat := 250

def Fault.message : Fault → String
  | .unclosedGroup => "unclosed group"
  | .unopenedGroup => "unopened group"
  | .unclosedName => "unclosed capture group name"
  | .emptyName => "empty capture group name"
  | .nameCharacter => "invalid capture group character"
  | .repeatedName => "duplicate capture group name"
  | .unknownFlag => "unrecognized flag"
  | .repeatedFlag => "duplicate flag"
  | .repeatedNegation => "flag negation operator repeated"
  | .danglingNegation => "dangling flag negation operator"
  | .unclosedFlags => "expected flag but got end of regex"
  | .nothingToRepeat => "repetition operator missing expression"
  | .unclosedBound => "unclosed counted repetition"
  | .missingBound => "repetition quantifier expects a valid decimal"
  | .hugeBound => "decimal literal invalid"
  | .unclosedClass => "unclosed character class"
  | .classEscape => "invalid escape sequence found in character class"
  | .classBoundary => "invalid range boundary, must be a literal"
  | .emptyRange => "invalid character class range, the start must be <= the end"
  | .unfinishedEscape => "incomplete escape sequence, reached end of pattern prematurely"
  | .unknownEscape => "unrecognized escape sequence"
  | .backreference => "backreferences are not supported"
  | .lookaround => "look-around, including look-ahead and look-behind, is not supported"
  | .hexadecimalDigit => "invalid hexadecimal digit"
  | .hexadecimalValue => "hexadecimal literal is not a Unicode scalar value"
  | .propertyName => "invalid Unicode character class"
  | .boundaryOrBound =>
    "found either the beginning of a special word boundary or a bounded repetition on a \\b with " ++
      "an opening brace, but no closing brace"
  | .unclosedBoundary =>
    "special word boundary assertion is either unclosed or contains an invalid character"
  | .tooDeep => s!"exceed the maximum number of nested parentheses/brackets ({nestingLimit})"
  | .notUnicode => "Unicode not allowed here"
  | .invalidOctets => "pattern can match invalid UTF-8"
  | .unknownProperty => "Unicode property not found"
  | .unknownShorthand =>
    "Unicode-aware Perl class not found (make sure the unicode-perl feature is enabled)"
  | .caseUnknown =>
    "Unicode-aware case insensitivity matching is not available " ++
      "(make sure the unicode-case feature is enabled)"

/-- A fault at its place, and the place of an earlier part that it repeats. -/
structure Finding where
  fault : Fault
  span : Span
  earlier : Option Span := none
  deriving DecidableEq, Repr, Inhabited

/-! ## Reports -/

/-- The lines of a text. A carriage return belongs to the line feed behind it, and nothing behind the
last line feed is no line. -/
def linesOf (text : String) : List String := trimmed (text.splitOn "\n")
where
  trimmed : List String → List String
    | [] | [""] => []
    | [last] => [last]
    | line :: rest =>
      match line.toList.reverse with
      | '\r' :: before => String.ofList before.reverse :: trimmed rest
      | _ => line :: trimmed rest

namespace Finding

/-- The spans of a finding in the order of the text. -/
def spans (finding : Finding) : List Span := finding.earlier.toList ++ [finding.span]

def blanks (count : Nat) : String := String.ofList (List.replicate count ' ')

/-- Marks below the spans, which lie on one line, from a column on. -/
def marks (column : Nat) : List Span → String
  | [] => ""
  | span :: rest =>
    let start := max column span.start.column
    blanks (start - column) ++ String.ofList (List.replicate span.width '^') ++
      marks (start + span.width) rest

/-- The report of a finding. The lines of a pattern that has several are numbered. -/
def report (finding : Finding) (pattern : String) : String :=
  let lines := linesOf pattern
  let isLong := pattern.toList.contains '\n'
  let count := lines.length + (if pattern.toList.getLast? = some '\n' then 1 else 0)
  let digits := (toString count).length
  let (single, several) := finding.spans.partition Span.isOnOneLine
  let label (number : Nat) : String :=
    if isLong then
      blanks (digits - (toString number).length) ++ toString number ++ ": "
    else blanks 4
  let margin := if isLong then digits + 2 else 4
  let body := lines.zipIdx.flatMap fun (line, index) =>
    let below := single.filter fun span => span.start.line = index + 1
    (label (index + 1) ++ line) ::
      if below.isEmpty then [] else [blanks margin ++ marks 1 below]
  let divider := if isLong then [String.ofList (List.replicate 79 '~')] else []
  let extents := several.map fun span =>
    s!"on line {span.start.line} (column {span.start.column}) through " ++
      s!"line {span.stop.line} (column {span.stop.column - 1})"
  "\n".intercalate
    (["regex parse error:"] ++ divider ++ body ++ divider ++ extents ++
      ["error: " ++ finding.fault.message])

end Finding

end StorageTrace.Pattern
