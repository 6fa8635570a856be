import StorageTrace.Pattern.Meaning
import StorageTrace.Pattern.Nesting
import StorageTrace.Pattern.Text

/-! # Patterns

A pattern is what the value of a field in a log filter has to match. An equals sign would end the
value, a comma the rule, and a closing brace the field, so that a pattern holds no equals sign and no
comma, and a brace that it opens stays open. Only whether a matcher can be built for it is checked
here: its syntax, then its depth, then its meaning, and last whether it asks for the edges of words in
texts, which no matcher finds.
-/

namespace StorageTrace

/-- Why no matcher can be built for a pattern. -/
inductive PatternError where
  | malformed (finding : Pattern.Finding) (pattern : String)
  | asksForEdges
  deriving DecidableEq, Repr, Inhabited

namespace PatternError

/-- The texts of a failure and of its causes. -/
def chain : PatternError → List String
  | .malformed finding pattern =>
    ["error building NFA", "error parsing regex", finding.report pattern]
  | .asksForEdges =>
    ["unsupported regex feature for DFAs: cannot build DFAs for regexes with Unicode word " ++
      "boundaries; switch to ASCII word boundaries, or heuristically enable Unicode word " ++
      "boundaries or use a different regex engine"]

end PatternError

namespace Pattern

/-- Looks for faults of a pattern, and tells whether it asks for the edges of words in texts. -/
def hasEdge (pattern : String) : Except Finding Bool := do
  let node ← Node.ofText pattern
  node.checkDepth 0
  return (← node.check {}).hasEdge

/-- Checks that a matcher can be built for a pattern. -/
def check (pattern : String) : Except PatternError Unit :=
  match hasEdge pattern with
  | .error finding => .error (.malformed finding pattern)
  | .ok true => .error .asksForEdges
  | .ok false => .ok ()

end Pattern

end StorageTrace
