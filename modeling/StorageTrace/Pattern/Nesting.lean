import StorageTrace.Pattern.Fault
import StorageTrace.Pattern.Syntax

/-! # How deep patterns are nested

Everything that holds other parts counts as a level of its own, save for sets of which a class holds
one only. The levels are limited.
-/

namespace StorageTrace.Pattern

/-- The depth inside of a part at a depth, unless that is too deep. -/
def enter (depth : Nat) (span : Span) : Except Finding Nat :=
  if depth < nestingLimit then .ok (depth + 1) else .error { fault := .tooDeep, span }

mutual

/-- Checks the depth of a set in a class at a depth. -/
def CharSet.checkDepth (depth : Nat) : CharSet → Except Finding Unit
  | .bracketed span _ content => do content.checkDepth (← enter depth span)
  | .union span members => do checkDepthOfAll (← enter depth span) members
  | .operation span _ left right => do
    let depth ← enter depth span
    left.checkDepth depth
    right.checkDepth depth
  | .empty _ | .literal _ | .range .. | .named .. | .property _ | .shorthand .. => .ok ()

def CharSet.checkDepthOfAll (depth : Nat) : List CharSet → Except Finding Unit
  | [] => .ok ()
  | member :: rest => do
    member.checkDepth depth
    checkDepthOfAll depth rest

end

mutual

/-- Checks the depth of a part at a depth. -/
def Node.checkDepth (depth : Nat) : Node → Except Finding Unit
  | .bracketed span _ content => do content.checkDepth (← enter depth span)
  | .repetition span operand => do operand.checkDepth (← enter depth span)
  | .group span _ content => do content.checkDepth (← enter depth span)
  | .sequence span parts => do checkDepthOfAll (← enter depth span) parts
  | .choice span branches => do checkDepthOfAll (← enter depth span) branches
  | .empty _ | .flags .. | .atom _ => .ok ()

def Node.checkDepthOfAll (depth : Nat) : List Node → Except Finding Unit
  | [] => .ok ()
  | part :: rest => do
    part.checkDepth depth
    checkDepthOfAll depth rest

end

end StorageTrace.Pattern
