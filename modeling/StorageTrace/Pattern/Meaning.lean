import StorageTrace.Pattern.Fault
import StorageTrace.Pattern.Syntax

/-! # What patterns may mean

A pattern matches characters, or octets where flags ask for it. Octets must not make up anything that
is no text. No table of Unicode properties is at hand, so that whatever needs one is refused:
properties, shorthands, and letters whose case is ignored.
-/

namespace StorageTrace.Pattern

/-- The flags in force at a place that matter here. -/
structure Mode where
  ignoresCase : Bool := false
  isUnicode : Bool := true
  deriving DecidableEq, Repr, Inhabited

namespace Mode

/-- The mode behind flags. -/
def under (mode : Mode) (flags : Flags) : Mode where
  ignoresCase := (flags.state? 'i').getD mode.ignoresCase
  isUnicode := (flags.state? 'u').getD mode.isUnicode

/-- Whether characters have other cases that only a table knows. -/
def needsCases (mode : Mode) : Bool := mode.ignoresCase && mode.isUnicode

end Mode

def refuse {α : Type} (fault : Fault) (span : Span) : Except Finding α := .error { fault, span }

/-! ## Atoms -/

/-- Octets beyond ASCII make up no character by themselves. -/
def Literal.check (mode : Mode) (literal : Literal) : Except Finding Unit :=
  if !mode.isUnicode && literal.isOctet && 0x7F < literal.char.toNat then
    refuse .invalidOctets literal.span
  else .ok ()

def checkProperty (mode : Mode) (span : Span) : Except Finding Unit :=
  refuse (if mode.isUnicode then .unknownProperty else .notUnicode) span

/-- What is negated holds octets beyond ASCII. -/
def checkNegation (mode : Mode) (span : Span) (negated : Bool) : Except Finding Unit :=
  if negated && !mode.isUnicode then refuse .invalidOctets span else .ok ()

def checkShorthand (mode : Mode) (span : Span) (negated : Bool) : Except Finding Unit :=
  if mode.isUnicode then refuse .unknownShorthand span else checkNegation mode span negated

/-- Checks an atom, and tells whether it asks for the edge of a word in a text. -/
def Atom.check (mode : Mode) : Atom → Except Finding Bool
  | .literal sign => do
    sign.check mode
    if mode.needsCases then refuse .caseUnknown sign.span
    return false
  | .any span => if mode.isUnicode then .ok false else refuse .invalidOctets span
  | .condition _ onWords => .ok (onWords && mode.isUnicode)
  | .property span => do
    checkProperty mode span
    return false
  | .shorthand span negated => do
    checkShorthand mode span negated
    return false

/-! ## Sets of characters -/

/-- Whether a set holds all characters or none of them. Sets of which neither is clear are those that
name characters. -/
abbrev Extent := Option Bool

/-- The extent of a set that is put together from two others, by what it says of a single character. -/
def Extent.combine (rule : Bool → Bool → Bool) (left right : Extent) : Extent := do
  return rule (← left) (← right)

/-- Whether a character is in the set that an operation gives. -/
def SetOperation.rule : SetOperation → Bool → Bool → Bool
  | .intersection, left, right => left && right
  | .difference, left, right => left && !right
  | .symmetricDifference, left, right => left != right

/-- Checks that a set may be completed by the other cases of its characters. -/
def checkCases (mode : Mode) (span : Span) (extent : Extent) : Except Finding Unit :=
  if mode.needsCases && extent.isNone then refuse .caseUnknown span else .ok ()

/-- Checks a character in a class, which must be a single octet where octets are matched. -/
def Literal.checkMember (mode : Mode) (literal : Literal) : Except Finding Unit := do
  literal.check mode
  if !mode.isUnicode && 0x7F < literal.char.toNat then refuse .notUnicode literal.span

/-- Checks a set in brackets whose content has an extent, which gives its own extent. -/
def checkBrackets (mode : Mode) (span : Span) (negated : Bool) (content : Extent) :
    Except Finding Extent := do
  checkCases mode span content
  checkNegation mode span negated
  return content.map fun isAll => isAll != negated

mutual

/-- Checks a set in a class, which gives its extent. -/
def CharSet.check (mode : Mode) : CharSet → Except Finding Extent
  | .empty _ => .ok (some false)
  | .literal sign => do
    sign.checkMember mode
    return none
  | .range _ first last => do
    first.checkMember mode
    last.checkMember mode
    return none
  | .named span negated => checkBrackets mode span negated none
  | .property span => do
    checkProperty mode span
    return none
  | .shorthand span negated => do
    checkShorthand mode span negated
    return none
  | .bracketed span negated content => do
    checkBrackets mode span negated (← content.check mode)
  | .union _ members => checkMembers mode (some false) members
  | .operation _ kind left right => do
    let leftExtent ← left.check mode
    let rightExtent ← right.check mode
    checkCases mode right.span rightExtent
    checkCases mode left.span leftExtent
    return Extent.combine kind.rule leftExtent rightExtent

/-- Checks the members of a union behind others of which the extent is given. -/
def CharSet.checkMembers (mode : Mode) (before : Extent) : List CharSet → Except Finding Extent
  | [] => .ok before
  | member :: rest => do
    checkMembers mode (Extent.combine Bool.or before (← member.check mode)) rest

end

/-! ## Parts -/

/-- What is known behind a part: the mode there, and whether the edge of a word in a text has been asked
for. -/
structure Progress where
  mode : Mode := {}
  hasEdge : Bool := false
  deriving DecidableEq, Repr, Inhabited

mutual

/-- Checks a part behind others. Flags hold up to the end of the group around them. -/
def Node.check (progress : Progress) : Node → Except Finding Progress
  | .empty _ => .ok progress
  | .flags _ changed => .ok { progress with mode := progress.mode.under changed }
  | .atom sign => do
    return { progress with hasEdge := (← sign.check progress.mode) || progress.hasEdge }
  | .bracketed span negated content => do
    let _ ← checkBrackets progress.mode span negated (← content.check progress.mode)
    return progress
  | .repetition _ operand => operand.check progress
  | .group _ changed content => do
    let behind ← content.check { progress with mode := progress.mode.under changed }
    return { behind with mode := progress.mode }
  | .sequence _ parts => checkAll progress parts
  | .choice _ branches => checkAll progress branches

def Node.checkAll (progress : Progress) : List Node → Except Finding Progress
  | [] => .ok progress
  | part :: rest => do checkAll (← part.check progress) rest

end

end StorageTrace.Pattern
