import StorageTrace.Numeral
import StorageTrace.Yaml.Node

/-! # Values of YAML nodes

What a node says where a value of some type is expected. A text is spelled by any scalar; numbers and
truth values must be plain, or blocks tagged as such. A node that is left empty stands for a sequence
or mapping without content. How often references are followed is limited, so that a short text cannot
spell a huge value.
-/

namespace StorageTrace.Yaml

/-- A reader of values in a document, which may refuse a node. Its state is how many references may
still be followed. -/
abbrev Reading := ReaderT Document (StateT Nat Option)

namespace Reading

/-- The references that may be followed for each part of a document. -/
def referencesPerPart : Nat := 100

/-- What a reader makes of a document. -/
def run? {α : Type} (reading : Reading α) (document : Document) : Option α :=
  let parts := (document.root.map Node.parts).getD 0
  (reading document (referencesPerPart * parts)).map Prod.fst

/-- The node that a node stands for. -/
def resolve (node : Node) : Reading Node := do
  if let .reference _ := node then
    match ← get with
    | 0 => failure
    | left + 1 => set left
  (← read).resolve node

/-- The text of any scalar. -/
def text (node : Node) : Reading String := do
  match ← resolve node with
  | .scalar text _ _ _ => return text
  | _ => failure

/-- The text of a scalar that may spell something else than a text. -/
def typed (kind : String) (node : Node) : Reading String := do
  match ← resolve node with
  | .scalar text .plain _ _ => return text
  | .scalar text .literal tag _ =>
    if tag = some (Octets.ofAscii (Tag.standard ++ kind)) then return text else failure
  | _ => failure

/-- A whole number that fits a word. -/
def natural (node : Node) : Reading Nat := do
  Numeral.natural? UInt64.size (← typed "int" node)

/-- The number that a text spells; infinities and the value that is no number have words of their
own. -/
def doubleOf? (text : String) : Option Float :=
  let unsigned := Numeral.withoutSign '+' text.toList
  let word := String.ofList unsigned
  if text.toList ≠ unsigned && Numeral.startsSigned unsigned then none
  else if [".inf", ".Inf", ".INF"].contains word then some (Binary64.toFloat Binary64.infinity)
  else if ["-.inf", "-.Inf", "-.INF"].contains text then
    some (Binary64.toFloat (Binary64.signBit + Binary64.infinity))
  else if [".nan", ".NaN", ".NAN"].contains text then some (0.0 / 0.0)
  else Numeral.double? unsigned

def double (node : Node) : Reading Float := do
  doubleOf? (← typed "float" node)

def boolean (node : Node) : Reading Bool := do
  let text ← typed "bool" node
  if ["true", "True", "TRUE"].contains text then return true
  else if ["false", "False", "FALSE"].contains text then return false
  else failure

/-- Words for the absence of a value. -/
def isNull (text : String) : Bool := ["", "null", "Null", "NULL", "~"].contains text

/-- The name of a choice: the text of a scalar, or a tag of one's own in front of nothing. -/
def choice (node : Node) : Reading String := do
  match ← resolve node with
  | .scalar text style tag _ =>
    match tag.bind privateName? with
    | some name => if style = .plain && isNull text then return name else failure
    | none => return text
  | _ => failure
where
  /-- The name behind the exclamation mark of a tag, which must be a text. -/
  privateName? : Octets → Option String
    | mark :: name => if mark = Tag.mark then Octets.text? name else none
    | [] => none

/-- The items of a sequence. -/
def items (node : Node) : Reading (List Node) := do
  match ← resolve node with
  | .sequence items _ => return items
  | .scalar "" .plain _ _ => return []
  | _ => failure

/-- The items of a sequence, each read in the same way. -/
def list {α : Type} (item : Node → Reading α) (node : Node) : Reading (List α) := do
  (← items node).mapM item

/-- The entries of a mapping whose keys are texts. -/
def entries (node : Node) : Reading (List (String × Node)) := do
  match ← resolve node with
  | .mapping entries _ => entries.mapM fun (key, value) => return (← text key, value)
  | .scalar "" .plain _ _ => return []
  | _ => failure

end Reading

/-- The entries of a mapping that have known keys, each of which occurs at most once. -/
structure Section where
  entries : List (String × Node)

namespace Section

/-- The mapping of a node. Unknown keys are passed over, and so are their values. -/
def ofNode (known : List String) (node : Node) : Reading Section := do
  let entries := (← Reading.entries node).filter fun entry => known.contains entry.1
  let keys := entries.map Prod.fst
  if keys.eraseDups.length = keys.length then return { entries } else failure

/-- The value under a key. -/
def required {α : Type} (s : Section) (value : Node → Reading α) (key : String) : Reading α := do
  value (← s.entries.lookup key)

/-- The value under a key, or another where the key is missing. -/
def optional {α : Type} (s : Section) (value : Node → Reading α) (key : String) (missing : α) :
    Reading α :=
  match s.entries.lookup key with
  | some node => value node
  | none => return missing

end Section

end StorageTrace.Yaml
