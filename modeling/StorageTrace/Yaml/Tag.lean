import StorageTrace.Yaml.Scalar

/-! # Tags, anchors and directives of a YAML text

What may stand in front of a node or of a document besides scalars: the name of an anchor, a tag that
is spelled out or abbreviated by a handle, and the two directives. Tags can spell any octets, which need
not be those of a text; each of their parts counts up to its first zero.
-/

namespace StorageTrace.Yaml

/-- What a tag or a part of one spells. -/
abbrev Octets := List UInt8

namespace Octets

/-- The octets of a text without characters beyond ASCII. -/
def ofAscii (text : String) : Octets := text.toList.map Char.toUInt8

/-- The text that octets spell, if they spell one. -/
def text? (octets : Octets) : Option String := String.fromUTF8? ⟨octets.toArray⟩

/-- The part that counts. -/
def untilZero (octets : Octets) : Octets := octets.takeWhile (· ≠ 0)

end Octets

/-- A tag as it is written: the suffix follows what the handle stands for. An empty handle stands for
nothing. -/
structure TagText where
  handle : String
  suffix : Octets
  deriving DecidableEq, Repr, Inhabited

/-- A line that precedes a document. -/
inductive Directive where
  | version (major minor : Nat)
  | tag (handle : String) (expansion : Octets)
  deriving DecidableEq, Repr, Inhabited

namespace Tag

/-- The exclamation mark that starts tags of one's own. -/
def mark : UInt8 := '!'.toUInt8

/-- What the tags of the kinds of values start with. -/
def standard : String := "tag:yaml.org,2002:"

/-- Characters of a tag besides letters, digits, dashes and underscores. -/
def isPunctuation (c : Char) : Bool := ";/?:@&=+$.!~*'()".toList.contains c

/-- Characters that a tag may hold only where it is spelled out. -/
def isBracket (c : Char) : Bool := c = ',' || c = '[' || c = ']'

/-- The octet that a percent sign and two digits stand for. -/
def octet? : List Char → Option (UInt8 × List Char)
  | '%' :: high :: low :: rest => do
    return (UInt8.ofNat ((← Scalar.hexDigit? high) * 16 + (← Scalar.hexDigit? low)), rest)
  | _ => none

/-- How many octets there are in a character that starts with the given one. -/
def width? (lead : UInt8) : Option Nat :=
  if lead < 0x80 then some 1
  else if lead / 32 = 6 then some 2
  else if lead / 16 = 14 then some 3
  else if lead / 8 = 30 then some 4
  else none

/-- The further octets of a character. -/
def trailing? : Nat → List Char → Option (Octets × List Char)
  | 0, rest => some ([], rest)
  | missing + 1, rest => do
    let (octet, rest) ← octet? rest
    if octet / 64 ≠ 2 then failure
    let (more, rest) ← trailing? missing rest
    return (octet :: more, rest)

/-- The octets of a character. Only their number and place are checked, not whether there is such a
character. -/
def escaped? (chars : List Char) : Option (Octets × List Char) := do
  let (lead, rest) ← octet? chars
  let (more, rest) ← trailing? ((← width? lead) - 1) rest
  return (lead :: more, rest)

/-- The octets of a tag, as many as there are. -/
def uri? (brackets : Bool) : Nat → List Char → Option (Octets × List Char)
  | 0, _ => none
  | _ + 1, [] => some ([], [])
  | fuel + 1, c :: rest =>
    if c = '%' then do
      let (meant, rest) ← escaped? (c :: rest)
      let (more, behind) ← uri? brackets fuel rest
      return (meant ++ more, behind)
    else if isWord c || isPunctuation c || (brackets && isBracket c) then do
      let (more, behind) ← uri? brackets fuel rest
      return (c.toUInt8 :: more, behind)
    else some ([], c :: rest)

/-- Reads the octets of a tag. -/
def readUri? (brackets : Bool) (cursor : Cursor) : Option (Octets × Cursor) := do
  let (taken, behind) ← uri? brackets (cursor.rest.length + 1) cursor.rest
  return (taken, cursor.moveTo behind)

/-- Reads a handle: an exclamation mark, letters, and a second mark if there is one. -/
def handle? (cursor : Cursor) : Option (List Char × Cursor) :=
  if cursor.at? '!' then
    let (word, next) := cursor.advance.span isWord
    if next.at? '!' then some ('!' :: word ++ ['!'], next.advance) else some ('!' :: word, next)
  else none

/-- Whether a handle ends in a mark of its own. -/
def isClosed (handle : List Char) : Bool := 1 < handle.length && handle.getLast? = some '!'

/-- Reads a tag, which ends before a blank, a break or, in a flow collection, a comma. A tag of which
only the mark counts is that mark, whatever its handle stands for. -/
def read? (flow : Bool) (cursor : Cursor) : Option (TagText × Cursor) := do
  let (tag, next) ←
    if cursor.rest.take 2 = ['!', '<'] then do
      let (suffix, next) ← readUri? true (cursor.forward 2)
      if suffix.isEmpty || !next.at? '>' then failure
      pure (TagText.mk "" suffix.untilZero, next.advance)
    else do
      let (handle, next) ← handle? cursor
      let (suffix, next) ← readUri? false next
      if isClosed handle then
        if suffix.isEmpty then failure
        pure (TagText.mk (String.ofList handle) suffix.untilZero, next)
      else
        let whole : Octets := (handle.drop 1).map Char.toUInt8 ++ suffix
        let whole := whole.untilZero
        pure (if whole.isEmpty then ⟨"", [mark]⟩ else ⟨"!", whole⟩, next)
  if startsBlank next.rest || (flow && next.at? ',') then some (tag, next) else none

end Tag

namespace Anchor

/-- Characters that may follow the name of an anchor at once. -/
def mayFollow (rest : List Char) : Bool :=
  startsBlank rest || (rest.take 1).all fun c => "?:,]\x7d%@`".toList.contains c

/-- Reads the name of an anchor behind the mark that announces it. -/
def name? (cursor : Cursor) : Option (String × Cursor) :=
  let (name, next) := cursor.advance.span isWord
  if !name.isEmpty && mayFollow next.rest then some (String.ofList name, next) else none

end Anchor

namespace Directive

/-- Reads a number of at most nine digits. -/
def number? (cursor : Cursor) : Option (Nat × Cursor) :=
  let (digits, next) := cursor.span Char.isDigit
  if digits.isEmpty || 9 < digits.length then none
  else some (digits.foldl (fun n c => n * 10 + (c.toNat - '0'.toNat)) 0, next)

/-- Reads the version that a document is written for. -/
def version? (cursor : Cursor) : Option (Directive × Cursor) := do
  let (major, next) ← number? cursor.skipBlanks
  if next.at? '.' then
    let (minor, next) ← number? next.advance
    return (.version major minor, next)
  else failure

/-- Reads a handle and what it is to stand for. -/
def tag? (cursor : Cursor) : Option (Directive × Cursor) := do
  let (handle, next) ← Tag.handle? cursor.skipBlanks
  if 1 < handle.length && !Tag.isClosed handle then failure
  if !(next.peek?.map isBlank).getD false then failure
  let (expansion, next) ← Tag.readUri? true next.skipBlanks
  if expansion.isEmpty || !startsBlank next.rest then failure
  return (.tag (String.ofList handle) expansion.untilZero, next)

/-- Reads a directive up to the next line. -/
def read? (cursor : Cursor) : Option (Directive × Cursor) := do
  let (name, next) := cursor.advance.span isWord
  if !startsBlank next.rest then failure
  let (directive, next) ←
    if name = "YAML".toList then version? next
    else if name = "TAG".toList then tag? next
    else none
  let next ← next.endLine?
  return (directive, next)

end Directive

end StorageTrace.Yaml
