import StorageTrace.Yaml.Tag

/-! # Tokens of a YAML text

The text is cut into tokens, among them those that its indentation stands for. That a scalar or a
collection is a key is known only at the colon behind it, so the places where keys may start are
remembered, one for each open flow collection and one for the block around them, and the colon inserts
the tokens that belong there. Such a key fits on one line and is at most 1024 bytes long.
-/

namespace StorageTrace.Yaml

/-- A token. -/
inductive Token where
  | directive (directive : Directive)
  | documentStart
  | documentEnd
  | blockSequence
  | blockMapping
  | blockEnd
  | flowSequence
  | flowSequenceEnd
  | flowMapping
  | flowMappingEnd
  | blockEntry
  | flowEntry
  | key
  | value
  | reference (name : String)
  | anchor (name : String)
  | tag (tag : TagText)
  | scalar (text : String) (style : Style)
  deriving DecidableEq, Repr, Inhabited

/-- A place where a key may start. It is required where nothing but a key may stand. -/
structure KeyPlace extends Place where
  required : Bool
  position : Nat

/-- A reader of tokens. Tokens are held in reverse; indentation counts from minus one. -/
structure Scanner where
  cursor : Cursor
  reversed : List Token := []
  count : Nat := 0
  indent : Int := -1
  outer : List Int := []
  keyAllowed : Bool := true
  key : Option KeyPlace := none
  outerKeys : List (Option KeyPlace) := []

/-- An action of a reader that may refuse the text. -/
abbrev Scan := StateT Scanner Option

namespace Scanner

/-- The greatest number of bytes of a key that no mark announces. -/
def keyLimit : Nat := 1024

/-- Whether the reader is inside a flow collection. -/
def inFlow (scanner : Scanner) : Bool := !scanner.outerKeys.isEmpty

/-- Adds a token. -/
def push (token : Token) : Scan Unit :=
  modify fun scanner =>
    { scanner with reversed := token :: scanner.reversed, count := scanner.count + 1 }

/-- Adds tokens before those from a position on. -/
def insertAt (position : Nat) (tokens : List Token) : Scan Unit :=
  modify fun scanner =>
    let later := scanner.count - position
    { scanner with
      reversed := scanner.reversed.take later ++ tokens.reverse ++ scanner.reversed.drop later
      count := scanner.count + tokens.length }

def moveTo (cursor : Cursor) : Scan Unit := modify fun scanner => { scanner with cursor }

def allowKey (allowed : Bool) : Scan Unit :=
  modify fun scanner => { scanner with keyAllowed := allowed }

/-- Moves over one character, which is the token. -/
def single (token : Token) : Scan Unit := do
  moveTo (← get).cursor.advance
  push token

/-- Gives up the place of a key; a required one may not be given up. -/
def dropKey : Scan Unit := do
  match (← get).key with
  | some place => if place.required then failure else modify fun scanner => { scanner with key := none }
  | none => pure ()

/-- Notes the present place as that of a key, where one may stand. -/
def saveKey : Scan Unit := do
  let scanner ← get
  if scanner.keyAllowed then
    dropKey
    let place := scanner.cursor.toPlace
    let required := !scanner.inFlow && scanner.indent = place.column
    modify fun scanner =>
      { scanner with key := some { place with required, position := scanner.count } }

/-- Whether a place is too far behind to be that of a key. -/
def isStale (cursor : Cursor) (place : KeyPlace) : Bool :=
  place.line ≠ cursor.line || place.offset + keyLimit < cursor.offset

/-- Gives up the places that are too far behind. -/
def dropStaleKeys : Scan Unit := do
  let scanner ← get
  let stale := isStale scanner.cursor
  let lost := (scanner.key :: scanner.outerKeys).filterMap fun place => place.filter stale
  if lost.any (·.required) then failure
  let keep (place : Option KeyPlace) := place.filter fun place => !stale place
  set { scanner with key := keep scanner.key, outerKeys := scanner.outerKeys.map keep }

/-- Closes the block collections that are indented further than a column. -/
def closeBlocks (column : Int) : Scan Unit := do
  let scanner ← get
  if !scanner.inFlow && column < scanner.indent then
    let levels := scanner.indent :: scanner.outer
    let closed := levels.takeWhile (column < ·)
    match levels.drop closed.length with
    | indent :: outer =>
      set { scanner with
        indent, outer
        reversed := List.replicate closed.length Token.blockEnd ++ scanner.reversed
        count := scanner.count + closed.length }
    | [] => failure

/-- Opens a block collection at a column to the right of the one around it. The tokens, with that of
the collection if it is new, go to the given position. -/
def openBlock (column position : Nat) (collection : Token) (tokens : List Token) : Scan Unit := do
  let scanner ← get
  if !scanner.inFlow && scanner.indent < column then
    set { scanner with indent := column, outer := scanner.indent :: scanner.outer }
    insertAt position (collection :: tokens)
  else insertAt position tokens

/-- Leaves every block and forgets the key, as documents and directives do. -/
def leaveBlocks : Scan Unit := do
  closeBlocks (-1)
  dropKey
  allowKey false

/-! ## Kinds of tokens -/

def directive : Scan Unit := do
  leaveBlocks
  let (directive, next) ← (Directive.read? (← get).cursor : Option _)
  moveTo next
  push (.directive directive)

def documentMarker (token : Token) : Scan Unit := do
  leaveBlocks
  moveTo ((← get).cursor.forward 3)
  push token

def flowStart (token : Token) : Scan Unit := do
  saveKey
  modify fun scanner =>
    { scanner with key := none, outerKeys := scanner.key :: scanner.outerKeys, keyAllowed := true }
  single token

def flowEnd (token : Token) : Scan Unit := do
  dropKey
  modify fun scanner =>
    match scanner.outerKeys with
    | key :: outerKeys => { scanner with key, outerKeys }
    | [] => scanner
  allowKey false
  single token

def flowEntry : Scan Unit := do
  dropKey
  allowKey true
  single .flowEntry

/-- An entry of a block sequence. In a flow collection the token is left for others to refuse. -/
def blockEntry : Scan Unit := do
  let scanner ← get
  if !scanner.inFlow then
    if !scanner.keyAllowed then failure
    openBlock scanner.cursor.column scanner.count .blockSequence []
  dropKey
  allowKey true
  single .blockEntry

/-- A key that a question mark announces. -/
def explicitKey : Scan Unit := do
  let scanner ← get
  if !scanner.inFlow then
    if !scanner.keyAllowed then failure
    openBlock scanner.cursor.column scanner.count .blockMapping []
  dropKey
  allowKey !scanner.inFlow
  single .key

/-- The colon before a value. It turns what stands at the noted place into a key. -/
def value : Scan Unit := do
  let scanner ← get
  match scanner.key with
  | some place =>
    openBlock place.column place.position .blockMapping [.key]
    modify fun scanner => { scanner with key := none }
    allowKey false
  | none =>
    if !scanner.inFlow then
      if !scanner.keyAllowed then failure
      openBlock scanner.cursor.column scanner.count .blockMapping []
    allowKey !scanner.inFlow
  single .value

/-- A token in front of a node that may be a key. -/
def mark (read? : Cursor → Option (Token × Cursor)) : Scan Unit := do
  saveKey
  allowKey false
  let (token, next) ← (read? (← get).cursor : Option _)
  moveTo next
  push token

def scalarToken (style : Style) (text : List Char) : Token := .scalar (String.ofList text) style

def plainScalar : Scan Unit := do
  let scanner ← get
  saveKey
  allowKey false
  let (text, crossed, next) ←
    (Scalar.plain? scanner.inFlow (scanner.indent + 1).toNat scanner.cursor : Option _)
  if crossed then allowKey true
  moveTo next
  push (scalarToken .plain text)

def blockScalar (style : Style) : Scan Unit := do
  let scanner ← get
  dropKey
  allowKey true
  let (text, next) ←
    (Scalar.block? (style = .folded) scanner.indent scanner.cursor : Option _)
  moveTo next
  push (scalarToken style text)

/-! ## The next token -/

/-- Moves over blanks, comments and line ends to the next token, and over a byte order mark at the
start of a line. Tabs may separate tokens only where no key can start. -/
def toNextToken : Nat → Scan Unit
  | 0 => failure
  | fuel + 1 => do
    let scanner ← get
    let tabs := scanner.inFlow || !scanner.keyAllowed
    let cursor := scanner.cursor
    let cursor := if cursor.column = 0 && cursor.at? byteOrderMark then cursor.advance else cursor
    let cursor := (cursor.span fun c => c = ' ' || (tabs && c = '\t')).2.skipComment
    moveTo cursor
    if !cursor.atEnd && cursor.atLineEnd then
      moveTo cursor.advance
      if !scanner.inFlow then allowKey true
      toNextToken fuel

/-- Whether a plain scalar may start with these characters. -/
def startsPlain (flow : Bool) : List Char → Bool
  | [] => false
  | c :: rest =>
    !(startsBlank [c] || "-?:,[]\x7b\x7d#&*!|>'\"%@`".toList.contains c) ||
      (c = '-' && !(rest.head?.map isBlank).getD false) ||
      (!flow && (c = '?' || c = ':') && !startsBlank rest)

/-- Reads one token from a character on. -/
def dispatch (cursor : Cursor) (c : Char) (rest : List Char) : Scan Unit := do
  let flow := (← get).inFlow
  if cursor.column = 0 && c = '%' then directive
  else if cursor.atMarker '-' then documentMarker .documentStart
  else if cursor.atMarker '.' then documentMarker .documentEnd
  else if c = '[' then flowStart .flowSequence
  else if c = '\x7b' then flowStart .flowMapping
  else if c = ']' then flowEnd .flowSequenceEnd
  else if c = '\x7d' then flowEnd .flowMappingEnd
  else if c = ',' then flowEntry
  else if c = '-' && startsBlank rest then blockEntry
  else if c = '?' && (flow || startsBlank rest) then explicitKey
  else if c = ':' && (flow || startsBlank rest) then value
  else if c = '*' then mark fun cursor =>
    (Anchor.name? cursor).map fun (name, next) => (.reference name, next)
  else if c = '&' then mark fun cursor =>
    (Anchor.name? cursor).map fun (name, next) => (.anchor name, next)
  else if c = '!' then mark fun cursor =>
    (Tag.read? flow cursor).map fun (tag, next) => (.tag tag, next)
  else if c = '|' && !flow then blockScalar .literal
  else if c = '>' && !flow then blockScalar .folded
  else if c = '\'' then mark fun cursor =>
    (Scalar.singleQuoted? cursor).map fun (text, next) => (scalarToken .singleQuoted text, next)
  else if c = '\x22' then mark fun cursor =>
    (Scalar.doubleQuoted? cursor).map fun (text, next) => (scalarToken .doubleQuoted text, next)
  else if startsPlain flow cursor.rest then plainScalar
  else failure

/-- Reads all tokens. -/
def run : Nat → Scan Unit
  | 0 => failure
  | fuel + 1 => do
    toNextToken ((← get).cursor.rest.length + 1)
    dropStaleKeys
    let cursor := (← get).cursor
    closeBlocks cursor.column
    match cursor.rest with
    | [] => leaveBlocks
    | c :: rest =>
      dispatch cursor c rest
      run fuel

end Scanner

namespace Token

/-- The tokens of a text, unless it cannot be cut into tokens. -/
def ofText? (text : List Char) : Option (List Token) := do
  let ((), scanner) ← (Scanner.run (text.length + 1)).run { cursor := { rest := text } }
  return scanner.reversed.reverse

end Token

end StorageTrace.Yaml
