import StorageTrace.Yaml.Cursor

/-! # Scalars of a YAML text

A scalar is written plain, between quotes, or as a block of indented lines. Each reader starts at the
scalar and gives its text and the place behind it. Lines of plain and quoted scalars are folded: a
single break becomes a space, and of several breaks the first is left out.
-/

namespace StorageTrace.Yaml

/-- How a scalar is written. -/
inductive Style where
  | plain
  | singleQuoted
  | doubleQuoted
  | literal
  | folded
  deriving DecidableEq, Repr, Inhabited

namespace Scalar

/-- The text that a run of breaks stands for. -/
def fold : List Char → List Char
  | ['\n'] => [' ']
  | '\n' :: more => more
  | breaks => breaks

/-- Moves over blanks and breaks and gives the breaks. A tab to the left of the given column on a
later line is refused. -/
def gapLines (indent : Nat) (breaks : List Char) (place : Place) :
    List Char → Option (List Char × Cursor)
  | [] => some (breaks.reverse, { place with rest := [] })
  | c :: rest =>
    if isBreak c then gapLines indent (c :: breaks) (place.after c) rest
    else if isBlank c then
      if c = '\t' && !breaks.isEmpty && place.column < indent then none
      else gapLines indent breaks (place.after c) rest
    else some (breaks.reverse, { place with rest := c :: rest })

/-- What lies between two words of a scalar. -/
structure Gap where
  text : List Char
  crossesLine : Bool
  behind : Cursor

/-- Reads the blanks and breaks at a place: either blanks alone, kept as they are, or breaks. -/
def gap? (indent : Nat) (cursor : Cursor) : Option Gap := do
  let (blanks, ahead) := cursor.span isBlank
  let (breaks, behind) ← gapLines indent [] ahead.toPlace ahead.rest
  return {
    text := if breaks.isEmpty then blanks else fold breaks
    crossesLine := !breaks.isEmpty
    behind }

/-! ## Plain scalars -/

/-- Whether a plain scalar ends before these characters. -/
def endsPlain (flow : Bool) : List Char → Bool
  | [] => true
  | c :: rest => startsBlank [c] || (c = ':' && startsBlank rest) || (flow && isFlowIndicator c)

/-- Whether a colon is followed by what it may not be followed by in a flow collection. -/
def badColon (flow : Bool) : List Char → Bool
  | ':' :: next :: _ => flow && (isFlowIndicator next || next = '?')
  | _ => false

/-- The characters of a word of a plain scalar, and what follows them. -/
def plainWord? (flow : Bool) : List Char → Option (List Char × List Char)
  | [] => some ([], [])
  | c :: rest =>
    if badColon flow (c :: rest) then none
    else if endsPlain flow (c :: rest) then some ([], c :: rest)
    else (plainWord? flow rest).map fun (word, behind) => (c :: word, behind)

/-- Words joined by their gaps. The flag tells whether a gap behind the last word crosses a line. -/
def plainWords? (flow : Bool) (indent : Nat) : Nat → List Char → Bool → Cursor →
    Option (List Char × Bool × Cursor)
  | 0, _, _, _ => none
  | fuel + 1, before, crossed, cursor =>
    if cursor.atDocumentMarker || cursor.at? '#' then some ([], crossed, cursor)
    else do
      let (word, behind) ← plainWord? flow cursor.rest
      let next := cursor.moveTo behind
      if word.isEmpty then return ([], crossed, next)
      else if next.atEnd || !startsBlank next.rest then return (before ++ word, false, next)
      else
        let gap ← gap? indent next
        if !flow && gap.behind.column < indent then return (before ++ word, gap.crossesLine, gap.behind)
        else
          let (more, crossed, last) ← plainWords? flow indent fuel gap.text gap.crossesLine gap.behind
          return (before ++ word ++ more, crossed, last)

/-- Reads a plain scalar whose later lines start at the given column or to the right of it. Tells too
whether the scalar was ended by a new line. -/
def plain? (flow : Bool) (indent : Nat) (cursor : Cursor) : Option (List Char × Bool × Cursor) :=
  plainWords? flow indent (cursor.rest.length + 1) [] false cursor

/-! ## Quoted scalars -/

/-- The characters of a word between single quotes, where a quote is written twice. -/
def singleWord : List Char → List Char × List Char
  | '\'' :: '\'' :: rest =>
    let (word, behind) := singleWord rest
    ('\'' :: word, behind)
  | [] => ([], [])
  | c :: rest =>
    if startsBlank [c] || c = '\'' then ([], c :: rest)
    else
      let (word, behind) := singleWord rest
      (c :: word, behind)

/-- What follows a backslash: a letter that stands for a character, or for so many digits. -/
inductive Escape where
  | stands (c : Char)
  | digits (count : Nat)

def escape? : Char → Option Escape
  | '0' => some (.stands '\x00')
  | 'a' => some (.stands '\x07')
  | 'b' => some (.stands '\x08')
  | 't' | '\t' => some (.stands '\t')
  | 'n' => some (.stands '\n')
  | 'v' => some (.stands '\x0B')
  | 'f' => some (.stands '\x0C')
  | 'r' => some (.stands '\r')
  | 'e' => some (.stands '\x1B')
  | ' ' => some (.stands ' ')
  | '\x22' => some (.stands '\x22')
  | '/' => some (.stands '/')
  | '\\' => some (.stands '\\')
  | 'N' => some (.stands '\u0085')
  | '_' => some (.stands '\u00A0')
  | 'L' => some (.stands '\u2028')
  | 'P' => some (.stands '\u2029')
  | 'x' => some (.digits 2)
  | 'u' => some (.digits 4)
  | 'U' => some (.digits 8)
  | _ => none

def hexDigit? (c : Char) : Option Nat :=
  if c.isDigit then some (c.toNat - '0'.toNat)
  else if 'a' ≤ c && c ≤ 'f' then some (c.toNat - 'a'.toNat + 10)
  else if 'A' ≤ c && c ≤ 'F' then some (c.toNat - 'A'.toNat + 10)
  else none

/-- The character of a code point, if it is one. -/
def charOf? (code : Nat) : Option Char := if code.isValidChar then some (Char.ofNat code) else none

/-- Where a reader of a double-quoted word stands. -/
inductive DoubleState where
  | text
  | escape
  | digits (missing code : Nat)

/-- The characters of a word between double quotes. A backslash before a break ends the word. -/
def doubleWord? : DoubleState → List Char → Option (List Char × List Char)
  | .text, [] => some ([], [])
  | _, [] => none
  | .text, c :: rest =>
    if startsBlank [c] || c = '\x22' then some ([], c :: rest)
    else if c = '\\' then
      if (rest.head?.map isBreak).getD false then some ([], c :: rest) else doubleWord? .escape rest
    else (doubleWord? .text rest).map fun (word, behind) => (c :: word, behind)
  | .escape, c :: rest =>
    match escape? c with
    | some (.stands meant) => (doubleWord? .text rest).map fun (word, behind) => (meant :: word, behind)
    | some (.digits count) => doubleWord? (.digits count 0) rest
    | none => none
  | .digits missing code, c :: rest =>
    match hexDigit? c with
    | none => none
    | some digit =>
      let code := code * 16 + digit
      if missing ≤ 1 then
        match charOf? code with
        | some meant => (doubleWord? .text rest).map fun (word, behind) => (meant :: word, behind)
        | none => none
      else doubleWord? (.digits (missing - 1) code) rest

/-- Words joined by their gaps up to the closing quote. Behind an escaped break the breaks that follow
are kept. -/
def quotedWords? (quote : Char) (word? : List Char → Option (List Char × List Char)) :
    Nat → Cursor → Option (List Char × Cursor)
  | 0, _ => none
  | fuel + 1, cursor =>
    if cursor.atDocumentMarker || cursor.atEnd then none
    else do
      let (word, behind) ← word? cursor.rest
      let next := cursor.moveTo behind
      if next.at? quote then return (word, next.advance)
      else if next.at? '\\' then
        let ahead := next.advance.advance
        let (breaks, behind) ← gapLines 0 [] ahead.toPlace ahead.rest
        let (more, last) ← quotedWords? quote word? fuel behind
        return (word ++ breaks ++ more, last)
      else
        let gap ← gap? 0 next
        let (more, last) ← quotedWords? quote word? fuel gap.behind
        return (word ++ gap.text ++ more, last)

/-- Reads a scalar between single quotes. -/
def singleQuoted? (cursor : Cursor) : Option (List Char × Cursor) :=
  quotedWords? '\'' (fun chars => some (singleWord chars)) (cursor.rest.length + 1) cursor.advance

/-- Reads a scalar between double quotes. -/
def doubleQuoted? (cursor : Cursor) : Option (List Char × Cursor) :=
  quotedWords? '\x22' (doubleWord? .text) (cursor.rest.length + 1) cursor.advance

/-! ## Block scalars -/

/-- What becomes of the breaks at the end of a block. -/
inductive Chomping where
  | strip
  | clip
  | keep
  deriving DecidableEq

/-- What the first line of a block says. -/
structure BlockHeader where
  chomping : Chomping := .clip
  indent : Option Nat := none

/-- The sign for the breaks at the end. -/
def chompingSign? : Char → Option Chomping
  | '+' => some .keep
  | '-' => some .strip
  | _ => none

/-- Reads the signs behind a block's indicator: at most one for the breaks and at most one digit,
which is not zero, in either order. -/
def blockHeader? (cursor : Cursor) : Option (BlockHeader × Cursor) :=
  let digit? (cursor : Cursor) : Option (Option Nat × Cursor) :=
    match cursor.peek? with
    | some c =>
      if c = '0' then none
      else if c.isDigit then some (some (c.toNat - '0'.toNat), cursor.advance)
      else some (none, cursor)
    | none => some (none, cursor)
  let sign (cursor : Cursor) : Option Chomping × Cursor :=
    match cursor.peek?.bind chompingSign? with
    | some chomping => (some chomping, cursor.advance)
    | none => (none, cursor)
  match sign cursor with
  | (some chomping, next) => do
    let (indent, next) ← digit? next
    return ({ chomping, indent }, next)
  | (none, next) => do
    let (indent, next) ← digit? next
    match indent with
    | none => return ({}, next)
    | some _ =>
      let (chomping, next) := sign next
      return ({ chomping := chomping.getD .clip, indent }, next)

/-- Moves over empty lines and the indentation of the line behind them. Gives the breaks and the
greatest column reached; a tab in place of indentation is refused. Without an indentation all spaces
count as such. -/
def blockBreaks? (indent : Option Nat) (breaks : List Char) (widest : Nat) (place : Place) :
    List Char → Option (List Char × Nat × Cursor)
  | [] => some (breaks.reverse, max widest place.column, { place with rest := [] })
  | c :: rest =>
    let indenting := (indent.map fun wanted => decide (place.column < wanted)).getD true
    if c = ' ' && indenting then blockBreaks? indent breaks widest (place.after c) rest
    else if c = '\t' && indenting then none
    else if isBreak c then
      blockBreaks? indent (c :: breaks) (max widest place.column) (place.after c) rest
    else some (breaks.reverse, max widest place.column, { place with rest := c :: rest })

/-- How one line of a block is joined to the line before it, which ended in a break and was followed
by further breaks. In a folded block a break between two lines that do not start with a blank gives
way to a space, or to nothing if further breaks follow it. -/
def joinLines (folded blankBefore blankHere : Bool) (ending further : List Char) : List Char :=
  if folded && ending = ['\n'] && !blankBefore && !blankHere then
    if further.isEmpty then [' '] else further
  else ending ++ further

/-- The lines of a block. The text before is followed by a break and further empty lines. -/
def blockLines? (folded : Bool) (indent : Nat) (chomping : Chomping) :
    Nat → Bool → List Char → List Char → Cursor → Option (List Char × Cursor)
  | 0, _, _, _, _ => none
  | fuel + 1, blankBefore, ending, further, cursor =>
    if cursor.column = indent && !cursor.atEnd then do
      let blankHere := (cursor.peek?.map isBlank).getD false
      let (content, next) := cursor.span fun c => !isBreak c
      let lineEnd := (next.peek?.map fun c => [c]).getD []
      let after := next.advance
      let (breaks, _, behind) ← blockBreaks? (some indent) [] 0 after.toPlace after.rest
      let (more, last) ← blockLines? folded indent chomping fuel blankHere lineEnd breaks behind
      return (joinLines folded blankBefore blankHere ending further ++ content ++ more, last)
    else
      let tail :=
        match chomping with
        | .strip => []
        | .clip => ending
        | .keep => ending ++ further
      some (tail, cursor)

/-- Reads a block scalar inside a collection whose own indentation is given, minus one outside of
all. -/
def block? (folded : Bool) (parent : Int) (cursor : Cursor) : Option (List Char × Cursor) := do
  let (header, next) ← blockHeader? cursor.advance
  let start ← next.endLine?
  let given := header.indent.map fun increment =>
    if 0 ≤ parent then parent.toNat + increment else increment
  let (breaks, widest, behind) ← blockBreaks? given [] 0 start.toPlace start.rest
  let indent := given.getD (max widest (max (parent + 1).toNat 1))
  blockLines? folded indent header.chomping (behind.rest.length + 1) false [] breaks behind

end Scalar

end StorageTrace.Yaml
