/-! # Control sequences

What is left of a text when the characters and sequences are taken out that steer a terminal. White
space is kept, and so is every character beyond ASCII that no sequence swallows. White space inside of
a sequence does not end it: what can be printed behind it is shown, and the next control character
takes the sequence up again.
-/

namespace StorageTrace

namespace ControlSequence

/-- Where a reader of a text stands. -/
inductive State where
  /-- Outside of every sequence. -/
  | text
  /-- Behind an escape character. -/
  | escape
  /-- Behind an escape character and signs that narrow down what it means. -/
  | designator
  /-- Inside a sequence that an opening bracket started. -/
  | parameters
  /-- Inside the first part of a string for a device. -/
  | device
  /-- Inside a string that an octet of its own ends. -/
  | payload
  /-- Inside a string that the bell ends. -/
  | command
  deriving DecidableEq, Repr

/-- White space that is a control character at the same time. -/
def isControlSpace (c : Char) : Bool := c = '\t' || c = '\n' || c = '\x0C' || c = '\r'

def isControl (c : Char) : Bool := c.toNat < 0x20 || c = '\x7F'

/-- Whether a character lies in a range. -/
def within (first last : Nat) (c : Char) : Bool := first ≤ c.toNat && c.toNat ≤ last

/-- Whether the octet that ends a string is among those of a character. -/
def holdsTerminator (c : Char) : Bool := (String.utf8EncodeChar c).contains 0x9C

/-- The state behind a character of a sequence. -/
def proceed (c : Char) : State → State
  | .text => .text
  | .escape =>
    if c = '[' then .parameters
    else if c = ']' then .command
    else if c = 'P' then .device
    else if c = 'X' || c = '^' || c = '_' then .payload
    else if within 0x20 0x2F c then .designator
    else if within 0x30 0x7E c then .text
    else .escape
  | .designator => if within 0x30 0x7E c then .text else .designator
  | .parameters => if within 0x40 0x7E c then .text else .parameters
  | .device => if within 0x40 0x7E c then .payload else .device
  | .payload => if holdsTerminator c then .text else .payload
  | .command => if c = '\x07' then .text else .command

/-- Whether white space inside of a sequence is shown. -/
def showsSpace : State → Bool
  | .escape | .designator | .parameters => true
  | _ => false

/-- A reader of a text: its state, and whether it is showing characters. -/
structure Reader where
  state : State := .text
  isShowing : Bool := true
  deriving DecidableEq, Repr

/-- The reader behind a character, which is shown if the reader is showing then. While characters are
shown, an unfinished sequence waits; a character beyond ASCII ends it. -/
def Reader.step (reader : Reader) (c : Char) : Reader :=
  if c = '\x1B' then ⟨.escape, false⟩
  else if c = '\x18' || c = '\x1A' then ⟨.text, false⟩
  else if reader.isShowing && !isControl c then ⟨if c.toNat < 0x80 then reader.state else .text, true⟩
  else if reader.isShowing && isControlSpace c then ⟨reader.state, true⟩
  else if reader.state = .text then ⟨.text, !isControl c || isControlSpace c⟩
  else if isControlSpace c && showsSpace reader.state then ⟨reader.state, true⟩
  else ⟨proceed c reader.state, false⟩

/-- The characters that are shown from a place on. -/
def Reader.shown (reader : Reader) : List Char → List Char
  | [] => []
  | c :: rest =>
    let next := reader.step c
    if next.isShowing then c :: next.shown rest else next.shown rest

/-- A text without its control sequences. -/
def strip (text : String) : String := String.ofList (({} : Reader).shown text.toList)

end ControlSequence

end StorageTrace
