/-! # Outcomes

What a run of the program leaves behind: an exit code and the texts of its two outputs, each of which
is followed by a line feed.
-/

namespace StorageTrace

/-- What a run leaves behind. -/
structure Outcome where
  exitCode : Nat
  output : List String := []
  errors : List String := []
  deriving DecidableEq, Repr, Inhabited

namespace Outcome

/-- The lines that a reader sees in texts. A carriage return at the end of a line belongs to the line
feed behind it. -/
def linesOf (texts : List String) : List String :=
  texts.flatMap fun text => (text.splitOn "\n").map withoutReturn
where
  withoutReturn (line : String) : String :=
    match line.toList.reverse with
    | '\r' :: before => String.ofList before.reverse
    | _ => line

def outputLines (outcome : Outcome) : List String := linesOf outcome.output

def errorLines (outcome : Outcome) : List String := linesOf outcome.errors

/-- A run that ends well and prints lines. -/
def printed (lines : List String) : Outcome := { exitCode := 0, output := lines }

/-- A run that breaks off. What it reports starts with a line feed. -/
def brokenOff : Outcome := { exitCode := 101, errors := [""] }

/-- The lines of a text behind a beginning, later ones behind another. -/
def indented (first later : String) (text : String) : List String :=
  match text.splitOn "\n" with
  | [] => [first]
  | line :: rest => (first ++ line) :: rest.map (later ++ ·)

/-- Causes as they are reported: a single one alone, several with numbers. -/
def causeLines : List String → List String
  | [cause] => indented "    " "    " cause
  | causes => (causes.zipIdx).flatMap fun (cause, number) =>
    let label := toString number
    indented (String.ofList (List.replicate (5 - label.length) ' ') ++ label ++ ": ") "       " cause

/-- A failure, told by its texts, outermost first. -/
def failed : List String → Outcome
  | [] => { exitCode := 1 }
  | text :: causes =>
    let report := indented "Error: " "" text
    { exitCode := 1
      errors := if causes.isEmpty then report else report ++ ["", "Caused by:"] ++ causeLines causes }

end Outcome

end StorageTrace
