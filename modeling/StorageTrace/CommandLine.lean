import StorageTrace.Agent
import StorageTrace.ConfigText
import StorageTrace.IsolatedMachine
import StorageTrace.LogFilter
import StorageTrace.Usage
import StorageTrace.WorkingDirectory

/-! # The command line

The words of the command line become an invocation or a refusal. An invocation either ends at once or
asks for a configuration file, and with it either ends or asks for the agent to be run.
-/

namespace StorageTrace

namespace LoadError

/-- The texts of a failure to load a file and of its causes. -/
def chain (path : String) : LoadError → List String
  | .unreadable text => [s!"reading config file {path}", text]
  | .malformed => [s!"parsing config file {path}"]
  | .invalid cause => [cause.message]

end LoadError

namespace CommandLine

/-- What the words of a command line ask for: options in the order in which they are given, and a
command. -/
structure Invocation where
  given : List (ValueOption × String) := []
  command : Option Command := none
  deriving DecidableEq, Repr, Inhabited

namespace Invocation

def value? (invocation : Invocation) (option : ValueOption) : Option String :=
  invocation.given.lookup option

/-- The options that are given. -/
def options (invocation : Invocation) : List ValueOption := invocation.given.map (·.1)

end Invocation

/-! ## Reading the words -/

/-- An option whose value is still being read. -/
structure Pending where
  option : ValueOption
  value : Option String := none

/-- Notes the value of an option, which may be given once. A path may not be empty. -/
def give (invocation : Invocation) (option : ValueOption) (value : String) :
    Except Refusal Invocation :=
  if (invocation.value? option).isSome then .error (.usage (.repeatedOption option))
  else if option = .config && value = "" then .error (.usage (.missingValue option))
  else .ok { invocation with given := invocation.given ++ [(option, value)] }

/-- Notes the value of the option that is still being read. -/
def settle (invocation : Invocation) : Option Pending → Except Refusal Invocation
  | none => .ok invocation
  | some ⟨option, none⟩ => .error (.usage (.missingValue option))
  | some ⟨option, some value⟩ => give invocation option value

/-- The options that count as given where a wrong word is met: the value still being read need not be
a good one, but an option given twice counts as not given. -/
def optionsSoFar (invocation : Invocation) : Option Pending → List ValueOption
  | some ⟨option, some _⟩ =>
    if invocation.options.contains option then invocation.options.filter (· ≠ option)
    else invocation.options ++ [option]
  | _ => invocation.options

/-- Whether a word starts an option and cannot be a value. -/
def isOption (word : List Char) : Bool := word.head? = some '-' && 1 < word.length

/-- The name of a long option and what is attached to it behind an equals sign. -/
def nameAndValue (word : List Char) : String × Option String :=
  let value? := (word.dropWhile (· ≠ '=')).tail?.map String.ofList
  (String.ofList (word.takeWhile (· ≠ '=')), value?)

/-- Why a command refuses the words behind it: it takes none but a call for help. -/
def commandRefusal? (command : Command) : List String → Option Refusal
  | [] | ["--"] => none
  | "--" :: word :: _ => some (.usage (.unexpectedArgument (.command command) word))
  | word :: _ =>
    match word.toList with
    | '-' :: '-' :: long =>
      match nameAndValue long with
      | (name, value?) =>
        if name = helpName then
          match value? with
          | none => some (.help (.command command))
          | some value => some (.usage (.unexpectedValue (.command command) value []))
        else some (.usage (.unknownOption (.command command) name []))
    | '-' :: 'h' :: _ => some (.help (.command command))
    | '-' :: letter :: _ =>
      some (.usage (.unexpectedArgument (.command command) (String.ofList ['-', letter])))
    | _ => some (.usage (.unexpectedArgument (.command command) word))

/-- The answer to a request for help: each word names a topic below the one before it. -/
def helpRefusal : List String → Refusal
  | [] => .help .program
  | word :: rest =>
    match Topic.ofName? word with
    | none => .usage (.unknownTopic .program word)
    | some topic =>
      match rest with
      | [] => .help topic
      | other :: _ => .usage (.unknownTopic topic other)

/-- Reads a word that starts with two dashes. -/
def longOption (invocation : Invocation) (pending : Option Pending) (word : List Char) :
    Except Refusal (Invocation × Option Pending) := do
  let (name, value?) := nameAndValue word
  match ValueOption.all.find? fun option => option.name = name with
  | some option =>
    let settled ← settle invocation pending
    match value? with
    | some value => return (← give settled option value, none)
    | none => return (settled, some { option })
  | none =>
    if name = helpName then
      match value? with
      | some value => throw (.usage (.unexpectedValue .program value invocation.options))
      | none =>
        let _ ← settle invocation pending
        throw (.help .program)
    else throw (.usage (.unknownOption .program name (optionsSoFar invocation pending)))

/-- Reads a word that starts with one dash. -/
def shortOption (invocation : Invocation) (pending : Option Pending) (letter : Char)
    (rest : List Char) : Except Refusal (Invocation × Option Pending) := do
  if letter = 'c' then
    let settled ← settle invocation pending
    match rest with
    | [] => return (settled, some { option := .config })
    | '=' :: value => return (← give settled .config (String.ofList value), none)
    | value => return (← give settled .config (String.ofList value), none)
  else if letter = 'h' then
    let _ ← settle invocation pending
    throw (.help .program)
  else throw (.usage (.unexpectedArgument .program (String.ofList ['-', letter])))

/-- Why the words behind a command, or behind a word that is none, are refused; a command's own words
come before the value that is still being read. -/
def readCommand (invocation : Invocation) (pending : Option Pending) (word : String)
    (rest : List String) : Except Refusal Invocation :=
  match Command.ofName? word with
  | some command =>
    match commandRefusal? command rest with
    | some refusal => .error refusal
    | none => (settle invocation pending).map fun settled => { settled with command := some command }
  | none =>
    .error (if word = helpName then helpRefusal rest else .usage (.unknownCommand word))

/-- Reads the words that are left. -/
def readWords (invocation : Invocation) (pending : Option Pending) :
    List String → Except Refusal Invocation
  | [] => settle invocation pending
  | word :: rest =>
    let awaited := pending.filter fun waiting => waiting.value.isNone && !isOption word.toList
    match awaited with
    | some waiting => readWords invocation (some { waiting with value := some word }) rest
    | none =>
      if word = "--" then
        match rest with
        | [] => settle invocation pending
        | next :: _ =>
          let known := (Topic.ofName? next).isSome
          .error (.usage (if known then .hiddenCommand next else .unknownCommand next))
      else
        match word.toList with
        | '-' :: '-' :: long => do
          let (invocation, pending) ← longOption invocation pending long
          readWords invocation pending rest
        | '-' :: letter :: more => do
          let (invocation, pending) ← shortOption invocation pending letter more
          readWords invocation pending rest
        | _ => readCommand invocation pending word rest

/-- The invocation that words spell. -/
def parse (words : List String) : Except Refusal Invocation := readWords {} none words

/-! ## Carrying out an invocation -/

/-- What an invocation needs first. -/
inductive Step where
  | finish (outcome : Outcome)
  | load (path : String) (invocation : Invocation)
  deriving DecidableEq, Repr

/-- The first step of an invocation. Without a command for which it does not matter, a configuration
must be named. -/
def firstStep (invocation : Invocation) : Step :=
  if invocation.command = some .version then .finish (Outcome.printed [versionLine])
  else
    match invocation.value? .config with
    | none => .finish (Outcome.failed ["--config is required (use --help for usage)"])
    | some path => .load path invocation

/-- The step that a command line asks for first. -/
def ofWords (words : List String) : Step :=
  match parse words with
  | .error refusal => .finish refusal.outcome
  | .ok invocation => firstStep invocation

/-- The configuration in a file, of which either the text is known or why it cannot be read. -/
def configOf (content : Except String String) : Except LoadError Config :=
  match content with
  | .error text => .error (.unreadable text)
  | .ok text => Config.ofText text

/-- What follows once the file is read: the run ends, or the agent is to be run with a
configuration. -/
def afterLoad (path : String) (invocation : Invocation) (content : Except String String) :
    Except Outcome Config :=
  match configOf content with
  | .error cause => .error (Outcome.failed (s!"loading config from {path}" :: cause.chain path))
  | .ok config =>
    if invocation.command = some .check then
      .error (Outcome.printed [s!"config {path} is valid"])
    else
      let level := (invocation.value? .logLevel).getD config.logLevel
      match LogFilter.check level with
      | .error .brokenCut => .error Outcome.brokenOff
      | .error cause => .error (Outcome.failed (s!"invalid log level: {level}" :: cause.chain))
      | .ok () => .ok config

/-- The agent that a configuration asks for, or how the run ends that cannot start it. -/
def startAgent (listen : String → Except String Unit) (config : Config) (tree : CgroupRoot)
    (source : Source) : Except Outcome Agent :=
  (Agent.start listen config (Agent.directory config tree) (.pipe source)).mapError fun cause =>
    Outcome.failed cause.chain

/-- What a run finds at the paths that it is given, and what comes of listening on an address. -/
structure Surroundings where
  file : String → Except String String
  tree : String → CgroupRoot
  source : String → Source
  listen : String → Except String Unit

namespace Surroundings

/-- What a run finds that is started in a directory of a machine on its own. -/
def inDirectory (directory : WorkingDirectory) : Surroundings where
  file path := (directory.read path).mapError SystemError.message
  tree _ := .tree []
  source path :=
    match directory.follow path with
    | .ok (.file text) => .bytes text.toUTF8.toList
    | .ok _ => .directory
    | .error cause => .unreachable cause
  listen := IsolatedMachine.listen

end Surroundings

/-- A whole run up to the point where it has ended or an agent is at work. -/
def run (around : Surroundings) (words : List String) : Except Outcome (Config × Agent) :=
  match ofWords words with
  | .finish outcome => .error outcome
  | .load path invocation => do
    let config ← afterLoad path invocation (around.file path)
    let agent ← startAgent around.listen config (around.tree config.directory.cgroupRoot)
      (around.source config.source.path)
    return (config, agent)

end CommandLine

end StorageTrace
