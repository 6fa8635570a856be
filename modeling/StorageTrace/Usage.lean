import StorageTrace.ControlSequence
import StorageTrace.Outcome
import StorageTrace.Similarity

/-! # The texts of the command line

The options and commands that the program knows, the pages of help, and what is said about words that
are none of them.
-/

namespace StorageTrace

namespace CommandLine

/-- The options that take a value. -/
inductive ValueOption where
  | config
  | logLevel
  deriving DecidableEq, Repr

namespace ValueOption

def all : List ValueOption := [.config, .logLevel]

def name : ValueOption → String
  | .config => "config"
  | .logLevel => "log-level"

/-- The option with its value, as messages show it. -/
def shown : ValueOption → String
  | .config => "--config <CONFIG>"
  | .logLevel => "--log-level <LOG_LEVEL>"

/-- All options, as one place that takes any of them. -/
def groupShown : String := "<" ++ "|".intercalate (all.map shown) ++ ">"

end ValueOption

/-- The flag that asks for help. -/
def helpName : String := "help"

/-- What the program can be told to do instead of running the agent. -/
inductive Command where
  | version
  | check
  deriving DecidableEq, Repr

namespace Command

def all : List Command := [.version, .check]

def name : Command → String
  | .version => "version"
  | .check => "check"

def ofName? (word : String) : Option Command := all.find? fun command => command.name = word

def about : Command → String
  | .version => "Print version information and exit"
  | .check => "Load and validate the configuration, then exit"

end Command

/-- What there is help about: the program, its commands, and help itself. -/
inductive Topic where
  | program
  | command (command : Command)
  | help
  deriving DecidableEq, Repr

namespace Topic

/-- The topics that are named by a word. -/
def ofName? (word : String) : Option Topic :=
  if word = helpName then some .help else (Command.ofName? word).map .command

/-- The words that name a topic. -/
def names : List String := Command.all.map Command.name ++ [helpName]

end Topic

def programName : String := "ioeye"

def versionLine : String := programName ++ " 0.1.0 (commit: unknown, linux/x86_64)"

def helpAbout : String := "Print this message or the help of the given subcommand(s)"

namespace Topic

def usageLine : Topic → String
  | .program => s!"Usage: {programName} [OPTIONS] [COMMAND]"
  | .command chosen => s!"Usage: {programName} {chosen.name}"
  | .help => s!"Usage: {programName} help [COMMAND]..."

/-- The page of help. -/
def page (topic : Topic) : List String :=
  match topic with
  | .program =>
    ["Per-workload storage I/O attribution agent: correlates kernel I/O events, " ++
        "classifies bottlenecks and flags latency anomalies",
      "", topic.usageLine, "", "Commands:",
      "  version  " ++ Command.about .version,
      "  check    " ++ Command.about .check,
      "  help     " ++ helpAbout,
      "", "Options:",
      "  -c, --config <CONFIG>        Path to the YAML configuration file",
      "      --log-level <LOG_LEVEL>  Logging verbosity level (trace, debug, info, warn, error). " ++
        "Overrides \x60log_level\x60 from the config file when given",
      "  -h, --help                   Print help"]
  | .command chosen =>
    [chosen.about, "", topic.usageLine, "", "Options:", "  -h, --help  Print help"]
  | .help =>
    [helpAbout, "", topic.usageLine, "", "Arguments:",
      "  [COMMAND]...  Print help for the subcommand(s)"]

/-- The usage with arguments that are known to be meant. -/
def usageWith (topic : Topic) (shown : List String) : String :=
  match topic, shown with
  | .program, _ :: _ => " ".intercalate (s!"Usage: {programName}" :: shown)
  | topic, shown => " ".intercalate (topic.usageLine :: shown)

/-- The names of the options that a topic has. -/
def optionNames : Topic → List String
  | .program => ValueOption.all.map ValueOption.name ++ [helpName]
  | .command _ => [helpName]
  | .help => []

end Topic

/-- What is wrong with the words. -/
inductive UsageError where
  | unknownOption (topic : Topic) (name : String) (given : List ValueOption)
  | unexpectedArgument (topic : Topic) (word : String)
  | hiddenCommand (word : String)
  | unknownCommand (word : String)
  | unknownTopic (topic : Topic) (word : String)
  | repeatedOption (option : ValueOption)
  | missingValue (option : ValueOption)
  | unexpectedValue (topic : Topic) (value : String) (given : List ValueOption)
  deriving DecidableEq, Repr

namespace UsageError

/-- What the error is about. -/
def topic : UsageError → Topic
  | .unknownOption topic _ _ | .unexpectedArgument topic _ | .unknownTopic topic _
  | .unexpectedValue topic _ _ => topic
  | .hiddenCommand _ | .unknownCommand _ | .repeatedOption _ | .missingValue _ => .program

/-- A word as messages show it. -/
def quoted (word : String) : String := "'" ++ ControlSequence.strip word ++ "'"

def message : UsageError → String
  | .unknownOption _ name _ =>
    let word := "--" ++ name
    s!"unexpected argument {quoted word} found"
  | .unexpectedArgument _ word | .hiddenCommand word => s!"unexpected argument {quoted word} found"
  | .unknownCommand word | .unknownTopic _ word => s!"unrecognized subcommand {quoted word}"
  | .repeatedOption option => s!"the argument '{option.shown}' cannot be used multiple times"
  | .missingValue option => s!"a value is required for '{option.shown}' but none was supplied"
  | .unexpectedValue _ value _ =>
    s!"unexpected value {quoted value} for '--{helpName}' found; no more were expected"

/-- How an option is shown by its name. -/
def shownByName (name : String) : String :=
  match ValueOption.all.find? fun option => option.name = name with
  | some option => option.shown
  | none => "--" ++ name

/-- The option of a topic that is most like an unknown one. -/
def meantOption? (topic : Topic) (name : String) : Option String :=
  (Similarity.similar name topic.optionNames).getLast?

/-- The advice that is given with an error, if any. -/
def tip? : UsageError → Option String
  | .unknownOption topic name _ =>
    (meantOption? topic name).map fun meant => s!"a similar argument exists: '--{meant}'"
  | .hiddenCommand word => some s!"subcommand '{word}' exists; to use it, remove the '--' before it"
  | .unknownCommand word =>
    match (Similarity.similar word Topic.names).map fun name => "'" ++ name ++ "'" with
    | [] => none
    | [name] => some ("a similar subcommand exists: " ++ name)
    | names => some ("some similar subcommands exist: " ++ ", ".intercalate names)
  | _ => none

/-- The arguments that the usage shows, as far as they are known to be meant. -/
def meantArguments : UsageError → List String
  | .unknownOption topic name given =>
    let shown := given.map ValueOption.shown
    let meant := ((meantOption? topic name).map shownByName).toList
    shown ++ meant.filter fun option => !shown.contains option
  | .unexpectedValue _ _ given =>
    ("--" ++ helpName) :: if given.isEmpty then [] else [ValueOption.groupShown]
  | _ => []

/-- The usage that is shown with an error, if any. -/
def usage? : UsageError → Option String
  | .missingValue _ => none
  | error => some (error.topic.usageWith error.meantArguments)

/-- Where to find help, if there is any about what the error is about. -/
def hint? (error : UsageError) : Option String :=
  if error.topic.optionNames.contains helpName then
    some s!"For more information, try '--{helpName}'."
  else none

/-- What is printed about an error. -/
def lines (error : UsageError) : List String :=
  ("error: " ++ error.message) ::
    ([error.tip?.map ("  tip: " ++ ·), error.usage?, error.hint?].flatMap fun part =>
      part.toList.flatMap fun text => ["", text])

end UsageError

/-- Why words do not become an invocation: they ask for help or are wrong. -/
inductive Refusal where
  | help (topic : Topic)
  | usage (error : UsageError)
  deriving DecidableEq, Repr

namespace Refusal

def outcome : Refusal → Outcome
  | .help topic => Outcome.printed topic.page
  | .usage error => { exitCode := 2, errors := error.lines }

end Refusal

end CommandLine

end StorageTrace
