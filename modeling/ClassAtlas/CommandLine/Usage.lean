import ClassAtlas.CommandLine.Invocation

/-! # Usage

    The texts that explain the command line.  Help is made from the switches of
    the place that it is about, one line for each.
-/

namespace ClassAtlas.CommandLine

/-- The name of the program, as it is called. -/
def programName : String := "pumlgen"

def programVersion : String := "0.1.0"

/-! ## Descriptions -/

def CommandName.description : CommandName → String
  | .generate => "Generate the class diagram"
  | .inspect => "Report what a generation run would contain, without writing"
  | .root => "Print the resolved project root"

def HelpTopic.description : HelpTopic → String
  | .level .top => "Generate PlantUML class diagrams from declaration manifests"
  | .level (.after name) => name.description
  | .help => "Print this message or the help of the given subcommand(s)"

namespace Switch

/-- The name that stands for the switch's value. -/
def valueName? : Switch → Option String
  | .logLevel => some "LOG_LEVEL"
  | .logFormat => some "LOG_FORMAT"
  | .source => some "SOURCE"
  | .output => some "OUTPUT"
  | .builtIn => some "NAME"
  | .start => some "START"
  | _ => none

def description : Switch → String
  | .verbose => "Enable verbose output"
  | .logLevel =>
    "Set log level (trace|debug|info|warn|error|off) [default: warn] "
      ++ "[possible values: trace, debug, info, warn, error, off]"
  | .logFormat =>
    "Set log format (compact|pretty|json) [default: compact] "
      ++ "[possible values: compact, pretty, json]"
  | .source => "Directory scanned for declaration manifests (defaults to the project root)"
  | .output => "Directory receiving ClassDiagrams.puml (defaults to <root>/diagrams)"
  | .builtIn => "Extra type name to treat as built-in (repeatable)"
  | .stdout => "Print the diagram to stdout instead of writing a file"
  | .json => "Show in JSON format"
  | .start => "Directory to start searching from (defaults to the current directory)"
  | .help => "Print help"
  | .version => "Print version"

/-- The spellings of a switch, as help shows them. -/
def spelling (s : Switch) : String :=
  (match s.letter? with
    | some c => "-" ++ c.toString ++ ", "
    | none => "    ")
    ++ "--" ++ s.long
    ++ (match s.valueName? with
      | some name => " <" ++ name ++ ">"
      | none => "")

end Switch

/-! ## Help -/

/-- Rows of two columns, the second aligned. -/
def columns (rows : List (String × String)) : String :=
  let width := (rows.map (·.1.toList.length)).foldl max 0
  String.join (rows.map fun r =>
    "  " ++ r.1 ++ String.ofList (List.replicate (width - r.1.toList.length) ' ') ++ "  "
      ++ r.2 ++ "\n")

/-- The line that shows how a topic is called. -/
def HelpTopic.usage : HelpTopic → String
  | .level .top => "Usage: " ++ programName ++ " [OPTIONS] <COMMAND>\n"
  | .level (.after name) => "Usage: " ++ programName ++ " " ++ name.word ++ " [OPTIONS]\n"
  | .help => "Usage: " ++ programName ++ " help [COMMAND]...\n"

/-- The commands and what they do. -/
def commandTable : String :=
  "Commands:\n" ++ columns (CommandName.all.map (fun c => (c.word, c.description))
    ++ [("help", HelpTopic.help.description)])

/-- The switches of a place and what they ask for. -/
def Level.optionTable (level : Level) : String :=
  "Options:\n" ++ columns (level.switches.map fun s => (s.spelling, s.description))

/-- The help on a topic. -/
def HelpTopic.text (topic : HelpTopic) : String :=
  topic.description ++ "\n\n" ++ topic.usage ++ "\n" ++
  match topic with
  | .level .top => commandTable ++ "\n" ++ Level.top.optionTable
  | .level place => place.optionTable
  | .help => "Arguments:\n" ++ columns [("[COMMAND]...", "Print help for the subcommand(s)")]

/-! ## Replies -/

/-- What is said to misused arguments. -/
def misuseText : String :=
  "error: invalid arguments\n\n" ++ (HelpTopic.level .top).usage
    ++ "\nFor more information, try '--help'.\n"

/-- The answer to a request for the version. -/
def versionText : String := programName ++ " " ++ programVersion ++ "\n"

end ClassAtlas.CommandLine
