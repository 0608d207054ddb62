import ClassAtlas.CommandLine.Argument

/-! # Invocations

    What the arguments ask for as a whole: a command with its options, how much
    to say, and how to log.  Arguments that ask for no command get a reply: the
    help that they ask for, the version, or that they are misused.

    Of a global switch that stands on both sides of the command the later one
    counts.
-/

namespace ClassAtlas.CommandLine

/-! ## Commands -/

/-- What the program can do. -/
inductive Command where
  /-- Write the diagram, or print it. -/
  | generate (source? : Option Path) (output? : Option Path) (builtIns : List String)
      (toStdout : Bool)
  /-- Print what a diagram would contain, as a table or as JSON. -/
  | inspect (source? : Option Path) (asJson : Bool)
  /-- Print the root of the project around a directory. -/
  | root (start? : Option Path)
  deriving DecidableEq, Repr

structure Invocation where
  command : Command
  verbose : Bool := false
  logLevel : LogLevel := .warn
  logFormat : LogFormat := .compact
  deriving DecidableEq, Repr

/-- What help can be about. -/
inductive HelpTopic where
  | level (level : Level)
  | help
  deriving DecidableEq, Repr

/-- What is said to arguments that ask for no command. -/
inductive Reply where
  | help (topic : HelpTopic)
  | version
  | misuse
  deriving DecidableEq, Repr

/-! ## Choices -/

/-- Goes through readings in order and gathers the choices after those made
    before.  A second choice by a switch that does not repeat is a misuse. -/
def Level.settle (level : Level) (made : List Choice) : List Reading → Except Reply (List Choice)
  | [] => .ok made
  | .choice c :: rs =>
    if ! c.switch.repeats && made.any (·.switch == c.switch) then .error .misuse
    else level.settle (made ++ [c]) rs
  | .help :: _ => .error (.help (.level level))
  | .version :: _ => .error .version
  | .misread :: _ => .error .misuse

/-- The last value that `value?` finds among choices. -/
def lastChoice? {α : Type} (value? : Choice → Option α) (choices : List Choice) : Option α :=
  choices.reverse.findSome? value?

namespace Choice

def source? : Choice → Option Path
  | .source directory => some directory
  | _ => none

def output? : Choice → Option Path
  | .output directory => some directory
  | _ => none

def start? : Choice → Option Path
  | .start directory => some directory
  | _ => none

def builtIn? : Choice → Option String
  | .builtIn name => some name
  | _ => none

def logLevel? : Choice → Option LogLevel
  | .logLevel level => some level
  | _ => none

def logFormat? : Choice → Option LogFormat
  | .logFormat format => some format
  | _ => none

end Choice

/-- The command of that name with its choices. -/
def CommandName.command (name : CommandName) (choices : List Choice) : Command :=
  match name with
  | .generate =>
    .generate (lastChoice? Choice.source? choices) (lastChoice? Choice.output? choices)
      (choices.filterMap Choice.builtIn?) (choices.contains .stdout)
  | .inspect => .inspect (lastChoice? Choice.source? choices) (choices.contains .json)
  | .root => .root (lastChoice? Choice.start? choices)

/-- Whether a document would go to two places. -/
def Command.isTorn : Command → Bool
  | .generate _ output? _ toStdout => toStdout && output?.isSome
  | _ => false

namespace Invocation

/-- The invocation of a command with the choices of both sides. -/
def ofChoices (name : CommandName) (before after : List Choice) : Invocation where
  command := name.command after
  verbose := (before ++ after).contains .verbose
  logLevel := (lastChoice? Choice.logLevel? (before ++ after)).getD .warn
  logFormat := (lastChoice? Choice.logFormat? (before ++ after)).getD .compact

/-! ## Reading arguments -/

/-- The word that asks for help. -/
def helpWord : Bytes := Utf8.encode "help"

/-- The help that the arguments after `help` ask for. -/
def helpOn : List Bytes → Reply
  | [] => .help (.level .top)
  | [arg] =>
    match CommandName.ofBytes? arg with
    | some name => .help (.level (.after name))
    | none => if arg = helpWord then .help .help else .misuse
  | _ => .misuse

/-- The invocation of a command by the arguments after it. -/
def ofRest (name : CommandName) (before : List Choice) (args : List Bytes) :
    Except Reply Invocation := do
  let (readings, rest) := (Level.after name).read args
  let after ← (Level.after name).settle [] readings
  let invocation := ofChoices name before after
  if invocation.command.isTorn then throw .misuse
  match rest with
  | [] => return invocation
  | [last] => if Argument.ofBytes last = .ending then return invocation else throw .misuse
  | _ => throw .misuse

/-- The invocation that the arguments ask for. -/
def ofArguments (args : List Bytes) : Except Reply Invocation := do
  let (readings, rest) := Level.top.read args
  let before ← Level.top.settle [] readings
  match rest with
  | [] => throw .misuse
  | word :: rest =>
    match CommandName.ofBytes? word with
    | some name => ofRest name before rest
    | none => throw (if word = helpWord then helpOn rest else .misuse)

end Invocation

end ClassAtlas.CommandLine
