import ClassAtlas.Logging.Format
import ClassAtlas.Logging.Record
import ClassAtlas.Path.Basic

/-! # Switches

    What the command line can ask for besides the command: by a long name after
    two dashes, often also by a letter after one.  A switch either stands alone
    or has a value, and every value is read by the rule of its switch.

    The switches for verbosity and logging are global, they may stand before the
    command, after it, or both.
-/

namespace ClassAtlas.CommandLine

inductive Switch where
  | verbose
  | logLevel
  | logFormat
  | source
  | output
  | builtIn
  | stdout
  | json
  | start
  | help
  | version
  deriving DecidableEq, Repr

/-- What a switch settles. -/
inductive Choice where
  | verbose
  | logLevel (level : LogLevel)
  | logFormat (format : LogFormat)
  | source (directory : Path)
  | output (directory : Path)
  | builtIn (name : String)
  | stdout
  | json
  | start (directory : Path)
  deriving DecidableEq, Repr

/-- What comes of reading a switch. -/
inductive Reading where
  | choice (c : Choice)
  | help
  | version
  /-- Something that is no switch, or a switch with a wrong value. -/
  | misread
  deriving DecidableEq, Repr

/-! ## Names -/

namespace Switch

/-- The name after two dashes. -/
def long : Switch → String
  | .verbose => "verbose"
  | .logLevel => "log-level"
  | .logFormat => "log-format"
  | .source => "source"
  | .output => "output"
  | .builtIn => "builtin-type"
  | .stdout => "stdout"
  | .json => "json"
  | .start => "start"
  | .help => "help"
  | .version => "version"

/-- The letter after one dash. -/
def letter? : Switch → Option Char
  | .verbose => some 'v'
  | .source => some 's'
  | .output => some 'o'
  | .help => some 'h'
  | .version => some 'V'
  | _ => none

/-- Whether the switch may be given again at the same place. -/
def repeats : Switch → Bool
  | .builtIn => true
  | _ => false

/-! ## Values -/

/-- The level of that name; unlike those of log filters, names are in lowercase. -/
def readLevel? (value : Bytes) : Option LogLevel :=
  LogLevel.all.find? (Utf8.encode ·.name == value)

/-- The format of that name, in lowercase. -/
def readFormat? (value : Bytes) : Option LogFormat :=
  LogFormat.all.find? (Utf8.encode ·.name == value)

/-- The path that a value writes, which may not be empty. -/
def readPath? (value : Bytes) : Option Path := if value.isEmpty then none else some ⟨value⟩

/-- What the switch settles with a value; `none` if the value is wrong or the
    switch has none. -/
def choice? (s : Switch) (value : Bytes) : Option Choice :=
  match s with
  | .logLevel => (readLevel? value).map .logLevel
  | .logFormat => (readFormat? value).map .logFormat
  | .source => (readPath? value).map .source
  | .output => (readPath? value).map .output
  | .start => (readPath? value).map .start
  | .builtIn => (Utf8.decode? value).map .builtIn
  | .verbose | .stdout | .json | .help | .version => none

/-- What comes of reading the switch with a value. -/
def readWith (s : Switch) (value : Bytes) : Reading :=
  match s.choice? value with
  | some c => .choice c
  | none => .misread

/-- What comes of reading a switch that has no value; `none` if it needs one. -/
def readAlone? : Switch → Option Reading
  | .verbose => some (.choice .verbose)
  | .stdout => some (.choice .stdout)
  | .json => some (.choice .json)
  | .help => some .help
  | .version => some .version
  | _ => none

end Switch

/-- The switch that settles it. -/
def Choice.switch : Choice → Switch
  | .verbose => .verbose
  | .logLevel _ => .logLevel
  | .logFormat _ => .logFormat
  | .source _ => .source
  | .output _ => .output
  | .builtIn _ => .builtIn
  | .stdout => .stdout
  | .json => .json
  | .start _ => .start

/-! ## Where switches stand -/

inductive CommandName where
  | generate
  | inspect
  | root
  deriving DecidableEq, Repr

namespace CommandName

def all : List CommandName := [.generate, .inspect, .root]

def word : CommandName → String
  | .generate => "generate"
  | .inspect => "inspect"
  | .root => "root"

/-- The command that an argument names. -/
def ofBytes? (arg : Bytes) : Option CommandName := all.find? (Utf8.encode ·.word == arg)

end CommandName

/-- A place for switches. -/
inductive Level where
  /-- Before the command. -/
  | top
  /-- After the command. -/
  | after (command : CommandName)
  deriving DecidableEq, Repr

namespace Level

/-- The switches that may stand there, in the order in which help shows them. -/
def switches : Level → List Switch
  | .top => [.verbose, .logLevel, .logFormat, .help, .version]
  | .after .generate =>
    [.source, .verbose, .logLevel, .output, .builtIn, .logFormat, .stdout, .help]
  | .after .inspect => [.source, .verbose, .json, .logLevel, .logFormat, .help]
  | .after .root => [.start, .verbose, .logLevel, .logFormat, .help]

/-- The switch of a long name. -/
def named? (level : Level) (name : Bytes) : Option Switch :=
  level.switches.find? (Utf8.encode ·.long == name)

/-- The switch of a letter. -/
def lettered? (level : Level) (b : UInt8) : Option Switch :=
  level.switches.find? fun s => s.letter?.map Char.toNat == some b.toNat

end Level

end ClassAtlas.CommandLine
