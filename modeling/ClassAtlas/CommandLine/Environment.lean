import ClassAtlas.CommandLine.Invocation
import ClassAtlas.Logging.Filter
import ClassAtlas.Logging.Layout

/-! # The environment

    Variables of the environment go before the switches: two of the program's
    own, for the log filter and the log format, and for the filter also the
    variable that many programs share.
-/

namespace ClassAtlas.CommandLine

/-- The variables that a run looks at, each if it is set to a text. -/
structure Environment where
  logLevel? : Option String := none
  logFormat? : Option String := none
  sharedLogLevel? : Option String := none
  deriving DecidableEq, Repr

namespace Environment

def logLevelName : String := "PUMLGEN_LOG_LEVEL"

def logFormatName : String := "PUMLGEN_LOG_FORMAT"

def sharedLogLevelName : String := "RUST_LOG"

/-- The names of the variables. -/
def names : List String := [logLevelName, logFormatName, sharedLogLevelName]

/-- The environment in which `value?` gives the values of variables. -/
def ofLookup (value? : String → Option String) : Environment where
  logLevel? := value? logLevelName
  logFormat? := value? logFormatName
  sharedLogLevel? := value? sharedLogLevelName

end Environment

/-- What is logged, and how it is laid out. -/
structure Logger where
  filter : LogFilter
  format : LogFormat
  deriving DecidableEq, Repr

/-- What comes of starting to log. -/
inductive LoggerStart where
  | started (logger : Logger)
  /-- No format has the name: the run goes on without a logger. -/
  | unknownFormat (name : String)
  /-- The filter's text cannot be taken apart: there is no run. -/
  | unreadableFilter
  deriving DecidableEq, Repr

namespace Logger

/-- The logger of an invocation, if it can be started. -/
def ofInvocation (env : Environment) (invocation : Invocation) : LoggerStart :=
  let formatName := env.logFormat?.getD invocation.logFormat.name
  let filterText := (env.logLevel?.or env.sharedLogLevel?).getD invocation.logLevel.name
  match LogFormat.ofName? formatName, LogFilter.ofText? filterText with
  | none, _ => .unknownFormat formatName
  | some _, none => .unreadableFilter
  | some format, some filter => .started { filter, format }

/-- Whether a record is logged. -/
def logs (l : Logger) (r : LogRecord) : Bool := l.filter.logs l.format.showsSpans r

/-- What is written of a record, if it is logged. -/
def write? (l : Logger) (r : LogRecord) : Option String :=
  if l.logs r then some (l.format.layOut r) else none

end Logger

namespace LoggerStart

def logger? : LoggerStart → Option Logger
  | .started logger => some logger
  | _ => none

/-- What is said of it, if something is. -/
def warning? : LoggerStart → Option String
  | .unknownFormat name =>
    some ("Warning: Failed to initialize logging: " ++ LogFormat.invalidMessage name)
  | _ => none

end LoggerStart

end ClassAtlas.CommandLine
