/-! # Log records

    A run reports what it does in records.  Each has a level, the part of the
    program that it comes from and the spans around it; entering a span is a
    record too.
-/

namespace ClassAtlas

/-! ## Levels -/

/-- How much is logged, from nothing to everything. -/
inductive LogLevel where
  | off
  | error
  | warn
  | info
  | debug
  | trace
  deriving DecidableEq, Repr

namespace LogLevel

def all : List LogLevel := [.off, .error, .warn, .info, .debug, .trace]

def name : LogLevel → String
  | .off => "off"
  | .error => "error"
  | .warn => "warn"
  | .info => "info"
  | .debug => "debug"
  | .trace => "trace"

/-- The place of a level in the order of all levels. -/
def rank : LogLevel → Nat
  | .off => 0
  | .error => 1
  | .warn => 2
  | .info => 3
  | .debug => 4
  | .trace => 5

/-- Whether a record of level `l` is logged where `self` is asked for. -/
def admits (self l : LogLevel) : Bool := l.rank ≤ self.rank

/-- The wider of two levels. -/
def widest (a b : LogLevel) : LogLevel := if a.admits b then a else b

end LogLevel

/-! ## Where records come from -/

/-- The parts of the program that report. -/
inductive Topic where
  | commandLine
  | run
  | root
  | manifests
  | pipeline
  | index
  | inference
  | rendering
  | output
  deriving DecidableEq, Repr

/-- The name by which log filters select a part. -/
def Topic.target : Topic → String
  | .commandLine => "pumlgen::cli"
  | .run => "pumlgen::plugins::orchestrator"
  | .root => "pumlgen::plugins::project_root"
  | .manifests => "pumlgen::plugins::manifest"
  | .pipeline => "pumlgen::plugins::pipeline"
  | .index => "pumlgen::plugins::plantuml::index"
  | .inference => "pumlgen::plugins::plantuml::inference"
  | .rendering => "pumlgen::plugins::plantuml::renderer"
  | .output => "pumlgen::plugins::output"

/-- What a span says of itself under the name of a field. -/
inductive FieldValue where
  | count (n : Nat)
  | text (s : String)
  deriving DecidableEq, Repr

/-- A stretch of a run that has a name. -/
structure Span where
  level : LogLevel
  topic : Topic
  name : String
  fields : List (String × FieldValue) := []
  deriving DecidableEq, Repr

/-- The names of a span's fields. -/
def Span.fieldNames (s : Span) : List String := s.fields.map (·.1)

/-- Something that was reported. -/
structure LogRecord where
  level : LogLevel
  topic : Topic
  message : String
  fields : List String := []
  /-- The span that is entered, if that is what is reported. -/
  entered? : Option Span := none
  /-- The spans around the record. -/
  spans : List Span := []
  deriving DecidableEq, Repr

/-- A report inside no span.  Its text is a field like the others. -/
def LogRecord.event (level : LogLevel) (topic : Topic) (message : String)
    (fields : List String) : LogRecord :=
  { level, topic, message, fields := "message" :: fields }

/-- The records of a span that has `inner` inside. -/
def Span.around (span : Span) (inner : List LogRecord) : List LogRecord :=
  { level := span.level, topic := span.topic, message := span.name, fields := span.fieldNames,
    entered? := some span } ::
  inner.map fun r => { r with spans := span :: r.spans }

end ClassAtlas
