import ClassAtlas.Json.Printer
import ClassAtlas.Logging.Format
import ClassAtlas.Logging.Record

/-! # Log lines

    How a record is written in each of the log formats.
-/

namespace ClassAtlas

namespace LogRecord

/-- The level in capitals. -/
def levelText (r : LogRecord) : String := r.level.name.toUpper

/-- The names of the spans around the record, from the outermost in. -/
def spanNames (r : LogRecord) : List String := r.spans.map (·.name)

/-- What is reported; entering a span is reported by its name. -/
def text (r : LogRecord) : String :=
  match r.entered? with
  | some span => "enter " ++ span.name
  | none => r.message

def compactText (r : LogRecord) : String :=
  r.levelText ++ " " ++ String.join (r.spanNames.map (· ++ ": ")) ++ r.text ++ "\n"

def prettyText (r : LogRecord) : String :=
  "  " ++ r.levelText ++ " " ++ r.topic.target ++ ": " ++ r.text ++ "\n"
    ++ String.join (r.spanNames.map fun name => "    in " ++ name ++ "\n") ++ "\n"

def json (r : LogRecord) : Json :=
  .object [("level", .string r.levelText), ("message", .string r.text),
    ("spans", .array (r.spanNames.map .string)), ("target", .string r.topic.target)]

end LogRecord

/-- A record as it is written in a format. -/
def LogFormat.layOut : LogFormat → LogRecord → String
  | .compact, r => r.compactText
  | .pretty, r => r.prettyText
  | .json, r => r.json.text ++ "\n"

end ClassAtlas
