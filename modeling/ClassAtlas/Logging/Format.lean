/-! # Log formats

    How log records are laid out.  A format is named by its word, in letters of
    either case.
-/

namespace ClassAtlas

inductive LogFormat where
  /-- One line for each record. -/
  | compact
  /-- Several lines for each record, and a record for every span entered or left. -/
  | pretty
  /-- A JSON object for each record, and for every span entered or left. -/
  | json
  deriving DecidableEq, Repr

namespace LogFormat

def all : List LogFormat := [.compact, .pretty, .json]

def name : LogFormat → String
  | .compact => "compact"
  | .pretty => "pretty"
  | .json => "json"

/-- The format of that name. -/
def ofName? (s : String) : Option LogFormat := all.find? (·.name == s.toLower)

/-- What is said of a name that no format has. -/
def unknownMessage (s : String) : String := "Unknown log format: " ++ s

/-- What is said when logging cannot start for such a name. -/
def invalidMessage (s : String) : String := "Invalid log format: " ++ unknownMessage s

/-- Whether spans make records of their own. -/
def showsSpans : LogFormat → Bool
  | .compact => false
  | .pretty | .json => true

end LogFormat

end ClassAtlas
