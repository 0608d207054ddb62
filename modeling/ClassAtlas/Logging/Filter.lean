import ClassAtlas.Logging.Directive

/-! # Log filters

    A filter is a list of directives, separated by commas.  Of the directives
    that fit a record the one that selects most narrowly decides, the last of
    several that select the same; besides, directives for a span admit what
    happens inside it.  Nothing is logged beyond the widest level that is asked
    for anywhere.
-/

namespace ClassAtlas

/-- The directives of a filter. -/
structure LogFilter where
  directives : List Directive
  deriving DecidableEq, Repr

namespace LogFilter

/-- The filter that asks for one level everywhere. -/
def ofLevel (level : LogLevel) : LogFilter := ⟨[{ level }]⟩

/-- The filter that a text writes; one without directives asks for errors. -/
def read (text : String) : Except DirectiveFault LogFilter := do
  let parts := (text.toList.splitOn ',').filter (! ·.isEmpty)
  let directives ← parts.mapM Directive.read
  return if directives.isEmpty then ofLevel .error else ⟨directives⟩

/-- The filter that a text writes, or that of level `info` for a malformed text.
    There is none if a part of the text would cut a character. -/
def ofText? (text : String) : Option LogFilter :=
  match read text with
  | .ok filter => some filter
  | .error .malformed => some (ofLevel .info)
  | .error .cutCharacter => none

/-- The widest level that is asked for anywhere: everything, if it hangs on what
    a span's fields say. -/
def widest (f : LogFilter) : LogLevel :=
  if f.directives.any (·.test?.isSome) then .trace
  else f.directives.foldl (fun l d => l.widest d.level) .off

/-- The directive that decides about a record. -/
def deciding? (f : LogFilter) (r : LogRecord) : Option Directive :=
  (f.directives.filter (·.fitsRecord r)).foldl
    (fun best d =>
      match best with
      | some b => if d.outweighs b then some d else best
      | none => some d) none

/-- Whether the deciding directive admits a record. -/
def admitsRecord (f : LogFilter) (r : LogRecord) : Bool :=
  match f.deciding? r with
  | some d => d.level.admits r.level
  | none => false

/-- Directives without those that a later one replaces. -/
def latest : List Directive → List Directive
  | [] => []
  | d :: ds => if ds.any (·.selectsSameAs d) then latest ds else d :: latest ds

/-- The directives for a span that is seen at all. -/
def forSpan (f : LogFilter) (s : Span) : List Directive :=
  if f.widest.admits s.level then (latest f.directives).filter (·.fitsSpan s) else []

/-- The level of what is logged inside a span, by the directives for it. -/
def levelInside (f : LogFilter) (s : Span) : LogLevel :=
  ((f.forSpan s).filter (·.passedBy s)).foldl (fun l d => l.widest d.level) .off

/-- Whether a record is admitted by the deciding directive or inside a span. -/
def admits (f : LogFilter) (r : LogRecord) : Bool :=
  f.widest.admits r.level &&
    (f.admitsRecord r || r.spans.any fun s => (f.levelInside s).admits r.level)

/-- Whether a record is logged.  A span that a directive is for can always be
    entered; entering is logged only in formats that show spans. -/
def logs (f : LogFilter) (showsSpans : Bool) (r : LogRecord) : Bool :=
  match r.entered? with
  | some s => showsSpans && (f.admits r || ! (f.forSpan s).isEmpty)
  | none => f.admits r

end LogFilter

end ClassAtlas
