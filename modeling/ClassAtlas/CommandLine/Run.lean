import ClassAtlas.CommandLine.Environment
import ClassAtlas.CommandLine.Usage
import ClassAtlas.Inspection
import ClassAtlas.Logging.Journal

/-! # Runs

    What the program does when it is called.  A command changes the disk and
    comes to an output or an error; beside that stands its story, all that there
    is to say about it.  How much of the story is told, and how, has no part in
    what the command does.
-/

namespace ClassAtlas.CommandLine

/-! ## What a command does -/

namespace Command

/-- The generator of a command. -/
def generator : Command → Generator
  | .generate _ _ builtIns _ => { settings := { builtIns } }
  | _ => {}

/-- The directory that is searched for manifests: the one that is given, or the
    root of the project around the current directory. -/
def sourceOr (g : Generator) (disk : Disk) : Option Path → Except GenerationError Path
  | some source => .ok source
  | none => disk.resolveRoot g.rootRule disk.cwdPath

/-- The report that a command prints something of, with its source. -/
def reportOn (g : Generator) (disk : Disk) (source? : Option Path) :
    Except GenerationError (Path × Report) := do
  let source ← sourceOr g disk source?
  return (source, ← g.inspect disk source)

/-- An inspection as it is printed. -/
def printed (asJson : Bool) (i : Inspection) : String :=
  if asJson then i.json.text ++ "\n" else i.table

/-- The disk after a command, and what the command prints. -/
def perform (disk : Disk) (command : Command) : Disk × Except GenerationError String :=
  let g := command.generator
  match command with
  | .generate source? _ _ true => (disk, (reportOn g disk source?).map (·.2.document))
  | .generate source? output? _ false =>
    let (disk, result) := g.generateAt disk (g.locations disk disk.cwdPath source? output?)
    (disk, result.map (·.path.shown ++ "\n"))
  | .inspect source? asJson =>
    (disk, (reportOn g disk source?).map fun r => printed asJson (.ofReport r.1 r.2))
  | .root start? =>
    (disk, (disk.resolveRoot g.rootRule (start?.getD disk.cwdPath)).map (·.shown ++ "\n"))

end Command

/-! ## What there is to say -/

/-- Something said on the way. -/
inductive Notice where
  /-- What is always said. -/
  | warning (text : String)
  /-- What is said only if the run is verbose. -/
  | remark (text : String)
  /-- What is said only if it is logged. -/
  | record (r : LogRecord)
  deriving DecidableEq, Repr

namespace Command

/-- Several records. -/
def records (rs : List LogRecord) : List Notice := rs.map .record

/-- One record of the command line itself. -/
def event (message : String) (fields : List String) : Notice :=
  .record (LogRecord.event .debug .commandLine message fields)

/-- What is said while the source directory is found, and with it afterwards. -/
def aroundSource (g : Generator) (disk : Disk) (source? : Option Path)
    (andThen : Path → List Notice) : List Notice :=
  (if source?.isNone then records (Journal.ofRoot disk g.rootRule disk.cwdPath) else []) ++
  match sourceOr g disk source? with
  | .ok source => andThen source
  | .error _ => []

/-- All that there is to say about a command. -/
def story (disk : Disk) (command : Command) : List Notice :=
  let g := command.generator
  match command with
  | .generate source? _ _ true =>
    aroundSource g disk source? fun source =>
      event "Generating to stdout" ["source"] :: records (Journal.ofInspect g disk source)
  | .generate source? output? _ false =>
    (if source?.isNone || output?.isNone then
      records (Journal.ofRoot disk g.rootRule disk.cwdPath)
    else []) ++
    match g.locations disk disk.cwdPath source? output? with
    | .ok l =>
      [.remark ("Source: " ++ l.source.shown), .remark ("Output: " ++ l.output.shown)] ++
      records (Journal.ofGenerate g disk l.source l.output)
    | .error _ => []
  | .inspect source? _ =>
    aroundSource g disk source? fun source =>
      .remark ("Inspecting manifests under " ++ source.shown) ::
      records (Journal.ofInspect g disk source)
  | .root start? =>
    let start := start?.getD disk.cwdPath
    records (Journal.ofRoot disk g.rootRule start) ++
    match disk.resolveRoot g.rootRule start with
    | .ok _ => [event "Resolved project root" ["root"]]
    | .error _ => []

end Command

/-- The text of a notice, if it is given in a run that is verbose or not and
    has a logger or not. -/
def Notice.text? (verbose : Bool) (logger? : Option Logger) : Notice → Option String
  | .warning text => some (text ++ "\n")
  | .remark text => if verbose then some (text ++ "\n") else none
  | .record r => logger?.bind (·.write? r)

/-! ## Outcomes -/

/-- What a run leaves. -/
structure Outcome where
  exitCode : Nat := 0
  stdout : String := ""
  /-- The texts that are said beside the output, in order. -/
  said : List String := []
  disk : Disk
  deriving DecidableEq, Repr

namespace Outcome

/-- What is said beside the output. -/
def stderr (o : Outcome) : String := String.join o.said

/-- The outcome for arguments that ask for no command. -/
def ofReply (disk : Disk) : Reply → Outcome
  | .help topic => { stdout := topic.text, disk }
  | .version => { stdout := versionText, disk }
  | .misuse => { exitCode := 2, said := [misuseText], disk }

end Outcome

namespace Invocation

/-- All that there is to say about a run, from how its logging started. -/
def story (disk : Disk) (invocation : Invocation) (start : LoggerStart) : List Notice :=
  start.warning?.toList.map .warning ++
  .remark (programName ++ " v" ++ programVersion) :: invocation.command.story disk ++
  match (invocation.command.perform disk).2 with
  | .ok _ => []
  | .error e => [.warning ("Error: " ++ e.report)]

/-- Runs an invocation.  Nothing is done if the log filter cannot be taken
    apart. -/
def run (env : Environment) (disk : Disk) (invocation : Invocation) : Outcome :=
  let start := Logger.ofInvocation env invocation
  if start = .unreadableFilter then
    { exitCode := 101, said := ["The log filter is cut inside a character.\n"], disk }
  else
    let said := (invocation.story disk start).filterMap (·.text? invocation.verbose start.logger?)
    match invocation.command.perform disk with
    | (disk, .ok stdout) => { stdout, said, disk }
    | (disk, .error _) => { exitCode := 1, said, disk }

end Invocation

/-- Runs the program with arguments. -/
def run (env : Environment) (disk : Disk) (args : List Bytes) : Outcome :=
  match Invocation.ofArguments args with
  | .ok invocation => invocation.run env disk
  | .error reply => .ofReply disk reply

end ClassAtlas.CommandLine
