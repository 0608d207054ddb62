import ClassAtlas.CommandLine.Run
import ClassAtlas.Disk.Difference

/-! # The program

    Takes a picture of the part of the disk that a run can look at, runs on the
    picture, and then does to the disk what the run did to the picture.  The
    picture holds the listings of all directories on the way to the paths of the
    run, and everything below the source directory that can be a manifest.
-/

namespace ClassAtlas.Program

open CommandLine (Command Environment Invocation Outcome)

/-! ## Taking the picture -/

/-- What the system lists in a directory, with nothing inside.  A link leads to
    where the system says that it ends, or to itself if it ends nowhere. -/
def list (path : Path) : IO Directory := do
  let here ← IO.currentDir
  let mut found := Directory.empty
  for e in ← (here / path.shown).readDir do
    let name := Utf8.encode e.fileName
    match (← e.path.symlinkMetadata).type with
    | .dir => found := .directory name .empty found
    | .file => found := .file name [] found
    | .symlink =>
      let target ← try pure (← IO.FS.realPath e.path).toString catch _ => pure e.fileName
      found := .link name (.ofString target) found
    | .other => pure ()
  return found

/-- The picture with the directories on the way to a place listed, as far as
    they can be. -/
def listWay (top : Directory) (place : Place) : IO Directory := do
  let mut top := top
  for n in List.range (place.length + 1) do
    let dir := place.take n
    if top.at? dir = some (.directory .empty) then
      try
        let inside ← list (Disk.pathOf dir)
        top := if dir.isEmpty then inside else top.putAt dir (.directory inside)
      catch _ => pure ()
  return top

/-- The place that a path leads to, if it leads anywhere. -/
def resolve? (path : Path) : IO (Option Place) := do
  try return some (Path.ofString (← IO.FS.realPath path.shown).toString).steps
  catch _ => return none

/-- The picture with everything listed that is on the way to a path. -/
def survey (disk : Disk) (path : Path) : IO Disk := do
  let mut disk := disk
  for p in ((Path.absolute disk.cwdPath path).ancestors).reverse do
    if let some place ← resolve? p then
      disk := { disk with top := ← listWay disk.top place }
  return disk

/-- A directory with what can be a manifest below it; nothing if the system
    refuses to list it. -/
partial def readTree (path : Path) : IO Directory := do
  let inside ← try list path catch _ => pure .empty
  let read (e : Name × Entry) : IO (Name × Entry) := do
    let p := path.child e.1
    match e.2 with
    | .directory inside =>
      if Manifest.isHiddenName e.1 || Manifest.isBuildName e.1 then return (e.1, .directory inside)
      return (e.1, .directory (← readTree p))
    | .file contents =>
      if Manifest.isManifestName e.1 then
        let contents ← try IO.FS.readBinFile p.shown catch _ => pure .empty
        return (e.1, .file contents.toList)
      return (e.1, .file contents)
    | .link target => return (e.1, .link target)
  return .ofEntries (← inside.entries.mapM read)

/-- The paths that a command is given. -/
def givenPaths : Command → List Path
  | .generate source? output? _ _ => source?.toList ++ output?.toList
  | .inspect source? _ => source?.toList
  | .root start? => start?.toList

/-- The directory that a command searches for manifests, if it does. -/
def searched? (disk : Disk) (command : Command) : Option Path :=
  match command with
  | .generate source? .. | .inspect source? _ =>
    (Command.sourceOr command.generator disk source?).toOption
  | .root _ => none

/-- The picture for a command. -/
def picture (command : Command) : IO Disk := do
  let here := Path.ofString (← IO.currentDir).toString
  let mut disk : Disk := { top := .empty, cwd := here.steps }
  for path in here :: givenPaths command do
    disk ← survey disk path
  if let some source := searched? disk command then
    if let some place ← resolve? source then
      if disk.isDirectory source then
        let inside ← readTree (Disk.pathOf place)
        let top := if place.isEmpty then inside else disk.top.putAt place (.directory inside)
        disk := { disk with top }
  return disk

/-! ## Running -/

/-- Does a step to the disk. -/
def doStep : TreeStep → IO Unit
  | .makeDirectory place => IO.FS.createDir (Disk.pathOf place).shown
  | .writeFile place contents =>
    IO.FS.writeBinFile (Disk.pathOf place).shown (ByteArray.mk contents.toArray)

/-- Runs on a picture and brings its changes to the disk. -/
def runOn (disk : Disk) (outcome : Outcome) : IO UInt32 := do
  IO.eprint outcome.stderr
  for step in disk.top.stepsTo outcome.disk.top do
    try doStep step
    catch e =>
      IO.eprintln ("Error: " ++ toString e)
      return 1
  IO.print outcome.stdout
  return UInt32.ofNat outcome.exitCode

/-- The variables of the environment that a run looks at. -/
def environment : IO Environment := do
  let values ← Environment.names.mapM fun name => return (name, ← IO.getEnv name)
  return .ofLookup fun name => (values.lookup name).join

end ClassAtlas.Program

open ClassAtlas in
def main (args : List String) : IO UInt32 := do
  let args := args.map Utf8.encode
  let env ← Program.environment
  match CommandLine.Invocation.ofArguments args with
  | .ok invocation =>
    let disk ← Program.picture invocation.command
    Program.runOn disk (invocation.run env disk)
  | .error reply =>
    let disk : Disk := { top := .empty }
    Program.runOn disk (.ofReply disk reply)
