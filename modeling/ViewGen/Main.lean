import ViewGen.CommandLine.Execute
import ViewGen.Embedded

/-!
# The program

Copies the part of the disk that a command line can touch, executes the command line on the copy, and
then makes the changes and prints the texts that came out.
-/

namespace ViewGen.Program

open CommandLine

def systemName (location : Location) : String :=
  (Path.ofLocation location).render

def moment (time : IO.FS.SystemTime) : Moment :=
  time.sec * 1000 + time.nsec.toNat / 1000000

/-- What stands at a location. -/
def node? (location : Location) : IO (Option Node) := do
  let path := (← IO.currentDir) / systemName location
  if ← path.pathExists then
    let changed := moment (← path.metadata).modified
    if ← path.isDir then pure (some (.directory changed))
    else pure (some (.file (← IO.FS.readBinFile path) changed))
  else pure none

/-- The names in a directory. Links are not followed. -/
def names (location : Location) : IO (List String) := do
  let path := (← IO.currentDir) / systemName location
  if (← path.isDir) && toString (← IO.FS.realPath path) == systemName location then
    pure ((← path.readDir).toList.map (·.fileName))
  else pure []

/-- Directories that hold no part of a project. -/
def isForeign (name : String) : Bool :=
  name == "node_modules" || name == ".git"

/-- Copies what stands at a location, with everything below it down to some depth. -/
def copyTree : Nat → Location → Disk → IO Disk
  | 0, _, disk => pure disk
  | depth + 1, location, disk => do
    match ← node? location with
    | none => pure disk
    | some node =>
      ((← names location).filter (!isForeign ·)).foldlM
        (fun disk name => copyTree depth (location ++ [name]) disk) (disk.put location node)

/-- Copies what stands at a location and above it, but nothing below. -/
def copyPlace (disk : Disk) (location : Location) : IO Disk :=
  (List.range location.length).foldlM (fun disk n => copyTree 1 (location.take (n + 1)) disk) disk

def depthLimit : Nat := 64

/-- Copies what a path names, with all that stands above and below it. -/
def copyPath (current : Location) (disk : Disk) (path : Path) : IO Disk := do
  let location := path.resolve current
  copyTree depthLimit location (← copyPlace disk location)

/-- Copies what marks a project in the current directory or above it. -/
def copyProjects (current : Location) (disk : Disk) : IO Disk :=
  (Discovery.upwards current).foldlM (fun disk directory => do
    let disk ← copyPlace disk (directory ++ ["prisma", "schema.prisma"])
    let disk ← copyPlace disk (directory ++ ["package.json"])
    if (disk.node? (directory ++ ["package.json"])).isSome then
      copyTree depthLimit (directory ++ ["app"]) disk
    else pure disk) disk

/-- The paths that an invocation and its settings name. -/
def namedPaths (invocation : Invocation) (settings : Settings) : List Path :=
  [invocation.config, invocation.schema, invocation.output, invocation.templates].filterMap
      (·.map Path.parse) ++
    [settings.schema, settings.output, settings.templates].filterMap id

/-- The machine as its own process sees it. -/
def thisMachine : IO Machine := do
  let hostName ← IO.FS.readFile "/etc/hostname"
  let own ← IO.FS.readFile "/proc/self/stat"
  let processes ← names ["proc"]
  let processId := ((Text.words own).head?.bind (·.toInt?)).getD 0
  pure
    { hostName := Text.strip hostName
      processId
      alive := processId :: 0 :: -1 :: processes.filterMap (·.toInt?)
      depths := .usual }

/-- The world at the start, with what an invocation can touch. -/
def worldFor (invocation : Invocation) : IO World := do
  let current := (Path.parse (toString (← IO.currentDir))).parts
  let now := match ← node? ["proc", "self"] with
    | some node => node.changed
    | none => 0
  let settingsPath := (invocation.config.map Path.parse).getD (Path.parse Settings.fileName)
  let disk ← copyPath current (← copyPlace Disk.empty current) settingsPath
  let world : World :=
    { machine := ← thisMachine, libraries := .embedded, current, disk, now, log := [], printed := [] }
  let settings := match invocation.settings world with
    | .ok settings _ => settings
    | .error _ _ => Settings.default
  let disk ← (namedPaths invocation settings).foldlM (copyPath current) disk
  pure { world with disk := ← copyProjects current disk }

/-- Makes the change that leads from one state of a location to another. -/
def applyChange (location : Location) (before after : Option Node) : IO Unit := do
  let path := (← IO.currentDir) / systemName location
  match before, after with
  | some (.file _ _), none => IO.FS.removeFile path
  | none, some (.directory _) => IO.FS.createDir path
  | some (.file old _), some (.file new _) => if old != new then IO.FS.writeBinFile path new
  | _, some (.file content _) => IO.FS.writeBinFile path content
  | _, _ => pure ()

/-- Makes all changes, those of directories before those below them. -/
def applyChanges (before after : Disk) : IO Unit := do
  let places := (before.nodes ++ after.nodes).map (·.1)
  let inOrder := places.eraseDups.mergeSort fun a b => a.length ≤ b.length
  inOrder.forM fun location => applyChange location (before.node? location) (after.node? location)

def levelName : Level → String
  | .debug => "DEBUG"
  | .info => "INFO"
  | .warning => "WARNING"

/-- Makes the changes and shows the notes and the texts of a job that has ended. -/
def finish (before after : World) : IO Unit := do
  applyChanges before.disk after.disk
  after.log.forM fun record => IO.eprintln (levelName record.level ++ " " ++ record.message)
  after.printed.forM IO.print

end ViewGen.Program

open ViewGen CommandLine Program in
def main (words : List String) : IO UInt32 := do
  match Invocation.ofWords words with
  | .error ending =>
    if ending == .help then IO.print usage else IO.eprint usage
    pure (UInt32.ofNat ending.status)
  | .ok invocation =>
    let world ← worldFor invocation
    match execute words world with
    | .ok status later =>
      finish world later
      pure (UInt32.ofNat status)
    | .error fault later =>
      finish world later
      IO.eprintln fault.message
      pure 1
