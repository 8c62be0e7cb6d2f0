import ViewGen.Manifest.Codec
import ViewGen.World

/-!
# Keeping the manifest

Loading fails open: without a usable manifest a run starts afresh. Saving replaces the old manifest
in one step.
-/

namespace ViewGen.Manifest

/-- What the content of a manifest file stands for. -/
inductive Loaded where
  | usable (manifest : Manifest)
  | absent
  | unusable
  /-- The content nests too deeply to be read at all. -/
  | tooDeep
deriving DecidableEq

def ofText (limit : Json.DepthLimit) (text : String) : Loaded :=
  match Json.parse limit text with
  | .error .tooDeep => .tooDeep
  | .error .malformed => .unusable
  | .ok data =>
    match check data with
    | .ok manifest => .usable manifest
    | .error _ => .unusable

/-- Looks for the manifest on the disk. -/
def read (limit : Json.DepthLimit) (disk : Disk) (current : Location) (path : Path) : Loaded :=
  match disk.pathExists current path with
  | .error _ => .unusable
  | .ok false => .absent
  | .ok true =>
    match disk.readText current path with
    | .error _ => .unusable
    | .ok text => ofText limit text

/-- The manifest of an output root, or the initial one if there is none that can be used. -/
def load (directory : Path) (file : String) : Job Json.Fault Manifest := do
  let path := path directory file
  let world ← get
  match read world.machine.depths.manifest world.disk world.current path with
  | .usable manifest => pure manifest
  | .absent =>
    Job.note .debug ("No manifest at " ++ path.render ++ ", starting fresh")
    pure initial
  | .unusable =>
    Job.note .warning ("Ignoring unusable manifest " ++ path.render)
    pure initial
  | .tooDeep => throw .tooDeep

/-- What stands after the name of a file in a temporary one. -/
def temporaryEnding (random : RandomName) : String :=
  "." ++ random.text ++ ".tmp"

/-- Creates a temporary file beside the manifest, with the content given, under the first name that is
free. -/
def createTemporary (directory : Path) (file content : String) :
    List RandomName → Job DiskFault Path
  | [] => throw (.system .exists)
  | random :: rest => do
    let path := directory.joinName (file ++ temporaryEnding random)
    let created ← (Job.change fun disk current now =>
      disk.createFile current now path content.toUTF8).outcome
    match created with
    | .ok () => pure path
    | .error (.system .exists) => createTemporary directory file content rest
    | .error fault => throw fault

/-- Writes the manifest to a temporary file and moves it into place. -/
def write (path : Path) (file : String) (manifest : Manifest) : Job DiskFault Unit := do
  Job.ensureDirectories path.parent
  let world ← get
  let temporary ← createTemporary path.parent file manifest.render world.libraries.randomNames
  let moved ← (Job.change fun disk current _ => disk.replaceFile current temporary path).outcome
  match moved with
  | .ok () => pure ()
  | .error fault =>
    Job.change fun disk current _ => disk.removeIfPresent current temporary
    throw fault

inductive SaveFault where
  | cannotWrite (path : Path) (cause : Errno)
  | embeddedNul
deriving DecidableEq, Repr

def SaveFault.message : SaveFault → String
  | .cannotWrite path cause => "Cannot write manifest " ++ path.render ++ ": " ++ cause.message
  | .embeddedNul => DiskFault.embeddedNul.message

/-- Saves the manifest of an output root. -/
def save (directory : Path) (manifest : Manifest) (file : String) : Job SaveFault Path := do
  let path := path directory file
  (write path file manifest).withFault fun
    | .system cause => .cannotWrite path cause
    | .embeddedNul => .embeddedNul
  Job.note .debug ("Saved manifest with " ++ toString manifest.entries.length ++ " views to " ++
    path.render)
  pure path

end ViewGen.Manifest
