import ViewGen.Json.Reader
import ViewGen.Libraries
import ViewGen.Text.Separators
import ViewGen.Text.Utf8

/-!
# Jobs

A job works on a disk at a moment, notes what it does in a log, prints, and ends with a result or a
fault. What a failing job has done up to its fault stays done.
-/

namespace ViewGen

inductive Level where
  | debug
  | info
  | warning
deriving DecidableEq, Repr

structure LogRecord where
  level : Level
  message : String
deriving DecidableEq, Repr

/-- What the stack has room for in each place that reads nested data. -/
structure Depths where
  manifest : Json.DepthLimit
  owner : Json.DepthLimit
  package : Json.DepthLimit
  /-- The bound on the costs of arrays and tables in a settings file. -/
  settings : Nat
deriving DecidableEq, Repr

/-- The depths that a stack of the usual size has room for. -/
def Depths.usual : Depths :=
  { manifest := ⟨990, by decide⟩, owner := ⟨990, by decide⟩, package := ⟨990, by decide⟩
    settings := 980 }

/-- The machine that jobs run on: its name, the process that runs them, and the process numbers that
a signal would reach. -/
structure Machine where
  hostName : String
  processId : Int
  alive : List Int
  depths : Depths
deriving DecidableEq, Repr

structure World where
  machine : Machine
  libraries : Libraries
  current : Location
  disk : Disk
  now : Moment
  log : List LogRecord
  /-- The texts printed, in order. -/
  printed : List String

abbrev Job (ε α : Type) := EStateM ε World α

namespace Job

variable {ε α : Type}

def note (level : Level) (message : String) : Job ε Unit :=
  modify fun world => { world with log := world.log ++ [⟨level, message⟩] }

def print (text : String) : Job ε Unit :=
  modify fun world => { world with printed := world.printed ++ [text] }

/-- A job of whose notes only some are kept. -/
def notingOnly (keeps : Level → Bool) (job : Job ε α) : Job ε α := fun world =>
  let kept (later : World) : World :=
    { later with log := world.log ++ later.log.filter fun record => keeps record.level }
  match job { world with log := [] } with
  | .ok a later => .ok a (kept later)
  | .error fault later => .error fault (kept later)

/-- The result of a job as a value, be it a fault. -/
def outcome {δ : Type} (job : Job ε α) : Job δ (Except ε α) := fun world =>
  match job world with
  | .ok a world => .ok (.ok a) world
  | .error fault world => .ok (.error fault) world

/-- A job whose faults are seen as those of a larger one. -/
def withFault {δ : Type} (f : ε → δ) (job : Job ε α) : Job δ α := fun world =>
  match job world with
  | .ok a world => .ok a world
  | .error fault world => .error (f fault) world

def ofExcept (result : Except ε α) : Job ε α := fun world =>
  match result with
  | .ok a => .ok a world
  | .error fault => .error fault world

/-- Asks something of the disk, seen from the current directory. -/
def ask (f : Disk → Location → Except DiskFault α) : Job DiskFault α := fun world =>
  match f world.disk world.current with
  | .ok a => .ok a world
  | .error fault => .error fault world

/-- Changes the disk in one step, at the present moment. -/
def change (f : Disk → Location → Moment → Except DiskFault Disk) : Job DiskFault Unit :=
  fun world =>
    match f world.disk world.current world.now with
    | .ok disk => .ok () { world with disk }
    | .error fault => .error fault world

def ensureDirectories (path : Path) : Job DiskFault Unit := fun world =>
  match world.disk.ensureDirectories world.current world.now path with
  | (disk, .ok ()) => .ok () { world with disk }
  | (disk, .error fault) => .error fault { world with disk }

/-- Lets time pass. -/
def wait (milliseconds : Nat) : Job ε Unit :=
  modify fun world => { world with now := world.now + milliseconds }

end Job

/-- Why a file's text cannot be read. -/
inductive ReadFault where
  | disk (fault : DiskFault)
  | encoding (fault : Utf8.Fault)
deriving DecidableEq, Repr

def ReadFault.message : ReadFault → String
  | .disk fault => fault.message
  | .encoding fault => fault.message

/-- Reads a file as text, with its line breaks unified. -/
def Disk.readText (disk : Disk) (current : Location) (path : Path) : Except ReadFault String :=
  match disk.fileContent current path with
  | .error fault => .error (.disk fault)
  | .ok content =>
    match Utf8.decode content with
    | .error fault => .error (.encoding fault)
    | .ok text => .ok (Text.withLineFeeds text)

def Job.readText (path : Path) : Job ReadFault String := fun world =>
  match world.disk.readText world.current path with
  | .ok text => .ok text world
  | .error fault => .error fault world

end ViewGen
