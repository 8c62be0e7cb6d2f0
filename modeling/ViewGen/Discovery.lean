import ViewGen.Json.Reader
import ViewGen.World

/-!
# Project discovery

The schema and the app directory are looked for in a directory and in all those above it; the nearest
counts.
-/

namespace ViewGen.Discovery

/-- Why the search cannot go on. -/
inductive Fault where
  | disk (fault : DiskFault)
  /-- A package file nests too deeply to be read. -/
  | tooDeep
deriving DecidableEq, Repr

/-- A directory and those above it, the nearest first. -/
def upwards (directory : Location) : List Location :=
  (List.range (directory.length + 1)).reverse.map directory.take

/-- The first location for which a question holds. The questions after it are not asked. -/
def first? (holds : Location → Except Fault Bool) : List Location → Except Fault (Option Location)
  | [] => .ok none
  | location :: rest =>
    match holds location with
    | .error fault => .error fault
    | .ok true => .ok (some location)
    | .ok false => first? holds rest

/-- Where the schema stands in a project. -/
def schemaIn (directory : Location) : Path :=
  .ofLocation (directory ++ ["prisma", "schema.prisma"])

def hasSchema (disk : Disk) (directory : Location) : Except Fault Bool :=
  (disk.isFile [] (schemaIn directory)).mapError .disk

/-- The dependency that tells the projects apart which have an app directory. -/
def appDependency : String := "@remix-run/react"

/-- Whether the data of a package file lists the dependency. -/
def listsDependency (data : Json) : Bool :=
  match data.member? "dependencies" with
  | some dependencies => (dependencies.member? appDependency).isSome
  | none => false

/-- Whether the text of a package file lists the dependency. -/
def isAppPackage (limit : Json.DepthLimit) (text : String) : Except Fault Bool :=
  match Json.parse limit text with
  | .ok data => .ok (listsDependency data)
  | .error .malformed => .ok false
  | .error .tooDeep => .error .tooDeep

/-- A package file that cannot be read marks no project. -/
def hasApp (limit : Json.DepthLimit) (disk : Disk) (directory : Location) :
    Except Fault Bool :=
  let package : Path := .ofLocation (directory ++ ["package.json"])
  match disk.isFile [] package with
  | .error fault => .error (.disk fault)
  | .ok false => .ok false
  | .ok true =>
    match disk.readText [] package with
    | .error _ => .ok false
    | .ok text => isAppPackage limit text

/-- The nearest location from a start upwards for which a question holds. -/
def nearest (holds : Disk → Location → Except Fault Bool) (start : Path) :
    Job Fault (Option Location) := do
  let world ← get
  if start.hasNul then throw (.disk .embeddedNul)
  Job.ofExcept (first? (holds world.disk) (upwards (start.resolve world.current)))

/-- The nearest schema. -/
def findSchema (start : Path) : Job Fault (Option Path) := do
  match ← nearest hasSchema start with
  | none => pure none
  | some directory =>
    Job.note .debug ("Found schema at " ++ (schemaIn directory).render)
    pure (some (schemaIn directory))

/-- The app directory of the nearest project that has one. -/
def findApp (start : Path) : Job Fault (Option Path) := do
  let world ← get
  match ← nearest (hasApp world.machine.depths.package) start with
  | none => pure none
  | some directory =>
    Job.note .debug ("Found Remix project at " ++ (Path.ofLocation directory).render)
    pure (some (.ofLocation (directory ++ ["app"])))

end ViewGen.Discovery
