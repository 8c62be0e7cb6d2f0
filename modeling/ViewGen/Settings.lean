import ViewGen.Manifest.Basic
import ViewGen.Number.Reading
import ViewGen.Toml.Reader
import ViewGen.Validation
import ViewGen.World

/-!
# Settings

A settings file says where a run reads and writes. Its paths are seen from the directory that it
stands in.
-/

namespace ViewGen

structure Settings where
  schema : Option Path
  output : Option Path
  templates : Option Path
  extension : String
  manifestFile : String
  /-- Seconds to wait for another run. -/
  lockTimeout : Binary64
deriving DecidableEq, Repr

/-- Why settings cannot be loaded. -/
inductive SettingsFault where
  | notFound (path : Path)
  | disk (fault : DiskFault)
  | notUtf8 (cause : Utf8.Fault)
  | malformed (path : Path)
  | tooManyDigits (count : Nat)
  | tooDeep
  | invalid (problems : List Problem)
deriving DecidableEq, Repr

def SettingsFault.message : SettingsFault → String
  | .notFound path => "Config file not found: " ++ path.render
  | .disk fault => fault.message
  | .notUtf8 cause => cause.message
  | .malformed path => "Invalid TOML in " ++ path.render
  | .tooManyDigits count =>
    "Exceeds the limit (" ++ toString Toml.digitLimit ++
      " digits) for integer string conversion: value has " ++ toString count ++
      " digits; use sys.set_int_max_str_digits() to increase the limit"
  | .tooDeep => "settings nested too deeply"
  | .invalid _ => "validation error for GeneratorConfig"

namespace Settings

/-- The settings of a project without a settings file. -/
def default : Settings :=
  { schema := none, output := none, templates := none
    extension := "tsx"
    manifestFile := Manifest.fileName
    lockTimeout := .ofInt 30 }

def fileName : String := "ramp.toml"

/-- The member with the first of two names that a table has, and that name. -/
def either? (members : Toml.Members) (first second : String) : Option (String × Toml) :=
  match members.lookup first with
  | some value => some (first, value)
  | none => (members.lookup second).map fun value => (second, value)

def checkText : Toml → Checked String
  | .text s => .ok s
  | _ => .fail .textExpected

/-- Seconds that are not negative. -/
def checkSeconds (x : Binary64) : Checked Binary64 :=
  if x.isNonneg then .ok x else .fail .belowMinimum

/-- A timeout is a number, or a truth value or text that stands for one. -/
def checkTimeout : Toml → Checked Binary64
  | .real x => checkSeconds x
  | .integer n =>
    match Binary64.ofInt n with
    | .infinite _ => .fail .numberExpected
    | x => checkSeconds x
  | .bool b => checkSeconds (.ofInt (if b then 1 else 0))
  | .text s =>
    match Binary64.ofText? s with
    | some x => checkSeconds x
    | none => .fail .numberUnreadable
  | _ => .fail .numberExpected

/-- A member that can be absent. A problem with it is placed at the name it was found under. -/
def optional {α : Type} (absent : α) (check : Toml → Checked α) (members : Toml.Members)
    (first second : String) : Checked α :=
  match either? members first second with
  | some (name, value) => (check value).at' name
  | none => .ok absent

/-- A path, seen from the base directory. -/
def checkPath (base : Path) (value : Toml) : Checked (Option Path) :=
  (checkText value).map fun s => some (base.joinName s)

def checkTable (value : Toml) : Checked Toml.Members :=
  match value with
  | .table members => .ok members
  | _ => .fail .objectExpected

/-- The settings of the first section. -/
def checkGenerator (base : Path) (value : Toml) : Checked Settings :=
  match checkTable value with
  | .error found => .error found
  | .ok members =>
    let path := fun first second => optional none (checkPath base) members first second
    Checked.both (fun (schema, output) (templates, extension) =>
        { default with schema, output, templates, extension })
      (Checked.both (·, ·) (path "schema" "schema_path") (path "output" "output"))
      (Checked.both (·, ·) (path "templates" "templates")
        (optional default.extension checkText members "extension" "extension"))

/-- The settings of the second section. -/
def checkManifest (value : Toml) : Checked (String × Binary64) :=
  match checkTable value with
  | .error found => .error found
  | .ok members =>
    Checked.both (·, ·)
      (optional default.manifestFile checkText members "file" "file")
      (optional default.lockTimeout checkTimeout members "lock_timeout" "lock_timeout")

/-- The settings of a document. What is absent has its default, and unknown members are ignored. -/
def check (base : Path) (members : Toml.Members) : Checked Settings :=
  Checked.both (fun settings (manifestFile, lockTimeout) =>
      { settings with manifestFile, lockTimeout })
    (optional default (checkGenerator base) members "generator" "generator")
    (optional (default.manifestFile, default.lockTimeout) checkManifest members
      "manifest" "manifest")

/-- The settings that a text writes in a file at a path. -/
def ofText (depth : Nat) (path base : Path) (text : String) : Except SettingsFault Settings :=
  match Toml.parse depth text with
  | .error .malformed => .error (.malformed path)
  | .error .tooDeep => .error .tooDeep
  | .error (.tooManyDigits count) => .error (.tooManyDigits count)
  | .ok members => (check base members).mapError .invalid

/-- The settings of a file that is there. -/
def ofFile (depth : Nat) (disk : Disk) (current : Location) (path : Path) :
    Except SettingsFault Settings :=
  match disk.fileContent current path with
  | .error fault => .error (.disk fault)
  | .ok content =>
    match Utf8.decode content with
    | .error cause => .error (.notUtf8 cause)
    | .ok text => ofText depth path (Path.ofLocation (path.resolve current).dropLast) text

/-- Loads the settings of a file, or those of the current directory, which may have none. -/
def load (file : Option Path) : Job SettingsFault Settings := do
  let world ← get
  let path := file.getD ((Path.ofLocation world.current).joinName fileName)
  match world.disk.pathExists world.current path, file with
  | .error fault, _ => throw (.disk fault)
  | .ok false, none => pure default
  | .ok false, some path => throw (.notFound path)
  | .ok true, _ =>
    Job.ofExcept (ofFile world.machine.depths.settings world.disk world.current path)

end Settings

end ViewGen
