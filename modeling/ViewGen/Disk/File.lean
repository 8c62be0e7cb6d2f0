import ViewGen.Disk.Walk

/-!
# Files and directories

Reading and changing a disk by path. A change that fails leaves the disk as it was, except that
directories made on the way to one that fails stay.
-/

namespace ViewGen.Disk

/-- What a path leads to. -/
def stat (disk : Disk) (current : Location) (path : Path) : Except DiskFault Node :=
  match path.locate disk current with
  | .error fault => .error fault
  | .ok location =>
    match disk.node? location with
    | none => .error (.system .notFound)
    | some node => .ok node

/-- Whether something of that kind stands at a path. Nothing stands where a directory is missing or
where no path can lead, but a name that is too long is a fault. -/
def probe (disk : Disk) (current : Location) (path : Path) (kind : Node → Bool) :
    Except DiskFault Bool :=
  match disk.stat current path with
  | .ok node => .ok (kind node)
  | .error (.system .notFound) => .ok false
  | .error (.system .notDirectory) => .ok false
  | .error .embeddedNul => .ok false
  | .error fault => .error fault

def pathExists (disk : Disk) (current : Location) (path : Path) : Except DiskFault Bool :=
  disk.probe current path fun _ => true

def isFile (disk : Disk) (current : Location) (path : Path) : Except DiskFault Bool :=
  disk.probe current path fun node => !node.isDirectory

def isDirectory (disk : Disk) (current : Location) (path : Path) : Except DiskFault Bool :=
  disk.probe current path Node.isDirectory

def fileContent (disk : Disk) (current : Location) (path : Path) : Except DiskFault ByteArray :=
  match disk.stat current path with
  | .error fault => .error fault
  | .ok (.directory _) => .error (.system .isDirectory)
  | .ok (.file content _) => .ok content

/-- Creates a file or replaces its content. -/
def writeFile (disk : Disk) (current : Location) (now : Moment) (path : Path)
    (content : ByteArray) : Except DiskFault Disk :=
  match path.locate disk current with
  | .error fault => .error fault
  | .ok location =>
    match disk.node? location with
    | some (.directory _) => .error (.system .isDirectory)
    | _ => .ok (disk.put location (.file content now))

/-- Creates a node where none stands. -/
def createNode (disk : Disk) (current : Location) (path : Path) (node : Node) :
    Except DiskFault Disk :=
  match path.locate disk current with
  | .error fault => .error fault
  | .ok location =>
    match disk.node? location with
    | some _ => .error (.system .exists)
    | none => .ok (disk.put location node)

/-- Creates a file that must not exist. -/
def createFile (disk : Disk) (current : Location) (now : Moment) (path : Path)
    (content : ByteArray) : Except DiskFault Disk :=
  disk.createNode current path (.file content now)

/-- Removes a file. -/
def removeFile (disk : Disk) (current : Location) (path : Path) : Except DiskFault Disk :=
  match path.locate disk current with
  | .error fault => .error fault
  | .ok location =>
    match disk.node? location with
    | none => .error (.system .notFound)
    | some (.directory _) => .error (.system .isDirectory)
    | some (.file _ _) => .ok (disk.erase location)

/-- Removes a file if it is there. -/
def removeIfPresent (disk : Disk) (current : Location) (path : Path) : Except DiskFault Disk :=
  match disk.removeFile current path with
  | .error (.system .notFound) => .ok disk
  | result => result

/-- Moves a file over whatever file has the new name, which cannot be that of a place known in other
ways: the root, the current directory or the one above. No directory is replaced, and one that the
file is in is refused because it holds something. -/
def replaceFile (disk : Disk) (current : Location) (source target : Path) :
    Except DiskFault Disk :=
  match source.locate disk current, target.locate disk current with
  | .error fault, _ => .error fault
  | .ok _, .error fault => .error fault
  | .ok here, .ok there =>
    if target.parts.isEmpty || target.parts.getLast? = some ".." then .error (.system .busy)
    else match disk.node? here, disk.node? there with
      | none, _ => .error (.system .notFound)
      | some (.directory _), _ => .error (.system .isDirectory)
      | some (.file _ _), some (.directory _) =>
        .error (.system (if there.isPrefixOf here then .notEmpty else .isDirectory))
      | some (.file content changed), _ =>
        .ok ((disk.erase here).put there (.file content changed))

/-- Makes a directory, where it is enough if one already stands there. -/
def ensureDirectory (disk : Disk) (current : Location) (now : Moment) (path : Path) :
    Except DiskFault Disk :=
  match disk.createNode current path (.directory now) with
  | .ok disk => .ok disk
  | .error .embeddedNul => .error .embeddedNul
  | .error (.system .notFound) => .error (.system .notFound)
  | .error fault =>
    match disk.isDirectory current path with
    | .error other => .error other
    | .ok true => .ok disk
    | .ok false => .error fault

/-- Makes a directory and those missing above it, for a path whose names are given reversed. The
directories above are made only when the first attempt finds one missing. -/
def ensureDirectoriesFrom (current : Location) (now : Moment) (anchor : Anchor) :
    List String → Disk → Disk × Except DiskFault Unit
  | [], disk =>
    match disk.ensureDirectory current now ⟨anchor, []⟩ with
    | .ok disk => (disk, .ok ())
    | .error fault => (disk, .error fault)
  | name :: above, disk =>
    let path : Path := ⟨anchor, (name :: above).reverse⟩
    match disk.ensureDirectory current now path with
    | .ok disk => (disk, .ok ())
    | .error (.system .notFound) =>
      match ensureDirectoriesFrom current now anchor above disk with
      | (disk, .error fault) => (disk, .error fault)
      | (disk, .ok ()) =>
        match disk.ensureDirectory current now path with
        | .ok disk => (disk, .ok ())
        | .error fault => (disk, .error fault)
    | .error fault => (disk, .error fault)

/-- Makes a directory and those missing above it. -/
def ensureDirectories (disk : Disk) (current : Location) (now : Moment) (path : Path) :
    Disk × Except DiskFault Unit :=
  ensureDirectoriesFrom current now path.anchor path.parts.reverse disk

end ViewGen.Disk
