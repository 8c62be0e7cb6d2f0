/-!
# Disks

A disk is a tree of directories and files, held as the nodes at their locations.
-/

namespace ViewGen

/-- The names from the root down to a place. -/
abbrev Location := List String

/-- A moment in milliseconds. -/
abbrev Moment := Int

inductive Node where
  | directory (changed : Moment)
  | file (content : ByteArray) (changed : Moment)

def Node.changed : Node → Moment
  | .directory changed => changed
  | .file _ changed => changed

def Node.isDirectory : Node → Bool
  | .directory _ => true
  | .file _ _ => false

/-- Why the system refuses an operation. -/
inductive Errno where
  | notFound
  | busy
  | exists
  | notDirectory
  | isDirectory
  | nameTooLong
  | notEmpty
deriving DecidableEq, Repr

def Errno.message : Errno → String
  | .notFound => "[Errno 2] No such file or directory"
  | .busy => "[Errno 16] Device or resource busy"
  | .exists => "[Errno 17] File exists"
  | .notDirectory => "[Errno 20] Not a directory"
  | .isDirectory => "[Errno 21] Is a directory"
  | .nameTooLong => "[Errno 36] File name too long"
  | .notEmpty => "[Errno 39] Directory not empty"

/-- Why an operation on a path fails. A path with a NUL character never reaches the system. -/
inductive DiskFault where
  | system (cause : Errno)
  | embeddedNul
deriving DecidableEq, Repr

def DiskFault.message : DiskFault → String
  | .system cause => cause.message
  | .embeddedNul => "embedded null byte"

/-- The nodes below the root; of two at one location the first counts. -/
structure Disk where
  nodes : List (Location × Node)

namespace Disk

def empty : Disk := ⟨[]⟩

/-- What stands at a location. The root is always a directory. -/
def node? (disk : Disk) (at' : Location) : Option Node :=
  match at' with
  | [] => some (.directory 0)
  | _ => disk.nodes.lookup at'

/-- Puts a node in place of whatever stands there. -/
def put (disk : Disk) (at' : Location) (node : Node) : Disk :=
  ⟨(at', node) :: disk.nodes.filter (·.1 != at')⟩

def erase (disk : Disk) (at' : Location) : Disk :=
  ⟨disk.nodes.filter (·.1 != at')⟩

/-- Removes a node and everything below it. -/
def eraseTree (disk : Disk) (at' : Location) : Disk :=
  ⟨disk.nodes.filter fun entry => !at'.isPrefixOf entry.1⟩

/-- The nodes below a location, by the names from there. -/
def below (disk : Disk) (at' : Location) : List (Location × Node) :=
  disk.nodes.filterMap fun (location, node) =>
    if at'.isPrefixOf location && location != at' then some (location.drop at'.length, node)
    else none

end Disk

end ViewGen
