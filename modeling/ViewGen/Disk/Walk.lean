import ViewGen.Disk.Basic
import ViewGen.Path

/-!
# Following paths

A path leads through directories that exist; only its last name may be missing.
-/

namespace ViewGen

namespace Disk

/-- The longest name and the longest path, in bytes. -/
def nameLimit : Nat := 255

def pathLimit : Nat := 4095

/-- One name further. The parent of the root is the root. -/
def step (at' : Location) (name : String) : Except Errno Location :=
  if name = ".." then .ok at'.dropLast
  else if nameLimit < name.utf8ByteSize then .error .nameTooLong
  else .ok (at' ++ [name])

/-- Where names lead to from a location. -/
def walk (disk : Disk) (at' : Location) : List String → Except Errno Location
  | [] => .ok at'
  | name :: rest =>
    match disk.node? at' with
    | none => .error .notFound
    | some (.file _ _) => .error .notDirectory
    | some (.directory _) =>
      match step at' name with
      | .error cause => .error cause
      | .ok next => disk.walk next rest

end Disk

namespace Path

def hasNul (path : Path) : Bool :=
  path.parts.any fun part => part.toList.contains '\x00'

/-- Where a path starts, seen from the current directory. -/
def origin (path : Path) (current : Location) : Location :=
  match path.anchor with
  | .relative => current
  | _ => []

/-- Where a path leads to if no directory along it is missing. -/
def resolve (path : Path) (current : Location) : Location :=
  path.parts.foldl (fun at' name => if name = ".." then at'.dropLast else at' ++ [name])
    (path.origin current)

/-- The path from the root to a location. -/
def ofLocation (location : Location) : Path :=
  ⟨.root, location⟩

/-- Where a path leads to on a disk. -/
def locate (path : Path) (disk : Disk) (current : Location) : Except DiskFault Location :=
  if path.hasNul then .error .embeddedNul
  else if Disk.pathLimit < path.render.utf8ByteSize then .error (.system .nameTooLong)
  else match disk.walk (path.origin current) path.parts with
    | .error cause => .error (.system cause)
    | .ok location => .ok location

end Path

end ViewGen
