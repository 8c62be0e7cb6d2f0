import ViewGen.Json.Basic
import ViewGen.Json.Reader
import ViewGen.World

/-!
# Owners of locks

A lock file names the process that created it. A lock is stale when that process is gone, or when the
file still names none some time after it was last written.
-/

namespace ViewGen.Lock

/-- What a lock file says about its owner. -/
inductive Owner where
  | record (members : List (Units × Json))
  | unknown
deriving Repr

namespace Owner

/-- The owner named by the content of a lock file. -/
def ofText (limit : Json.DepthLimit) (text : String) : Except Json.Fault Owner :=
  match Json.parse limit text with
  | .ok (.object members) => .ok (.record members)
  | .ok _ => .ok .unknown
  | .error .malformed => .ok .unknown
  | .error .tooDeep => .error .tooDeep

/-- The owner named by what stands at the path of a lock. -/
def read (limit : Json.DepthLimit) (disk : Disk) (current : Location) (path : Path) :
    Except Json.Fault Owner :=
  match disk.readText current path with
  | .ok text => ofText limit text
  | .error _ => .ok .unknown

/-- The process number that a record holds; truth values count as numbers. -/
def processId? (members : List (Units × Json)) : Option Int :=
  match Json.lookup (.ofString "pid") members with
  | some (.integer n) => some n
  | some (.bool b) => some (if b then 1 else 0)
  | _ => none

def isOn (members : List (Units × Json)) (hostName : String) : Bool :=
  match Json.lookup (.ofString "hostname") members with
  | some (.text t) => t == .ofString hostName
  | _ => false

/-- The content of a lock file that a process of this machine creates. -/
def content (machine : Machine) (now : Moment) : String :=
  let seconds := Binary64.ofRatio (now < 0) now.natAbs 1000
  "\x7b\"pid\": " ++ toString machine.processId ++ ", \"hostname\": " ++
    String.ofList (Json.textLiteral (.ofString machine.hostName)) ++
    ", \"timestamp\": " ++ Json.realText seconds ++ "\x7d"

end Owner

/-- Milliseconds that a lock file may stand without naming an owner. -/
def grace : Nat := 5000

/-- The process numbers that can be asked for. -/
def fitsProcessId (n : Int) : Bool :=
  -0x80000000 ≤ n && n < 0x80000000

/-- Whether a lock is stale that was last written at the moment `changed`. Nothing is returned for a
process number that cannot be asked for. -/
def isStale? (machine : Machine) (now changed : Moment) : Owner → Option Bool
  | .unknown => some (changed + grace ≤ now)
  | .record members =>
    if Owner.isOn members machine.hostName then
      match Owner.processId? members with
      | none => some false
      | some n => if fitsProcessId n then some (!machine.alive.contains n) else none
    else some false

end ViewGen.Lock
