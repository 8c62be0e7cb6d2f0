import ViewGen.Lock.Owner
import ViewGen.Lock.Timeout
import ViewGen.Manifest.Basic

/-!
# Holding a lock

Runs on one output root take turns by a lock file beside the manifest. It is created in one step, which
fails if it is there, and removed by the run that created it. A stale lock is removed first.
-/

namespace ViewGen

structure Lock where
  file : Path
  timeout : Timeout
  acquired : Bool
deriving DecidableEq, Repr

/-- Why a lock cannot be acquired or released. -/
inductive LockFault where
  | timeout (file : Path) (waited : Timeout)
  | cannotCreate (file : Path) (cause : Errno)
  | disk (fault : DiskFault)
  /-- The process number in a lock file cannot be asked for. -/
  | processOutOfRange
  /-- The content of a lock file nests too deeply to be read. -/
  | tooDeep
  /-- The time to wait is unlimited, and the lock will never be free. -/
  | unending
deriving DecidableEq, Repr

def LockFault.message : LockFault → String
  | .timeout file waited =>
    "Another run holds " ++ file.render ++ " (waited " ++ waited.text ++ "s)"
  | .cannotCreate file cause => "Cannot create lock file " ++ file.render ++ ": " ++ cause.message
  | .disk fault => fault.message
  | .processOutOfRange => "process number out of range"
  | .tooDeep => "lock file nested too deeply"
  | .unending => "the lock is never released"

namespace Lock

/-- The lock of a manifest, not yet acquired. -/
def ofManifest (directory : Path) (file : String) (timeout : Timeout) : Lock :=
  { file := Manifest.path directory (file ++ ".lock"), timeout, acquired := false }

/-- Creates the lock file, unless it is there. -/
def create (lock : Lock) : Job LockFault Bool := fun world =>
  let content := Owner.content world.machine world.now
  match world.disk.createFile world.current world.now lock.file content.toUTF8 with
  | .ok disk => .ok true { world with disk }
  | .error (.system .exists) => .ok false world
  | .error (.system cause) => .error (.cannotCreate lock.file cause) world
  | .error .embeddedNul => .error (.disk .embeddedNul) world

/-- Whether the lock file that is there is stale. -/
def stale (lock : Lock) : Job LockFault Bool := fun world =>
  match world.disk.stat world.current lock.file with
  | .error fault => .error (.disk fault) world
  | .ok node =>
    match Owner.read world.machine.depths.owner world.disk world.current lock.file with
    | .error _ => .error .tooDeep world
    | .ok owner =>
      match isStale? world.machine world.now node.changed owner with
      | none => .error .processOutOfRange world
      | some answer => .ok answer world

/-- Removes the lock file, whoever owns it. -/
def remove (lock : Lock) : Job LockFault Unit :=
  (Job.change fun disk current _ => disk.removeIfPresent current lock.file).withFault .disk

/-- Creates the lock file, in place of a stale one if need be. -/
def attempt (lock : Lock) : Job LockFault Bool := do
  if ← lock.create then pure true
  else if ← lock.stale then
    Job.note .info ("Removing stale lock " ++ lock.file.render)
    lock.remove
    lock.create
  else pure false

/-- Attempts to create the lock file until it succeeds or no poll is left. -/
def attemptFor (lock : Lock) (failure : LockFault) : Nat → Job LockFault Unit
  | 0 => do
    if ← lock.attempt then pure () else throw failure
  | polls + 1 => do
    if ← lock.attempt then pure ()
    else
      Job.wait Timeout.pollInterval
      lock.attemptFor failure polls

/-- The polls after which waiting for a lock file that is there changes nothing any more. -/
def pollsUntilSettled (lock : Lock) (world : World) : Nat :=
  match world.disk.stat world.current lock.file with
  | .ok node => ((node.changed + grace - world.now) / Timeout.pollInterval).toNat + 1
  | .error _ => 0

/-- Acquires the lock. One that is acquired stays as it is. -/
def acquire (lock : Lock) : Job LockFault Lock := do
  if lock.acquired then pure lock
  else
    (Job.ensureDirectories lock.file.parent).withFault .disk
    match lock.timeout.polls? with
    | some polls => lock.attemptFor (.timeout lock.file lock.timeout) polls
    | none => lock.attemptFor .unending (lock.pollsUntilSettled (← get))
    Job.note .debug ("Acquired lock " ++ lock.file.render)
    pure { lock with acquired := true }

/-- Releases the lock if it is acquired. -/
def release (lock : Lock) : Job LockFault Lock := do
  if lock.acquired then
    lock.remove
    Job.note .debug ("Released lock " ++ lock.file.render)
    pure { lock with acquired := false }
  else pure lock

/-- Does a job while the lock is held. The lock is released however the job ends, and a fault of that
counts more than how it ended. -/
def during {ε α : Type} (lock : Lock) (job : Job ε α) : Job LockFault (Except ε α) := do
  let held ← lock.acquire
  let result ← job.outcome
  let _ ← held.release
  pure result

end Lock

end ViewGen
