import ViewGen.Proofs.Exclusion

/-!
# Custody of lock files

A lock remembers that it has been acquired, but not what it has made.  Meanwhile its file may be removed
from outside, or replaced by another owner's, and what then stands at its place is removed all the same
when the lock is released.  As long as nobody from outside touches the files of the locks, each lock
removes its own file only, whatever the process does with them.
-/

namespace ViewGen

/-! ## The machine stays -/

namespace Job

variable {ε δ α β : Type}

/-- Whether a job leaves the machine as it is, however it ends. -/
def StaysOn (job : Job ε α) : Prop :=
  ∀ w, (job.after w).machine = w.machine

namespace StaysOn

theorem of_ok {job : Job ε α} (hj : job.StaysOn) {w later : World} {a : α} (h : job w = .ok a later) :
    later.machine = w.machine :=
  after_of_ok h ▸ hj w

theorem of_error {job : Job ε α} (hj : job.StaysOn) {w later : World} {fault : ε}
    (h : job w = .error fault later) : later.machine = w.machine :=
  after_of_error h ▸ hj w

theorem bind {job : Job ε α} {next : α → Job ε β} (hj : job.StaysOn)
    (hnext : ∀ a, (next a).StaysOn) : (job >>= next).StaysOn := by
  intro w
  cases h : job w with
  | ok a later => rw [after_congr (bind_of_ok h), hnext a later, hj.of_ok h]
  | error fault later => rw [after_of_error (bind_of_error h), hj.of_error h]

theorem pure (a : α) : (Pure.pure a : Job ε α).StaysOn :=
  fun _ => rfl

theorem withFault {job : Job ε α} (hj : job.StaysOn) (f : ε → δ) : (job.withFault f).StaysOn := by
  intro w
  rw [after_withFault]
  exact hj w

theorem change (f : Disk → Location → Moment → Except DiskFault Disk) : (Job.change f).StaysOn := by
  intro w
  unfold after Job.change
  cases f w.disk w.current w.now <;> rfl

theorem ensureDirectories (path : Path) : (Job.ensureDirectories path).StaysOn := by
  intro w
  unfold after Job.ensureDirectories
  obtain ⟨disk, made⟩ := w.disk.ensureDirectories w.current w.now path
  cases made <;> rfl

end StaysOn

end Job

namespace Lock

variable {lock : Lock} {w later : World} {failure : LockFault} {polls : Nat}

theorem create_staysOn (lock : Lock) : lock.create.StaysOn := by
  intro w
  unfold Job.after create
  dsimp only
  cases w.disk.createFile w.current w.now lock.file (Owner.content w.machine w.now).toUTF8 with
  | ok made => rfl
  | error fault =>
    cases fault with
    | embeddedNul => rfl
    | system cause => cases cause <;> rfl

theorem stale_staysOn (lock : Lock) : lock.stale.StaysOn := by
  intro w
  cases h : lock.stale w with
  | ok answer later => rw [Job.after_of_ok h, stale_world h]
  | error fault later => rw [Job.after_of_error h, stale_error h]

theorem remove_staysOn (lock : Lock) : lock.remove.StaysOn :=
  (Job.StaysOn.change _).withFault _

theorem attempt_staysOn (lock : Lock) : lock.attempt.StaysOn := by
  have hreplace : (do
      Job.note .info ("Removing stale lock " ++ lock.file.render)
      lock.remove
      lock.create : Job LockFault Bool).StaysOn :=
    .bind (fun _ => rfl) fun _ => lock.remove_staysOn.bind fun _ => lock.create_staysOn
  refine lock.create_staysOn.bind fun created => ?_
  cases created with
  | true => exact .pure true
  | false =>
    refine lock.stale_staysOn.bind fun stale => ?_
    cases stale with
    | true => exact hreplace
    | false => exact .pure false

theorem attemptFor_staysOn (lock : Lock) (failure : LockFault) (polls : Nat) :
    (lock.attemptFor failure polls).StaysOn := by
  induction polls with
  | zero =>
    refine lock.attempt_staysOn.bind fun created => ?_
    cases created with
    | true => exact .pure ()
    | false => exact fun _ => rfl
  | succ polls ih =>
    refine lock.attempt_staysOn.bind fun created => ?_
    cases created with
    | true => exact .pure ()
    | false => exact .bind (fun _ => rfl) fun _ => ih

theorem acquire_staysOn (hfree : lock.acquired = false) : lock.acquire.StaysOn := by
  have hawait : lock.await.StaysOn := by
    intro w
    rw [Job.after, await_eq]
    exact lock.attemptFor_staysOn _ _ w
  rw [acquire_eq hfree]
  refine .bind ((Job.StaysOn.ensureDirectories _).withFault _) fun _ => hawait.bind fun _ => ?_
  exact .bind (fun _ => rfl) fun _ => .pure _

/-! ## What a lock file says -/

/-- The lock file that an attempt has made names the process that made it. -/
theorem attempt_signed (h : lock.attempt w = .ok true later) :
    ∃ moment, later.disk.file? (lock.place w.current) =
      some (Owner.content w.machine moment).toUTF8 := by
  have hcreated : ∀ base : World, lock.create base = .ok true later → base.current = w.current →
      base.machine = w.machine → later.disk.file? (lock.place w.current) =
        some (Owner.content w.machine base.now).toUTF8 := by
    intro base hcreate hcurrent hmachine
    obtain ⟨-, hnone, rfl⟩ := create_eq_true.mp hcreate
    have hne := Disk.ne_nil_of_not_isDirectoryAt (Disk.not_isDirectoryAt_of_none hnone)
    rw [← hcurrent, ← hmachine]
    exact Disk.file?_put_self _ _ _ hne
  obtain ⟨created, seen, hcreate, hend⟩ := Job.bind_eq_ok.mp h
  cases created with
  | true =>
    cases hend
    exact ⟨w.now, hcreated w hcreate rfl rfl⟩
  | false =>
    obtain ⟨rfl, -⟩ := leads_of_create_false hcreate
    rw [if_neg (by decide)] at hend
    obtain ⟨stale, judged, hstale, hend⟩ := Job.bind_eq_ok.mp hend
    obtain rfl := stale_world hstale
    cases stale with
    | false => cases hend
    | true =>
      -- A stale file is removed first.
      rw [if_pos rfl] at hend
      obtain ⟨_, noted, hnote, hend⟩ := Job.bind_eq_ok.mp hend
      obtain ⟨_, base, hremove, hend⟩ := Job.bind_eq_ok.mp hend
      have hmachine := lock.remove_staysOn.of_ok hremove
      obtain ⟨disk, -, rfl⟩ := Job.change_eq_ok.mp (Job.withFault_eq_ok.mp hremove)
      cases hnote
      exact ⟨_, hcreated _ hend rfl hmachine⟩

theorem attemptFor_signed {u : Unit} (h : lock.attemptFor failure polls w = .ok u later) :
    ∃ moment, later.disk.file? (lock.place w.current) =
      some (Owner.content w.machine moment).toUTF8 := by
  induction polls generalizing w with
  | zero =>
    obtain ⟨hattempt, -⟩ | ⟨-, h⟩ := attempt_or_eq_ok h
    · exact attempt_signed hattempt
    · cases h
  | succ polls ih =>
    obtain ⟨hattempt, -⟩ | ⟨-, h⟩ := attempt_or_eq_ok h
    · exact attempt_signed hattempt
    · exact ih (w := { w with now := w.now + Timeout.pollInterval }) h

theorem acquire_signed {held : Lock} (hfree : lock.acquired = false)
    (h : lock.acquire w = .ok held later) :
    ∃ moment, later.disk.file? (lock.place w.current) =
      some (Owner.content w.machine moment).toUTF8 := by
  obtain ⟨-, made, waited, log, hmake, hawait, rfl⟩ := await_of_acquire hfree h
  have hcurrent := (((Job.Confined.ensureDirectories lock.file.parent).withFault _).of_ok hmake).current
  have hmachine := ((Job.StaysOn.ensureDirectories lock.file.parent).withFault _).of_ok hmake
  rw [await_eq] at hawait
  obtain ⟨moment, hfile⟩ := attemptFor_signed hawait
  rw [hcurrent, hmachine] at hfile
  exact ⟨moment, hfile⟩

/-- Where the file of a live owner stands, no lock is acquired, however long it waits. -/
theorem acquire_of_live {content : ByteArray} (hfree : lock.acquired = false)
    (hfile : w.disk.file? (lock.place w.current) = some content)
    (hlive : LiveOwner w.machine content) : ∃ fault later, lock.acquire w = .error fault later := by
  cases hmake : (Job.ensureDirectories lock.file.parent).withFault LockFault.disk w with
  | error fault later =>
    rw [acquire_eq hfree]
    exact ⟨fault, later, Job.bind_of_error hmake⟩
  | ok u made =>
    have hfollows := ((Job.Confined.ensureDirectories lock.file.parent).withFault _).of_ok hmake
    have hmachine := ((Job.StaysOn.ensureDirectories lock.file.parent).withFault _).of_ok hmake
    have hd := Job.ensureDirectories_directoryAlong (Job.withFault_eq_ok.mp hmake)
    rw [← hfollows.current] at hd
    -- Once its directory is there, the lock is acquired as if it had been there before.
    have hagain : lock.acquire w = lock.acquire made := by
      rw [acquire_of_directory hfree hd, acquire_eq hfree, Job.bind_of_ok hmake]
    rw [hagain]
    cases hl : lock.file.locate made.disk made.current with
    | error cause => exact ⟨_, _, acquire_of_refused hfree hd hl⟩
    | ok location =>
      rw [← hfollows.current, ← hfollows.disk.file?_eq (Set.notMem_empty _)] at hfile
      rw [← hmachine] at hlive
      obtain ⟨changed, hn⟩ := Disk.file?_eq_some.mp hfile
      exact ⟨_, _, acquire_of_liveOwner hfree hd (Path.leads_of_locate hl) hn hlive⟩

/-- What releasing has done by its end: it has removed what stood at the place, or failed and changed
nothing. -/
theorem release_spec (hacquired : lock.acquired = true) (hl : lock.file.Leads w.disk w.current) :
    (∃ later, lock.release w = .ok { lock with acquired := false } later ∧
      w.Keeps {lock.place w.current} later ∧ later.machine = w.machine ∧
      later.disk.file? (lock.place w.current) = none) ∨
    (w.disk.file? (lock.place w.current) = none ∧ ∃ fault, lock.release w = .error fault w) := by
  have hrelease : lock.release = (do
      lock.remove
      Job.note .debug ("Released lock " ++ lock.file.render)
      pure { lock with acquired := false }) := by
    unfold release
    rw [if_pos hacquired]
  rw [hrelease]
  cases hremove : lock.remove w with
  | error fault later =>
    obtain ⟨cause, hchange, -⟩ := Job.withFault_eq_error.mp hremove
    obtain ⟨hfault, rfl⟩ := Job.change_eq_error.mp hchange
    refine Or.inr ⟨?_, fault, Job.bind_of_error hremove⟩
    -- Where there is a file, it can be removed.
    cases hfile : later.disk.file? (lock.place later.current) with
    | none => rfl
    | some content =>
      rw [Disk.removeIfPresent_of_file hl hfile] at hfault
      cases hfault
  | ok u later =>
    obtain ⟨disk, hdisk, rfl⟩ := Job.change_eq_ok.mp (Job.withFault_eq_ok.mp hremove)
    have herased : ¬ w.disk.IsDirectoryAt (lock.place w.current) →
        disk = w.disk.erase (lock.place w.current) →
        w.Keeps {lock.place w.current} { w with disk } ∧ disk.file? (lock.place w.current) = none := by
      intro hd he
      refine ⟨.erase rfl he hd, ?_⟩
      rw [he, Disk.file?, Disk.node?_erase_self (Disk.ne_nil_of_not_isDirectoryAt hd)]
    -- Removing also succeeds where nothing stands, and then changes nothing.
    have hkeeps : w.Keeps {lock.place w.current} { w with disk } ∧
        disk.file? (lock.place w.current) = none := by
      cases hfile : w.disk.file? (lock.place w.current) with
      | none =>
        obtain rfl | ⟨-, hd, he⟩ := Disk.removeIfPresent_eq_ok hdisk
        · exact ⟨(World.Follows.refl _ w).keeps, hfile⟩
        · exact herased hd he
      | some content =>
        obtain ⟨changed, hn⟩ := Disk.file?_eq_some.mp hfile
        rw [Disk.removeIfPresent_of_file hl hfile, Except.ok.injEq] at hdisk
        exact herased (Disk.not_isDirectoryAt_of_file hn) hdisk.symm
    refine Or.inl ⟨_, Job.bind_of_ok hremove, ?_, rfl, hkeeps.2⟩
    exact ⟨hkeeps.1.current, hkeeps.1.directories, hkeeps.1.files⟩

end Lock

/-! ## Who has made what -/

/-- What happens from outside: files of locks may be removed or replaced at the places that are touched,
and other processes may come and go. -/
structure Interference {ι : Type} (files : ι → Path) where
  act : World → World
  touched : List Location
  host : ∀ w, (act w).machine.hostName = w.machine.hostName
  process : ∀ w, (act w).machine.processId = w.machine.processId
  runs : ∀ w, w.machine.Runs → (act w).machine.Runs
  current : ∀ w, (act w).current = w.current
  directory : ∀ w i, w.disk.DirectoryAlong w.current (files i).parent →
    (act w).disk.DirectoryAlong w.current (files i).parent
  file : ∀ w i, (files i).resolve w.current ∉ touched →
    (act w).disk.file? ((files i).resolve w.current) = w.disk.file? ((files i).resolve w.current)

/-- A process with what it does not know of its locks: which of them has made the file that stands at a
place, and whether something else has been done to a lock's file since the lock was acquired. -/
structure Custody (ι : Type) where
  process : Process ι
  maker : Location → Option ι
  disturbed : ι → Prop

/-- One thing that happens to the locks of a process.  A block that holds a lock acquires it at its
beginning and releases it at its end. -/
inductive LockEvent {ι : Type} (files : ι → Path) where
  | acquire (i : ι)
  | release (i : ι)
  | outside (work : Interference files)

namespace Custody

variable {ι : Type} {files : ι → Path} {base : Location} {p : Process ι} {c : Custody ι} {i j : ι}
  {acquired : Bool} {later : World} {maker : Location → Option ι} {disturbed : ι → Prop}

/-- Nothing that stands has been made by a lock. -/
def begun (p : Process ι) : Custody ι :=
  ⟨p, fun _ => none, fun _ => False⟩

/-- What is touched from outside has been made by no lock. -/
def disturb (work : Interference files) (c : Custody ι) : Custody ι where
  process := { c.process with world := work.act c.process.world }
  maker at' := if at' ∈ work.touched then none else c.maker at'
  disturbed j := c.disturbed j ∨ c.process.place j ∈ work.touched

section

variable [DecidableEq ι]

/-- A lock that becomes acquired has made its file. -/
def acquire (i : ι) (c : Custody ι) : Custody ι :=
  let after := (c.process.apply Lock.acquire i).1
  if (c.process.locks i).acquired = false ∧ (after.locks i).acquired = true then
    { process := after
      maker := Function.update c.maker (c.process.place i) (some i)
      disturbed := Function.update c.disturbed i False }
  else { c with process := after }

/-- A lock that is released leaves no file, to the other locks with its place as well. -/
def release (i : ι) (c : Custody ι) : Custody ι :=
  let after := (c.process.apply Lock.release i).1
  if (c.process.locks i).acquired = true ∧ (after.locks i).acquired = false then
    { process := after
      maker := Function.update c.maker (c.process.place i) none
      disturbed := fun j => c.disturbed j ∨ (j ≠ i ∧ c.process.place j = c.process.place i) }
  else { c with process := after }

def step (c : Custody ι) : LockEvent files → Custody ι
  | .acquire i => c.acquire i
  | .release i => c.release i
  | .outside work => c.disturb work

/-- What comes of a history, which is all that happens one after the other. -/
def run (c : Custody ι) (history : List (LockEvent files)) : Custody ι :=
  history.foldl step c

/-- Whether releasing a lock would remove a lock file that the lock has not made. -/
def TakesAway (c : Custody ι) (i : ι) : Prop :=
  c.process.world.disk.file? (c.process.place i) ≠ none ∧
    (c.process.apply Lock.release i).1.world.disk.file? (c.process.place i) = none ∧
    c.maker (c.process.place i) ≠ some i

end

/-! ### What every event keeps -/

structure Kept (files : ι → Path) (base : Location) (c : Custody ι) : Prop where
  runs : c.process.world.machine.Runs
  file : ∀ i, (c.process.locks i).file = files i
  current : c.process.world.current = base
  directory : ∀ i, (c.process.locks i).acquired = true →
    c.process.world.disk.DirectoryAlong base (files i).parent
  leads : ∀ i, (c.process.locks i).acquired = true → (files i).Leads c.process.world.disk base
  /-- What has not been disturbed is the lock's own file. -/
  own : ∀ i, (c.process.locks i).acquired = true → ¬ c.disturbed i →
    c.maker (c.process.place i) = some i ∧ ∃ moment, c.process.world.disk.file? (c.process.place i) =
      some (Lock.Owner.content c.process.world.machine moment).toUTF8
  /-- What has been disturbed is not. -/
  foreign : ∀ i, (c.process.locks i).acquired = true → c.disturbed i →
    c.maker (c.process.place i) ≠ some i

theorem Kept.place (h : c.Kept files base) (i : ι) : c.process.place i = (files i).resolve base := by
  unfold Process.place Lock.place
  rw [h.file, h.current]

theorem Kept.begun (hruns : p.world.machine.Runs) (hfree : ∀ i, (p.locks i).acquired = false) :
    (begun p).Kept (fun i => (p.locks i).file) p.world.current := by
  have hnever (i : ι) : (p.locks i).acquired ≠ true := by
    rw [hfree i]
    exact Bool.false_ne_true
  exact
    { runs := hruns
      file := fun _ => rfl
      current := rfl
      directory := fun i hi => absurd hi (hnever i)
      leads := fun i hi => absurd hi (hnever i)
      own := fun i hi => absurd hi (hnever i)
      foreign := fun i hi => absurd hi (hnever i) }

/-- The world changes while no lock is acquired or released. -/
theorem Kept.elsewhere (h : c.Kept files base)
    (hhost : later.machine.hostName = c.process.world.machine.hostName)
    (hprocess : later.machine.processId = c.process.world.machine.processId)
    (hruns : later.machine.Runs) (hcurrent : later.current = base)
    (hdirectory : ∀ i, c.process.world.disk.DirectoryAlong base (files i).parent →
      later.disk.DirectoryAlong base (files i).parent)
    (hown : ∀ i, ¬ disturbed i → ¬ c.disturbed i ∧
      maker (c.process.place i) = c.maker (c.process.place i) ∧
      later.disk.file? (c.process.place i) = c.process.world.disk.file? (c.process.place i))
    (hforeign : ∀ i, disturbed i → maker (c.process.place i) = none ∨
      (c.disturbed i ∧ maker (c.process.place i) = c.maker (c.process.place i))) :
    Kept files base ⟨⟨c.process.locks, later⟩, maker, disturbed⟩ := by
  have hplace (i : ι) : Process.place ⟨c.process.locks, later⟩ i = c.process.place i := by
    unfold Process.place
    rw [hcurrent, h.current]
  constructor
  case runs => exact hruns
  case file => exact h.file
  case current => exact hcurrent
  case directory => exact fun i hi => hdirectory i (h.directory i hi)
  case leads => exact fun i hi => (h.leads i hi).of_parent (hdirectory i (h.directory i hi))
  case own =>
    intro i hi hcalm
    obtain ⟨hbefore, hmaker, hfile⟩ := hown i hcalm
    obtain ⟨hmade, moment, hcontent⟩ := h.own i hi hbefore
    have hsigned : Lock.Owner.content later.machine moment =
        Lock.Owner.content c.process.world.machine moment := by
      unfold Lock.Owner.content
      rw [hhost, hprocess]
    rw [hplace]
    exact ⟨hmaker.trans hmade, moment, hfile.trans (hsigned ▸ hcontent)⟩
  case foreign =>
    intro i hi hloud hmade
    rw [hplace] at hmade
    obtain hnone | ⟨hbefore, hmaker⟩ := hforeign i hloud
    · cases hnone.symm.trans hmade
    · exact h.foreign i hi hbefore (hmaker.symm.trans hmade)

theorem Kept.disturb (h : c.Kept files base) (work : Interference files) :
    (c.disturb work).Kept files base := by
  have hcurrent := h.current
  apply h.elsewhere
  · exact work.host _
  · exact work.process _
  · exact work.runs _ h.runs
  · exact (work.current _).trans hcurrent
  · intro i hd
    rw [← hcurrent] at hd ⊢
    exact work.directory _ i hd
  · intro i hcalm
    rw [not_or] at hcalm
    have hfile := work.file c.process.world i
    rw [hcurrent, ← h.place] at hfile
    exact ⟨hcalm.1, if_neg hcalm.2, hfile hcalm.2⟩
  · intro i hloud
    by_cases htouched : c.process.place i ∈ work.touched
    · exact Or.inl (if_pos htouched)
    · exact Or.inr ⟨hloud.resolve_right htouched, if_neg htouched⟩

/-- A lock is acquired only over acquired ones that have been disturbed.  The file of any other would have
stood there, with a live owner. -/
theorem Kept.disturbed_of_acquire (h : c.Kept files base) {held : Lock}
    (hfree : (c.process.locks i).acquired = false)
    (hacquire : (c.process.locks i).acquire c.process.world = .ok held later)
    (hplace : c.process.place j = c.process.place i) (hj : (c.process.locks j).acquired = true) :
    c.disturbed j := by
  by_contra hcalm
  obtain ⟨-, moment, hfile⟩ := h.own j hj hcalm
  rw [hplace] at hfile
  obtain ⟨fault, last, hfails⟩ :=
    Lock.acquire_of_live hfree hfile (Lock.liveOwner_content h.runs moment)
  rw [hacquire] at hfails
  cases hfails

section

variable [DecidableEq ι]

/-- A lock is acquired or released, and nothing else than its file changes. -/
theorem Kept.marked (h : c.Kept files base) (hkeeps : c.process.world.Keeps {c.process.place i} later)
    (hmachine : later.machine = c.process.world.machine)
    (hmade : acquired = true → (files i).Leads later.disk base ∧
      later.disk.DirectoryAlong base (files i).parent ∧ maker (c.process.place i) = some i ∧
      ¬ disturbed i ∧ ∃ moment, later.disk.file? (c.process.place i) =
        some (Lock.Owner.content c.process.world.machine moment).toUTF8)
    (hothers : ∀ j, j ≠ i → c.process.place j ≠ c.process.place i →
      maker (c.process.place j) = c.maker (c.process.place j) ∧ (disturbed j ↔ c.disturbed j))
    (hrivals : ∀ j, j ≠ i → c.process.place j = c.process.place i →
      (c.process.locks j).acquired = true → disturbed j ∧ maker (c.process.place j) ≠ some j) :
    Kept files base ⟨c.process.marked i acquired later, maker, disturbed⟩ := by
  have hcurrent : later.current = base := hkeeps.current.trans h.current
  have hsame : c.process.Continues (c.process.marked i acquired later) :=
    Process.continues_marked hmachine hkeeps.current
  have hplace := hsame.place
  constructor
  case runs => exact hmachine ▸ h.runs
  case file => exact fun j => (hsame.file j).trans (h.file j)
  case current => exact hcurrent
  case directory =>
    intro j hj
    by_cases hji : j = i
    · subst hji
      exact (hmade (Process.acquired_marked_self.symm.trans hj)).2.1
    · have hj' := (Process.acquired_marked_of_ne hji).symm.trans hj
      exact hkeeps.directories.directoryAlong (h.directory j hj')
  case leads =>
    intro j hj
    by_cases hji : j = i
    · subst hji
      exact (hmade (Process.acquired_marked_self.symm.trans hj)).1
    · have hj' := (Process.acquired_marked_of_ne hji).symm.trans hj
      exact hkeeps.directories.leads (h.leads j hj')
  case own =>
    intro j hj hcalm
    show maker (Process.place (c.process.marked i acquired later) j) = some j ∧ ∃ moment,
      later.disk.file? (Process.place (c.process.marked i acquired later) j) =
        some (Lock.Owner.content later.machine moment).toUTF8
    rw [hplace, hmachine]
    -- The lock itself has just made its file; others at its place are disturbed now, and no file of the
    -- rest has changed.
    by_cases hji : j = i
    · subst hji
      obtain ⟨-, -, hmaker, -, hsigned⟩ := hmade (Process.acquired_marked_self.symm.trans hj)
      exact ⟨hmaker, hsigned⟩
    have hj' := (Process.acquired_marked_of_ne hji).symm.trans hj
    by_cases hji' : c.process.place j = c.process.place i
    · exact absurd (hrivals j hji hji' hj').1 hcalm
    obtain ⟨hmaker, hsame⟩ := hothers j hji hji'
    obtain ⟨hown, hsigned⟩ := h.own j hj' fun hloud => hcalm (hsame.mpr hloud)
    rw [hmaker, hkeeps.files _ hji']
    exact ⟨hown, hsigned⟩
  case foreign =>
    intro j hj hloud
    show maker (Process.place (c.process.marked i acquired later) j) ≠ some j
    rw [hplace]
    by_cases hji : j = i
    · subst hji
      exact absurd hloud (hmade (Process.acquired_marked_self.symm.trans hj)).2.2.2.1
    have hj' := (Process.acquired_marked_of_ne hji).symm.trans hj
    by_cases hji' : c.process.place j = c.process.place i
    · exact (hrivals j hji hji' hj').2
    · obtain ⟨hmaker, hsame⟩ := hothers j hji hji'
      rw [hmaker]
      exact h.foreign j hj' (hsame.mp hloud)

theorem Kept.acquire (h : c.Kept files base) (i : ι) : (c.acquire i).Kept files base := by
  unfold Custody.acquire
  by_cases hi : (c.process.locks i).acquired = true
  · rw [Process.acquire_of_acquired hi]
    simp only [hi, Bool.true_eq_false, false_and, if_false]
    exact h
  rw [Bool.not_eq_true] at hi
  have hstays := Lock.acquire_staysOn hi
  cases hacquire : (c.process.locks i).acquire c.process.world with
  | error fault later =>
    have hfollows := Lock.acquire_error hi hacquire
    have hmachine := hstays.of_error hacquire
    have happly : c.process.apply Lock.acquire i = (⟨c.process.locks, later⟩, some fault) := by
      unfold Process.apply
      rw [hacquire]
    rw [happly]
    simp only [hi, Bool.false_eq_true, and_false, if_false]
    -- An attempt that fails changes no file.
    apply h.elsewhere
    · rw [hmachine]
    · rw [hmachine]
    · exact hmachine ▸ h.runs
    · exact hfollows.current.trans h.current
    · exact fun j hd => hfollows.disk.keepsDirectories.directoryAlong hd
    · exact fun j hcalm => ⟨hcalm, rfl, hfollows.disk.file?_eq (Set.notMem_empty _)⟩
    · exact fun j hloud => Or.inr ⟨hloud, rfl⟩
  | ok held later =>
    obtain ⟨rfl, hfollows, hheld, hd⟩ := Lock.acquire_eq_ok hi hacquire
    obtain ⟨moment, hsigned⟩ := Lock.acquire_signed hi hacquire
    have hcurrent : later.current = base := hfollows.current.trans h.current
    have happly : c.process.apply Lock.acquire i = (c.process.marked i true later, none) := by
      unfold Process.apply
      rw [hacquire]
      rfl
    rw [happly]
    simp only [hi, Process.acquired_marked_self, and_self, if_true]
    apply h.marked hfollows.keeps
    · exact (Lock.acquire_staysOn hi).of_ok hacquire
    · intro _
      have hleads := hheld.leads
      rw [hcurrent] at hleads hd
      rw [h.file] at hleads hd
      exact ⟨hleads, hd, Function.update_self .., by simp, moment, hsigned⟩
    · intro j hj hplace
      exact ⟨Function.update_of_ne hplace .., by rw [Function.update_of_ne hj]⟩
    · intro j hj hplace hacquired
      rw [Function.update_of_ne hj, hplace, Function.update_self]
      exact ⟨h.disturbed_of_acquire hi hacquire hplace hacquired,
        fun he => hj (Option.some.inj he).symm⟩

/-- What releasing an acquired lock does to the process. -/
theorem Kept.apply_release (h : c.Kept files base) (hi : (c.process.locks i).acquired = true) :
    (∃ later, c.process.apply Lock.release i = (c.process.marked i false later, none) ∧
      c.process.world.Keeps {c.process.place i} later ∧
      later.machine = c.process.world.machine ∧ later.disk.file? (c.process.place i) = none) ∨
    (c.process.world.disk.file? (c.process.place i) = none ∧
      ∃ fault, c.process.apply Lock.release i = (c.process, some fault)) := by
  have hleads : (c.process.locks i).file.Leads c.process.world.disk c.process.world.current := by
    rw [h.file, h.current]
    exact h.leads i hi
  obtain ⟨later, hrelease, hkept⟩ | ⟨hnone, fault, hrelease⟩ := Lock.release_spec hi hleads
  · refine Or.inl ⟨later, ?_, hkept⟩
    unfold Process.apply
    rw [hrelease]
    rfl
  · refine Or.inr ⟨hnone, fault, ?_⟩
    unfold Process.apply
    rw [hrelease]

theorem Kept.release (h : c.Kept files base) (i : ι) : (c.release i).Kept files base := by
  unfold Custody.release
  by_cases hi : (c.process.locks i).acquired = true
  · obtain ⟨later, happly, hkeeps, hmachine, -⟩ | ⟨-, fault, happly⟩ := h.apply_release hi
    · rw [happly]
      simp only [hi, Process.acquired_marked_self, and_self, if_true]
      apply h.marked hkeeps hmachine
      · intro hfalse
        cases hfalse
      · intro j hj hplace
        exact ⟨Function.update_of_ne hplace .., by simp [hplace]⟩
      · intro j hj hplace hacquired
        rw [hplace, Function.update_self]
        exact ⟨Or.inr ⟨hj, rfl⟩, Option.some_ne_none j |>.symm⟩
    · rw [happly]
      simp only [hi, Bool.true_eq_false, and_false, if_false]
      exact h
  · rw [Bool.not_eq_true] at hi
    rw [Process.release_of_free hi]
    simp only [hi, Bool.false_eq_true, false_and, if_false]
    exact h

theorem Kept.step (h : c.Kept files base) (event : LockEvent files) :
    (c.step event).Kept files base := by
  cases event with
  | acquire i => exact h.acquire i
  | release i => exact h.release i
  | outside work => exact h.disturb work

theorem Kept.run (h : c.Kept files base) (history : List (LockEvent files)) :
    (c.run history).Kept files base := by
  induction history generalizing c with
  | nil => exact h
  | cons event rest ih => exact ih (h.step event)

/-! ### As long as nobody else touches the files -/

/-- Whether no acquired lock with a place has been disturbed. -/
def Calm (c : Custody ι) (at' : Location) : Prop :=
  ∀ j, c.process.place j = at' → (c.process.locks j).acquired = true → ¬ c.disturbed j

theorem locks_of_ne {operation : Lock → Job LockFault Lock} (hj : j ≠ i) :
    (p.apply operation i).1.locks j = p.locks j := by
  unfold Process.apply
  split
  · exact Function.update_of_ne hj ..
  · rfl

theorem process_acquire : (c.acquire i).process = (c.process.apply Lock.acquire i).1 := by
  unfold Custody.acquire
  dsimp only
  split <;> rfl

theorem process_release : (c.release i).process = (c.process.apply Lock.release i).1 := by
  unfold Custody.release
  dsimp only
  split <;> rfl

/-- Acquiring a lock disturbs none, and a lock that becomes acquired has been disturbed by nothing. -/
theorem disturbed_acquire (h : (c.acquire i).disturbed j)
    (hacquired : ((c.acquire i).process.locks j).acquired = true) :
    c.disturbed j ∧ (c.process.locks j).acquired = true := by
  rw [process_acquire] at hacquired
  unfold Custody.acquire at h
  dsimp only at h
  by_cases hj : j = i
  · subst hj
    split at h
    · simp only [Function.update_self] at h
    · rename_i hnot
      exact ⟨h, Bool.eq_true_of_not_eq_false fun hfree => hnot ⟨hfree, hacquired⟩⟩
  · rw [locks_of_ne hj] at hacquired
    split at h
    · simp only [Function.update_of_ne hj] at h
      exact ⟨h, hacquired⟩
    · exact ⟨h, hacquired⟩

/-- Releasing a lock disturbs the acquired ones with its place. -/
theorem disturbed_release (h : (c.release i).disturbed j)
    (hacquired : ((c.release i).process.locks j).acquired = true) :
    (c.process.locks j).acquired = true ∧ (c.disturbed j ∨
      j ≠ i ∧ c.process.place j = c.process.place i ∧ (c.process.locks i).acquired = true) := by
  rw [process_release] at hacquired
  unfold Custody.release at h
  dsimp only at h
  by_cases hi : (c.process.locks i).acquired = true
  · by_cases hj : j = i
    · subst hj
      rw [if_neg fun hend => absurd (hend.2.symm.trans hacquired) Bool.false_ne_true] at h
      exact ⟨hi, Or.inl h⟩
    · rw [locks_of_ne hj] at hacquired
      split at h
      · exact ⟨hacquired, h.imp_right fun hsame => ⟨hj, hsame.2, hi⟩⟩
      · exact ⟨hacquired, Or.inl h⟩
  · rw [if_neg fun hend => hi hend.1] at h
    rw [Process.release_of_free (Bool.eq_false_iff.mpr hi)] at hacquired
    exact ⟨hacquired, Or.inl h⟩

/-- The locks of a process do not disturb each other. -/
theorem Calm.step {at' : Location} (hcalm : c.Calm at') (h : c.Kept files base)
    (event : LockEvent files)
    (hevent : ∀ work : Interference files, event = .outside work → at' ∉ work.touched) :
    (c.step event).Calm at' := by
  intro j hplace
  rw [(h.step event).place, ← h.place] at hplace
  have hj := hcalm j hplace
  cases event with
  | acquire i =>
    intro hacquired hloud
    obtain ⟨hbefore, hheld⟩ := disturbed_acquire hloud hacquired
    exact hj hheld hbefore
  | release i =>
    intro hacquired hloud
    obtain ⟨hheld, hbefore | ⟨hne, hsame, hi⟩⟩ := disturbed_release hloud hacquired
    · exact hj hheld hbefore
    · -- Both would have made the file that stands there.
      obtain ⟨hown, -⟩ := h.own j hheld (hj hheld)
      obtain ⟨hother, -⟩ := h.own i hi (hcalm i (hsame.symm.trans hplace) hi)
      rw [hsame, hother] at hown
      exact hne (Option.some.inj hown).symm
  | outside work =>
    rintro hacquired (hloud | htouched)
    · exact hj hacquired hloud
    · exact hevent work rfl (hplace ▸ htouched)

theorem Calm.run {at' : Location} (hcalm : c.Calm at') (h : c.Kept files base)
    (history : List (LockEvent files))
    (hevents : ∀ work : Interference files, .outside work ∈ history → at' ∉ work.touched) :
    (c.run history).Calm at' := by
  induction history generalizing c with
  | nil => exact hcalm
  | cons event rest ih =>
    apply ih
    · exact hcalm.step h event fun work he => hevents work (he ▸ List.mem_cons_self)
    · exact h.step event
    · exact fun work hwork => hevents work (List.mem_cons_of_mem event hwork)

/-! ### Releasing -/

/-- What releasing a lock does at some moment. -/
structure Releases (c : Custody ι) (i : ι) : Prop where
  /-- The file that is removed is not the lock's own exactly if that one has been disturbed. -/
  takesAway_iff : c.TakesAway i ↔ (c.process.locks i).acquired = true ∧ c.disturbed i ∧
    c.process.world.disk.file? (c.process.place i) ≠ none
  /-- A lock that is not acquired leaves everything as it is. -/
  idle : (c.process.locks i).acquired = false → c.process.apply Lock.release i = (c.process, none)
  /-- No other file is touched. -/
  elsewhere : ∀ at', at' ≠ c.process.place i →
    (c.process.apply Lock.release i).1.world.disk.file? at' = c.process.world.disk.file? at'

theorem Kept.releases (h : c.Kept files base) (i : ι) : c.Releases i := by
  by_cases hi : (c.process.locks i).acquired = true
  · have hbusy : (c.process.locks i).acquired ≠ false := by simp [hi]
    obtain ⟨later, happly, hkeeps, -, hgone⟩ | ⟨hnone, fault, happly⟩ := h.apply_release hi
    · refine ⟨⟨?_, ?_⟩, fun hfree => absurd hfree hbusy, ?_⟩
      · rintro ⟨hthere, -, hforeign⟩
        refine ⟨hi, ?_, hthere⟩
        by_contra hcalm
        exact hforeign (h.own i hi hcalm).1
      · rintro ⟨-, hloud, hthere⟩
        refine ⟨hthere, ?_, h.foreign i hi hloud⟩
        rw [happly]
        exact hgone
      · intro at' hat
        rw [happly]
        exact hkeeps.files at' hat
    · refine ⟨iff_of_false ?_ ?_, fun hfree => absurd hfree hbusy, ?_⟩
      · exact fun htakes => htakes.1 hnone
      · exact fun hall => hall.2.2 hnone
      · intro at' _
        rw [happly]
  · have hfree := Process.release_of_free (Bool.eq_false_iff.mpr hi)
    refine ⟨iff_of_false ?_ fun hall => hi hall.1, fun _ => hfree, ?_⟩
    · rintro ⟨hthere, hgone, -⟩
      rw [hfree] at hgone
      exact hthere hgone
    · intro at' _
      rw [hfree]

/-- Whatever has happened to the locks of a process before, releasing one of them removes a file that the
lock has not made exactly if there is one at its place and something else than the lock has been at the
place since it was acquired.  That never happens as long as nobody from outside has been there. -/
theorem run_releases {p : Process ι} (hruns : p.world.machine.Runs)
    (hfree : ∀ i, (p.locks i).acquired = false)
    (history : List (LockEvent fun i => (p.locks i).file)) (i : ι) :
    ((begun p).run history).Releases i ∧
      ((∀ work, .outside work ∈ history → p.place i ∉ work.touched) →
        ¬ ((begun p).run history).TakesAway i) := by
  have hbegun := Kept.begun hruns hfree
  have hkept := hbegun.run history
  refine ⟨hkept.releases i, fun houtside htakes => ?_⟩
  have hcalm : (begun p).Calm (p.place i) := by
    intro j _ hacquired
    rw [show ((begun p).process.locks j).acquired = false from hfree j] at hacquired
    cases hacquired
  obtain ⟨hacquired, hloud, -⟩ := (hkept.releases i).takesAway_iff.mp htakes
  refine hcalm.run hbegun history houtside i ?_ hacquired hloud
  rw [hkept.place]
  rfl

end

end Custody

/-- Another owner's file put at a place, unless a directory stands there. -/
def Interference.replacing {ι : Type} (files : ι → Path) (at' : Location) (content : ByteArray) :
    Interference files where
  act w := match w.disk.node? at' with
    | some (.directory _) => w
    | _ => { w with disk := w.disk.put at' (.file content w.now) }
  touched := [at']
  host w := by split <;> rfl
  process w := by split <;> rfl
  runs w h := by split <;> exact h
  current w := by split <;> rfl
  directory w i h := by
    split
    · exact h
    · rename_i hnot
      exact (Disk.keepsDirectories_put _ fun ⟨changed, hn⟩ => hnot changed hn).directoryAlong h
  file w i h := by
    split
    · rfl
    · have hne : (files i).resolve w.current ≠ at' := fun he => h (List.mem_singleton.mpr he)
      unfold Disk.file?
      rw [Disk.node?_put_of_ne _ hne]

/-- A lock is acquired, and then another owner's file is put at its place. -/
def Custody.overtaken (content : ByteArray) : Custody Bool :=
  let history : List (LockEvent fun i => (Process.pair.locks i).file) :=
    [.acquire false, .outside (.replacing _ (Process.pair.place false) content)]
  (begun Process.pair).run history

/-- The lock removes that file when it is released. -/
theorem Custody.run_releases_overtaken :
    let content := "\x7b\"pid\": 1\x7d".toUTF8
    let c := overtaken content
    c.process.world.disk.file? (c.process.place false) = some content ∧
      (c.process.apply Lock.release false).1.world.disk.file? (c.process.place false) = none := by
  intro content c
  have hfile : c.process.world.disk.file? (c.process.place false) = some content := by
    decide
  have hacquired : (c.process.locks false).acquired = true := by decide
  have hdisturbed : c.disturbed false := Or.inr (by decide)
  have hreleases : c.Releases false :=
    (run_releases Process.pair_fresh.runs (fun _ => rfl) _ false).1
  obtain ⟨-, hgone, -⟩ := hreleases.takesAway_iff.mpr
    ⟨hacquired, hdisturbed, hfile ▸ Option.some_ne_none _⟩
  exact ⟨hfile, hgone⟩

end ViewGen
