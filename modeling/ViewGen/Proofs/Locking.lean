import ViewGen.Lock.Hold
import ViewGen.Proofs.Jobs

/-!
# Holding locks

An acquired lock stands as a file at its place, and beside it only directories have come to be; a lock
that cannot be acquired has changed no file.  While the lock is held a job may write files, and the
lock is released however the job ends.
-/

namespace ViewGen.Lock

variable {lock : Lock} {w later : World}

/-- Where the lock file stands, seen from the current directory. -/
def place (lock : Lock) (current : Location) : Location :=
  lock.file.resolve current

/-- The lock file is there, whoever created it. -/
structure Held (lock : Lock) (w : World) : Prop where
  leads : lock.file.Leads w.disk w.current
  isFile : ∃ content, w.disk.file? (lock.place w.current) = some content

theorem Held.follows {places : Set Location} (h : lock.Held w) (hf : w.Follows places later) :
    lock.Held later := by
  obtain ⟨content, hc⟩ := h.isFile
  have hleads := hf.disk.keepsDirectories.leads h.leads
  have hfile := hf.disk.file hc
  rw [← hf.current] at hleads hfile
  exact ⟨hleads, hfile⟩

/-- The world in which the lock file has just been created. -/
def created (lock : Lock) (w : World) : World :=
  { w with
    disk := w.disk.put (lock.place w.current)
      (.file (Owner.content w.machine w.now).toUTF8 w.now) }

/-! ## Attempts -/

/-- What an attempt may have done by its end: only one that succeeds has changed a file, the lock
file that is there now. -/
def Tried (lock : Lock) (w : World) : EStateM.Result LockFault World Bool → Prop
  | .ok true later => w.Follows {lock.place w.current} later ∧ lock.Held later
  | .ok false later => w.Follows ∅ later
  | .error _ later => w.Follows ∅ later

theorem Tried.of_noted {noted : World} {result : EStateM.Result LockFault World Bool}
    (hn : w.Noted noted) (h : lock.Tried noted result) : lock.Tried w result := by
  have hnothing : w.Follows ∅ noted := hn.follows ∅
  cases result with
  | ok answer later =>
    cases answer with
    | true =>
      have hplace := h.1
      rw [hn.current] at hplace
      exact ⟨(hn.follows _).trans hplace, h.2⟩
    | false => exact hnothing.trans h
  | error fault later => exact hnothing.trans h

theorem create_of_free (hl : lock.file.Leads w.disk w.current)
    (hn : w.disk.node? (lock.place w.current) = none) :
    lock.create w = .ok true (lock.created w) := by
  have hc : w.disk.createFile w.current w.now lock.file (Owner.content w.machine w.now).toUTF8 =
      .ok (lock.created w).disk := Disk.createNode_eq_ok.mpr ⟨hl, hn, rfl⟩
  unfold create
  simp only [hc]
  rfl

theorem create_tried (lock : Lock) (w : World) : lock.Tried w (lock.create w) := by
  unfold create
  simp only
  cases hc : w.disk.createFile w.current w.now lock.file
      (Owner.content w.machine w.now).toUTF8 with
  | ok made =>
    obtain ⟨hl, hn, rfl⟩ := Disk.createNode_eq_ok.mp hc
    have hd := Disk.not_isDirectoryAt_of_none hn
    have hg := Disk.Grows.putFile hd (Owner.content w.machine w.now).toUTF8 w.now
    have hf := w.disk.file?_put_self (Owner.content w.machine w.now).toUTF8 w.now
      (Disk.ne_nil_of_not_isDirectoryAt hd)
    exact ⟨⟨rfl, hg⟩, hg.keepsDirectories.leads hl, _, hf⟩
  | error fault =>
    cases fault with
    | embeddedNul => exact .refl _ w
    | system cause => cases cause <;> exact .refl _ w

/-- A lock file that is in the way is led to. -/
theorem leads_of_create_false (h : lock.create w = .ok false later) :
    later = w ∧ lock.file.Leads w.disk w.current := by
  unfold create at h
  simp only at h
  split at h
  · cases h
  · rename_i hc
    cases h
    exact ⟨rfl, Disk.leads_of_createNode_exists hc⟩
  · cases h
  · cases h

theorem stale_world {answer : Bool} (h : lock.stale w = .ok answer later) : later = w := by
  unfold stale at h
  split at h
  · cases h
  · split at h
    · cases h
    · split at h
      · cases h
      · cases h
        rfl

theorem stale_error {fault : LockFault} (h : lock.stale w = .error fault later) : later = w := by
  unfold stale at h
  split at h
  · cases h
    rfl
  · split at h
    · cases h
      rfl
    · split at h
      · cases h
        rfl
      · cases h

/-- A stale lock file is only removed to make way for a new one. -/
theorem replace_tried (hl : lock.file.Leads w.disk w.current) :
    lock.Tried w ((lock.remove >>= fun _ => lock.create) w) := by
  cases hremove : lock.remove w with
  | error fault middle =>
    rw [Job.bind_of_error hremove]
    obtain ⟨cause, hchange, -⟩ := Job.withFault_eq_error.mp hremove
    obtain ⟨-, rfl⟩ := Job.change_eq_error.mp hchange
    exact .refl _ middle
  | ok u middle =>
    rw [Job.bind_of_ok hremove]
    obtain ⟨removed, hr, rfl⟩ := Job.change_eq_ok.mp (Job.withFault_eq_ok.mp hremove)
    obtain rfl | ⟨-, hd, rfl⟩ := Disk.removeIfPresent_eq_ok hr
    · exact create_tried lock w
    · -- The place is free now, so the new lock file is created.
      have hne := Disk.ne_nil_of_not_isDirectoryAt hd
      have hleads := (Disk.keepsDirectories_erase hd).leads hl
      have hfree : (w.disk.erase (lock.file.resolve w.current)).node? (lock.place w.current) = none :=
        Disk.node?_erase_self hne
      rw [create_of_free hleads hfree]
      have hkeeps := Disk.keepsDirectories_put
        (.file (Owner.content w.machine w.now).toUTF8 w.now) (Disk.not_isDirectoryAt_of_none hfree)
      have hfile := Disk.file?_put_self (w.disk.erase (lock.file.resolve w.current))
        (Owner.content w.machine w.now).toUTF8 w.now hne
      refine ⟨⟨rfl, ?_⟩, hkeeps.leads hleads, _, hfile⟩
      intro at'
      by_cases he : at' = lock.place w.current
      · subst he
        exact Or.inr (Or.inr ⟨rfl, hd, _, hfile⟩)
      · exact Or.inl ((Disk.node?_put_of_ne _ he).trans (Disk.node?_erase_of_ne he))

theorem attempt_tried (lock : Lock) (w : World) : lock.Tried w (lock.attempt w) := by
  unfold attempt
  have htried := create_tried lock w
  -- One case for every way out: created at once, refused, taken over, or left to its owner.
  cases hcreate : lock.create w with
  | error fault middle =>
    rw [hcreate] at htried
    rw [Job.bind_of_error hcreate]
    exact htried
  | ok created middle =>
    rw [Job.bind_of_ok hcreate]
    cases created with
    | true =>
      rw [hcreate] at htried
      exact htried
    | false =>
      obtain ⟨rfl, hl⟩ := leads_of_create_false hcreate
      cases hstale : lock.stale middle with
      | error fault last =>
        rw [stale_error hstale] at hstale
        rw [if_neg (by decide), Job.bind_of_error hstale]
        exact .refl _ middle
      | ok answer last =>
        rw [stale_world hstale] at hstale
        rw [if_neg (by decide), Job.bind_of_ok hstale]
        cases answer with
        | true =>
          -- The stale lock is noted before it is replaced, which only the log shows.
          have hreplace : ∀ log, lock.Tried { middle with log }
              ((lock.remove >>= fun _ => lock.create) { middle with log }) :=
            fun log => replace_tried hl
          exact (hreplace _).of_noted ⟨_, rfl⟩
        | false => exact .refl _ middle

/-! ## Acquiring -/

/-- What acquiring may have done by its end: only success has changed a file, the lock file. -/
def Acquired (lock : Lock) (w : World) : EStateM.Result LockFault World Unit → Prop
  | .ok _ later => w.Follows {lock.place w.current} later ∧ lock.Held later
  | .error _ later => w.Follows ∅ later

theorem Acquired.after {w middle : World} {result : EStateM.Result LockFault World Unit}
    (hf : w.Follows ∅ middle) (h : lock.Acquired middle result) : lock.Acquired w result := by
  cases result with
  | ok u later =>
    have hplace := h.1
    rw [hf.current] at hplace
    exact ⟨(hf.mono (Set.empty_subset _)).trans hplace, h.2⟩
  | error fault later => exact hf.trans h

/-- An attempt, and something else if it fails. -/
theorem attempt_or_acquired {rest : Job LockFault Unit}
    (hrest : ∀ later, lock.Acquired later (rest later)) (w : World) :
    lock.Acquired w ((do if ← lock.attempt then pure () else rest) w) := by
  have htried := attempt_tried lock w
  cases hattempt : lock.attempt w with
  | error fault later =>
    rw [hattempt] at htried
    rw [Job.bind_of_error hattempt]
    exact htried
  | ok answer later =>
    rw [hattempt] at htried
    rw [Job.bind_of_ok hattempt]
    cases answer with
    | true => exact htried
    | false => exact (hrest later).after htried

/-- However long the lock is waited for, waiting changes nothing. -/
theorem attemptFor_acquired (lock : Lock) (failure : LockFault) (polls : Nat) (w : World) :
    lock.Acquired w (lock.attemptFor failure polls w) := by
  induction polls generalizing w with
  | zero =>
    refine attempt_or_acquired ?_ w
    intro later
    exact World.Follows.refl ∅ later
  | succ polls ih =>
    refine attempt_or_acquired ?_ w
    intro later
    -- Time passes, and the disk stays.
    have hwait : later.Follows ∅ { later with now := later.now + Timeout.pollInterval } :=
      ⟨rfl, .refl _ _⟩
    exact (ih _).after hwait

/-- Attempts as often as the timeout allows. -/
def await (lock : Lock) : Job LockFault Unit := do
  match lock.timeout.polls? with
  | some polls => lock.attemptFor (.timeout lock.file lock.timeout) polls
  | none => lock.attemptFor .unending (lock.pollsUntilSettled (← get))

theorem acquire_eq (hfree : lock.acquired = false) :
    lock.acquire = (do
      (Job.ensureDirectories lock.file.parent).withFault .disk
      lock.await
      Job.note .debug ("Acquired lock " ++ lock.file.render)
      pure { lock with acquired := true }) := by
  unfold acquire await
  rw [hfree, if_neg (by decide)]
  cases lock.timeout.polls? <;> rfl

/-- In a directory that is there, acquiring the lock is waiting for it. -/
theorem acquire_of_directory (hfree : lock.acquired = false)
    (hd : w.disk.DirectoryAlong w.current lock.file.parent) :
    lock.acquire w = (do
      lock.await
      Job.note .debug ("Acquired lock " ++ lock.file.render)
      pure { lock with acquired := true } : Job LockFault Lock) w := by
  have hmake : (Job.ensureDirectories lock.file.parent).withFault LockFault.disk w = .ok () w :=
    Job.withFault_eq_ok.mpr (Job.ensureDirectories_of_directory hd)
  rw [acquire_eq hfree, Job.bind_of_ok hmake]

theorem await_of_acquire {held : Lock} (hfree : lock.acquired = false)
    (h : lock.acquire w = .ok held later) :
    held = { lock with acquired := true } ∧ ∃ made waited log,
      (Job.ensureDirectories lock.file.parent).withFault LockFault.disk w = .ok () made ∧
      lock.await made = .ok () waited ∧ later = { waited with log } := by
  rw [acquire_eq hfree] at h
  obtain ⟨_, made, hmake, h⟩ := Job.bind_eq_ok.mp h
  obtain ⟨_, waited, hawait, h⟩ := Job.bind_eq_ok.mp h
  cases h
  exact ⟨rfl, made, waited, _, hmake, hawait, rfl⟩

theorem await_acquired (lock : Lock) (w : World) : lock.Acquired w (lock.await w) := by
  unfold await
  cases lock.timeout.polls? with
  | some polls => exact attemptFor_acquired lock _ polls w
  | none => exact attemptFor_acquired lock _ _ w

theorem acquire_eq_ok {held : Lock} (hfree : lock.acquired = false)
    (h : lock.acquire w = .ok held later) :
    held = { lock with acquired := true } ∧ w.Follows {lock.place w.current} later ∧
      lock.Held later ∧ later.disk.DirectoryAlong later.current lock.file.parent := by
  obtain ⟨rfl, made, waited, log, hmake, hawait, rfl⟩ := await_of_acquire hfree h
  have hfollows := ((Job.Confined.ensureDirectories lock.file.parent).withFault _).of_ok hmake
  have hdirectory := Job.ensureDirectories_directoryAlong (Job.withFault_eq_ok.mp hmake)
  have hacquired := await_acquired lock made
  rw [hawait] at hacquired
  have hkeeps := hacquired.1.disk.keepsDirectories.directoryAlong hdirectory
  have hall := hacquired.after hfollows
  rw [← hfollows.current, ← hacquired.1.current] at hkeeps
  exact ⟨rfl, ⟨hall.1.setting, hall.1.disk⟩, ⟨hall.2.leads, hall.2.isFile⟩, hkeeps⟩

theorem acquire_error {fault : LockFault} (hfree : lock.acquired = false)
    (h : lock.acquire w = .error fault later) : w.Follows ∅ later := by
  rw [acquire_eq hfree] at h
  have hmake := (Job.Confined.ensureDirectories lock.file.parent).withFault LockFault.disk
  obtain h | ⟨_, made, hok, h⟩ := Job.bind_eq_error.mp h
  · exact hmake.of_error h
  obtain h | ⟨_, waited, -, h⟩ := Job.bind_eq_error.mp h
  · have hacquired := await_acquired lock made
    rw [h] at hacquired
    exact (hmake.of_ok hok).trans hacquired
  · cases h

/-- A lock that is free is acquired at once. -/
theorem acquire_of_free (hfree : lock.acquired = false)
    (hd : w.disk.DirectoryAlong w.current lock.file.parent)
    (hl : lock.file.Leads w.disk w.current) (hn : w.disk.node? (lock.place w.current) = none) :
    ∃ later, lock.acquire w = .ok { lock with acquired := true } later ∧
      (lock.created w).Noted later := by
  have hattempt : lock.attempt w = .ok true (lock.created w) :=
    Job.bind_of_ok (create_of_free hl hn)
  have hfor : ∀ failure polls, lock.attemptFor failure polls w = .ok () (lock.created w) := by
    intro failure polls
    cases polls with
    | zero => exact Job.bind_of_ok hattempt
    | succ polls => exact Job.bind_of_ok hattempt
  have hawait : lock.await w = .ok () (lock.created w) := by
    unfold await
    cases lock.timeout.polls? with
    | some polls => exact hfor _ polls
    | none => exact hfor _ _
  rw [acquire_of_directory hfree hd, Job.bind_of_ok hawait]
  exact ⟨_, rfl, _, rfl⟩

/-! ## Releasing -/

/-- Releasing removes the lock file, and nothing else changes but the log. -/
theorem release_noted (h : lock.Held w) :
    ∃ later, { lock with acquired := true }.release w = .ok { lock with acquired := false } later ∧
      World.Noted { w with disk := w.disk.erase (lock.place w.current) } later := by
  obtain ⟨content, hc⟩ := h.isFile
  have hremove := Disk.removeIfPresent_of_file h.leads hc
  have hjob : { lock with acquired := true }.remove w =
      .ok () { w with disk := w.disk.erase (lock.place w.current) } :=
    Job.withFault_eq_ok.mpr (Job.change_eq_ok.mpr ⟨_, hremove, rfl⟩)
  unfold release
  rw [if_pos rfl, Job.bind_of_ok hjob]
  exact ⟨_, rfl, _, rfl⟩

theorem release_of_held (h : lock.Held w) :
    ∃ released later, { lock with acquired := true }.release w = .ok released later ∧
      later.setting = w.setting ∧ later.disk = w.disk.erase (lock.place w.current) := by
  obtain ⟨later, hrelease, hnoted⟩ := release_noted h
  exact ⟨_, later, hrelease, hnoted.setting, hnoted.disk⟩

/-! ## Working while the lock is held -/

section

variable {ε α : Type} {job : Job ε α} {places : Location → Set Location}

/-- The job is done in a world in which the lock is held, and only the lock file goes away after
it. -/
theorem during_of_acquired {held : Lock} {working : World} (hfree : lock.acquired = false)
    (hjob : job.Confined places) (hacquire : lock.acquire w = .ok held working) :
    ∃ later, lock.during job w = (match job working with
        | .ok a _ => .ok (.ok a) later
        | .error fault _ => .ok (.error fault) later) ∧
      later.setting = w.setting ∧
      later.disk = (job.after working).disk.erase (lock.place w.current) := by
  obtain ⟨rfl, hfollows, hheld, -⟩ := acquire_eq_ok hfree hacquire
  -- The job removes no file, so the lock is still held when it ends, and the release succeeds.
  have hafter := hjob working
  obtain ⟨released, later, hrelease, hsetting, hdisk⟩ := release_of_held (hheld.follows hafter)
  rw [hafter.current, hfollows.current] at hdisk
  refine ⟨later, ?_, hsetting.trans (hafter.setting.trans hfollows.setting), hdisk⟩
  unfold during
  rw [Job.bind_of_ok hacquire]
  cases hdone : job working with
  | ok a last =>
    rw [Job.after_of_ok hdone] at hrelease
    rw [Job.bind_of_ok (Job.outcome_of_ok hdone), Job.bind_of_ok hrelease]
    rfl
  | error fault last =>
    rw [Job.after_of_error hdone] at hrelease
    rw [Job.bind_of_ok (Job.outcome_of_error hdone), Job.bind_of_ok hrelease]
    rfl

end

end ViewGen.Lock
