import ViewGen.Proofs.Failures
import ViewGen.Proofs.Waiting

/-!
# Runs leave no lock

However a run ends, there is no lock file after it if it got the lock, and nothing has changed but for new
directories if it did not.  So no run that has ended is in the way of a later one.
-/

namespace ViewGen

namespace Lock

/-- Where a lock is free, it is acquired by whoever asks first, however long that one would have
waited. -/
theorem acquire_of_gone {lock other : Lock} {w : World} (hfile : other.file = lock.file)
    (hfree : other.acquired = false) (hd : w.disk.DirectoryAlong w.current lock.file.parent)
    (hl : lock.file.Leads w.disk w.current) (hn : w.disk.node? (lock.place w.current) = none) :
    ∃ later, other.acquire w = .ok { other with acquired := true } later := by
  have hplace : other.place w.current = lock.place w.current := by rw [place, place, hfile]
  rw [← hfile] at hd hl
  rw [← hplace] at hn
  obtain ⟨later, hacquire, -⟩ := acquire_of_free hfree hd hl hn
  exact ⟨later, hacquire⟩

end Lock

namespace RunOptions

variable {options : RunOptions} {w later : World}

theorem run_of_refused {cause : LockFault} (h : options.lock.acquire w = .error cause later) :
    run options w = .error (.lock cause) later :=
  Job.bind_of_error (Job.withFault_eq_error.mpr ⟨cause, Job.bind_of_error h, rfl⟩)

/-- The lock file of a run is gone when the run is over, and its directory still stands. -/
theorem Locked.gone (h : options.Locked w) :
    ((run options).after w).current = w.current ∧
      ((run options).after w).disk.node? (options.lock.place w.current) = none ∧
      options.lock.file.Leads ((run options).after w).disk w.current ∧
      ((run options).after w).disk.DirectoryAlong w.current options.lock.file.parent := by
  obtain ⟨later, hrun, hsetting, hdisk⟩ := run_of_locked h
  have hcurrent : later.current = w.current := congrArg Setting.current hsetting
  have hafter : (run options).after w = later := by
    cases hwork : runLocked options (options.working w) with
    | ok result last =>
      rw [hwork] at hrun
      exact Job.after_of_ok hrun
    | error fault last =>
      rw [hwork] at hrun
      exact Job.after_of_error hrun
  have hdone := runLocked_confined options (options.working w)
  have hreleases := h.releases hdone hcurrent hdisk
  -- The lock file is still there when the work under the lock is done.
  have hheld := h.held.follows hdone
  obtain ⟨content, hfile⟩ := hheld.isFile
  have hwhere := hdone.current.trans h.follows.current
  rw [hwhere] at hfile
  obtain ⟨changed, hn⟩ := Disk.file?_eq_some.mp hfile
  have hleads := hheld.leads
  rw [hwhere] at hleads
  rw [hafter]
  refine ⟨hcurrent, ?_, hreleases.keeps.directories.leads hleads, ?_⟩
  · rw [hdisk]
    exact Disk.node?_erase_self
      (Disk.ne_nil_of_not_isDirectoryAt (Disk.not_isDirectoryAt_of_file hn))
  · exact hreleases.keeps.directories.directoryAlong
      (hdone.disk.keepsDirectories.directoryAlong h.directory)

/-- A run that gets the lock leaves no lock file, however it ends, and whoever wants the lock next gets it
at once.  One that does not get it fails with what acquiring fails with, every file stays as it is, and
nothing is new but directories.  Nothing at all is new where an owner that is alive holds the lock: it is
waited for in vain. -/
theorem run_leaves_no_lock (options : RunOptions) (w : World) :
    (∀ held working, options.lock.acquire w = .ok held working →
      ((run options).after w).disk.node? (options.lock.place w.current) = none ∧
      ∀ next : Lock, next.file = options.lock.file → next.acquired = false →
        ∃ later, next.acquire ((run options).after w) = .ok { next with acquired := true } later) ∧
    (∀ cause later, options.lock.acquire w = .error cause later →
      run options w = .error (.lock cause) later ∧
      ∀ at', later.disk.file? at' = w.disk.file? at' ∧
        (later.disk.node? at' = w.disk.node? at' ∨
          (w.disk.node? at' = none ∧ later.disk.IsDirectoryAt at'))) ∧
    ∀ content changed, options.lock.file.Leads w.disk w.current →
      w.disk.node? (options.lock.place w.current) = some (.file content changed) →
      Lock.LiveOwner w.machine content →
      ∃ later, run options w = .error (.lock options.lock.lost) later ∧ later.disk = w.disk := by
  refine ⟨?_, ?_, ?_⟩
  · intro held working hacquire
    obtain ⟨hcurrent, hgone, hleads, hdirectory⟩ := (locked_of_acquire hacquire).gone
    refine ⟨hgone, ?_⟩
    intro next hfile hfree
    rw [← hcurrent] at hgone hleads hdirectory
    exact Lock.acquire_of_gone hfile hfree hdirectory hleads hgone
  · intro cause later hacquire
    have hfollows := Lock.acquire_error rfl hacquire
    refine ⟨run_of_refused hacquire, ?_⟩
    intro at'
    refine ⟨hfollows.disk.file?_eq (Set.notMem_empty at'), ?_⟩
    obtain hsame | hmade | ⟨hin, -, -⟩ := hfollows.disk at'
    · exact Or.inl hsame
    · exact Or.inr hmade
    · exact absurd hin (Set.notMem_empty at')
  · intro content changed hleads hn hlive
    have hdirectory := Lock.directoryAlong_of_leads hleads
    exact ⟨_, run_of_refused (Lock.acquire_of_liveOwner rfl hdirectory hleads hn hlive), rfl⟩

end RunOptions

/-- The small world in which an owner that is alive has just taken the lock. -/
def World.taken : World :=
  { World.small with
    disk := ⟨[(["out"], .directory 0), (["out", ".ramp-manifest.json.lock"],
      .file (Lock.Owner.content World.bare.machine 0).toUTF8 0)] ++ Disk.small.nodes⟩ }

theorem World.taken_liveOwner :
    Lock.LiveOwner World.taken.machine (Lock.Owner.content World.bare.machine 0).toUTF8 :=
  Lock.liveOwner_content ⟨by decide, by decide⟩ 0

/-- The small run takes the lock and leaves none, and it is in vain where the lock is taken. -/
theorem RunOptions.run_leaves_no_lock_small :
    ((run .small).after .small).disk.node? ["out", ".ramp-manifest.json.lock"] = none ∧
      ∃ later, run .small .taken = .error (.lock (.timeout small.lock.file (.whole 0))) later ∧
        later.disk = World.taken.disk := by
  have hacquires : small.lock.acquire.succeeds .small = true := by decide
  obtain ⟨held, hacquire⟩ := Job.exists_of_succeeds hacquires
  have hleads : small.lock.file.Leads World.taken.disk World.taken.current :=
    Path.locate_eq_ok.mpr ⟨⟨by decide, by decide⟩, rfl⟩
  have hnode : World.taken.disk.node? (small.lock.place World.taken.current) =
      some (.file (Lock.Owner.content World.bare.machine 0).toUTF8 0) := rfl
  exact ⟨((run_leaves_no_lock .small .small).1 held _ hacquire).1,
    (run_leaves_no_lock .small .taken).2.2 _ _ hleads hnode World.taken_liveOwner⟩

end ViewGen
