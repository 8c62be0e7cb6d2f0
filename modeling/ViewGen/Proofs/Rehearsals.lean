import ViewGen.Proofs.Attempts
import ViewGen.Proofs.Rebuilds
import ViewGen.Proofs.Releases

/-!
# Dry runs

A dry run decides what the run itself would decide with templates that render alike, and writes no view and
no manifest.  But it takes the lock, and for this it makes the directory of the lock file: where that one was
missing, it is there afterwards, empty.
-/

namespace ViewGen

/-- Where directories and files are the same, the same paths lead to directories. -/
theorem Disk.SameTree.directoryAlong {disk later : Disk} {current : Location} {path : Path}
    (h : disk.SameTree later) (hd : later.DirectoryAlong current path) :
    disk.DirectoryAlong current path := by
  have hkeeps : later.KeepsDirectories disk := fun at' hat => (h at').2.mp hat
  exact hkeeps.directoryAlong hd

/-! ## Taking the lock with other libraries -/

namespace Job

variable {ε δ α β : Type} {job : Job ε α} {next : α → Job ε β}

/-- Whether a job does the same whatever libraries there are. -/
def Blind (job : Job ε α) : Prop :=
  ∀ w libraries, job { w with libraries } = match job w with
    | .ok a later => .ok a { later with libraries }
    | .error fault later => .error fault { later with libraries }

theorem Blind.bind (h : job.Blind) (hnext : ∀ a, (next a).Blind) : (job >>= next).Blind := by
  intro w libraries
  have hfirst := h w libraries
  cases hjob : job w with
  | ok a later =>
    rw [hjob] at hfirst
    rw [bind_of_ok hfirst, bind_of_ok hjob, hnext a later libraries]
  | error fault later =>
    rw [hjob] at hfirst
    rw [bind_of_error hfirst, bind_of_error hjob]

theorem Blind.withFault (h : job.Blind) (f : ε → δ) : (job.withFault f).Blind := by
  intro w libraries
  unfold Job.withFault
  rw [h w libraries]
  cases job w <;> rfl

theorem blind_pure (a : α) : (pure a : Job ε α).Blind := fun _ _ => rfl

theorem blind_throw (fault : ε) : (throw fault : Job ε α).Blind := fun _ _ => rfl

theorem blind_note (level : Level) (message : String) : (note level message : Job ε Unit).Blind :=
  fun _ _ => rfl

theorem blind_wait (milliseconds : Nat) : (wait milliseconds : Job ε Unit).Blind := fun _ _ => rfl

theorem blind_change (f : Disk → Location → Moment → Except DiskFault Disk) :
    (change f).Blind := by
  intro w libraries
  unfold change
  cases f w.disk w.current w.now <;> rfl

theorem blind_ensureDirectories (path : Path) : (ensureDirectories path).Blind := by
  intro w libraries
  unfold ensureDirectories
  rcases w.disk.ensureDirectories w.current w.now path with ⟨disk, fault | u⟩ <;> rfl

end Job

namespace Lock

theorem blind_create (lock : Lock) : lock.create.Blind := by
  intro w libraries
  simp only [create]
  rcases w.disk.createFile w.current w.now lock.file _ with (cause | _) | disk
  · cases cause <;> rfl
  · rfl
  · rfl

theorem blind_stale (lock : Lock) : lock.stale.Blind := by
  intro w libraries
  unfold stale
  cases w.disk.stat w.current lock.file with
  | error fault => rfl
  | ok node =>
    cases Owner.read w.machine.depths.owner w.disk w.current lock.file with
    | error fault => rfl
    | ok owner => cases hstale : isStale? w.machine w.now node.changed owner <;> simp only [hstale]

theorem blind_attempt (lock : Lock) : lock.attempt.Blind := by
  have hremove : lock.remove.Blind := (Job.blind_change _).withFault _
  refine lock.blind_create.bind fun created => ?_
  cases created with
  | true => exact Job.blind_pure true
  | false =>
    refine lock.blind_stale.bind fun stale => ?_
    cases stale with
    | true => exact (Job.blind_note _ _).bind fun _ => hremove.bind fun _ => lock.blind_create
    | false => exact Job.blind_pure false

theorem blind_attemptFor (lock : Lock) (failure : LockFault) (polls : Nat) :
    (lock.attemptFor failure polls).Blind := by
  induction polls with
  | zero =>
    refine lock.blind_attempt.bind fun done => ?_
    cases done with
    | true => exact Job.blind_pure ()
    | false => exact Job.blind_throw failure
  | succ polls ih =>
    refine lock.blind_attempt.bind fun done => ?_
    cases done with
    | true => exact Job.blind_pure ()
    | false => exact (Job.blind_wait _).bind fun _ => ih

theorem blind_await (lock : Lock) : lock.await.Blind := by
  unfold await
  cases lock.timeout.polls? with
  | some polls => exact lock.blind_attemptFor _ polls
  | none => exact fun w libraries => lock.blind_attemptFor _ (lock.pollsUntilSettled w) w libraries

theorem blind_acquire {lock : Lock} (hfree : lock.acquired = false) : lock.acquire.Blind := by
  intro w libraries
  rw [acquire_eq hfree]
  exact ((Job.blind_ensureDirectories _).withFault _).bind (fun _ => lock.blind_await.bind fun _ =>
    (Job.blind_note _ _).bind fun _ => Job.blind_pure _) w libraries

end Lock

namespace RunOptions

variable {options : RunOptions} {w later : World} {r : Reconciliation}

/-- Outside of the lock file, taking the lock has done to the disk what making its directory does. -/
theorem Locked.made (h : options.Locked w) :
    ∃ made, w.disk.ensureDirectories w.current w.now options.lock.file.parent = (made, .ok ()) ∧
      ∀ at' ≠ options.lock.place w.current,
        (options.working w).disk.node? at' = made.node? at' := by
  obtain ⟨held, hacquire⟩ := h.acquired
  obtain ⟨made, hmade, htaken⟩ := Lock.acquire_taken rfl hacquire
  exact ⟨made, hmade, fun at' hne => htaken.outside at' hne⟩

/-! ## What a dry run does -/

/-- A dry run that succeeds gives what it has decided, and nothing but its lock file comes and goes while it
holds the lock. -/
theorem run_dry (hdry : options.dryRun = true) (hrun : run options w = .ok r later) :
    options.Locked w ∧ options.decision w = .ok r ∧
      later.disk = (options.working w).disk.erase (options.lock.place w.current) := by
  have hends := options.run_ends w
  rw [hrun] at hends
  cases hends with
  | settled hreal _ =>
    rw [hdry] at hreal
    cases hreal
  | rehearsed hlocked hdecided _ _ =>
    refine ⟨hlocked, hdecided, ?_⟩
    obtain ⟨last, hlast, -, hdisk⟩ := run_of_locked hlocked
    obtain ⟨start, hstart, hwork⟩ := runLocked_working options w
    rw [hdecided] at hwork
    obtain ⟨done, hdone, hplace⟩ := place_dryRun hdry r start
    rw [Job.after_of_ok (hwork.trans hplace), hdone.disk, hstart.disk] at hdisk
    rw [hwork.trans hplace, hrun] at hlast
    cases hlast
    exact hdisk

/-- The disk after a dry run is the disk before it with the directory of the lock file made, and with nothing
at the place of the lock file. -/
theorem node?_run_dry (hdry : options.dryRun = true) (hrun : run options w = .ok r later) :
    ∃ made, w.disk.ensureDirectories w.current w.now options.lock.file.parent = (made, .ok ()) ∧
      ∀ at', later.disk.node? at' =
        if at' = options.lock.place w.current then none else made.node? at' := by
  obtain ⟨hlocked, -, hdisk⟩ := run_dry hdry hrun
  obtain ⟨made, hmade, houtside⟩ := hlocked.made
  refine ⟨made, hmade, ?_⟩
  intro at'
  split
  · rename_i he
    rw [he, ← Job.after_of_ok hrun]
    exact hlocked.gone.2.1
  · rename_i hne
    rw [hdisk, Disk.node?_erase_of_ne hne, houtside at' hne]

/-- A dry run where nothing stands at the place of the lock file leaves the tree as it is exactly if the
directory of the lock file stands already. -/
theorem sameTree_run_dry (hdry : options.dryRun = true) (hrun : run options w = .ok r later)
    (hfree : w.disk.node? (options.lock.place w.current) = none) :
    w.disk.SameTree later.disk ↔ w.disk.DirectoryAlong w.current options.lock.file.parent := by
  obtain ⟨hlocked, -, -⟩ := run_dry hdry hrun
  constructor
  · intro hsame
    -- The directory stands after the run, and no directory is new.
    have hgone := hlocked.gone.2.2.2
    rw [Job.after_of_ok hrun] at hgone
    exact hsame.directoryAlong hgone
  · intro hdirectory
    obtain ⟨made, hmade, hnodes⟩ := node?_run_dry hdry hrun
    rw [Disk.ensureDirectories_of_directory hdirectory] at hmade
    cases hmade
    have hsame : ∀ at', later.disk.node? at' = w.disk.node? at' := by
      intro at'
      rw [hnodes]
      split
      · rename_i he
        rw [he, hfree]
      · rfl
    intro at'
    simp only [Disk.file?, Disk.IsDirectoryAt, hsame, and_self]

/-! ## What the run itself would do -/

/-- How a run ends whose dry run has decided: as decided, unless a view or the manifest cannot be written,
and then no file has changed but those of views that were to be written. -/
inductive Performs (options : RunOptions) (w : World) (r : Reconciliation) :
    EStateM.Result RunFault World Reconciliation → Prop
  | done {r' : Reconciliation} {last : World} : r'.views = r.views → r'.manifest = r.manifest →
      r'.written = r.changed.map (·.path) → Performs options w r (.ok r' last)
  | broken {fault : RunFault} {last : World} :
      ((∃ cause, fault = .write cause) ∨ ∃ cause, fault = .save cause) →
      w.Keeps { place | place ∈ placesOf options.output r.changed w.current ∨
        place = options.lock.place w.current } last →
      Performs options w r (.error fault last)

theorem written_of_decision (hdecided : options.decision w = .ok r) : r.written = [] := by
  obtain ⟨previous, views, -, -, -, rfl⟩ := exists_decided hdecided
  rfl

/-- However far a run comes with writing, it keeps all files but those of the views to be written and its
lock file. -/
theorem Locked.keeps_wrote {done : World} (h : options.Locked w)
    (hdone : (options.wrote r (options.working w)).Follows ∅ done)
    (hreleases : options.Releases w done later) :
    w.Keeps { place | place ∈ placesOf options.output r.changed w.current ∨
      place = options.lock.place w.current } later := by
  have hwrote := (options.wrote_follows r (options.working w)).keeps
  rw [h.follows.current] at hwrote
  refine (((h.follows.keeps.mono ?_).trans (hwrote.mono ?_)).trans
    (hdone.keeps.mono (Set.empty_subset _))).trans (hreleases.keeps.mono ?_)
  · exact fun place hp => Or.inr hp
  · intro place hp
    obtain ⟨view, hm, he⟩ := hp
    exact Or.inl ⟨view, (writeAll_initial _ _ _ _ _).1.subset hm, he⟩
  · exact fun place hp => Or.inr hp

theorem performs_of_decision (hreal : options.dryRun = false) (hlocked : options.Locked w)
    (hdecided : options.decision w = .ok r) : options.Performs w r (run options w) := by
  have hends := options.run_ends w
  generalize run options w = ended at hends
  cases hends with
  | refused hacquire _ =>
    obtain ⟨held, hheld⟩ := hlocked.acquired
    rw [hheld] at hacquire
    cases hacquire
  | undecided _ hfault _ =>
    rw [hdecided] at hfault
    cases hfault
  | rehearsed _ _ hdry _ =>
    rw [hreal] at hdry
    cases hdry
  | broken _ hresult _ hfault hdone hreleases =>
    rw [hdecided] at hresult
    cases hresult
    exact .broken hfault (hlocked.keeps_wrote hdone hreleases)
  | settled _ hsettled =>
    have hresult := hsettled.decided
    rw [hdecided] at hresult
    cases hresult
    refine .done rfl rfl ?_
    rw [written_of_decision hdecided, List.nil_append]

/-- Under the lock a run finds the same with other libraries, and decides the same where these render alike. -/
theorem Locked.decision_alike {files : Set Location} {libraries : Libraries} (h : options.Locked w)
    (hdecided : options.decision w = .ok r) (hlock : options.lock.place w.current ∉ files)
    (halike : options.RendersAlike files w { w with libraries }) :
    options.Locked { w with libraries } ∧ options.decision { w with libraries } = .ok r := by
  obtain ⟨held, hacquire⟩ := h.acquired
  have hblind : options.lock.acquire.Blind := Lock.blind_acquire rfl
  have hagain := hblind w libraries
  rw [hacquire] at hagain
  have hlocked := locked_of_acquire hagain
  have hworking : options.working { w with libraries } = { options.working w with libraries } :=
    Job.after_of_ok hagain
  have hkeeps : (options.working w).Keeps {options.lock.place w.current}
      (options.working { w with libraries }) := by
    rw [hworking]
    exact ⟨rfl, fun _ hat => hat, fun _ _ => rfl⟩
  have hrepeats := h.repeats hlocked halike hkeeps (Set.mem_singleton _) fun place hp he => by
    rw [Set.mem_singleton_iff] at he
    exact hlock (he ▸ hp)
  obtain ⟨previous, views, hprevious, hmodels, hshows, rfl⟩ := exists_decided hdecided
  refine ⟨hlocked, decided_eq_ok.mpr ⟨previous, options.models w, ?_, ?_,
    reconcileAll_of_shows hrepeats hshows⟩⟩
  · rw [hworking]
    exact hprevious
  · rw [hworking]
    exact hmodels

/-- A dry run that succeeds has written nothing, and tells what the run itself would come to where the
templates render alike then, whatever else the libraries do.  Its tree is the one before with the directory of
the lock file made and without a lock file.  So every other file stays, and where there was no lock file, the
tree stays as it is exactly if that directory stood already. -/
theorem run_rehearsed_tree (hreal : options.dryRun = false)
    (hrun : run options.rehearsed w = .ok r later) :
    r.written = [] ∧
    (∀ files libraries, options.lock.place w.current ∉ files →
      options.RendersAlike files w { w with libraries } →
      options.Performs { w with libraries } r (run options { w with libraries })) ∧
    (∃ made, w.disk.ensureDirectories w.current w.now options.lock.file.parent = (made, .ok ()) ∧
      ∀ at', later.disk.node? at' =
        if at' = options.lock.place w.current then none else made.node? at') ∧
    (∀ at' ≠ options.lock.place w.current, later.disk.file? at' = w.disk.file? at') ∧
    (w.disk.node? (options.lock.place w.current) = none →
      (w.disk.SameTree later.disk ↔ w.disk.DirectoryAlong w.current options.lock.file.parent)) := by
  have hdry : options.rehearsed.dryRun = true := rfl
  have hlock : options.rehearsed.lock = options.lock := rfl
  obtain ⟨hlocked, hdecided, -⟩ := run_dry hdry hrun
  obtain ⟨made, hmade, hnodes⟩ := node?_run_dry hdry hrun
  have hsame := sameTree_run_dry hdry hrun
  rw [hlock] at hmade hnodes hsame
  have hdecision : options.decision w = .ok r := hdecided
  refine ⟨written_of_decision hdecision, ?_, ⟨made, hmade, hnodes⟩, ?_, hsame⟩
  · intro files libraries hout halike
    have hreally : options.Locked w := hlocked.congr rfl
    obtain ⟨hlocked', hdecision'⟩ := hreally.decision_alike hdecision hout halike
    exact performs_of_decision hreal hlocked' hdecision'
  · intro at' hne
    have hgrows := w.disk.ensureDirectories_grows w.current w.now options.lock.file.parent
    rw [hmade] at hgrows
    have hnode : later.disk.node? at' = made.node? at' := (hnodes at').trans (if_neg hne)
    rw [← hgrows.file?_eq (Set.notMem_empty at')]
    simp only [Disk.file?, hnode]

end RunOptions

/-- The dry run of the small run decides what the run does, and leaves an output directory where there was
none. -/
theorem RunOptions.run_rehearsed_tree_small :
    ∃ r later r' last, run (.rehearsed .small) .small = .ok r later ∧
      run .small .small = .ok r' last ∧ r'.views = r.views ∧ r'.manifest = r.manifest ∧
      r.changed.length = 5 ∧ r.written = [] ∧
      World.small.disk.node? ["out"] = none ∧ later.disk.IsDirectoryAt ["out"] ∧
      ¬ World.small.disk.SameTree later.disk := by
  obtain ⟨r', hreal⟩ := exists_run_small
  obtain ⟨r, later, hrun⟩ := run_rehearsed hreal
  obtain ⟨hwritten, hperforms, ⟨made, hmade, hnodes⟩, -, hsame⟩ := run_rehearsed_tree rfl hrun
  have hends : small.Performs .small r (run .small .small) :=
    hperforms { place | place ∈ smallTemplates } .embedded
      (by decide : small.lock.place World.small.current ∉ smallTemplates) (rendersAlike_small rfl)
  rw [hreal] at hends
  have hlock : small.lock.place World.small.current = ["out", ".ramp-manifest.json.lock"] := by
    decide
  have hparent : small.lock.file.parent = ⟨.root, ["out"]⟩ := by decide
  have hnone : World.small.disk.node? ["out"] = none := by decide
  have hdirectory : later.disk.IsDirectoryAt ["out"] := by
    have hmakes := Disk.ensureDirectories_eq_ok hmade
    rw [hparent] at hmakes
    obtain ⟨changed, hnode⟩ := hmakes.2
    refine ⟨changed, (hnodes ["out"]).trans ?_⟩
    rw [hlock, if_neg (by decide)]
    exact hnode
  refine ⟨r, later, r', _, hrun, hreal, ?_, ?_, ?_, hwritten, hnone, hdirectory, ?_⟩
  · cases hends with
    | done hviews _ _ => exact hviews
  · cases hends with
    | done _ hmanifest _ => exact hmanifest
  · have hcounted : ((run (.rehearsed .small)).result? .small).map (·.changed.length) = some 5 := by
      decide +kernel
    rw [Job.result?_of_ok hrun] at hcounted
    exact Option.some.inj hcounted
  · rw [hsame (by rw [hlock]; decide), hparent]
    intro hstands
    exact Disk.not_isDirectoryAt_of_none hnone hstands.2

end ViewGen
