import ViewGen.Proofs.Runs

/-!
# Failing before anything is written

All views are rendered before the first one is written.  So a run that fails while it reads the manifest
or the schema, or while it renders a view, has changed no file by then, whatever it had decided to write,
and the lock it held is free again.
-/

namespace ViewGen

/-- Whether a run fails so while it decides what to write. -/
def RunFault.WhileDeciding : RunFault → Prop
  | .manifestTooDeep => True
  | .schema _ => True
  | .template _ => True
  | _ => False

/-! ## The first view that cannot be rendered -/

section

variable {ε : Type} {previous : Manifest} {render : Renderings ε} {extension : String}
  {models : List Model} {pairs : List (Model × ViewKind)} {views : List RenderedView} {fault : ε}

/-- Whether a pair of a model and a kind is the first whose rendering fails. -/
def FailsFirst (render : Renderings ε) (fault : ε) (pairs : List (Model × ViewKind)) : Prop :=
  ∃ before pair after, pairs = before ++ pair :: after ∧
    (∀ (i : Nat) earlier, before[i]? = some earlier →
      ∃ content, render i earlier.2 earlier.1 = .ok content) ∧
    render before.length pair.2 pair.1 = .error fault

/-- Of some pairs the first one fails first if its rendering fails; if it does not, a later one does. -/
theorem failsFirst_cons {pair : Model × ViewKind} {rest : List (Model × ViewKind)} :
    FailsFirst render fault (pair :: rest) ↔ render 0 pair.2 pair.1 = .error fault ∨
      (∃ content, render 0 pair.2 pair.1 = .ok content) ∧
        FailsFirst (fun i => render (i + 1)) fault rest := by
  constructor
  · rintro ⟨before, failing, after, hpairs, hbefore, hfails⟩
    cases before with
    | nil =>
      cases hpairs
      exact .inl hfails
    | cons first before =>
      cases hpairs
      exact .inr ⟨hbefore 0 pair rfl, before, failing, after, rfl,
        fun i earlier hearlier => hbefore (i + 1) earlier hearlier, hfails⟩
  · rintro (hfails | ⟨hfirst, before, failing, after, rfl, hbefore, hfails⟩)
    · exact ⟨[], pair, rest, rfl, by simp, hfails⟩
    · refine ⟨pair :: before, failing, after, rfl, fun i earlier hearlier => ?_, hfails⟩
      cases i with
      | zero =>
        cases hearlier
        exact hfirst
      | succ i => exact hbefore i earlier hearlier

/-- Rendering fails as the first pair does whose rendering fails. -/
theorem renderViews_eq_error {number : Nat} :
    (renderViews previous render extension number pairs).2 = .error fault ↔
      FailsFirst (fun i => render (number + i)) fault pairs := by
  -- On the pairs: what is rendered before the fault goes to those before it.
  induction pairs generalizing number with
  | nil => exact iff_of_false (fun h => nomatch h) (by simp [FailsFirst])
  | cons pair rest ih =>
    have hnumbers : (fun i => render (number + (i + 1))) = fun i => render (number + 1 + i) :=
      funext fun i => congrArg render (by omega)
    rw [failsFirst_cons, renderViews, hnumbers, ← ih, Nat.add_zero]
    cases hc : render number pair.2 pair.1 with
    | error cause => simp
    | ok content => simp

theorem reconcileAll_eq_error :
    reconcileAll models previous render extension = .error fault ↔
      FailsFirst render fault (viewsOf models) := by
  have hrender : (renderViews previous render extension 0 (viewsOf models)).2 = .error fault ↔
      FailsFirst (fun i => render (0 + i)) fault (viewsOf models) := renderViews_eq_error
  simp only [Nat.zero_add] at hrender
  rw [← hrender, reconcileAll]
  split
  · rename_i hr
    rw [hr]
    simp
  · rename_i hr
    rw [hr]
    simp

end

namespace RunOptions

variable {options : RunOptions} {w later : World} {fault : RunFault}

theorem decided_template {cause : TemplateFault}
    (h : options.decided w = .error (.template cause)) :
    ∃ models, Schema.read w.disk w.current options.schema = .ok models ∧
      FailsFirst (options.renderings w) cause (viewsOf models) := by
  obtain ⟨_, -, hfault⟩ | ⟨_, -, ⟨_, -, hfault⟩ | ⟨models, hread, _, hr, hfault⟩⟩ :=
    decided_eq_error.mp h
  · cases hfault
  · cases hfault
  · cases hfault
    exact ⟨models, hread, reconcileAll_eq_error.mp hr⟩

theorem decision_template {cause : TemplateFault}
    (h : options.decision w = .error (.template cause)) :
    FailsFirst (options.renderings (options.working w)) cause (viewsOf (options.models w)) := by
  obtain ⟨models, hread, hfails⟩ := decided_template h
  rw [RunOptions.models, hread]
  exact hfails

/-! ## What is left of a run that cannot decide -/

/-- A run that cannot decide takes the lock file away again and does nothing else. -/
theorem run_of_undecided (hlocked : options.Locked w) (h : options.decision w = .error fault) :
    ∃ later, run options w = .error fault later ∧
      later.disk = (options.working w).disk.erase (options.lock.place w.current) := by
  obtain ⟨later, hrun, -, hdisk⟩ := run_of_locked hlocked
  obtain ⟨start, hn, hwork⟩ := runLocked_working options w
  have hend : runLocked options (options.working w) = .error fault start := by
    rw [hwork, h]
  rw [hend] at hrun
  rw [Job.after_of_error hend, hn.disk] at hdisk
  exact ⟨later, hrun, hdisk⟩

theorem decision_of_error (hrun : run options w = .error fault later)
    (hfault : fault.WhileDeciding) : options.Locked w ∧ options.decision w = .error fault := by
  have hends := options.run_ends w
  rw [hrun] at hends
  cases hends with
  | refused _ _ => exact absurd hfault id
  | undecided hlocked hdecision _ => exact ⟨hlocked, hdecision⟩
  | broken _ _ _ hbroken _ _ =>
    obtain ⟨cause, rfl⟩ | ⟨cause, rfl⟩ := hbroken
    · exact absurd hfault id
    · exact absurd hfault id

/-- A run that fails while it decides leaves no lock file, and of everything else on the disk only
directories may be new: every other file has the bytes and the time of its last change that it had, and
none has come or gone.  Where it is a template that fails, all views before that one had been rendered. -/
theorem run_fails_early (hrun : run options w = .error fault later)
    (hfault : fault.WhileDeciding) :
    later.disk.node? (options.lock.place w.current) = none ∧
    (∀ at' ≠ options.lock.place w.current, later.disk.file? at' = w.disk.file? at' ∧
      (later.disk.node? at' = w.disk.node? at' ∨
        (w.disk.node? at' = none ∧ later.disk.IsDirectoryAt at'))) ∧
    ∀ cause, fault = .template cause →
      FailsFirst (options.renderings (options.working w)) cause (viewsOf (options.models w)) := by
  obtain ⟨hlocked, hdecision⟩ := decision_of_error hrun hfault
  obtain ⟨last, hlast, hdisk⟩ := run_of_undecided hlocked hdecision
  rw [hrun] at hlast
  cases hlast
  obtain ⟨content, hfile⟩ := hlocked.held.isFile
  rw [hlocked.follows.current] at hfile
  obtain ⟨changed, hn⟩ := Disk.file?_eq_some.mp hfile
  refine ⟨?_, ?_, ?_⟩
  · rw [hdisk]
    exact Disk.node?_erase_self
      (Disk.ne_nil_of_not_isDirectoryAt (Disk.not_isDirectoryAt_of_file hn))
  · intro at' hne
    have hsame : later.disk.node? at' = (options.working w).disk.node? at' := by
      rw [hdisk]
      exact Disk.node?_erase_of_ne hne
    unfold Disk.file? Disk.IsDirectoryAt
    rw [hsame]
    refine ⟨hlocked.follows.disk.file?_eq hne, ?_⟩
    obtain he | hmade | ⟨hin, -, -⟩ := hlocked.follows.disk at'
    · exact Or.inl he
    · exact Or.inr hmade
    · exact absurd hin hne
  · rintro cause rfl
    exact decision_template hdecision

end RunOptions

/-- The small world without the template of search views, where an old list view stands beside an old
manifest. -/
def World.lacking : World :=
  { World.small with
    disk := ⟨[(["out"], .directory 0), (["out", ".ramp-manifest.json"], .file "\x7b\x7d".toUTF8 0),
      (["out", "routes"], .directory 0), (["out", "routes", "a"], .directory 0),
      (RenderedView.smallPlace, .file "old".toUTF8 0)] ++
        Disk.small.nodes.filter (·.1 != ["templates", "Search.j2"])⟩ }

/-- The list view is rendered anew, but the search view cannot be, so the old ones stay. -/
theorem RunOptions.run_fails_early_lacking :
    ∃ later, run .small .lacking =
        .error (.template (.notFound .search ⟨.root, ["templates"]⟩)) later ∧
      later.disk.node? ["out", ".ramp-manifest.json.lock"] = none ∧
      later.disk.file? RenderedView.smallPlace = some "old".toUTF8 ∧
      later.disk.file? ["out", ".ramp-manifest.json"] = some "\x7b\x7d".toUTF8 := by
  have hfails : (run .small).fault? .lacking =
      some (.template (.notFound .search ⟨.root, ["templates"]⟩)) := by
    decide +kernel
  have hrun := Job.eq_error_of_fault? hfails
  have hlock : small.lock.place World.lacking.current = ["out", ".ramp-manifest.json.lock"] := by
    decide
  obtain ⟨hfree, hfiles, -⟩ := run_fails_early hrun trivial
  rw [hlock] at hfree hfiles
  exact ⟨_, hrun, hfree, (hfiles RenderedView.smallPlace (by decide)).1,
    (hfiles ["out", ".ramp-manifest.json"] (by decide)).1⟩

end ViewGen
