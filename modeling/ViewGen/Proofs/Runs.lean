import ViewGen.Proofs.Decisions
import ViewGen.Proofs.Locking
import ViewGen.Proofs.Names

/-!
# How runs end

A run that gets the lock decides and places, and whatever comes of it, only the lock file goes away
after that.
-/

namespace ViewGen

namespace RunOptions

variable {options : RunOptions} {w w' : World} {result : Reconciliation} {fault : RunFault}

/-! ## Under the lock -/

/-- While it holds the lock, a run makes directories and writes files, and removes none. -/
theorem runLocked_confined (options : RunOptions) :
    (runLocked options).Confined fun _ => Set.univ := by
  intro w
  obtain ⟨later, hn, hrun⟩ := runLocked_eq options w
  cases hdecided : options.decided w with
  | error fault =>
    rw [hdecided] at hrun
    rw [Job.after_of_error hrun]
    exact hn.follows _
  | ok result =>
    rw [hdecided] at hrun
    rw [Job.after_congr hrun]
    exact (hn.follows _).trans (place_confined options result later)

/-- The world in which a run holds the lock. -/
def working (options : RunOptions) (w : World) : World :=
  options.lock.acquire.after w

/-- The lock is acquired, and held in the world the run works in. -/
structure Locked (options : RunOptions) (w : World) : Prop where
  acquired : ∃ held, options.lock.acquire w = .ok held (options.working w)
  follows : w.Follows {options.lock.place w.current} (options.working w)
  held : options.lock.Held (options.working w)
  directory : (options.working w).disk.DirectoryAlong w.current options.lock.file.parent

theorem locked_of_acquire {held : Lock} (h : options.lock.acquire w = .ok held w') :
    options.Locked w := by
  have hworking : options.working w = w' := Job.after_of_ok h
  obtain ⟨-, hfollows, hheld, hdirectory⟩ := Lock.acquire_eq_ok rfl h
  rw [← hworking] at h hfollows hheld hdirectory
  rw [hfollows.current] at hdirectory
  exact ⟨⟨held, h⟩, hfollows, hheld, hdirectory⟩

theorem locked_of_succeeds (h : options.lock.acquire.succeeds w = true) : options.Locked w := by
  obtain ⟨held, hacquire⟩ := Job.exists_of_succeeds h
  exact locked_of_acquire hacquire

/-- Runs on one lock take it alike. -/
theorem Locked.congr {other : RunOptions} (h : options.Locked w) (hlock : other.lock = options.lock) :
    other.Locked w := by
  have hworking : other.working w = options.working w := by
    unfold working
    rw [hlock]
  obtain ⟨hacquired, hfollows, hheld, hdirectory⟩ := h
  rw [← hlock, ← hworking] at *
  exact ⟨hacquired, hfollows, hheld, hdirectory⟩

theorem Locked.current_wrote (h : options.Locked w) (result : Reconciliation) :
    (options.wrote result (options.working w)).current = w.current :=
  (wrote_current options result (options.working w)).trans h.follows.current

/-- A manifest that has been saved is read again under the lock. -/
theorem Locked.result_manifestIn (h : options.Locked w) {manifest : Manifest}
    (hne : options.manifestPath.resolve w.current ≠ options.lock.place w.current)
    (hcontent : w.disk.fileContent w.current options.manifestPath = .ok manifest.render.toUTF8) :
    (options.manifestIn (options.working w)).result = .ok manifest := by
  have hkept := h.follows.keeps.fileContent hne hcontent
  rw [manifestIn, Manifest.read_of_render _ hkept]
  rfl

/-- The embedded engine shows a view at any time as it shows it first. -/
theorem renderings_embedded (hengine : w.libraries.engine = TemplateEngine.embedded) (number : Nat) :
    options.renderings w number = options.renderings w 0 := by
  unfold renderings
  rw [hengine]
  cases options.templates <;> rfl

/-- What a run decides, once it holds the lock. -/
def decision (options : RunOptions) (w : World) : Except RunFault Reconciliation :=
  options.decided (options.working w)

theorem runLocked_working (options : RunOptions) (w : World) :
    ∃ start, (options.working w).Noted start ∧ runLocked options (options.working w) =
      match options.decision w with
      | .error fault => .error fault start
      | .ok result => options.place result start :=
  runLocked_eq options (options.working w)

/-- The models that a run reads, once it holds the lock. -/
def models (options : RunOptions) (w : World) : List Model :=
  match Schema.read (options.working w).disk (options.working w).current options.schema with
  | .ok models => models
  | .error _ => []

/-- The views that a run decides on are those of the models it reads. -/
theorem exists_decided (h : options.decision w = .ok result) :
    ∃ previous views, (options.manifestIn (options.working w)).result = .ok previous ∧
      Schema.read (options.working w).disk (options.working w).current options.schema =
        .ok (options.models w) ∧
      List.Forall₂ (RenderedView.Shows previous (options.renderings (options.working w))
        options.extension) (viewsOf (options.models w)) views ∧
      result = .ofViews previous views := by
  obtain ⟨previous, found, hprevious, hfound, hreconcile⟩ := decided_eq_ok.mp h
  obtain ⟨views, hviews, rfl⟩ := reconcileAll_eq_ok hreconcile
  have hmodels : options.models w = found := by
    rw [models, hfound]
  rw [hmodels]
  exact ⟨previous, views, hprevious, hfound, hviews, rfl⟩

/-- A run works under the lock, and only the lock file goes away after that. -/
theorem run_of_locked (h : options.Locked w) :
    ∃ later, run options w = (match runLocked options (options.working w) with
        | .ok result _ => .ok result later
        | .error fault _ => .error fault later) ∧
      later.setting = w.setting ∧
      later.disk = ((runLocked options).after (options.working w)).disk.erase
        (options.lock.place w.current) := by
  obtain ⟨held, hacquire⟩ := h.acquired
  obtain ⟨later, hduring, hsetting, hdisk⟩ :=
    Lock.during_of_acquired rfl (runLocked_confined options) hacquire
  refine ⟨later, ?_, hsetting, hdisk⟩
  cases hrun : runLocked options (options.working w) with
  | ok result last =>
    rw [hrun] at hduring
    exact Job.bind_of_ok (Job.withFault_eq_ok.mpr hduring)
  | error fault last =>
    rw [hrun] at hduring
    exact Job.bind_of_ok (Job.withFault_eq_ok.mpr hduring)

/-! ## Endings of runs -/

/-- The views that a run writes, be it before a fault. -/
def written (options : RunOptions) (w : World) : List RenderedView :=
  match options.decision w with
  | .error _ => []
  | .ok result =>
    (writeAll (options.working w).current (options.working w).now options.output result.changed
      (options.working w).disk).2.1

theorem written_of_decided (h : options.decision w = .ok result) :
    options.written w = (writeAll (options.working w).current (options.working w).now options.output
      result.changed (options.working w).disk).2.1 := by
  unfold written
  rw [h]

theorem written_initial (h : options.decision w = .ok result) :
    options.written w <+: result.changed := by
  rw [written_of_decided h]
  exact (writeAll_initial _ _ _ _ _).1

/-- What a run writes to places of their own stands there once all is written. -/
theorem fileContent_wrote {view : RenderedView} (hdecided : options.decision w = .ok result)
    (hnodup : (result.views.map (·.place options.output (options.working w).current)).Nodup)
    (hm : view ∈ options.written w) :
    (options.wrote result (options.working w)).disk.fileContent
      (options.wrote result (options.working w)).current (options.output.join view.path) =
        .ok view.content.toUTF8 := by
  rw [written_of_decided hdecided] at hm
  exact writeAll_content (Reconciliation.nodup_map_changed hnodup) hm

/-- The lock file goes away and nothing else. -/
structure Releases (options : RunOptions) (w done later : World) : Prop where
  disk : later.disk = done.disk.erase (options.lock.place w.current)
  keeps : done.Keeps {options.lock.place w.current} later

theorem Locked.releases {later done : World} (h : options.Locked w)
    (hdone : (options.working w).Follows Set.univ done) (hcurrent : later.current = w.current)
    (hdisk : later.disk = done.disk.erase (options.lock.place w.current)) :
    options.Releases w done later := by
  obtain ⟨content, hfile⟩ := (h.held.follows hdone).isFile
  rw [hdone.current, h.follows.current] at hfile
  obtain ⟨changed, hn⟩ := Disk.file?_eq_some.mp hfile
  exact ⟨hdisk, .erase (hcurrent.trans (hdone.current.trans h.follows.current).symm) hdisk
    (Disk.not_isDirectoryAt_of_file hn)⟩

/-- What a real run that succeeds has done: under the lock it has decided, written all changed views
and then the manifest. -/
structure Settled (options : RunOptions) (w : World) (result : Reconciliation) (done later : World) :
    Prop where
  locked : options.Locked w
  decided : options.decision w = .ok result
  written : options.written w = result.changed
  manifest : Manifest.Written options.manifestPath options.manifestFile result.manifest
    (options.wrote result (options.working w)) done
  releases : options.Releases w done later

namespace Settled

variable {done later : World}

theorem current_working (h : options.Settled w result done later) :
    (options.working w).current = w.current :=
  h.locked.follows.current

theorem current_done (h : options.Settled w result done later) : done.current = w.current :=
  h.manifest.follows.current.trans h.current_working

/-- The manifest does not stand where the lock file has its directory. -/
theorem manifestPath_ne (h : options.Settled w result done later) :
    options.manifestPath ≠ options.lock.file.parent := by
  intro he
  -- The directory of the lock file is still one when the manifest is moved into its place.
  obtain ⟨made, hmade, -, hnot, -⟩ := h.manifest.replaced
  have hwrote := (options.wrote_follows result (options.working w)).disk.keepsDirectories
  have hgrows := (options.wrote result (options.working w)).disk.ensureDirectories_grows
    (options.wrote result (options.working w)).current
    (options.wrote result (options.working w)).now options.manifestPath.parent
  rw [hmade] at hgrows
  have hdirectory := (hwrote.trans hgrows.keepsDirectories).directoryAlong h.locked.directory
  rw [← he, ← h.current_working] at hdirectory
  exact hnot hdirectory.2

/-- No file named after the manifest by an ending is the manifest. -/
theorem ending_ne (h : options.Settled w result done later) (beside : Path) {ending : String}
    (current : Location) (hslash : '/' ∉ ending.toList) (hlong : 2 < ending.length) :
    (beside.joinName (options.manifestFile ++ ending)).resolve current ≠
      options.manifestPath.resolve current :=
  Path.resolve_ending_ne current h.manifestPath_ne h.manifest.named.2 hslash hlong

theorem lock_ne (h : options.Settled w result done later) (current : Location) :
    options.lock.place current ≠ options.manifestPath.resolve current :=
  h.ending_ne options.output current (by decide) (by decide)

theorem parent_eq (h : options.Settled w result done later) :
    options.manifestPath.parent = options.lock.file.parent :=
  Path.parent_joinName_append (by decide) (by decide) h.manifestPath_ne

theorem writeAll_eq (h : options.Settled w result done later) :
    writeAll (options.working w).current (options.working w).now options.output result.changed
      (options.working w).disk =
        ((options.wrote result (options.working w)).disk, result.changed, .ok ()) := by
  have hall : (writeAll (options.working w).current (options.working w).now options.output
      result.changed (options.working w).disk).2.1 = result.changed := by
    rw [← written_of_decided h.decided, h.written]
  exact Prod.ext rfl (Prod.ext hall (writeAll_of_all hall))

/-- The directory of the manifest is that of the lock file, so saving has made none: it has found a
temporary name, and changed nothing but the manifest. -/
theorem saved (h : options.Settled w result done later) :
    (options.wrote result (options.working w)).disk.DirectoryAlong w.current
        options.manifestPath.parent ∧
      Manifest.HasTemporary (options.wrote result (options.working w)).disk w.current
        options.manifestPath.parent options.manifestFile w.libraries.randomNames ∧
      ¬ (options.wrote result (options.working w)).disk.IsDirectoryAt
        (options.manifestPath.resolve w.current) ∧
      (options.wrote result (options.working w)).disk.SameOutside
        {options.manifestPath.resolve w.current} done.disk := by
  have hdirectory := (options.wrote_follows result
    (options.working w)).disk.keepsDirectories.directoryAlong h.locked.directory
  rw [← h.parent_eq] at hdirectory
  have hwhere := h.locked.current_wrote result
  obtain ⟨made, hmade, htemporary, hnot, hsame⟩ := h.manifest.replaced
  rw [hwhere, Disk.ensureDirectories_of_directory hdirectory] at hmade
  have hnames : (options.wrote result (options.working w)).libraries = w.libraries :=
    h.locked.follows.libraries
  rw [hwhere] at htemporary hnot hsame
  rw [hnames] at htemporary
  cases hmade
  exact ⟨hdirectory, htemporary, hnot, hsame⟩

theorem node?_later (h : options.Settled w result done later) {at' : Location}
    (hmanifest : at' ≠ options.manifestPath.resolve w.current)
    (hlock : at' ≠ options.lock.place w.current) :
    later.disk.node? at' = (options.wrote result (options.working w)).disk.node? at' := by
  rw [h.releases.disk, Disk.node?_erase_of_ne hlock]
  exact h.saved.2.2.2 at' hmanifest

/-- From beginning to end a run changes the files at the places of the views it writes, its manifest and
its lock file. -/
theorem keeps (h : options.Settled w result done later) :
    w.Keeps { place | place ∈ placesOf options.output result.changed w.current ∨
      place = options.manifestPath.resolve w.current ∨ place = options.lock.place w.current }
      later := by
  have hwhere := h.locked.current_wrote result
  have hwrote := (options.wrote_follows result (options.working w)).keeps
  have hmanifest := h.manifest.follows.keeps
  rw [h.writeAll_eq, h.current_working] at hwrote
  rw [hwhere] at hmanifest
  refine (((h.locked.follows.keeps.mono ?_).trans (hwrote.mono ?_)).trans (hmanifest.mono ?_)).trans
    (h.releases.keeps.mono ?_)
  · exact fun place hp => Or.inr (Or.inr hp)
  · exact fun place hp => Or.inl hp
  · exact fun place hp => Or.inr (Or.inl hp)
  · exact fun place hp => Or.inr (Or.inr hp)

/-- What is written to a place that no other view, neither the manifest nor the lock file has stands
there in the end. -/
theorem fileContent_changed (h : options.Settled w result done later) {view : RenderedView}
    (hnodup : (result.views.map (·.place options.output w.current)).Nodup)
    (hm : view ∈ result.changed)
    (hmanifest : view.place options.output w.current ≠ options.manifestPath.resolve w.current)
    (hlock : view.place options.output w.current ≠ options.lock.place w.current) :
    later.disk.fileContent later.current (options.output.join view.path) =
      .ok view.content.toUTF8 := by
  rw [← h.current_working] at hnodup
  have hwrote := fileContent_wrote h.decided hnodup (h.written ▸ hm)
  have hwhere := h.locked.current_wrote result
  have hkeeps := h.manifest.follows.keeps
  rw [hwhere] at hkeeps
  refine h.releases.keeps.fileContent ?_ (hkeeps.fileContent ?_ hwrote)
  · rw [h.current_done]
    exact hlock
  · rw [hwhere]
    exact hmanifest

/-- The manifest outlives the lock file. -/
theorem fileContent_manifest (h : options.Settled w result done later) :
    later.disk.fileContent later.current options.manifestPath =
      .ok result.manifest.render.toUTF8 := by
  refine h.releases.keeps.fileContent ?_
    (Disk.fileContent_eq_ok.mpr ⟨h.manifest.leads, h.manifest.content⟩)
  rw [h.current_done]
  exact Ne.symm (h.lock_ne w.current)

end Settled

/-- How a run can end, and what it has done by then. -/
inductive Ends (options : RunOptions) (w : World) :
    EStateM.Result RunFault World Reconciliation → Prop
  | refused {cause : LockFault} {later : World} : options.lock.acquire w = .error cause later →
      w.Follows ∅ later → Ends options w (.error (.lock cause) later)
  | undecided {fault : RunFault} {later : World} : options.Locked w →
      options.decision w = .error fault → w.Keeps {options.lock.place w.current} later →
      Ends options w (.error fault later)
  | rehearsed {result : Reconciliation} {later : World} : options.Locked w →
      options.decision w = .ok result → options.dryRun = true →
      w.Keeps {options.lock.place w.current} later → Ends options w (.ok result later)
  /-- A view or the manifest cannot be written. -/
  | broken {result : Reconciliation} {fault : RunFault} {done later : World} : options.Locked w →
      options.decision w = .ok result →
      options.dryRun = false → ((∃ cause, fault = .write cause) ∨ ∃ cause, fault = .save cause) →
      (options.wrote result (options.working w)).Follows ∅ done →
      options.Releases w done later → Ends options w (.error fault later)
  | settled {result : Reconciliation} {done later : World} : options.dryRun = false →
      options.Settled w result done later →
      Ends options w
        (.ok { result with written := result.written ++ result.changed.map (·.path) } later)

/-- How a run ends that has decided under the lock. -/
theorem ends_of_place {start later : World} (hlocked : options.Locked w)
    (hdecided : options.decision w = .ok result)
    (hn : (options.working w).Noted start) (hcurrent : later.current = w.current)
    (hdisk : later.disk =
      ((options.place result).after start).disk.erase (options.lock.place w.current)) :
    options.Ends w (match options.place result start with
      | .ok r _ => .ok r later
      | .error fault _ => .error fault later) := by
  have hreleases := hlocked.releases
    ((hn.follows _).trans (place_confined options result start)) hcurrent hdisk
  cases hplace : options.place result start with
  | error fault last =>
    rw [Job.after_of_error hplace] at hreleases
    obtain ⟨hreal, hfault, hlast⟩ := place_error hplace
    have hnoted := (options.wrote_noted result hn).follows ∅
    exact .broken hlocked hdecided hreal hfault (hnoted.trans hlast) hreleases
  | ok r last =>
    rw [Job.after_of_ok hplace] at hreleases
    cases hdry : options.dryRun with
    | true =>
      obtain ⟨hr, hsame⟩ := (place_dryRun hdry result start).of_ok hplace
      cases hr
      have hkeeps := ((hn.trans hsame).follows {options.lock.place w.current}).keeps
      exact .rehearsed hlocked hdecided hdry
        ((hlocked.follows.keeps.trans hkeeps).trans hreleases.keeps)
    | false =>
      obtain ⟨hall, hwritten, rfl⟩ := place_eq_ok hdry hplace
      have hwrote : options.written w = result.changed := by
        rw [written_of_decided hdecided]
        obtain ⟨log, rfl⟩ := hn
        exact hall
      exact .settled hdry
        ⟨hlocked, hdecided, hwrote, hwritten.of_noted (options.wrote_noted result hn), hreleases⟩

theorem run_ends (options : RunOptions) (w : World) : options.Ends w (run options w) := by
  cases hacquire : options.lock.acquire w with
  | error cause later =>
    have hrun : run options w = .error (.lock cause) later :=
      Job.bind_of_error (Job.withFault_eq_error.mpr ⟨cause, Job.bind_of_error hacquire, rfl⟩)
    rw [hrun]
    exact .refused hacquire (Lock.acquire_error rfl hacquire)
  | ok held working =>
    -- The lock is released however the work under it ends, so only that work is looked at.
    have hlocked := locked_of_acquire hacquire
    obtain ⟨later, hrun, hsetting, hdisk⟩ := run_of_locked hlocked
    have hcurrent : later.current = w.current := congrArg Setting.current hsetting
    obtain ⟨start, hn, hwork⟩ := runLocked_working options w
    cases hdecided : options.decision w with
    | error cause =>
      have hend : runLocked options (options.working w) = .error cause start := by
        rw [hwork, hdecided]
      rw [hend] at hrun
      rw [Job.after_of_error hend] at hdisk
      rw [hrun]
      have hreleases := hlocked.releases (hn.follows _) hcurrent hdisk
      have hkeeps := (hn.follows {options.lock.place w.current}).keeps
      exact .undecided hlocked hdecided
        ((hlocked.follows.keeps.trans hkeeps).trans hreleases.keeps)
    | ok result =>
      have hend : runLocked options (options.working w) = options.place result start := by
        rw [hwork, hdecided]
      rw [Job.after_congr hend] at hdisk
      rw [hrun, hend]
      exact ends_of_place hlocked hdecided hn hcurrent hdisk

/-- A run that succeeds keeps the setting. -/
theorem run_setting {r : Reconciliation} {later : World} (hrun : run options w = .ok r later) :
    later.setting = w.setting := by
  have hends := options.run_ends w
  rw [hrun] at hends
  have hlocked : options.Locked w := by
    cases hends with
    | rehearsed hlocked => exact hlocked
    | settled _ h => exact h.locked
  obtain ⟨last, hlast, hsetting, -⟩ := run_of_locked hlocked
  rw [hrun] at hlast
  split at hlast
  · cases hlast
    exact hsetting
  · cases hlast

theorem run_settled {r : Reconciliation} {later : World} (hreal : options.dryRun = false)
    (hrun : run options w = .ok r later) :
    ∃ result done, options.Settled w result done later ∧
      r = { result with written := result.written ++ result.changed.map (·.path) } := by
  have hends := options.run_ends w
  rw [hrun] at hends
  cases hends with
  | rehearsed _ _ hdry =>
    rw [hreal] at hdry
    cases hdry
  | @settled result done _ _ hsettled => exact ⟨result, done, hsettled, rfl⟩

/-- A run that can place what it has decided comes to its end. -/
theorem run_of_place (hlocked : options.Locked w)
    (hdecided : options.decision w = .ok result)
    (hplace : ∀ start, (options.working w).Noted start →
      ∃ r done, options.place result start = .ok r done) :
    ∃ r later, run options w = .ok r later := by
  obtain ⟨later, hrun, -, -⟩ := run_of_locked hlocked
  obtain ⟨start, hn, hwork⟩ := runLocked_working options w
  obtain ⟨r, done, hdone⟩ := hplace start hn
  have hend : runLocked options (options.working w) = .ok r done := by
    rw [hwork, hdecided]
    exact hdone
  rw [hend] at hrun
  exact ⟨r, later, hrun⟩

/-- A run that finds every view unchanged succeeds where it can save the manifest. -/
theorem run_of_unchanged (hreal : options.dryRun = false) (hlocked : options.Locked w)
    (hdecided : options.decision w = .ok result) (hnone : result.changed = [])
    (hsavable : Manifest.Savable options.manifestPath options.manifestFile (options.working w)) :
    ∃ r later, run options w = .ok r later ∧ r.views = result.views := by
  have hplace : ∀ start, (options.working w).Noted start →
      ∃ r last, options.place result start = .ok r last := by
    intro start hstart
    have hall : writeAll start.current start.now options.output result.changed start.disk =
        (start.disk, result.changed, .ok ()) := by
      rw [hnone]
      rfl
    refine place_of_writeAll hreal hall fun middle hmiddle => ?_
    obtain ⟨log, rfl⟩ := hstart.trans hmiddle
    have hlater : Manifest.Savable options.manifestPath options.manifestFile
        { options.working w with log } := ⟨hsavable.named, hsavable.room⟩
    exact Manifest.write_of_savable hlater result.manifest
  obtain ⟨r, later, hrun⟩ := run_of_place hlocked hdecided hplace
  obtain ⟨other, done, hsettled, rfl⟩ := run_settled hreal hrun
  cases hdecided.symm.trans hsettled.decided
  exact ⟨_, later, hrun, rfl⟩

/-- A run that does not write all changed views fails, and not before it writes. -/
theorem run_of_not_written (hreal : options.dryRun = false) (hlocked : options.Locked w)
    (hdecided : options.decision w = .ok result) (hnot : options.written w ≠ result.changed) :
    ∃ fault later, run options w = .error fault later ∧ ¬ fault.BeforeWriting := by
  have hends := options.run_ends w
  cases hrun : run options w with
  | ok r later =>
    obtain ⟨other, done, hsettled, -⟩ := run_settled hreal hrun
    cases hdecided.symm.trans hsettled.decided
    exact absurd hsettled.written hnot
  | error fault later =>
    refine ⟨fault, later, rfl, ?_⟩
    rw [hrun] at hends
    cases hends with
    | refused hrefused _ =>
      obtain ⟨held, hacquired⟩ := hlocked.acquired
      cases hrefused.symm.trans hacquired
    | undecided _ hfails _ => cases hdecided.symm.trans hfails
    | broken _ _ _ hfault =>
      obtain ⟨cause, rfl⟩ | ⟨cause, rfl⟩ := hfault
      · exact id
      · exact id

end RunOptions

/-! ## A small run -/

/-- A schema of one model, and templates of which one shows its fields. -/
def Disk.small : Disk where
  nodes := [
    (["schema"], .file "model A \x7b\n  x Int\n\x7d\n".toUTF8 0),
    (["templates"], .directory 0),
    (["templates", "List.j2"],
      .file "\x7b% for f in model.fields %\x7d\x7b\x7b f.name \x7d\x7d\x7b% endfor %\x7d".toUTF8 0),
    (["templates", "Create.j2"], .file "".toUTF8 0),
    (["templates", "Update.j2"], .file "".toUTF8 0),
    (["templates", "Delete.j2"], .file "".toUTF8 0),
    (["templates", "Search.j2"], .file "".toUTF8 0)]

def World.small : World :=
  { World.bare with disk := .small }

def Model.small : Model :=
  ⟨"A", [⟨"x", "Int", true, false, false, none, none⟩]⟩

def RunOptions.small : RunOptions where
  schema := ⟨.root, ["schema"]⟩
  output := ⟨.root, ["out"]⟩
  templates := .directory ⟨.root, ["templates"]⟩
  extension := defaultExtension
  manifestFile := Manifest.fileName
  timeout := .whole 0
  dryRun := false

theorem models_small : RunOptions.small.models .small = [.small] := by decide

/-- The place of the list view of the small run. -/
def RenderedView.smallPlace : Location := ["out", "routes", "a", "list.tsx"]

theorem run_small :
    ((run .small).succeeds .small &&
      (((run .small).after .small).disk.file? RenderedView.smallPlace).isSome) = true := by
  decide +kernel

theorem exists_run_small : ∃ r, run .small .small = .ok r ((run .small).after .small) := by
  have hsucceeds := run_small
  rw [Bool.and_eq_true] at hsucceeds
  exact Job.exists_of_succeeds hsucceeds.1

end ViewGen
