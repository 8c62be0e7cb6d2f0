import ViewGen.Proofs.Histories
import ViewGen.Proofs.Readings

/-!
# Runs without a manifest

Where the manifest tells the truth about the files, a run that finds it writes less than one that finds
none or a damaged one, and that is all the difference there is: the views, the entries of the next
manifest and every other file come out the same.
-/

namespace ViewGen

/-- The view as it is when nothing is known of what was generated before. -/
def RenderedView.renewed (view : RenderedView) : RenderedView :=
  { view with decision := .changed }

theorem decide_initial (model : String) (kind : ViewKind) (hash : String) :
    RenderedView.decide .initial model kind hash = .changed := rfl

/-- Against the initial manifest every view counts as changed. -/
theorem shows_initial {ε : Type} {previous : Manifest} {render : Renderings ε}
    {extension : String} {pairs : List (Model × ViewKind)} {views : List RenderedView}
    (h : List.Forall₂ (RenderedView.Shows previous render extension) pairs views) :
    List.Forall₂ (RenderedView.Shows .initial render extension) pairs
      (views.map (·.renewed)) := by
  refine List.forall₂_map_right_iff.mpr (h.imp fun pair view hshows => ?_)
  obtain ⟨number, content, hcontent, rfl⟩ := hshows
  refine ⟨number, content, hcontent, ?_⟩
  simp only [RenderedView.ofContent, RenderedView.renewed, decide_initial]

namespace Site

variable {site : Site} {options : RunOptions} {w v later later' done done' : World}
  {result result' : Reconciliation} {files : Set Location}

/-- Every entry of the manifest has the fingerprint of the file of its view. -/
def Truthful (site : Site) (w : World) : Prop :=
  ∀ bytes manifest, w.disk.file? site.manifestPlace = some bytes →
    Manifest.ofContent w.machine.depths.manifest bytes = .usable manifest →
    ∀ entry ∈ manifest.entries, ∀ model kind, entry.model = .ofString model →
      entry.viewType = .ofString kind.name → ∃ content,
        w.disk.fileContent w.current (site.output.join (viewPath model kind site.extension)) =
          .ok content ∧
        entry.hash = .ofString (Sha256.hexDigest content.toList)

/-- The manifest has been removed, or replaced by content that cannot be used, and nothing else has
happened to the disk. -/
structure Damaged (site : Site) (w v : World) : Prop where
  current : v.current = w.current
  same : w.disk.SameOutside {site.manifestPlace} v.disk
  unusable : v.disk.node? site.manifestPlace = none ∨ ∃ content changed,
    v.disk.node? site.manifestPlace = some (.file content changed) ∧
      Manifest.ofContent v.machine.depths.manifest content = .unusable

theorem Damaged.ofContent_eq (h : site.Damaged w v) {content : ByteArray}
    (hf : v.disk.file? site.manifestPlace = some content) :
    Manifest.ofContent v.machine.depths.manifest content = .unusable := by
  obtain ⟨moment, hn⟩ := Disk.file?_eq_some.mp hf
  obtain hnone | ⟨other, changed, hother, hunusable⟩ := h.unusable
  · rw [hnone] at hn
    cases hn
  · rw [hother] at hn
    cases hn
    exact hunusable

/-! ## The two runs -/

section

variable (hcurrent : w.current = site.current) (hcovers : site.Covers options)
  (h : options.Settled w result done later) (h' : options.Settled v result' done' later')
  (hdamaged : site.Damaged w v)

include hcurrent hcovers in
theorem manifestPlace_eq : options.manifestPath.resolve w.current = site.manifestPlace := by
  rw [hcurrent, hcovers.manifestPath_eq]
  rfl

include hcurrent hcovers h h' hdamaged in
/-- Under the lock the two runs find the same files, but for the manifest and the lock file. -/
theorem keeps_damaged :
    (options.working w).Keeps ({site.manifestPlace} ∪ {options.lock.place w.current})
      (options.working v) := by
  have hplace := manifestPlace_eq hcurrent hcovers
  have hfollows := h.locked.follows
  have hfollows' := h'.locked.follows
  have hwrote := options.wrote_follows result (options.working w)
  refine ⟨?_, ?_, ?_⟩
  · rw [hfollows'.current, hdamaged.current, hfollows.current]
  · -- The directory of the lock file is all that the first run has made by now.
    have hnot : ¬ w.disk.IsDirectoryAt site.manifestPlace := by
      rw [← hplace]
      exact fun hd => h.saved.2.2.1
        (hwrote.disk.keepsDirectories _ (hfollows.disk.keepsDirectories _ hd))
    have hkeeps := (hdamaged.same.keepsDirectories hnot).trans hfollows'.disk.keepsDirectories
    have hdirectory := h'.locked.directory
    rw [hdamaged.current] at hdirectory
    obtain ⟨made, hmade, htaken⟩ := h.locked.taken
    have hmadeKeeps := hkeeps.ensureDirectories hdirectory w.now
    rw [hmade] at hmadeKeeps
    obtain ⟨machine, moment, howned⟩ := htaken.owned
    obtain ⟨changed, hn⟩ := Disk.file?_eq_some.mp howned
    intro at' hd
    have hne : at' ≠ options.lock.place w.current :=
      fun he => Disk.not_isDirectoryAt_of_file hn (he ▸ hd)
    unfold Disk.IsDirectoryAt at hd
    rw [htaken.outside at' hne] at hd
    exact hmadeKeeps at' hd
  · intro at' hout
    have hlock : at' ∉ ({options.lock.place w.current} : Set Location) := fun hin => hout (Or.inr hin)
    have hlock' : at' ∉ ({options.lock.place v.current} : Set Location) := by
      rw [hdamaged.current]
      exact hlock
    rw [hfollows'.disk.file?_eq hlock', hfollows.disk.file?_eq hlock]
    unfold Disk.file?
    rw [hdamaged.same at' fun hin => hout (Or.inl hin)]

include hcurrent hcovers h h' hdamaged in
theorem previous_damaged :
    (options.manifestIn (options.working v)).result = .ok .initial := by
  unfold RunOptions.manifestIn
  rw [h'.locked.follows.machine]
  refine Manifest.result_read_of_unusable fun content hf => hdamaged.ofContent_eq ?_
  have hplace := manifestPlace_eq hcurrent hcovers
  have hwhere : (options.working v).current = w.current :=
    h'.locked.follows.current.trans hdamaged.current
  have hne : site.manifestPlace ∉ ({options.lock.place v.current} : Set Location) := by
    rw [hdamaged.current, ← hplace]
    exact Ne.symm (h.lock_ne w.current)
  rw [hwhere, hplace, h'.locked.follows.disk.file?_eq hne] at hf
  exact hf

variable (hschema : options.schema.resolve site.current ≠ site.manifestPlace)
  (hfiles : ∀ place ∈ files, place ≠ site.manifestPlace ∧ place ≠ site.lockPlace)
  (halike : options.RendersAlike files w v)

include hcurrent hcovers h h' hdamaged hschema hfiles halike in
/-- The run without a manifest decides on the same views and finds them all changed. -/
theorem views_damaged :
    options.models v = options.models w ∧
      result' = .ofViews .initial (result.views.map (·.renewed)) := by
  have hkeeps := keeps_damaged hcurrent hcovers h h' hdamaged
  have hrepeats := h.locked.repeats_again h'.locked hkeeps halike fun place hp => by
    rw [hcurrent, hcovers.place_lock]
    exact hfiles place hp
  rw [← hcurrent] at hschema
  obtain ⟨previous, views, -, hmodels, hshows, rfl⟩ := RunOptions.exists_decided h.decided
  obtain ⟨previous', models', hprevious', hmodels', hreconcile⟩ :=
    RunOptions.decided_eq_ok.mp h'.decided
  rw [previous_damaged hcurrent hcovers h h' hdamaged] at hprevious'
  cases hprevious'
  have hsame := h.locked.schema_again h'.locked hkeeps hschema hmodels
  have hread : options.models v = options.models w := by
    rw [RunOptions.models, hsame]
  rw [hmodels', Except.ok.injEq] at hsame
  subst hsame
  -- What the first run has shown, the renderings of the second show against the initial manifest.
  rw [reconcileAll_of_shows hrepeats (shows_initial hshows), Except.ok.injEq] at hreconcile
  exact ⟨hread, hreconcile.symm⟩

/-! ## The files -/

variable {view : RenderedView} (hnames : NamesApart (options.models w))

include hcurrent hcovers h hnames in
theorem fileContent_of_changed (hm : view ∈ result.views) (hc : view.isChanged = true) :
    later.disk.fileContent later.current (site.output.join view.path) =
      .ok view.content.toUTF8 := by
  have hmade := made_of_decided hcovers hnames h.decided hm
  have hnodup := nodup_places hcovers hnames h.decided w.current
  have hplace := manifestPlace_eq hcurrent hcovers
  rw [← hcovers.1] at hnodup ⊢
  refine h.fileContent_changed hnodup (List.mem_filter.mpr ⟨hm, hc⟩) ?_ ?_
  · rw [hplace, hcurrent, hcovers.1]
    exact hmade.place_ne.1
  · rw [hcurrent, hcovers.place_lock, hcovers.1]
    exact hmade.place_ne.2

include hcurrent hcovers h hnames in
/-- A view that is left alone is there with its fingerprint, since the manifest has told the truth. -/
theorem fileContent_of_unchanged (htruthful : site.Truthful w) (hm : view ∈ result.views)
    (hc : view.isChanged = false) :
    ∃ content, later.disk.fileContent later.current (site.output.join view.path) = .ok content ∧
      Sha256.hexDigest content.toList = view.hash := by
  have hmade := made_of_decided hcovers hnames h.decided hm
  have hnodup := nodup_places hcovers hnames h.decided w.current
  have hplace := manifestPlace_eq hcurrent hcovers
  have hkeeps := h.keeps
  obtain ⟨previous, views, hprevious, -, hviews, rfl⟩ := RunOptions.exists_decided h.decided
  have hdecision : RenderedView.decide previous view.model view.kind view.hash = .unchanged := by
    rw [← (shown_of_mem hviews hm).2.2]
    exact RenderedView.decision_of_isChanged hc
  obtain ⟨entry, hentry, hmodel, hkind, hhash⟩ := decide_eq_unchanged hdecision
  -- An entry was read, so the manifest on the disk can be used.
  rw [RunOptions.manifestIn, h.locked.follows.machine] at hprevious
  obtain ⟨bytes, hfile, hofContent⟩ := Manifest.exists_content_of_entry hprevious hentry
  have hne : site.manifestPlace ∉ ({options.lock.place w.current} : Set Location) := by
    rw [← hplace]
    exact Ne.symm (h.lock_ne w.current)
  rw [h.locked.follows.current, hplace, h.locked.follows.disk.file?_eq hne] at hfile
  obtain ⟨content, hcontent, hsame⟩ :=
    htruthful bytes previous hfile hofContent entry hentry view.model view.kind hmodel hkind
  rw [← hmade.path] at hcontent
  refine ⟨content, hkeeps.fileContent ?_ hcontent, ?_⟩
  · rintro (hin | he | he)
    · -- No other view stands at the place, and this one is not written.
      obtain ⟨other, hother, he⟩ := hin
      obtain ⟨hviews, hchanged⟩ := List.mem_filter.mp hother
      rw [hcovers.1] at he
      rw [List.inj_on_of_nodup_map hnodup hviews hm he, hc] at hchanged
      cases hchanged
    · rw [hplace, hcurrent] at he
      exact hmade.place_ne.1 he
    · rw [hcurrent, hcovers.place_lock] at he
      exact hmade.place_ne.2 he
  · rw [hhash, Units.ofString_inj] at hsame
    exact hsame.symm

include hcurrent hcovers h h' hdamaged in
theorem file?_damaged (hmodels : options.models v = options.models w) {at' : Location}
    (hout : at' ∉ options.viewPlaces (options.models w) site.current)
    (hne : at' ≠ site.manifestPlace) : later'.disk.file? at' = later.disk.file? at' := by
  have hplace := manifestPlace_eq hcurrent hcovers
  by_cases hlock : at' = options.lock.place w.current
  · -- Both runs have taken their lock file away.
    have hfree' := h'.lock_free
    rw [hdamaged.current] at hfree'
    rw [hlock]
    unfold Disk.file?
    rw [h.lock_free, hfree']
  · have hsame := hdamaged.same at' hne
    have hchanged := fun hin => hout (hcurrent ▸ h.placesOf_changed_subset hin)
    have hchanged' := fun hin => hout (hcurrent ▸ hdamaged.current ▸ hmodels ▸
      h'.placesOf_changed_subset hin)
    rw [h.keeps.files at' ?_, h'.keeps.files at' ?_]
    · unfold Disk.file?
      rw [hsame]
    · rw [hdamaged.current, hplace]
      rintro (hin | he | he)
      · exact hchanged' (hdamaged.current ▸ hin)
      · exact hne he
      · exact hlock he
    · rw [hplace]
      rintro (hin | he | he)
      · exact hchanged hin
      · exact hne he
      · exact hlock he

end

/-- A run on a tree whose manifest tells the truth, and the same run after the manifest has been
damaged. -/
structure Comparable (site : Site) (options : RunOptions) (w v : World) : Prop where
  current : w.current = site.current
  covers : site.Covers options
  names : NamesApart (options.models w)
  truthful : site.Truthful w
  damaged : site.Damaged w v

/-- Where every entry of the manifest has the fingerprint of its view's file, a real run that finds the
manifest and one that finds it gone or damaged leave the same: the same entries, every view with its
fingerprint, and every other file but the manifest. The second run finds all views changed. For this the
templates have to render alike, and to depend neither on the manifest nor on the lock file. -/
theorem run_without_manifest {r r' : Reconciliation} (hcomparable : site.Comparable options w v)
    (hreal : options.dryRun = false)
    (hschema : options.schema.resolve site.current ≠ site.manifestPlace)
    (hfiles : ∀ place ∈ files, place ≠ site.manifestPlace ∧ place ≠ site.lockPlace)
    (halike : options.RendersAlike files w v)
    (hrun : run options w = .ok r later) (hrun' : run options v = .ok r' later') :
    (Manifest.load site.output site.manifestFile later = .ok r.manifest later ∧
      Manifest.load site.output site.manifestFile later' = .ok r'.manifest later' ∧
      r'.manifest.entries = r.manifest.entries) ∧
    r'.views = r.views.map (·.renewed) ∧ (∀ view ∈ r'.views, view.isChanged = true) ∧
    (∀ view ∈ r.views, ∃ content content',
      later.disk.fileContent later.current (site.output.join view.path) = .ok content ∧
      later'.disk.fileContent later'.current (site.output.join view.path) = .ok content' ∧
      Sha256.hexDigest content.toList = view.hash ∧
      Sha256.hexDigest content'.toList = view.hash) ∧
    ∀ at' ∉ options.viewPlaces (options.models w) site.current, at' ≠ site.manifestPlace →
      later'.disk.file? at' = later.disk.file? at' := by
  obtain ⟨hcurrent, hcovers, hnames, htruthful, hdamaged⟩ := hcomparable
  obtain ⟨result, done, h, rfl⟩ := RunOptions.run_settled hreal hrun
  obtain ⟨result', done', h', rfl⟩ := RunOptions.run_settled hreal hrun'
  -- The second run decides as the first one does, but for finding every view changed.
  obtain ⟨hmodels, hresult'⟩ :=
    views_damaged hcurrent hcovers h h' hdamaged hschema hfiles halike
  have hentries : result.manifest.entries = result.views.map (·.entry) := by
    obtain ⟨previous, views, -, -, -, rfl⟩ := RunOptions.exists_decided h.decided
    rfl
  have hload := h.fileContent_manifest
  have hload' := h'.fileContent_manifest
  rw [hcovers.manifestPath_eq] at hload hload'
  have hchanged : ∀ view ∈ result'.views, view.isChanged = true := by
    rw [hresult']
    intro view hm
    obtain ⟨other, -, rfl⟩ := List.mem_map.mp hm
    rfl
  refine ⟨⟨Manifest.load_of_render hload, Manifest.load_of_render hload', ?_⟩, ?_, hchanged, ?_, ?_⟩
  · rw [hentries, hresult']
    exact List.map_map
  · rw [hresult']
    rfl
  · intro view hm
    have hm' : view.renewed ∈ result'.views := by
      rw [hresult']
      exact List.mem_map_of_mem hm
    have hnames' : NamesApart (options.models v) := hmodels ▸ hnames
    have hcontent' := fileContent_of_changed (hdamaged.current.trans hcurrent) hcovers h' hnames' hm'
      (hchanged _ hm')
    have hhash : Sha256.hexDigest view.content.toUTF8.toList = view.hash :=
      (made_of_decided hcovers hnames h.decided hm).hash.symm
    cases hc : view.isChanged with
    | true =>
      have hcontent := fileContent_of_changed hcurrent hcovers h hnames hm hc
      exact ⟨_, _, hcontent, hcontent', hhash, hhash⟩
    | false =>
      obtain ⟨content, hcontent, hsame⟩ :=
        fileContent_of_unchanged hcurrent hcovers h hnames htruthful hm hc
      exact ⟨content, _, hcontent, hcontent', hsame, hhash⟩
  · intro at' hout hne
    exact file?_damaged hcurrent hcovers h h' hdamaged hmodels hout hne

end Site

/-! ## Small runs -/

/-- The text of a manifest that knows the create view of the small run, and what it stands for. -/
def Manifest.partlyText : String :=
  "\x7b\"generatedViews\": [\x7b\"model\": \"A\", \"viewType\": \"Create\", \"hash\": " ++
    "\"e3b0c44298fc1c149afbf4c8996fb92427ae41e4649b934ca495991b7852b855\"\x7d]\x7d"

def Manifest.partly : Manifest :=
  ⟨currentVersion, [⟨.ofString "A", .ofString "Create",
    .ofString "e3b0c44298fc1c149afbf4c8996fb92427ae41e4649b934ca495991b7852b855"⟩]⟩

/-- The place of the manifest of the small run. -/
def Manifest.smallPlace : Location := ["out", ".ramp-manifest.json"]

/-- The small world with that manifest and the create view. -/
def World.partly : World :=
  { World.small with
    disk := ⟨[(["out"], .directory 0), (Manifest.smallPlace, .file Manifest.partlyText.toUTF8 0),
      (["out", "routes"], .directory 0), (["out", "routes", "a"], .directory 0),
      (["out", "routes", "a", "create.tsx"], .file "".toUTF8 0)] ++ Disk.small.nodes⟩ }

/-- The world with another content of the manifest. -/
def World.withManifest (w : World) (content : String) : World :=
  { w with disk := w.disk.put Manifest.smallPlace (.file content.toUTF8 0) }

namespace RunOptions

/-- The small run with the manifest for its schema. -/
def selfRead : RunOptions :=
  { RunOptions.small with schema := ⟨.root, Manifest.smallPlace⟩ }

/-- What a successful run counts. -/
def counted (options : RunOptions) (count : Reconciliation → Nat) (w : World) : Option Nat :=
  match run options w with
  | .ok r _ => some (count r)
  | .error _ _ => none

theorem exists_of_counted {options : RunOptions} {count : Reconciliation → Nat} {w : World} {n : Nat}
    (h : options.counted count w = some n) : ∃ r later, run options w = .ok r later ∧ count r = n := by
  unfold counted at h
  split at h
  · rename_i r later hrun
    exact ⟨r, later, hrun, Option.some_inj.mp h⟩
  · cases h

/-- Under a lock that can be taken, a run counts what it counts while it holds the lock. -/
theorem counted_of_locked {options : RunOptions} {count : Reconciliation → Nat} {w : World} {n : Nat}
    (hlocked : options.Locked w)
    (h : ((runLocked options).result? (options.working w)).map count = some n) :
    options.counted count w = some n := by
  obtain ⟨later, hrun, -, -⟩ := run_of_locked hlocked
  cases hended : runLocked options (options.working w) with
  | ok r done =>
    rw [hended] at hrun
    rw [Job.result?_of_ok hended] at h
    unfold counted
    rw [hrun]
    exact h
  | error fault done =>
    rw [Job.result?, hended] at h
    cases h

theorem locked_partly : small.Locked .partly :=
  locked_of_succeeds (by decide)

theorem ofContent_partly :
    Manifest.ofContent Depths.usual.manifest Manifest.partlyText.toUTF8 = .usable .partly := by
  have hread : Manifest.ofText Depths.usual.manifest Manifest.partlyText = .usable .partly := by
    decide +kernel
  exact (Manifest.ofContent_toUTF8 _).trans hread

theorem rendersAlike_partly {later : World}
    (hengine : later.libraries.engine = TemplateEngine.embedded) :
    small.RendersAlike { place | place ∈ smallTemplates } .partly later := by
  refine rendersAlike_embedded rfl rfl hengine fun kind => ⟨?_, ?_⟩
  · unfold Path.Leads
    cases kind <;> decide
  · show _ ∈ smallTemplates
    cases kind <;> decide

theorem counted_partly : small.counted (·.changed.length) .partly = some 4 := by
  have hcontent : World.partly.disk.fileContent World.partly.current small.manifestPath =
      .ok Manifest.partlyText.toUTF8 :=
    Disk.fileContent_eq_ok.mpr ⟨by unfold Path.Leads; decide, rfl⟩
  have hout : small.manifestPath.resolve World.partly.current ∉
      ({small.lock.place World.partly.current} : Set Location) := by
    rw [Set.mem_singleton_iff]
    decide
  have hkept := locked_partly.follows.keeps.fileContent hout hcontent
  have hread : Manifest.read (small.working .partly).machine.depths.manifest
      (small.working .partly).disk (small.working .partly).current small.manifestPath =
        .usable .partly := by
    rw [locked_partly.follows.machine]
    exact (Manifest.read_of_fileContent hkept).trans ofContent_partly
  refine counted_of_locked locked_partly ?_
  -- What the manifest stands for is known, so only the rest of the run is computed.
  rw [Job.result?, runLocked,
    Job.bind_of_ok (Job.withFault_eq_ok.mpr (Manifest.load_of_read hread))]
  decide +kernel

theorem models_partly : small.models .partly = [.small] := by
  decide

theorem runs_lost :
    Manifest.ofContent Depths.usual.manifest "lost".toUTF8 = .unusable ∧
    small.counted (·.changed.length) (World.partly.withManifest "lost") = some 5 := by
  decide +kernel

end RunOptions

namespace Site

theorem manifestPlace_small : History.smallSite.manifestPlace = Manifest.smallPlace := by decide

theorem file?_withManifest (w : World) (content : String) :
    (w.withManifest content).disk.file? History.smallSite.manifestPlace = some content.toUTF8 := by
  rw [manifestPlace_small]
  exact Disk.file?_put_self _ _ _ (by decide)

theorem damaged_withManifest (w : World) {content : String}
    (h : Manifest.ofContent w.machine.depths.manifest content.toUTF8 = .unusable) :
    History.smallSite.Damaged w (w.withManifest content) := by
  obtain ⟨changed, hn⟩ := Disk.file?_eq_some.mp (file?_withManifest w content)
  refine ⟨rfl, ?_, Or.inr ⟨_, changed, hn, h⟩⟩
  rw [manifestPlace_small]
  exact fun at' hout => Disk.node?_put_of_ne _ hout

theorem truthful_withManifest (w : World) {content : String}
    (h : Manifest.ofContent w.machine.depths.manifest content.toUTF8 = .unusable) :
    History.smallSite.Truthful (w.withManifest content) := by
  intro bytes manifest hf hofContent
  rw [file?_withManifest, Option.some.injEq] at hf
  rw [← hf] at hofContent
  cases h.symm.trans hofContent

theorem truthful_partly : History.smallSite.Truthful .partly := by
  have hfile : World.partly.disk.file? History.smallSite.manifestPlace =
      some Manifest.partlyText.toUTF8 := rfl
  intro bytes manifest hf hofContent entry hentry model kind hmodel hkind
  rw [hfile, Option.some.injEq] at hf
  rw [← hf] at hofContent
  cases RunOptions.ofContent_partly.symm.trans hofContent
  rw [Manifest.partly, List.mem_singleton] at hentry
  subst hentry
  rw [Units.ofString_inj] at hmodel
  have hcreate : kind = .create := ViewKind.name_inj (Units.ofString_inj.mp hkind).symm
  subst hmodel hcreate
  exact ⟨"".toUTF8, by decide, by decide +kernel⟩

theorem comparable_partly (options : RunOptions) (hcovers : History.smallSite.Covers options)
    (hmodels : options.models .partly = RunOptions.small.models .partly) :
    History.smallSite.Comparable options .partly (World.partly.withManifest "lost") := by
  refine ⟨rfl, hcovers, ?_, truthful_partly, damaged_withManifest _ RunOptions.runs_lost.1⟩
  rw [hmodels, RunOptions.models_partly, ← models_small]
  exact namesApart_small

/-- The create view is left alone by the one run and written again by the other. -/
theorem run_without_manifest_partly :
    ∃ r later r' later', run .small .partly = .ok r later ∧
      run .small (World.partly.withManifest "lost") = .ok r' later' ∧
      r.changed.length = 4 ∧ r'.changed.length = 5 ∧ r'.manifest.entries = r.manifest.entries ∧
      ∀ view ∈ r.views, ∃ content content',
        later.disk.fileContent later.current (History.smallSite.output.join view.path) =
          .ok content ∧
        later'.disk.fileContent later'.current (History.smallSite.output.join view.path) =
          .ok content' ∧
        Sha256.hexDigest content.toList = view.hash ∧
        Sha256.hexDigest content'.toList = view.hash := by
  obtain ⟨r, later, hrun, hfirst⟩ := RunOptions.exists_of_counted RunOptions.counted_partly
  obtain ⟨r', later', hrun', hsecond⟩ := RunOptions.exists_of_counted RunOptions.runs_lost.2
  have hcomparable := comparable_partly .small ⟨rfl, rfl, rfl⟩ rfl
  have hfiles : ∀ place ∈ RunOptions.smallTemplates, place ≠ History.smallSite.manifestPlace ∧
      place ≠ History.smallSite.lockPlace := by decide
  obtain ⟨⟨-, -, hentries⟩, -, -, hviews, -⟩ :=
    run_without_manifest hcomparable rfl (by decide) hfiles
      (RunOptions.rendersAlike_partly rfl) hrun hrun'
  exact ⟨r, later, r', later', hrun, hrun', hfirst, hsecond, hentries, hviews⟩

/-! ### Where the manifests differ -/

end Site

/-- The same run as a dry one. -/
def RunOptions.rehearsed (options : RunOptions) : RunOptions :=
  { options with dryRun := true }

/-- A dry run succeeds wherever the run itself does. -/
theorem RunOptions.run_rehearsed {options : RunOptions} {w later : World} {r : Reconciliation}
    (hrun : run options w = .ok r later) :
    ∃ r' later', run options.rehearsed w = .ok r' later' := by
  have hends := options.run_ends w
  rw [hrun] at hends
  obtain ⟨hlocked, result, hdecided⟩ : options.Locked w ∧
      ∃ result, options.decision w = .ok result := by
    cases hends with
    | rehearsed hlocked hdecided _ _ => exact ⟨hlocked, _, hdecided⟩
    | settled _ h => exact ⟨h.locked, _, h.decided⟩
  have hdecided' : options.rehearsed.decision w = .ok result := hdecided
  have hlocked' : options.rehearsed.Locked w := hlocked.congr rfl
  refine run_of_place hlocked' hdecided' fun start _ => ?_
  have hdry : options.rehearsed.dryRun = true := rfl
  obtain ⟨last, -, hplace⟩ := place_dryRun hdry result start
  exact ⟨_, last, hplace⟩

namespace Site

/-- A dry run leaves the manifest that it has found. -/
theorem load_rehearsed {site : Site} {options : RunOptions} {w later : World} {r : Reconciliation}
    {bytes : ByteArray} {manifest : Manifest} (hcurrent : w.current = site.current)
    (hcovers : site.Covers options) (hdry : options.dryRun = true)
    (hrun : run options w = .ok r later)
    (hc : w.disk.fileContent w.current site.manifestPath = .ok bytes)
    (hresult : (Manifest.ofContent w.machine.depths.manifest bytes).result = .ok manifest) :
    ∃ last, Manifest.load site.output site.manifestFile later = .ok manifest last := by
  have hends := options.run_ends w
  rw [hrun] at hends
  cases hends with
  | settled hreal _ =>
    rw [hdry] at hreal
    cases hreal
  | rehearsed _ _ _ hkeeps =>
    rw [hcurrent, hcovers.place_lock] at hkeeps
    have hkept : later.disk.fileContent later.current
        (Manifest.path site.output site.manifestFile) = .ok bytes := by
      refine hkeeps.fileContent ?_ hc
      rw [hcurrent]
      exact site.manifestPlace_ne_lockPlace
    have hmachine : later.machine = w.machine :=
      congrArg Setting.machine (RunOptions.run_setting hrun)
    have hload := Manifest.load_answers site.output site.manifestFile later
    rw [hmachine, Manifest.read_of_fileContent hkept, hresult] at hload
    obtain ⟨last, -, hlast⟩ := hload
    exact ⟨last, hlast⟩

/-- A world whose manifest is a schema, and the world after that has been emptied. -/
def selfRead : World := World.partly.withManifest "model A {
}
"

def emptied : World := selfRead.withManifest ""

theorem runs_selfRead :
    Manifest.ofContent Depths.usual.manifest "model A {
}
".toUTF8 = .unusable ∧
    Manifest.ofContent Depths.usual.manifest "".toUTF8 = .unusable ∧
    RunOptions.selfRead.models selfRead = [⟨"A", []⟩] ∧
    RunOptions.selfRead.counted (·.manifest.entries.length) selfRead = some 5 ∧
    RunOptions.selfRead.counted (·.manifest.entries.length) emptied = some 0 := by
  decide +kernel

theorem comparable_selfRead : History.smallSite.Comparable .selfRead selfRead emptied := by
  obtain ⟨hunusable, hempty, hmodels, -, -⟩ := runs_selfRead
  refine ⟨rfl, ⟨rfl, rfl, rfl⟩, ?_, truthful_withManifest _ hunusable, damaged_withManifest _ hempty⟩
  rw [hmodels]
  refine ⟨fun model hm => ?_, by decide⟩
  rw [List.mem_singleton.mp hm]
  decide

/-- The small world with an engine that has drawn a text to show. -/
def drawing (text : String) : World :=
  { World.small with
    libraries := { Libraries.embedded with engine := fun _ _ _ _ _ => .ok fun _ => .ok text } }

theorem runs_drawing :
    RunOptions.small.models (drawing "x") = [.small] ∧
    ((run .small).result? (drawing "x")).map (·.views.map (·.content)) =
      some ["x", "x", "x", "x", "x"] ∧
    ((run .small).result? (drawing "y")).map (·.views.map (·.content)) =
      some ["y", "y", "y", "y", "y"] := by
  decide +kernel

theorem comparable_drawing :
    History.smallSite.Comparable .small (drawing "x") (drawing "y") := by
  have hnone : ∀ text, (drawing text).disk.node? History.smallSite.manifestPlace = none := by
    intro text
    rw [manifestPlace_small]
    rfl
  refine ⟨rfl, ⟨rfl, rfl, rfl⟩, ?_, ?_, rfl, fun _ _ => rfl, Or.inl (hnone "y")⟩
  · rw [runs_drawing.1, ← models_small]
    exact namesApart_small
  · intro bytes manifest hf
    rw [Disk.file?, hnone] at hf
    cases hf

/-- A successful run records the fingerprints of what it shows. -/
theorem map_hash_entries {r : Reconciliation} (hreal : options.dryRun = false)
    (hrun : run options w = .ok r later) :
    r.manifest.entries.map (·.hash) =
      (r.views.map (·.content)).map fun content => .ofString (fingerprint content) := by
  obtain ⟨result, done, h, rfl⟩ := RunOptions.run_settled hreal hrun
  obtain ⟨previous, views, -, -, hviews, rfl⟩ := RunOptions.exists_decided h.decided
  show (views.map (·.entry)).map _ = _
  rw [List.map_map, List.map_map]
  refine List.map_congr_left fun view hm => ?_
  obtain ⟨-, hhash, -⟩ := shown_of_mem hviews hm
  exact congrArg Units.ofString hhash

/-- A run that has its manifest for the schema leaves other entries once that is emptied, and so does one
whose templates draw something else; and a dry run leaves the manifest that it has found, damaged or not. -/
theorem entries_differ :
    (History.smallSite.Comparable .selfRead selfRead emptied ∧ ∃ r later r' later',
      run .selfRead selfRead = .ok r later ∧ run .selfRead emptied = .ok r' later' ∧
      r'.manifest.entries ≠ r.manifest.entries) ∧
    (History.smallSite.Comparable .small (drawing "x") (drawing "y") ∧ ∃ r later r' later',
      run .small (drawing "x") = .ok r later ∧ run .small (drawing "y") = .ok r' later' ∧
      r'.manifest.entries ≠ r.manifest.entries) ∧
    History.smallSite.Comparable (.rehearsed .small) .partly (World.partly.withManifest "lost") ∧
      ∃ r later r' later' manifest manifest' last last',
      run (.rehearsed .small) .partly = .ok r later ∧
      run (.rehearsed .small) (World.partly.withManifest "lost") = .ok r' later' ∧
      Manifest.load History.smallSite.output History.smallSite.manifestFile later =
        .ok manifest last ∧
      Manifest.load History.smallSite.output History.smallSite.manifestFile later' =
        .ok manifest' last' ∧
      manifest'.entries ≠ manifest.entries := by
  refine ⟨?_, ?_, ?_⟩
  -- Counts tell the entries apart where the schema has other models, and fingerprints where a template has
  -- drawn another text.
  · obtain ⟨-, -, -, hfirst, hsecond⟩ := runs_selfRead
    obtain ⟨r, later, hrun, hcount⟩ := RunOptions.exists_of_counted hfirst
    obtain ⟨r', later', hrun', hcount'⟩ := RunOptions.exists_of_counted hsecond
    refine ⟨comparable_selfRead, r, later, r', later', hrun, hrun', fun he => ?_⟩
    rw [he, hcount] at hcount'
    exact absurd hcount' (by decide)
  · obtain ⟨-, hfirst, hsecond⟩ := runs_drawing
    obtain ⟨r, hresult, hcontents⟩ := Option.map_eq_some_iff.mp hfirst
    obtain ⟨r', hresult', hcontents'⟩ := Option.map_eq_some_iff.mp hsecond
    have hrun := Job.eq_ok_of_result? hresult
    have hrun' := Job.eq_ok_of_result? hresult'
    refine ⟨comparable_drawing, r, _, r', _, hrun, hrun', fun he => ?_⟩
    have hhashes := congrArg (List.map (·.hash)) he
    rw [map_hash_entries rfl hrun, map_hash_entries rfl hrun', hcontents, hcontents'] at hhashes
    simp only [List.map_cons, List.cons.injEq, Units.ofString_inj] at hhashes
    exact RenderedView.fingerprint_ne hhashes.1.symm
  · obtain ⟨hlost, hcounted'⟩ := RunOptions.runs_lost
    obtain ⟨_, _, hreal, -⟩ := RunOptions.exists_of_counted RunOptions.counted_partly
    obtain ⟨_, _, hreal', -⟩ := RunOptions.exists_of_counted hcounted'
    obtain ⟨r, later, hrun⟩ := RunOptions.run_rehearsed hreal
    obtain ⟨r', later', hrun'⟩ := RunOptions.run_rehearsed hreal'
    have hcovers : History.smallSite.Covers (.rehearsed .small) := ⟨rfl, rfl, rfl⟩
    have hcontent : World.partly.disk.fileContent World.partly.current
        History.smallSite.manifestPath = .ok Manifest.partlyText.toUTF8 :=
      Disk.fileContent_eq_ok.mpr ⟨by unfold Path.Leads; decide, rfl⟩
    have hcontent' : (World.partly.withManifest "lost").disk.fileContent World.partly.current
        History.smallSite.manifestPath = .ok "lost".toUTF8 :=
      Disk.fileContent_eq_ok.mpr ⟨by unfold Path.Leads; decide, file?_withManifest _ _⟩
    obtain ⟨last, hload⟩ := load_rehearsed rfl hcovers rfl hrun hcontent
      (congrArg Manifest.Loaded.result RunOptions.ofContent_partly)
    obtain ⟨last', hload'⟩ := load_rehearsed rfl hcovers rfl hrun' hcontent'
      (congrArg Manifest.Loaded.result hlost)
    exact ⟨comparable_partly _ hcovers rfl, r, later, r', later', _, _, last, last',
      hrun, hrun', hload, hload', by decide⟩

end Site

end ViewGen
