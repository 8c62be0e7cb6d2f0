import ViewGen.Proofs.Sites

/-!
# Histories of runs

Any number of runs on one output root, whatever happens beside them, as long as nobody else touches
the views written and the manifest: other templates, another engine or another machine are no matter.
The disk holds what was last written to every view, and the manifest knows it where the run that wrote
last was not broken off.
-/

namespace ViewGen

/-- What a call has left of itself: the views it wrote, and whether it came to its end. -/
structure Call where
  complete : Bool
  written : List RenderedView

/-- What happens beside the runs: everything but changes of the manifest and of the views written. -/
structure Site.Untouched (site : Site) (calls : List Call) (w later : World) : Prop where
  current : later.current = w.current
  manifest : later.disk.file? site.manifestPlace = w.disk.file? site.manifestPlace
  views : ∀ call ∈ calls, ∀ view ∈ call.written, ∀ content,
    w.disk.fileContent w.current (site.output.join view.path) = .ok content →
      later.disk.fileContent later.current (site.output.join view.path) = .ok content

/-- The worlds that calls on one output root lead to, the latest call first. It starts without a
manifest; a call that is refused, that fails before it writes, or that is a dry run leaves no trace. -/
inductive History (site : Site) : List Call → World → Prop
  | start {w : World} : w.current = site.current → w.disk.file? site.manifestPlace = none →
      History site [] w
  | elsewhere {calls : List Call} {w later : World} : History site calls w →
      site.Untouched calls w later → History site calls later
  | rehearsed {calls : List Call} {w later : World} {options : RunOptions} {r : Reconciliation} :
      History site calls w → site.Covers options → options.dryRun = true →
      run options w = .ok r later → History site calls later
  | refused {calls : List Call} {w later : World} {options : RunOptions} {fault : RunFault} :
      History site calls w → site.Covers options → run options w = .error fault later →
      fault.BeforeWriting → History site calls later
  | settled {calls : List Call} {w later : World} {options : RunOptions} {r : Reconciliation} :
      History site calls w → site.Covers options → options.dryRun = false →
      NamesApart (options.models w) → run options w = .ok r later →
      History site (⟨true, options.written w⟩ :: calls) later
  | broken {calls : List Call} {w later : World} {options : RunOptions} {fault : RunFault} :
      History site calls w → site.Covers options → NamesApart (options.models w) →
      run options w = .error fault later → ¬ fault.BeforeWriting →
      History site (⟨false, options.written w⟩ :: calls) later

/-- The call that wrote to a path last, and the view that it wrote there. -/
def lastWrite (path : Path) : List Call → Option (Call × RenderedView)
  | [] => none
  | call :: earlier =>
    match call.written.find? (·.path == path) with
    | some view => some (call, view)
    | none => lastWrite path earlier

theorem lastWrite_mem {path : Path} {calls : List Call} {call : Call} {view : RenderedView}
    (h : lastWrite path calls = some (call, view)) :
    call ∈ calls ∧ view ∈ call.written ∧ view.path = path := by
  induction calls with
  | nil => cases h
  | cons first earlier ih =>
    rw [lastWrite] at h
    split at h
    · rename_i found hfind
      cases h
      have hp := List.find?_some hfind
      exact ⟨List.mem_cons_self, List.mem_of_find?_eq_some hfind, beq_iff_eq.mp hp⟩
    · obtain ⟨hcall, hview⟩ := ih h
      exact ⟨List.mem_cons_of_mem first hcall, hview⟩

theorem lastWrite_cons_of_mem {path : Path} (call : Call) (calls : List Call)
    (h : ∃ view ∈ call.written, view.path = path) :
    ∃ view ∈ call.written, view.path = path ∧ lastWrite path (call :: calls) = some (call, view) := by
  obtain ⟨view, hm, hp⟩ := h
  rw [lastWrite]
  cases hfind : call.written.find? (·.path == path) with
  | some found =>
    have hfound := List.find?_some hfind
    exact ⟨found, List.mem_of_find?_eq_some hfind, beq_iff_eq.mp hfound, rfl⟩
  | none =>
    have hne := List.find?_eq_none.mp hfind view hm
    exact absurd (beq_iff_eq.mpr hp) hne

theorem lastWrite_cons_of_not_mem {path : Path} (call : Call) (calls : List Call)
    (h : ∀ view ∈ call.written, view.path ≠ path) :
    lastWrite path (call :: calls) = lastWrite path calls := by
  have hfind : call.written.find? (·.path == path) = none := by
    rw [List.find?_eq_none]
    intro view hm he
    exact h view hm (beq_iff_eq.mp he)
  rw [lastWrite, hfind]

theorem exists_lastWrite {calls : List Call} {call : Call} {view : RenderedView}
    (hcall : call ∈ calls) (hview : view ∈ call.written) :
    ∃ found, lastWrite view.path calls = some found := by
  induction calls with
  | nil => exact nomatch hcall
  | cons first earlier ih =>
    by_cases hm : ∃ other ∈ first.written, other.path = view.path
    · obtain ⟨other, -, -, hlast⟩ := lastWrite_cons_of_mem first earlier hm
      exact ⟨_, hlast⟩
    · obtain rfl | hearlier := List.mem_cons.mp hcall
      · exact absurd ⟨view, hview, rfl⟩ hm
      · rw [lastWrite_cons_of_not_mem first earlier fun other ho he => hm ⟨other, ho, he⟩]
        exact ih hearlier

namespace Site

variable {site : Site} {options : RunOptions} {view other : RenderedView} {models : List Model}

/-! ## What the disk holds -/

/-- The entry has the fingerprint of what was last written to its view, unless the call that wrote it
was broken off. -/
def Backed (site : Site) (calls : List Call) (entry : ManifestEntry) : Prop :=
  ∃ model kind call view, Path.IsName model ∧ entry.model = .ofString model ∧
    entry.viewType = .ofString kind.name ∧
    lastWrite (viewPath model kind site.extension) calls = some (call, view) ∧
    (call.complete = true → entry.hash = .ofString view.hash)

/-- What was last written to a view is there, and all entries of the manifest are backed. -/
structure Kept (site : Site) (calls : List Call) (w : World) : Prop where
  current : w.current = site.current
  made : ∀ call ∈ calls, ∀ view ∈ call.written, site.Made view
  files : ∀ path call view, lastWrite path calls = some (call, view) →
    w.disk.fileContent w.current (site.output.join path) = .ok view.content.toUTF8
  manifest : ∀ content, w.disk.file? site.manifestPlace = some content →
    ∃ manifest : Manifest, content = manifest.render.toUTF8 ∧
      ∀ entry ∈ manifest.entries, site.Backed calls entry

theorem Backed.broken {calls : List Call} {entry : ManifestEntry} (h : site.Backed calls entry)
    (views : List RenderedView) : site.Backed (⟨false, views⟩ :: calls) entry := by
  obtain ⟨model, kind, call, view, hname, hmodel, hkind, hlast, hhash⟩ := h
  -- Either the broken call has written the view, or the last write is still the same.
  by_cases hm : ∃ other ∈ views, other.path = viewPath model kind site.extension
  · obtain ⟨other, -, -, hother⟩ := lastWrite_cons_of_mem ⟨false, views⟩ calls hm
    exact ⟨model, kind, _, other, hname, hmodel, hkind, hother, fun hf => nomatch hf⟩
  · have hsame := lastWrite_cons_of_not_mem ⟨false, views⟩ calls
      fun other ho he => hm ⟨other, ho, he⟩
    exact ⟨model, kind, call, view, hname, hmodel, hkind, hsame.trans hlast, hhash⟩

namespace Kept

variable {calls : List Call} {w later : World} {result : Reconciliation} {complete : Bool}

theorem place_not_mem (h : site.Kept calls w) {path : Path} {call : Call}
    (hlast : lastWrite path calls = some (call, view)) :
    (site.output.join path).resolve w.current ∉ ({site.lockPlace} : Set Location) := by
  obtain ⟨hcall, hview, rfl⟩ := lastWrite_mem hlast
  rw [h.current]
  exact (h.made call hcall view hview).place_ne.2

theorem keeps (h : site.Kept calls w) (hk : w.Keeps {site.lockPlace} later) :
    site.Kept calls later := by
  refine ⟨hk.current.trans h.current, h.made, ?_, ?_⟩
  · intro path call view hlast
    exact hk.fileContent (h.place_not_mem hlast) (h.files path call view hlast)
  · rw [hk.files site.manifestPlace site.manifestPlace_ne_lockPlace]
    exact h.manifest

theorem untouched (h : site.Kept calls w) (hu : site.Untouched calls w later) :
    site.Kept calls later := by
  refine ⟨hu.current.trans h.current, h.made, ?_, ?_⟩
  · intro path call view hlast
    obtain ⟨hcall, hview, rfl⟩ := lastWrite_mem hlast
    exact hu.views call hcall view hview _ (h.files _ call view hlast)
  · rw [hu.manifest]
    exact h.manifest

/-- The manifest that is loaded has backed entries only. -/
theorem loaded (h : site.Kept calls w) :
    ∃ manifest, (Manifest.read w.machine.depths.manifest w.disk w.current
        site.manifestPath).result = .ok manifest ∧
      ∀ entry ∈ manifest.entries, site.Backed calls entry := by
  have hinitial : ∀ entry ∈ Manifest.initial.entries, site.Backed calls entry :=
    fun entry hm => nomatch hm
  obtain ⟨manifest, hfile, hbacked⟩ : ∃ manifest : Manifest,
      (∀ content, w.disk.file? (site.manifestPath.resolve w.current) = some content →
        content = manifest.render.toUTF8) ∧ ∀ entry ∈ manifest.entries, site.Backed calls entry := by
    rw [h.current]
    cases hf : w.disk.file? (site.manifestPath.resolve site.current) with
    | none => exact ⟨.initial, fun content hc => (nomatch hc), hinitial⟩
    | some content =>
      obtain ⟨manifest, hrender, hbacked⟩ := h.manifest content hf
      refine ⟨manifest, fun other hother => ?_, hbacked⟩
      cases hother
      exact hrender
  obtain hr | hr := Manifest.result_read_of_file w.machine.depths.manifest hfile
  · exact ⟨manifest, hr, hbacked⟩
  · exact ⟨.initial, hr, hinitial⟩

/-! ### While a run writes -/

section

variable (h : site.Kept calls w) (hcovers : site.Covers options)
  (hnames : NamesApart (options.models w)) (hlocked : options.Locked w)
  (hdecided : options.decision w = .ok result)

include h hcovers hlocked in
theorem working : site.Kept calls (options.working w) := by
  have hfollows := hlocked.follows.keeps
  rw [h.current, hcovers.place_lock] at hfollows
  exact h.keeps hfollows

include hdecided in
theorem written_subset (hm : view ∈ options.written w) : view ∈ result.changed :=
  (RunOptions.written_initial hdecided).subset hm

include hdecided in
theorem mem_views_of_written (hm : view ∈ options.written w) : view ∈ result.views :=
  (List.mem_filter.mp (written_subset hdecided hm)).1

include h hcovers hnames hdecided in
theorem made_cons (complete : Bool) :
    ∀ call ∈ (⟨complete, options.written w⟩ : Call) :: calls, ∀ view ∈ call.written,
      site.Made view := by
  intro call hcall view hview
  obtain rfl | hearlier := List.mem_cons.mp hcall
  · exact made_of_decided hcovers hnames hdecided (mem_views_of_written hdecided hview)
  · exact h.made call hearlier view hview

include hcovers hnames hdecided in
/-- Of the views of one run no two have the same path. -/
theorem eq_of_path_eq {other : RenderedView} (hview : view ∈ result.views)
    (hother : other ∈ result.views) (he : view.path = other.path) : view = other := by
  have hnodup := nodup_places hcovers hnames hdecided site.current
  refine List.inj_on_of_nodup_map hnodup hview hother ?_
  rw [RenderedView.place, RenderedView.place, he]

include h hcovers hnames hlocked hdecided in
theorem files_wrote (path : Path) (call : Call) (view : RenderedView)
    (hlast : lastWrite path (⟨complete, options.written w⟩ :: calls) = some (call, view)) :
    (options.wrote result (options.working w)).disk.fileContent
      (options.wrote result (options.working w)).current (site.output.join path) =
        .ok view.content.toUTF8 := by
  have hwritten : (writeAll (options.working w).current (options.working w).now options.output
      result.changed (options.working w).disk).2.1 = options.written w :=
    (RunOptions.written_of_decided hdecided).symm
  have hmade := h.made_cons hcovers hnames hdecided complete
  obtain ⟨hcall, hview, hpath⟩ := lastWrite_mem hlast
  by_cases hm : ∃ other ∈ options.written w, other.path = path
  · -- This run has written the path.
    obtain ⟨other, hother, rfl, hnow⟩ :=
      lastWrite_cons_of_mem ⟨complete, options.written w⟩ calls hm
    rw [hlast] at hnow
    cases hnow
    have hnodup := nodup_places hcovers hnames hdecided (options.working w).current
    rw [← hcovers.1] at hnodup ⊢
    exact RunOptions.fileContent_wrote hdecided hnodup hother
  · -- An earlier one has, and the views of this run stand elsewhere.
    have hbefore := (lastWrite_cons_of_not_mem ⟨complete, options.written w⟩ calls
      fun other ho he => hm ⟨other, ho, he⟩).symm.trans hlast
    have hworking := h.working hcovers hlocked
    have hfile := hworking.files path call view hbefore
    refine (options.wrote_follows result (options.working w)).keeps.fileContent ?_ hfile
    rw [hwritten]
    intro hplace
    obtain ⟨other, hother, he⟩ := hplace
    have hmadeOther := hmade _ List.mem_cons_self other hother
    rw [hcovers.1, ← hpath] at he
    exact hm ⟨other, hother, (hmadeOther.path_eq_of_place (hmade call hcall view hview) he).trans
      hpath⟩

/-! ### After a run -/

include h hcovers hnames hlocked hdecided in
theorem manifest_wrote :
    (options.wrote result (options.working w)).disk.file? site.manifestPlace =
      (options.working w).disk.file? site.manifestPlace := by
  refine (options.wrote_follows result (options.working w)).keeps.files _ ?_
  intro hplace
  obtain ⟨view, hview, he⟩ := hplace
  have hchanged := (writeAll_initial _ _ _ _ _).1.subset hview
  have hmade := made_of_decided hcovers hnames hdecided (List.mem_filter.mp hchanged).1
  rw [hcovers.1, (h.working hcovers hlocked).current] at he
  exact hmade.place_ne.1 he

include h hcovers hnames hlocked hdecided in
/-- A run that breaks off leaves the manifest as it was. -/
theorem broken : site.Kept (⟨false, options.written w⟩ :: calls)
    (options.wrote result (options.working w)) := by
  have hworking := h.working hcovers hlocked
  refine ⟨hworking.current, h.made_cons hcovers hnames hdecided false,
    h.files_wrote hcovers hnames hlocked hdecided, ?_⟩
  intro content hcontent
  rw [h.manifest_wrote hcovers hnames hlocked hdecided] at hcontent
  obtain ⟨manifest, hrender, hbacked⟩ := hworking.manifest content hcontent
  exact ⟨manifest, hrender, fun entry hm => (hbacked entry hm).broken _⟩

include hcovers hnames hdecided in
theorem lastWrite_changed (hall : options.written w = result.changed) (hm : view ∈ result.views)
    (hc : view.isChanged = true) (calls : List Call) (complete : Bool) :
    lastWrite view.path (⟨complete, options.written w⟩ :: calls) =
      some (⟨complete, options.written w⟩, view) := by
  have hview : view ∈ options.written w := by
    rw [hall]
    exact List.mem_filter.mpr ⟨hm, hc⟩
  obtain ⟨other, hother, hpath, hlast⟩ :=
    lastWrite_cons_of_mem ⟨complete, options.written w⟩ calls ⟨view, hview, rfl⟩
  have hviews := mem_views_of_written hdecided hother
  rw [hlast, eq_of_path_eq hcovers hnames hdecided hviews hm hpath]

include hcovers hnames hdecided in
theorem lastWrite_unchanged (hm : view ∈ result.views) (hc : view.isChanged = false)
    (calls : List Call) (complete : Bool) :
    lastWrite view.path (⟨complete, options.written w⟩ :: calls) = lastWrite view.path calls := by
  apply lastWrite_cons_of_not_mem
  intro other hother hpath
  obtain ⟨hviews, hchanged⟩ := List.mem_filter.mp (written_subset hdecided hother)
  rw [eq_of_path_eq hcovers hnames hdecided hviews hm hpath, hc] at hchanged
  cases hchanged

include h hcovers hnames hlocked hdecided in
/-- A view that is left alone was last written with its fingerprint, unless the call that wrote it
was broken off. -/
theorem lastWrite_of_unchanged (hm : view ∈ result.views) (hc : view.isChanged = false) :
    ∃ call last, lastWrite view.path calls = some (call, last) ∧
      (call.complete = true → view.hash = last.hash) := by
  have hmade := made_of_decided hcovers hnames hdecided hm
  obtain ⟨previous, views, hprevious, -, hviews, rfl⟩ := RunOptions.exists_decided hdecided
  have hdecision : RenderedView.decide previous view.model view.kind view.hash = .unchanged := by
    rw [← (shown_of_mem hviews hm).2.2]
    unfold RenderedView.isChanged at hc
    cases hdecided : view.decision with
    | changed =>
      rw [hdecided] at hc
      cases hc
    | unchanged => rfl
  -- The entry that vouches for the view is backed by the call that wrote the view last.
  obtain ⟨entry, hentry, hmodel, hkind, hhash⟩ := decide_eq_unchanged hdecision
  obtain ⟨manifest, hloaded, hbacked⟩ := (h.working hcovers hlocked).loaded
  rw [RunOptions.manifestIn, hcovers.manifestPath_eq, hloaded] at hprevious
  cases hprevious
  obtain ⟨model, kind, call, last, -, hmodel', hkind', hlast, hlastHash⟩ := hbacked entry hentry
  rw [hmodel, Units.ofString_inj] at hmodel'
  rw [hkind, Units.ofString_inj] at hkind'
  rw [← hmodel', ← ViewKind.name_inj hkind', ← hmade.path] at hlast
  refine ⟨call, last, hlast, fun hcomplete => ?_⟩
  have hsame := hlastHash hcomplete
  rw [hhash, Units.ofString_inj] at hsame
  exact hsame

include h hcovers hnames hlocked hdecided in
/-- Once all changed views are written, the entries of the next manifest are backed. -/
theorem backed_entry (hall : options.written w = result.changed) {entry : ManifestEntry}
    (hentry : entry ∈ result.manifest.entries) :
    site.Backed (⟨true, options.written w⟩ :: calls) entry := by
  have hentries : result.manifest.entries = result.views.map (·.entry) := by
    obtain ⟨previous, views, -, -, -, rfl⟩ := RunOptions.exists_decided hdecided
    rfl
  rw [hentries] at hentry
  obtain ⟨view, hview, rfl⟩ := List.mem_map.mp hentry
  have hmade := made_of_decided hcovers hnames hdecided hview
  -- A changed view was written by this run; of the others the previous manifest knows.
  cases hc : view.isChanged with
  | true =>
    have hlast := lastWrite_changed hcovers hnames hdecided hall hview hc calls true
    rw [hmade.path] at hlast
    exact ⟨view.model, view.kind, _, view, hmade.isName, rfl, rfl, hlast, fun _ => rfl⟩
  | false =>
    obtain ⟨call, last, hlast, hhash⟩ :=
      h.lastWrite_of_unchanged hcovers hnames hlocked hdecided hview hc
    rw [← lastWrite_unchanged hcovers hnames hdecided hview hc calls true, hmade.path] at hlast
    exact ⟨view.model, view.kind, call, last, hmade.isName, rfl, rfl, hlast,
      fun hcomplete => congrArg Units.ofString (hhash hcomplete)⟩

include h hcovers hnames in
/-- A run that comes to its end leaves a manifest of backed entries. -/
theorem settled {done : World} (hs : options.Settled w result done later) :
    site.Kept (⟨true, options.written w⟩ :: calls) later := by
  have hmade := h.made_cons hcovers hnames hs.decided true
  have hcurrent : (options.wrote result (options.working w)).current = site.current :=
    (h.working hcovers hs.locked).current
  have hkeeps := hs.manifest.follows.keeps
  rw [hcovers.manifestPath_eq, hcurrent] at hkeeps
  have hdone : site.Kept (⟨true, options.written w⟩ :: calls) done := by
    refine ⟨hkeeps.current.trans hcurrent, hmade, ?_, ?_⟩
    · intro path call view hlast
      refine hkeeps.fileContent ?_
        (h.files_wrote hcovers hnames hs.locked hs.decided path call view hlast)
      obtain ⟨hcall, hview, rfl⟩ := lastWrite_mem hlast
      rw [hcurrent]
      exact (hmade call hcall view hview).place_ne.1
    · intro content hcontent
      have hplace := hs.manifest.content
      rw [hkeeps.current, hcurrent, hcovers.manifestPath_eq] at hplace
      rw [manifestPlace, hplace] at hcontent
      cases hcontent
      exact ⟨result.manifest, rfl,
        fun _ hm => h.backed_entry hcovers hnames hs.locked hs.decided hs.written hm⟩
  have hreleases := hs.releases.keeps
  rw [h.current, hcovers.place_lock] at hreleases
  exact hdone.keeps hreleases

end

end Kept

end Site

/-! ## A session that goes back

The small run, then one on another schema that is broken off, and then one on the first schema again. -/

/-- What the templates of the small run make of a model: the list view shows the names of its fields, and
the others show nothing. -/
def Model.shown (model : Model) : ViewKind → String
  | .list => String.join (model.fields.map (·.name))
  | _ => ""

/-- What the small run decides on some models under a manifest. -/
def Reconciliation.shown (previous : Manifest) (models : List Model) : Reconciliation :=
  .ofViews previous ((viewsOf models).map fun pair =>
    .ofContent previous defaultExtension pair.1.name pair.2 (pair.1.shown pair.2))

/-- The manifest that the small run leaves. -/
def Manifest.recorded : Manifest :=
  (Reconciliation.shown .initial [.small]).manifest

/-- What the small run leaves, with some schema and some list view, and with a file where another model
would have its directory. -/
def World.generated (schema list : String) : World :=
  { World.small with
    disk := ⟨[(["schema"], .file schema.toUTF8 0), (["out"], .directory 0),
      (["out", ".ramp-manifest.json"], .file Manifest.recorded.render.toUTF8 0),
      (["out", "routes"], .directory 0), (["out", "routes", "c"], .file "".toUTF8 0),
      (["out", "routes", "a"], .directory 0),
      (["out", "routes", "a", "list.tsx"], .file list.toUTF8 0),
      (["out", "routes", "a", "create.tsx"], .file "".toUTF8 0),
      (["out", "routes", "a", "update.tsx"], .file "".toUTF8 0),
      (["out", "routes", "a", "delete.tsx"], .file "".toUTF8 0),
      (["out", "routes", "a", "search.tsx"], .file "".toUTF8 0)] ++ Disk.small.nodes⟩ }

/-- The model has another field, and there is one more model. -/
def World.extended : World :=
  .generated "model A \x7b\n  y Int\n\x7d\nmodel C \x7b\n  z Int\n\x7d\n" "x"

/-- The list view shows the other field, and the schema is the first one again. -/
def World.reverted : World :=
  .generated "model A \x7b\n  x Int\n\x7d\n" "y"

def World.extendedModels : List Model :=
  [⟨"A", [⟨"y", "Int", true, false, false, none, none⟩]⟩,
    ⟨"C", [⟨"z", "Int", true, false, false, none, none⟩]⟩]

namespace RenderedView

/-- The list view that shows the other field. -/
def revised : RenderedView :=
  .ofContent .recorded defaultExtension "A" .list "y"

/-- The views of the model that there is one more of. -/
def added : List RenderedView :=
  ViewKind.all.map fun kind => .ofContent .recorded defaultExtension "C" kind
    (match kind with
    | .list => "z"
    | _ => "")

theorem find?_recorded (kind : ViewKind) :
    Manifest.recorded.find? (.ofString "A") (.ofString kind.name) =
      some ⟨.ofString "A", .ofString kind.name,
        .ofString (fingerprint (Model.small.shown kind))⟩ := by
  cases kind <;> rfl

theorem isChanged_recorded (kind : ViewKind) (content : String) :
    (ofContent .recorded defaultExtension "A" kind content).isChanged = true ↔
      fingerprint (Model.small.shown kind) ≠ fingerprint content := by
  simp only [isChanged, ofContent, decide, find?_recorded, Units.ofString_inj]
  split
  · rename_i he
    exact ⟨fun hf => (nomatch hf), fun hne => absurd he hne⟩
  · rename_i hne
    exact ⟨fun _ => hne, fun _ => rfl⟩

theorem fingerprint_ne : fingerprint "x" ≠ fingerprint "y" := by decide +kernel

/-- Of the model that has another field the list view is new, and of the other model all views are. -/
theorem changed_extended :
    (Reconciliation.shown .recorded World.extendedModels).changed = revised :: added := by
  have hviews : (Reconciliation.shown .recorded World.extendedModels).views =
      revised :: (ViewKind.all.tail.map fun kind =>
        ofContent .recorded defaultExtension "A" kind "") ++ added := rfl
  have hrevised : revised.isChanged = true := (isChanged_recorded .list "y").mpr fingerprint_ne
  have hadded : added.filter (·.isChanged) = added := rfl
  rw [Reconciliation.changed, hviews, List.filter_append, List.filter_cons_of_pos hrevised, hadded,
    List.filter_eq_nil_iff.mpr, List.singleton_append]
  intro view hm hchanged
  obtain ⟨kind, hkind, rfl⟩ := List.mem_map.mp hm
  refine (isChanged_recorded kind "").mp hchanged ?_
  cases kind with
  | list => exact absurd hkind (by decide)
  | _ => rfl

theorem changed_reverted : (Reconciliation.shown .recorded [.small]).changed = [] := by
  refine List.filter_eq_nil_iff.mpr fun view hm => ?_
  obtain ⟨⟨model, kind⟩, hpair, rfl⟩ := List.mem_map.mp hm
  cases List.mem_singleton.mp (mem_of_mem_viewsOf hpair)
  exact fun hchanged => (isChanged_recorded kind _).mp hchanged rfl

end RenderedView

namespace RunOptions

/-- The small run gets the lock in a world, and reads models there that its templates show as above. -/
def Finds (w : World) (models : List Model) : Prop :=
  small.lock.acquire.succeeds w = true ∧
    Schema.read (small.working w).disk (small.working w).current small.schema = .ok models ∧
    ∀ pair ∈ viewsOf models,
      small.renderings (small.working w) 0 pair.2 pair.1 = .ok (pair.1.shown pair.2)

instance (w : World) (models : List Model) : Decidable (Finds w models) :=
  inferInstanceAs (Decidable (_ ∧ _ ∧ _))

namespace Finds

variable {w : World} {models : List Model}

theorem locked (h : Finds w models) : small.Locked w :=
  locked_of_succeeds h.1

theorem models_eq (h : Finds w models) : small.models w = models := by
  rw [RunOptions.models, h.2.1]

theorem decision (h : Finds w models) (hengine : w.libraries.engine = TemplateEngine.embedded)
    {previous : Manifest}
    (hmanifest : (small.manifestIn (small.working w)).result = .ok previous) :
    small.decision w = .ok (.shown previous models) := by
  have hworking : (small.working w).libraries.engine = TemplateEngine.embedded := by
    rw [h.locked.follows.libraries, hengine]
  have hrepeats : Repeats (fun _ => small.renderings (small.working w) 0)
      (small.renderings (small.working w)) := by
    intro number other kind model content hcontent
    rw [renderings_embedded hworking other]
    exact hcontent
  refine decided_eq_ok.mpr ⟨previous, models, hmanifest, h.2.1, reconcileAll_of_shows hrepeats ?_⟩
  rw [List.forall₂_map_right_iff, List.forall₂_same]
  exact fun pair hm => ⟨0, _, h.2.2 pair hm, rfl⟩

end Finds

theorem finds_session :
    Finds .small [.small] ∧ Finds .extended World.extendedModels ∧ Finds .reverted [.small] ∧
      (small.manifestIn (small.working .small)).result = .ok .initial := by
  decide +kernel

theorem fileContent_session :
    World.extended.disk.fileContent World.extended.current small.manifestPath =
        .ok Manifest.recorded.render.toUTF8 ∧
      World.reverted.disk.fileContent World.reverted.current small.manifestPath =
        .ok Manifest.recorded.render.toUTF8 := by
  constructor
  · exact Disk.fileContent_eq_ok.mpr ⟨by unfold Path.Leads; decide, rfl⟩
  · exact Disk.fileContent_eq_ok.mpr ⟨by unfold Path.Leads; decide, rfl⟩

theorem decision_session :
    small.decision .small = .ok (.shown .initial [.small]) ∧
      small.decision .extended = .ok (.shown .recorded World.extendedModels) ∧
      small.decision .reverted = .ok (.shown .recorded [.small]) := by
  obtain ⟨hsmall, hextended, hreverted, hmanifest⟩ := finds_session
  have hplace : small.manifestPath.resolve World.small.current ≠
      small.lock.place World.small.current := by decide
  exact ⟨hsmall.decision rfl hmanifest,
    hextended.decision rfl (hextended.locked.result_manifestIn hplace fileContent_session.1),
    hreverted.decision rfl (hreverted.locked.result_manifestIn hplace fileContent_session.2)⟩

/-- The list view is written, and then no directory can be made for the other model. -/
theorem written_extended : small.written .extended = [.revised] := by
  have hlength : (writeAll (small.working .extended).current (small.working .extended).now
      small.output (.revised :: RenderedView.added) (small.working .extended).disk).2.1.length = 1 := by
    decide
  have hwritten := written_of_decided decision_session.2.1
  have hinitial := written_initial decision_session.2.1
  rw [RenderedView.changed_extended] at hwritten hinitial
  rw [← hwritten] at hlength
  rw [List.prefix_iff_eq_take.mp hinitial, hlength]
  rfl

theorem written_ne_changed :
    small.written .extended ≠ (Reconciliation.shown .recorded World.extendedModels).changed := by
  rw [written_extended, RenderedView.changed_extended]
  exact fun he => nomatch he

theorem namesApart_session :
    NamesApart (small.models .extended) ∧ NamesApart (small.models .reverted) := by
  obtain ⟨-, hextended, hreverted, -⟩ := finds_session
  rw [hextended.models_eq, hreverted.models_eq]
  exact ⟨namesApart_of_map_name rfl (by decide) (by decide), models_small ▸ namesApart_small⟩

theorem savable_reverted :
    Manifest.Savable small.manifestPath small.manifestFile (small.working .reverted) := by
  have hfacts : (Manifest.temporaryPath small.manifestPath.parent small.manifestFile
        (.ofNat 0)).Leads (small.working .reverted).disk (small.working .reverted).current ∧
      small.manifestPath.Leads (small.working .reverted).disk (small.working .reverted).current ∧
      ((small.working .reverted).disk.node? ((Manifest.temporaryPath small.manifestPath.parent
        small.manifestFile (.ofNat 0)).resolve (small.working .reverted).current)).isNone = true ∧
      ((small.working .reverted).disk.file?
        (small.manifestPath.resolve (small.working .reverted).current)).isSome = true := by
    unfold Path.Leads
    decide
  obtain ⟨htemporary, hleads, hnone, hsome⟩ := hfacts
  obtain ⟨content, hfile⟩ := Option.isSome_iff_exists.mp hsome
  obtain ⟨changed, hnode⟩ := Disk.file?_eq_some.mp hfile
  have hlocked := finds_session.2.2.1.locked
  have hname : RandomName.ofNat 0 ∈ (small.working .reverted).libraries.randomNames := by
    rw [hlocked.follows.libraries]
    exact List.mem_map.mpr ⟨0, by decide, rfl⟩
  have hparent : small.lock.file.parent = small.manifestPath.parent := by decide
  have hdirectory := hlocked.directory
  rw [← hlocked.follows.current, hparent] at hdirectory
  exact ⟨by decide, _, Disk.ensureDirectories_of_directory hdirectory,
    Manifest.hasTemporary_of_free htemporary hname (Option.isNone_iff_eq_none.mp hnone), hleads,
    Disk.not_isDirectoryAt_of_file hnode⟩

end RunOptions

/-! ## Histories -/

namespace History

variable {site : Site} {calls : List Call} {w later : World} {options : RunOptions}
  {r : Reconciliation}

/-- What was last written to a view is there at every point of a history. -/
theorem kept (h : History site calls w) : site.Kept calls w := by
  -- On the history; every step is one way in which a run can end, or happens beside the runs.
  induction h with
  | start hcurrent hnone =>
    refine ⟨hcurrent, fun call hm => (nomatch hm), fun path call view hlast => (nomatch hlast), ?_⟩
    rw [hnone]
    exact fun content hc => (nomatch hc)
  | elsewhere _ hu ih => exact ih.untouched hu
  | @rehearsed calls w later options r _ hcovers hdry hrun ih =>
    have hends := options.run_ends w
    rw [hrun] at hends
    cases hends with
    | rehearsed _ _ _ hkeeps =>
      -- A dry run leaves nothing behind but the directories of its lock file.
      rw [ih.current, hcovers.place_lock] at hkeeps
      exact ih.keeps hkeeps
    | settled hreal =>
      rw [hdry] at hreal
      cases hreal
  | @refused calls w later options fault _ hcovers hrun hbefore ih =>
    have hends := options.run_ends w
    rw [hrun] at hends
    cases hends with
    | refused _ hfollows => exact ih.keeps (hfollows.keeps.mono (Set.empty_subset _))
    | undecided _ _ hkeeps =>
      rw [ih.current, hcovers.place_lock] at hkeeps
      exact ih.keeps hkeeps
    | broken _ _ _ hfault =>
      obtain ⟨cause, rfl⟩ | ⟨cause, rfl⟩ := hfault
      · exact absurd hbefore id
      · exact absurd hbefore id
  | @settled calls w later options r _ hcovers hreal hnames hrun ih =>
    obtain ⟨result, done, hsettled, -⟩ := RunOptions.run_settled hreal hrun
    exact ih.settled hcovers hnames hsettled
  | @broken calls w later options fault _ hcovers hnames hrun hbefore ih =>
    have hends := options.run_ends w
    rw [hrun] at hends
    cases hends with
    | refused _ => exact absurd trivial hbefore
    | undecided _ hdecided _ => exact absurd (RunOptions.decided_beforeWriting hdecided) hbefore
    | broken hlocked hdecided _ _ hdone hreleases =>
      -- Some views are written, and after that only the lock file is removed.
      have hkeeps := (hdone.keeps.mono (Set.empty_subset _)).trans hreleases.keeps
      rw [ih.current, hcovers.place_lock] at hkeeps
      exact (ih.broken hcovers hnames hlocked hdecided).keeps hkeeps

/-- A run that fails leaves the manifest as it was. -/
theorem manifest_of_error {fault : RunFault} (h : History site calls w)
    (hcovers : site.Covers options) (hnames : NamesApart (options.models w))
    (hrun : run options w = .error fault later) :
    later.disk.file? site.manifestPlace = w.disk.file? site.manifestPlace := by
  have hends := options.run_ends w
  have hlock := site.manifestPlace_ne_lockPlace
  rw [hrun] at hends
  cases hends with
  | refused _ hfollows => exact hfollows.keeps.files _ (Set.notMem_empty _)
  | undecided _ _ hkeeps =>
    rw [h.kept.current, hcovers.place_lock] at hkeeps
    exact hkeeps.files _ hlock
  | broken hlocked hdecided _ _ hdone hreleases =>
    have hkeeps := (hdone.keeps.mono (Set.empty_subset _)).trans hreleases.keeps
    have hworking := hlocked.follows.keeps
    rw [h.kept.current, hcovers.place_lock] at hkeeps hworking
    rw [hkeeps.files _ hlock, h.kept.manifest_wrote hcovers hnames hlocked hdecided,
      hworking.files _ hlock]

/-- A world with the same manifest, and with what was last written to every view, takes a history on. -/
theorem elsewhere_of_files (h : History site calls w) (hcurrent : later.current = w.current)
    (hmanifest : later.disk.file? site.manifestPlace = w.disk.file? site.manifestPlace)
    (hfiles : ∀ call ∈ calls, ∀ view ∈ call.written, ∀ found ∈ lastWrite view.path calls,
      later.disk.fileContent later.current (site.output.join view.path) =
        .ok found.2.content.toUTF8) : History site calls later := by
  refine .elsewhere h ⟨hcurrent, hmanifest, fun call hcall view hview content hc => ?_⟩
  obtain ⟨found, hlast⟩ := exists_lastWrite hcall hview
  have hkept := h.kept.files _ _ _ hlast
  rw [hc] at hkept
  rw [hkept]
  exact hfiles call hcall view hview found hlast

/-- After a successful real call its manifest is the one on the disk. -/
theorem settled_spec (hcovers : site.Covers options) (hreal : options.dryRun = false)
    (hrun : run options w = .ok r later) :
    Manifest.load site.output site.manifestFile later = .ok r.manifest later ∧
      ∃ result done, options.Settled w result done later ∧ r.views = result.views ∧
        r.manifest = result.manifest := by
  obtain ⟨result, done, hsettled, rfl⟩ := RunOptions.run_settled hreal hrun
  have hcontent := hsettled.fileContent_manifest
  rw [hcovers.manifestPath_eq] at hcontent
  exact ⟨Manifest.load_of_render hcontent, result, done, hsettled, rfl, rfl⟩

/-- Where no call was broken off, every entry of the manifest that a run would load has the
fingerprint of the file at the place of its view, and after a successful real call the entries are
those of the models at hand and all kinds, in order. -/
theorem manifest_truthful (h : History site calls w)
    (hcomplete : ∀ call ∈ calls, call.complete = true) :
    (∃ manifest later, Manifest.load site.output site.manifestFile w = .ok manifest later ∧
      ∀ entry ∈ manifest.entries, ∃ model kind content,
        entry.model = .ofString model ∧ entry.viewType = .ofString kind.name ∧
        w.disk.fileContent w.current
          (site.output.join (viewPath model kind site.extension)) = .ok content ∧
        entry.hash = .ofString (Sha256.hexDigest content.toList)) ∧
    ∀ options r later, site.Covers options → options.dryRun = false →
      NamesApart (options.models w) → run options w = .ok r later →
        Manifest.load site.output site.manifestFile later = .ok r.manifest later ∧
        r.manifest.entries.map (fun entry => (entry.model, entry.viewType)) =
          (viewsOf (options.models w)).map fun pair =>
            (.ofString pair.1.name, .ofString pair.2.name) := by
  have hkept := h.kept
  constructor
  · obtain ⟨manifest, hread, hbacked⟩ := hkept.loaded
    have hload := Manifest.load_answers site.output site.manifestFile w
    rw [show Manifest.path site.output site.manifestFile = site.manifestPath from rfl, hread] at hload
    obtain ⟨later, -, hok⟩ := hload
    refine ⟨manifest, later, hok, ?_⟩
    intro entry hentry
    obtain ⟨model, kind, call, view, -, hmodel, hkind, hlast, hhash⟩ := hbacked entry hentry
    obtain ⟨hcall, hview, -⟩ := lastWrite_mem hlast
    refine ⟨model, kind, _, hmodel, hkind, hkept.files _ call view hlast, ?_⟩
    rw [hhash (hcomplete call hcall), (hkept.made call hcall view hview).hash]
    rfl
  · intro options r later hcovers hreal hnames hrun
    obtain ⟨hload, result, done, hsettled, -, hmanifest⟩ := settled_spec hcovers hreal hrun
    refine ⟨hload, ?_⟩
    obtain ⟨previous, views, -, -, hviews, rfl⟩ := RunOptions.exists_decided hsettled.decided
    have hkeys := congrArg (List.map fun key : String × ViewKind =>
      (Units.ofString key.1, Units.ofString key.2.name)) (map_key_of_shows hviews)
    rw [hmanifest]
    simp only [List.map_map] at hkeys
    show (views.map (·.entry)).map _ = _
    rw [List.map_map]
    exact hkeys

/-- The output root of the small run. -/
def smallSite : Site where
  output := RunOptions.small.output
  manifestFile := RunOptions.small.manifestFile
  extension := RunOptions.small.extension
  current := World.small.current
  isPart := by decide
  noSlash := by decide

theorem start_small : History smallSite [] .small :=
  .start rfl rfl

/-- The small run and what it leaves. -/
theorem manifest_truthful_small :
    ∃ r manifest later, run .small .small = .ok r ((run .small).after .small) ∧
      Manifest.load smallSite.output smallSite.manifestFile ((run .small).after .small) =
        .ok manifest later ∧
      (∀ entry ∈ manifest.entries, ∃ model kind content,
        entry.model = .ofString model ∧ entry.viewType = .ofString kind.name ∧
        ((run .small).after .small).disk.fileContent ((run .small).after .small).current
          (smallSite.output.join (viewPath model kind smallSite.extension)) = .ok content ∧
        entry.hash = .ofString (Sha256.hexDigest content.toList)) ∧
      r.manifest.entries.map (fun entry => (entry.model, entry.viewType)) =
        (viewsOf (RunOptions.small.models .small)).map fun pair =>
          (.ofString pair.1.name, .ofString pair.2.name) := by
  obtain ⟨r, hrun⟩ := exists_run_small
  have hcovers : smallSite.Covers .small := ⟨rfl, rfl, rfl⟩
  have hbefore := (manifest_truthful start_small fun call hm => nomatch hm).2 .small r _ hcovers
    rfl namesApart_small hrun
  have hsettled := History.settled start_small hcovers rfl namesApart_small hrun
  have hcomplete : ∀ call ∈ [(⟨true, RunOptions.small.written .small⟩ : Call)],
      call.complete = true := by
    intro call hm
    rw [List.mem_singleton] at hm
    rw [hm]
  obtain ⟨manifest, later, hload, hentries⟩ := (manifest_truthful hsettled hcomplete).1
  exact ⟨r, manifest, later, hrun, hload, hentries, hbefore.2⟩

/-- The calls of the session, before the last: one that came to its end, and then one that was broken
off. -/
def sessionCalls : List Call :=
  [⟨false, [.revised]⟩, ⟨true, (Reconciliation.shown .initial [.small]).changed⟩]

theorem files_session :
    (∀ call ∈ sessionCalls.tail, ∀ view ∈ call.written,
      ∀ found ∈ lastWrite view.path sessionCalls.tail,
        World.extended.disk.fileContent World.extended.current (smallSite.output.join view.path) =
          .ok found.2.content.toUTF8) ∧
    ∀ call ∈ sessionCalls, ∀ view ∈ call.written, ∀ found ∈ lastWrite view.path sessionCalls,
      World.reverted.disk.fileContent World.reverted.current (smallSite.output.join view.path) =
        .ok found.2.content.toUTF8 := by
  decide

theorem manifest_session :
    World.extended.disk.file? smallSite.manifestPlace = some Manifest.recorded.render.toUTF8 ∧
      World.reverted.disk.file? smallSite.manifestPlace =
        some Manifest.recorded.render.toUTF8 := by
  have hplace : smallSite.manifestPlace = ["out", ".ramp-manifest.json"] := by decide
  rw [hplace]
  exact ⟨rfl, rfl⟩

/-- The first run comes to its end. -/
theorem extended_session : History smallSite sessionCalls.tail .extended := by
  obtain ⟨r, hrun⟩ := exists_run_small
  generalize (run .small).after .small = first at hrun
  have hcovers : smallSite.Covers .small := ⟨rfl, rfl, rfl⟩
  have hhistory := History.settled start_small hcovers rfl namesApart_small hrun
  have hcurrent : first.current = smallSite.current := hhistory.kept.current
  obtain ⟨result, done, hsettled, -⟩ := RunOptions.run_settled rfl hrun
  cases hsettled.decided.symm.trans RunOptions.decision_session.1
  have hmanifest := (Disk.fileContent_eq_ok.mp hsettled.fileContent_manifest).2
  rw [hcurrent, hcovers.manifestPath_eq] at hmanifest
  rw [hsettled.written] at hhistory
  exact hhistory.elsewhere_of_files hcurrent.symm (manifest_session.1.trans hmanifest.symm)
    files_session.1

/-- The second is broken off, and then the schema goes back. -/
theorem reverted_session : History smallSite sessionCalls .reverted := by
  have hcovers : smallSite.Covers .small := ⟨rfl, rfl, rfl⟩
  obtain ⟨hnames, -⟩ := RunOptions.namesApart_session
  obtain ⟨-, hfinds, -⟩ := RunOptions.finds_session
  obtain ⟨fault, second, hrun, hbefore⟩ := RunOptions.run_of_not_written rfl hfinds.locked
    RunOptions.decision_session.2.1 RunOptions.written_ne_changed
  have hhistory := extended_session.broken hcovers hnames hrun hbefore
  have hcurrent : second.current = smallSite.current := hhistory.kept.current
  have hmanifest := extended_session.manifest_of_error hcovers hnames hrun
  rw [manifest_session.1] at hmanifest
  rw [RunOptions.written_extended] at hhistory
  exact hhistory.elsewhere_of_files hcurrent.symm (manifest_session.2.trans hmanifest.symm)
    files_session.2

/-- The last run finds all views unchanged, and of these the list view alone was last written by the call
that was broken off. -/
theorem lastWrite_session {view : RenderedView}
    (hm : view ∈ (Reconciliation.shown .recorded [.small]).views) :
    view.isChanged = false ∧ ∃ call last, lastWrite view.path sessionCalls = some (call, last) ∧
      (call.complete = true ∨ last.hash = view.hash ↔ view.kind ≠ .list) := by
  have hunchanged := List.filter_eq_nil_iff.mp RenderedView.changed_reverted view hm
  refine ⟨Bool.eq_false_iff.mpr hunchanged, ?_⟩
  obtain ⟨⟨model, kind⟩, hpair, rfl⟩ := List.mem_map.mp hm
  cases List.mem_singleton.mp (mem_of_mem_viewsOf hpair)
  cases kind with
  | list =>
    have hne : RenderedView.revised.hash ≠ fingerprint (Model.small.shown .list) :=
      RenderedView.fingerprint_ne.symm
    refine ⟨⟨false, [.revised]⟩, .revised, rfl, fun hor => ?_, fun hlist => absurd rfl hlist⟩
    obtain hcomplete | he := hor
    · cases hcomplete
    · exact absurd he hne
  | _ =>
    exact ⟨⟨true, (Reconciliation.shown .initial [.small]).changed⟩, _, rfl, fun _ => nofun,
      fun _ => Or.inl rfl⟩

/-- After a successful real call a view has the fingerprint that the manifest records for it exactly
if the call wrote it, or the call that wrote it last was not broken off, or that wrote the same. -/
theorem view_recorded_iff (h : History site calls w) (hcovers : site.Covers options)
    (hreal : options.dryRun = false) (hnames : NamesApart (options.models w))
    (hrun : run options w = .ok r later) :
    Manifest.load site.output site.manifestFile later = .ok r.manifest later ∧
    r.manifest.entries = r.views.map (·.entry) ∧
    ∀ view ∈ r.views, ∃ content,
      later.disk.fileContent later.current (site.output.join view.path) = .ok content ∧
      (Sha256.hexDigest content.toList = view.hash ↔
        view.isChanged = true ∨ ∀ call last, lastWrite view.path calls = some (call, last) →
          call.complete = true ∨ last.hash = view.hash) := by
  have hlater := (h.settled hcovers hreal hnames hrun).kept
  obtain ⟨hload, result, done, ⟨hlocked, hdecided, hall, -, -⟩, hviews, hmanifest⟩ :=
    settled_spec hcovers hreal hrun
  have hentries : result.manifest.entries = result.views.map (·.entry) := by
    obtain ⟨previous, views, -, -, -, rfl⟩ := RunOptions.exists_decided hdecided
    rfl
  refine ⟨hload, by rw [hmanifest, hviews, hentries], ?_⟩
  rw [hviews]
  intro view hview
  have hmade := Site.made_of_decided hcovers hnames hdecided hview
  -- A changed view has just been written, and any other has the file that its last write left.
  cases hc : view.isChanged with
  | true =>
    have hlast := Site.Kept.lastWrite_changed hcovers hnames hdecided hall hview hc calls true
    refine ⟨_, hlater.files _ _ _ hlast, ?_⟩
    have hhash : Sha256.hexDigest view.content.toUTF8.toList = view.hash := hmade.hash.symm
    exact ⟨fun _ => Or.inl rfl, fun _ => hhash⟩
  | false =>
    obtain ⟨call, last, hlast, hcall⟩ :=
      h.kept.lastWrite_of_unchanged hcovers hnames hlocked hdecided hview hc
    have hsame := Site.Kept.lastWrite_unchanged hcovers hnames hdecided hview hc calls true
    rw [← hsame] at hlast
    obtain ⟨hmem, hwritten, -⟩ := lastWrite_mem hlast
    have hhash : Sha256.hexDigest last.content.toUTF8.toList = last.hash :=
      (hlater.made call hmem last hwritten).hash.symm
    refine ⟨_, hlater.files _ _ _ hlast, ?_⟩
    rw [hhash, ← hsame, hlast]
    constructor
    · -- The file has the fingerprint of what was last written, whoever wrote it.
      intro he
      refine Or.inr fun other written hother => Or.inr ?_
      cases hother
      exact he
    · intro hor
      obtain hchanged | hevery := hor
      · cases hchanged
      · obtain hdone | he := hevery call last rfl
        · exact (hcall hdone).symm
        · exact he

/-- The run after the one that was broken off succeeds, and it finds nothing changed where the schema has
gone back, so the list view is not the one that it records. -/
theorem view_recorded_iff_small :
    ∃ calls w r later, History smallSite calls w ∧ calls.map (·.complete) = [false, true] ∧
      run .small w = .ok r later ∧
      Manifest.load smallSite.output smallSite.manifestFile later = .ok r.manifest later ∧
      r.manifest.entries = r.views.map (·.entry) ∧ r.views.map (·.kind) = ViewKind.all ∧
      ∀ view ∈ r.views, ∃ content,
        later.disk.fileContent later.current (smallSite.output.join view.path) = .ok content ∧
        (Sha256.hexDigest content.toList = view.hash ↔ view.kind ≠ .list) := by
  obtain ⟨-, -, hfinds, -⟩ := RunOptions.finds_session
  obtain ⟨r, later, hrun, hviews⟩ := RunOptions.run_of_unchanged rfl hfinds.locked
    RunOptions.decision_session.2.2 RenderedView.changed_reverted RunOptions.savable_reverted
  obtain ⟨hload, hentries, hrecorded⟩ := view_recorded_iff reverted_session ⟨rfl, rfl, rfl⟩ rfl
    RunOptions.namesApart_session.2 hrun
  have hkinds : r.views.map (·.kind) = ViewKind.all := by
    rw [hviews]
    rfl
  refine ⟨_, .reverted, r, later, reverted_session, rfl, hrun, hload, hentries, hkinds, ?_⟩
  intro view hm
  obtain ⟨content, hcontent, hiff⟩ := hrecorded view hm
  refine ⟨content, hcontent, hiff.trans ?_⟩
  rw [hviews] at hm
  obtain ⟨hunchanged, call, last, hlast, hvouches⟩ := lastWrite_session hm
  constructor
  · rintro (hchanged | hevery)
    · rw [hunchanged] at hchanged
      cases hchanged
    · exact hvouches.mp (hevery call last hlast)
  · intro hkind
    refine Or.inr fun other found hfound => ?_
    cases hlast.symm.trans hfound
    exact hvouches.mpr hkind

end History

end ViewGen
