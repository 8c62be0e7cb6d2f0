import ViewGen.Proofs.Readings
import ViewGen.Proofs.Sites

/-!
# Runs with changing extensions

The manifest knows a view by its model and its kind, whatever extension it was written with.  So a view
that is left alone is there under the extension of the run that has last written it, and a run of which
the extension alone is new writes nothing.
-/

namespace ViewGen

/-! ## The latest writing of a view -/

/-- What a successful real call has left of itself: the views it has written, under its extension. -/
structure Generation where
  extension : String
  written : List RenderedView

/-- The latest call that has written the view of a model and a kind, and the view that it wrote. -/
def latest (model : String) (kind : ViewKind) (gs : List Generation) :
    Option (Generation × RenderedView) :=
  gs.findSome? fun g =>
    (g.written.find? fun view => (view.model, view.kind) == (model, kind)).map fun view => (g, view)

section

variable {model : String} {kind : ViewKind} {g : Generation} {gs : List Generation}
  {view : RenderedView}

theorem latest_mem (h : latest model kind gs = some (g, view)) : g ∈ gs ∧ view ∈ g.written := by
  obtain ⟨other, hother, hfound⟩ := List.exists_of_findSome?_eq_some h
  obtain ⟨found, hfind, he⟩ := Option.map_eq_some_iff.mp hfound
  cases he
  exact ⟨hother, List.mem_of_find?_eq_some hfind⟩

theorem latest_cons_of_mem (hn : (g.written.map fun view => (view.model, view.kind)).Nodup)
    (hm : view ∈ g.written) : latest view.model view.kind (g :: gs) = some (g, view) := by
  have hfind := find?_key_of_mem hn hm
  unfold latest
  rw [List.findSome?_cons, hfind, Option.map_some]

theorem latest_cons_of_not_mem
    (h : ∀ view ∈ g.written, (view.model, view.kind) ≠ (model, kind)) :
    latest model kind (g :: gs) = latest model kind gs := by
  have hfind : g.written.find? (fun view => (view.model, view.kind) == (model, kind)) = none := by
    rw [List.find?_eq_none]
    intro view hm he
    exact h view hm (beq_iff_eq.mp he)
  unfold latest
  rw [List.findSome?_cons, hfind, Option.map_none]

end

/-- Every view of the run is there under its own path, with its fingerprint. -/
def Reconciliation.Found (r : Reconciliation) (output : Path) (w : World) : Prop :=
  ∀ view ∈ r.views, ∃ content, w.disk.fileContent w.current (output.join view.path) = .ok content ∧
    Sha256.hexDigest content.toList = view.hash

/-! ## Histories -/

/-- An output root with the name of its manifest, seen from one current directory. -/
structure Root where
  output : Path
  manifestFile : String
  current : Location

namespace Root

variable {root : Root} {options : RunOptions} {w later done : World} {result : Reconciliation}
  {gs : List Generation} {g : Generation} {model : String} {kind : ViewKind} {view : RenderedView}

def manifestPath (root : Root) : Path :=
  Manifest.path root.output root.manifestFile

def manifestPlace (root : Root) : Location :=
  root.manifestPath.resolve root.current

def lockPlace (root : Root) : Location :=
  (Manifest.path root.output (root.manifestFile ++ ".lock")).resolve root.current

/-- Whether the manifest or its lock file stands there. -/
def Owns (root : Root) (place : Location) : Prop :=
  place = root.manifestPlace ∨ place = root.lockPlace

/-- A real call on the output root. Its models have names of their own. -/
structure Admits (root : Root) (options : RunOptions) (w : World) : Prop where
  output : options.output = root.output
  manifestFile : options.manifestFile = root.manifestFile
  real : options.dryRun = false
  noSlash : '/' ∉ options.extension.toList
  names : NamesApart (options.models w)

/-- What happens beside the calls: everything but changes of the manifest and of the views written. -/
structure Untouched (root : Root) (gs : List Generation) (w later : World) : Prop where
  current : later.current = w.current
  manifest : later.disk.file? root.manifestPlace = w.disk.file? root.manifestPlace
  views : ∀ g ∈ gs, ∀ view ∈ g.written, ∀ content,
    w.disk.fileContent w.current (root.output.join view.path) = .ok content →
      later.disk.fileContent later.current (root.output.join view.path) = .ok content

end Root

/-- The worlds that successful real calls on one output root lead to, the latest call first. It starts
without a manifest; schema, templates and extension may be others for every call. -/
inductive Generations (root : Root) : List Generation → World → Prop
  | start {w : World} : w.current = root.current → w.disk.file? root.manifestPlace = none →
      Generations root [] w
  | elsewhere {gs : List Generation} {w later : World} : Generations root gs w →
      root.Untouched gs w later → Generations root gs later
  | generated {gs : List Generation} {w later : World} {options : RunOptions}
      {r : Reconciliation} : Generations root gs w → root.Admits options w →
      run options w = .ok r later →
      Generations root (⟨options.extension, r.changed⟩ :: gs) later

namespace Root

variable {root : Root} {options : RunOptions} {w later done : World} {result : Reconciliation}
  {gs : List Generation} {g : Generation} {model : String} {kind : ViewKind} {view : RenderedView}

/-- The latest call that has written a view has left it where it still is, unless the manifest or the lock
file has come in its place. -/
structure Stands (root : Root) (gs : List Generation) (w : World) (model : String) (kind : ViewKind)
    (g : Generation) (view : RenderedView) : Prop where
  isName : Path.IsName model
  noSlash : '/' ∉ g.extension.toList
  latest : latest model kind gs = some (g, view)
  path : view.path = viewPath model kind g.extension
  hash : view.hash = fingerprint view.content
  content : ¬ root.Owns (view.place root.output root.current) →
    w.disk.fileContent w.current (root.output.join view.path) = .ok view.content.toUTF8

/-- The entries of the manifest have the fingerprints of what their views were last written with. -/
structure Kept (root : Root) (gs : List Generation) (w : World) : Prop where
  current : w.current = root.current
  known : ∀ limit bytes manifest, w.disk.file? root.manifestPlace = some bytes →
    Manifest.ofContent limit bytes = .usable manifest → ∀ entry ∈ manifest.entries,
      ∃ model kind g view, entry.model = .ofString model ∧ entry.viewType = .ofString kind.name ∧
        entry.hash = .ofString view.hash ∧ root.Stands gs w model kind g view

theorem Stands.place (h : root.Stands gs w model kind g view) (current : Location) :
    view.place root.output current =
      root.output.resolve current ++ viewNames model kind g.extension := by
  rw [RenderedView.place, h.path]
  exact resolve_viewPath root.output h.isName h.noSlash current

theorem Kept.untouched (h : root.Kept gs w) (hu : root.Untouched gs w later) :
    root.Kept gs later := by
  refine ⟨hu.current.trans h.current, ?_⟩
  intro limit bytes manifest hf hofContent entry hentry
  rw [hu.manifest] at hf
  obtain ⟨model, kind, g, view, hmodel, hkind, hhash, hs⟩ :=
    h.known limit bytes manifest hf hofContent entry hentry
  obtain ⟨hg, hview⟩ := latest_mem hs.latest
  exact ⟨model, kind, g, view, hmodel, hkind, hhash,
    { hs with content := fun hown => hu.views g hg view hview _ (hs.content hown) }⟩

/-! ### What a call leaves -/

section

variable (h : root.Kept gs w) (hadmits : root.Admits options w)
  (hs : options.Settled w result done later)

include h hadmits in
theorem Admits.manifestPlace_eq :
    options.manifestPath.resolve w.current = root.manifestPlace := by
  unfold manifestPlace manifestPath RunOptions.manifestPath
  rw [h.current, hadmits.output, hadmits.manifestFile]

include h hadmits in
theorem Admits.lockPlace_eq : options.lock.place w.current = root.lockPlace := by
  unfold lockPlace
  rw [h.current, ← hadmits.output, ← hadmits.manifestFile]
  rfl

include hadmits hs in
/-- A view that the call has written is there under its extension. -/
theorem Kept.stands_changed (h : root.Kept gs w) (hm : view ∈ result.views)
    (hc : view.isChanged = true) :
    root.Stands (⟨options.extension, result.changed⟩ :: gs) later view.model view.kind
      ⟨options.extension, result.changed⟩ view := by
  have hmanifestPlace := hadmits.manifestPlace_eq h
  have hlockPlace := hadmits.lockPlace_eq h
  have hchanged : view ∈ result.changed := List.mem_filter.mpr ⟨hm, hc⟩
  have hcontent := fun hnodup => hs.fileContent_changed hnodup hchanged
  obtain ⟨previous, views, -, -, hshows, rfl⟩ := RunOptions.exists_decided hs.decided
  obtain ⟨hpath, hhash, -⟩ := shown_of_mem hshows hm
  have hkeys : (views.map fun view => (view.model, view.kind)).Nodup :=
    .of_map (fun key : String × ViewKind => (Text.lower key.1, key.2)) (by
      rw [List.map_map]
      exact nodup_keys_of_shows hadmits.names hshows)
  rw [hadmits.output] at hcontent
  refine ⟨hadmits.names.isName_of_shows hshows hm, hadmits.noSlash, latest_cons_of_mem ?_ hchanged,
    hpath, hhash, fun hown => ?_⟩
  · exact Reconciliation.nodup_map_changed hkeys
  · refine hcontent (nodup_places_of_shows _ hadmits.names hadmits.noSlash hshows _) ?_ ?_
    · rw [hmanifestPlace, h.current]
      exact fun he => hown (Or.inl he)
    · rw [hlockPlace, h.current]
      exact fun he => hown (Or.inr he)

/-- A changed view has another model or another kind than a view that is left alone. -/
theorem key_ne_of_mem_changed {previous : Manifest} {views : List RenderedView} {other : RenderedView}
    (hkeys : (views.map fun view => (Text.lower view.model, view.kind)).Nodup) (hm : view ∈ views)
    (hc : view.isChanged = false) (hother : other ∈ (Reconciliation.ofViews previous views).changed) :
    (Text.lower other.model, other.kind) ≠ (Text.lower view.model, view.kind) := by
  intro he
  obtain ⟨hviews, hchanged⟩ := List.mem_filter.mp hother
  rw [List.inj_on_of_nodup_map hkeys hviews hm he, hc] at hchanged
  cases hchanged

include hadmits hs in
/-- A view that the call has left alone is there under the extension it was last written with. -/
theorem Kept.stands_unchanged (h : root.Kept gs w) (hm : view ∈ result.views)
    (hc : view.isChanged = false) :
    ∃ g last, last.hash = view.hash ∧
      root.Stands (⟨options.extension, result.changed⟩ :: gs) later view.model view.kind g last := by
  have hmanifestPlace := hadmits.manifestPlace_eq h
  have hlockPlace := hadmits.lockPlace_eq h
  have hkeeps := hs.keeps
  obtain ⟨previous, views, hprevious, -, hshows, rfl⟩ := RunOptions.exists_decided hs.decided
  have hkeys := nodup_keys_of_shows hadmits.names hshows
  -- The entry that vouches for the view was on the disk before the call.
  have hdecision : RenderedView.decide previous view.model view.kind view.hash = .unchanged := by
    rw [← (shown_of_mem hshows hm).2.2]
    exact RenderedView.decision_of_isChanged hc
  obtain ⟨entry, hentry, hmodel, hkind, hhash⟩ := decide_eq_unchanged hdecision
  obtain ⟨bytes, hfile, hofContent⟩ := Manifest.exists_content_of_entry hprevious hentry
  have hne : options.manifestPath.resolve w.current ∉
      ({options.lock.place w.current} : Set Location) := Ne.symm (hs.lock_ne w.current)
  rw [hs.locked.follows.current, hs.locked.follows.disk.file?_eq hne, hmanifestPlace] at hfile
  obtain ⟨model, kind, g, last, hmodel', hkind', hhash', hstands⟩ :=
    h.known _ bytes previous hfile hofContent entry hentry
  rw [hmodel, Units.ofString_inj] at hmodel'
  rw [hkind, Units.ofString_inj] at hkind'
  rw [hhash, Units.ofString_inj] at hhash'
  have hkind' := ViewKind.name_inj hkind'
  subst hmodel' hkind'
  refine ⟨g, last, hhash'.symm, { hstands with latest := ?_, content := fun hown => ?_ }⟩
  · rw [latest_cons_of_not_mem ?_]
    · exact hstands.latest
    · intro other hm' he
      rw [Prod.mk.injEq] at he
      exact key_ne_of_mem_changed hkeys hm hc hm' (by rw [he.1, he.2])
  · refine hkeeps.fileContent ?_ (hstands.content hown)
    rw [hmanifestPlace, hlockPlace]
    rintro (hin | he | he)
    · -- A changed view of this call stands at another place.
      obtain ⟨other, hm', he⟩ := hin
      obtain ⟨hviews, -⟩ := List.mem_filter.mp hm'
      have hisName := hadmits.names.isName_of_shows hshows hviews
      have hlast := hstands.place w.current
      rw [RenderedView.place] at he hlast
      rw [hlast, (shown_of_mem hshows hviews).1, hadmits.output,
        resolve_viewPath _ hisName hadmits.noSlash, List.append_cancel_left_eq] at he
      obtain ⟨hlower, hkind⟩ := viewNames_inj he
      exact key_ne_of_mem_changed hkeys hm hc hm' (by rw [hlower, hkind])
    · rw [h.current] at he
      exact hown (Or.inl he)
    · rw [h.current] at he
      exact hown (Or.inr he)

include hadmits hs in
/-- Every view of the call is there under the extension it was last written with. -/
theorem Kept.stands (h : root.Kept gs w) (hm : view ∈ result.views) :
    ∃ g last, last.hash = view.hash ∧
      root.Stands (⟨options.extension, result.changed⟩ :: gs) later view.model view.kind g last ∧
      (view.isChanged = true → g = ⟨options.extension, result.changed⟩) := by
  cases hc : view.isChanged with
  | true => exact ⟨_, view, rfl, h.stands_changed hadmits hs hm hc, fun _ => rfl⟩
  | false =>
    obtain ⟨g, last, hhash, hstands⟩ := h.stands_unchanged hadmits hs hm hc
    exact ⟨g, last, hhash, hstands, nofun⟩

include hadmits hs in
theorem Kept.settled (h : root.Kept gs w) :
    root.Kept (⟨options.extension, result.changed⟩ :: gs) later := by
  have hcurrent := hs.current_first
  have hstands := fun view (hm : view ∈ result.views) => h.stands hadmits hs hm
  have hfile := hs.fileContent_manifest
  have hread := fun limit => Manifest.read_of_render limit hfile
  have hplace := (Disk.fileContent_eq_ok.mp hfile).2
  simp only [Manifest.read_of_fileContent hfile] at hread
  rw [hcurrent, hadmits.manifestPlace_eq h] at hplace
  refine ⟨hcurrent.trans h.current, ?_⟩
  intro limit bytes manifest hf hofContent entry hentry
  rw [hplace, Option.some.injEq] at hf
  rw [← hf, hread, Manifest.Loaded.usable.injEq] at hofContent
  have hentries : result.manifest.entries = result.views.map (·.entry) := by
    obtain ⟨previous, views, -, -, -, rfl⟩ := RunOptions.exists_decided hs.decided
    rfl
  rw [← hofContent, hentries] at hentry
  obtain ⟨view, hm, rfl⟩ := List.mem_map.mp hentry
  obtain ⟨g, last, hhash, hstands, -⟩ := hstands view hm
  exact ⟨view.model, view.kind, g, last, rfl, rfl, congrArg Units.ofString hhash.symm, hstands⟩

end

end Root

/-- Where the manifest is named by one part of a path, neither it nor its lock file stands in the place of
a view. -/
theorem Root.not_owns_of_isPart {root : Root} (hpart : Path.IsPart root.manifestFile)
    {model extension : String} (hmodel : Path.IsName model) (kind : ViewKind)
    (hslash : '/' ∉ extension.toList) :
    ¬ root.Owns ((root.output.join (viewPath model kind extension)).resolve root.current) := by
  let site : Site := ⟨root.output, root.manifestFile, extension, root.current, hpart, hslash⟩
  obtain ⟨hmanifest, hlock⟩ := site.place_ne hmodel kind
  rintro (he | he)
  · exact hmanifest he
  · exact hlock he

namespace Generations

variable {root : Root} {gs : List Generation} {w later : World} {options : RunOptions}
  {r : Reconciliation}

theorem kept (h : Generations root gs w) : root.Kept gs w := by
  -- On the history.
  induction h with
  | start hcurrent hnone =>
    refine ⟨hcurrent, fun limit bytes manifest hf => ?_⟩
    rw [hnone] at hf
    cases hf
  | elsewhere _ hu ih => exact ih.untouched hu
  | generated _ hadmits hrun ih =>
    obtain ⟨result, done, hs, rfl⟩ := RunOptions.run_settled hadmits.real hrun
    have hkept := ih.settled hadmits hs
    exact hkept

/-- After a successful real call every view it reports, changed or not, is there with its fingerprint
under the extension of the call that has last written it: this one if the view is changed, and else
maybe an earlier one. So it is there under its own path if that extension is the one of this call. Only
the manifest and the lock file can have come in its place. -/
theorem views_stand (h : Generations root gs w) (hadmits : root.Admits options w)
    (hrun : run options w = .ok r later) :
    ∀ view ∈ r.views, ∃ g last,
      latest view.model view.kind (⟨options.extension, r.changed⟩ :: gs) = some (g, last) ∧
      (view.isChanged = true → g = ⟨options.extension, r.changed⟩) ∧
      (¬ root.Owns ((root.output.join (viewPath view.model view.kind g.extension)).resolve
          root.current) → ∃ content,
        later.disk.fileContent later.current
          (root.output.join (viewPath view.model view.kind g.extension)) = .ok content ∧
        Sha256.hexDigest content.toList = view.hash ∧
        (g.extension = options.extension →
          later.disk.fileContent later.current (root.output.join view.path) = .ok content)) := by
  obtain ⟨result, done, hs, rfl⟩ := RunOptions.run_settled hadmits.real hrun
  intro view hm
  obtain ⟨g, last, hhash, hstands, hchanged⟩ := h.kept.stands hadmits hs hm
  refine ⟨g, last, hstands.latest, hchanged, fun hown => ?_⟩
  have hcontent := hstands.content (by
    rw [RenderedView.place, hstands.path]
    exact hown)
  rw [hstands.path] at hcontent
  refine ⟨last.content.toUTF8, hcontent, ?_, ?_⟩
  · rw [← hhash, hstands.hash]
    rfl
  · intro he
    obtain ⟨previous, views, -, -, hshows, rfl⟩ := RunOptions.exists_decided hs.decided
    rw [(shown_of_mem hshows hm).1, ← he]
    exact hcontent

/-- The output root of the small run. -/
def smallRoot : Root where
  output := RunOptions.small.output
  manifestFile := RunOptions.small.manifestFile
  current := World.small.current

theorem start_small : Generations smallRoot [] .small :=
  .start rfl rfl

theorem admits_small : smallRoot.Admits .small .small :=
  ⟨rfl, rfl, rfl, by decide, namesApart_small⟩

/-- All views of the small run are there under their own paths. -/
theorem views_stand_small :
    ∃ r, run .small .small = .ok r ((run .small).after .small) ∧
      r.Found smallRoot.output ((run .small).after .small) := by
  obtain ⟨r, hrun⟩ := exists_run_small
  refine ⟨r, hrun, fun view hm => ?_⟩
  obtain ⟨g, last, hlatest, -, hstands⟩ := views_stand start_small admits_small hrun view hm
  have hg : g = ⟨RunOptions.small.extension, r.changed⟩ :=
    List.mem_singleton.mp (latest_mem hlatest).1
  have hisName : Path.IsName view.model := by
    obtain ⟨result, done, hs, rfl⟩ := RunOptions.run_settled rfl hrun
    obtain ⟨previous, views, -, -, hshows, rfl⟩ := RunOptions.exists_decided hs.decided
    exact namesApart_small.isName_of_shows hshows hm
  subst hg
  obtain ⟨content, -, hhash, hcontent⟩ :=
    hstands (Root.not_owns_of_isPart (by decide) hisName view.kind admits_small.noSlash)
  exact ⟨content, hcontent rfl, hhash⟩

end Generations

/-! ## A run that differs in its extension -/

/-- A run that differs from the one before in nothing but the extension finds every view unchanged where its
templates render alike, and writes none, so what it reports is not there under the new extension. -/
theorem RunOptions.run_moved {options : RunOptions} {w first : World} {r : Reconciliation}
    (hreal : options.dryRun = false) (hrun : run options w = .ok r first)
    {files : Set Location} (hnames : ((options.models w).map (·.name)).Nodup)
    (hapart : options.PlacesApart files (options.models w) w.current)
    (halike : options.RendersAlike files w first)
    (hfree : options.NameFree first.libraries.randomNames first) (extension : String) :
    ∃ again last, run (options.withExtension extension) first = .ok again last ∧
      (options.withExtension extension).models first = options.models w ∧
      again.views = r.views.map (·.moved extension) ∧ again.changed = [] ∧
      ∀ at', at' ≠ options.manifestPath.resolve w.current → at' ≠ options.lock.place w.current →
        last.disk.file? at' = first.disk.file? at' := by
  obtain ⟨result, done, h, rfl⟩ := run_settled hreal hrun
  have hedited := World.Edited.refl (options.viewPlaces (options.models w) w.current) first
  have hdecided := h.decided_moved hedited hapart halike hnames extension
  -- No entry tells an extension, so each vouches for its view under any.
  have hnone := Reconciliation.changed_map_eq_nil (fun view => view.isChanged_moved extension)
    result.manifest result.views
  have hlocked : (options.withExtension extension).Locked first :=
    (h.locked_again hedited).1.congr rfl
  obtain ⟨again, last, hagain⟩ := run_of_place hlocked hdecided fun start hstart =>
    place_of_write hreal hnone fun later hlater =>
      h.write_again hedited hapart hfree _ (hstart.trans hlater)
  have hreal' : (options.withExtension extension).dryRun = false := hreal
  obtain ⟨result', done', h', rfl⟩ := run_settled hreal' hagain
  have hsame := h'.decided
  rw [hdecided] at hsame
  cases hsame
  refine ⟨_, last, hagain, ?_, rfl, hnone, ?_⟩
  · have hschema : Schema.read ((options.withExtension extension).working first).disk
        ((options.withExtension extension).working first).current
        (options.withExtension extension).schema = .ok (options.models w) :=
      h.schema_again hedited hapart
    rw [models, hschema]
  · intro at' hmanifest hlock
    have hkeeps := h'.keeps
    rw [hnone, h.current_first] at hkeeps
    refine hkeeps.files at' ?_
    rintro (⟨view, hm, -⟩ | he | he)
    · cases hm
    · exact hmanifest he
    · exact hlock he

/-! ## Views that are not there -/

/-- The small run with its manifest beside the views, so that its lock file has the place of the list
view. -/
def RunOptions.beside : RunOptions :=
  { RunOptions.small with manifestFile := "/out/routes/a/list", extension := "lock" }

/-- A run on the schema of the small run reports the list view, so it is not found where no file stands at
the place of that. -/
theorem Reconciliation.not_found_of_none {options : RunOptions} {w later : World}
    {r : Reconciliation} (hreal : options.dryRun = false) (hrun : run options w = .ok r later)
    (hmodels : options.models w = [.small])
    (hnone : later.disk.file? ((options.output.join (viewPath "A" .list options.extension)).resolve
      w.current) = none) : ¬ r.Found options.output later := by
  obtain ⟨result, done, h, rfl⟩ := RunOptions.run_settled hreal hrun
  obtain ⟨previous, views, -, -, hshows, rfl⟩ := RunOptions.exists_decided h.decided
  have hkeys := map_key_of_shows hshows
  rw [hmodels] at hkeys
  have hlist : ("A", ViewKind.list) ∈ views.map fun view => (view.model, view.kind) := by
    rw [hkeys]
    decide
  obtain ⟨view, hm, hkey⟩ := List.mem_map.mp hlist
  rw [Prod.mk.injEq] at hkey
  intro hfound
  obtain ⟨content, hcontent, -⟩ := hfound view hm
  have hfile := (Disk.fileContent_eq_ok.mp hcontent).2
  rw [(shown_of_mem hshows hm).1, hkey.1, hkey.2, h.current_first, hnone] at hfile
  cases hfile

namespace Generations

/-- No file stands where the list view would have another extension, neither before nor after the small
run. -/
theorem moved_absent {r : Reconciliation} {first : World} (hrun : run .small .small = .ok r first) :
    first.disk.file? ["out", "routes", "a", "list.jsx"] = none := by
  obtain ⟨result, done, h, -⟩ := RunOptions.run_settled rfl hrun
  have hown : ["out", "routes", "a", "list.jsx"] ∉
      RunOptions.small.ownPlaces (RunOptions.small.models .small) World.small.current := by
    rw [RunOptions.mem_ownPlaces_small]
    decide
  rw [h.keeps.files]
  · rfl
  · exact fun hin => hown (hin.imp_left fun hview => h.placesOf_changed_subset hview)

theorem run_beside :
    RunOptions.beside.models .small = [.small] ∧ (run .beside).succeeds .small = true := by
  decide +kernel

/-- A call reports a view that is not there: after a change of the extension alone, and where the lock file
has its place. -/
theorem not_found_small :
    (∃ g first again last, Generations smallRoot [g] first ∧
      smallRoot.Admits (RunOptions.small.withExtension "jsx") first ∧
      run (RunOptions.small.withExtension "jsx") first = .ok again last ∧
      ¬ again.Found smallRoot.output last) ∧
    ∃ root options r later, Generations root [] .small ∧ root.Admits options .small ∧
      run options .small = .ok r later ∧ ¬ r.Found root.output later := by
  constructor
  · -- The second call finds nothing changed, so it writes nothing under its own extension.
    obtain ⟨r, hrun⟩ := exists_run_small
    have hsmall := RunOptions.nameFree_small
    generalize (run .small).after .small = first at *
    have hnames : ((RunOptions.small.models .small).map (·.name)).Nodup := by
      rw [models_small]
      decide
    have hlibraries : first.libraries = .embedded :=
      congrArg Setting.libraries (RunOptions.run_setting hrun)
    have hengine : first.libraries.engine = TemplateEngine.embedded := by rw [hlibraries]; rfl
    have hfree : RunOptions.small.NameFree first.libraries.randomNames first := by
      rw [hlibraries]
      exact RunOptions.NameFree.mono hsmall (by decide)
    obtain ⟨again, last, hagain, hmodels, -, -, hsame⟩ := RunOptions.run_moved rfl hrun hnames
      RunOptions.placesApart_small (RunOptions.rendersAlike_small hengine) hfree "jsx"
    have hadmits : smallRoot.Admits (RunOptions.small.withExtension "jsx") first := by
      refine ⟨rfl, rfl, rfl, by decide, ?_⟩
      rw [hmodels]
      exact namesApart_small
    refine ⟨_, _, again, last, .generated start_small admits_small hrun, hadmits, hagain, ?_⟩
    have hcurrent : first.current = World.small.current :=
      congrArg Setting.current (RunOptions.run_setting hrun)
    have hplace : ((RunOptions.small.withExtension "jsx").output.join
        (viewPath "A" .list (RunOptions.small.withExtension "jsx").extension)).resolve
          World.small.current = ["out", "routes", "a", "list.jsx"] := by
      decide
    have hnone := hsame ["out", "routes", "a", "list.jsx"] (by decide) (by decide)
    rw [moved_absent hrun, ← hplace, ← hcurrent] at hnone
    have hlost := Reconciliation.not_found_of_none rfl hagain (hmodels.trans models_small) hnone
    exact hlost
  · -- The list view is written over the lock file, and goes when the lock is released.
    obtain ⟨hmodels, hsucceeds⟩ := run_beside
    obtain ⟨r, hrun⟩ := Job.exists_of_succeeds hsucceeds
    let root : Root := ⟨RunOptions.beside.output, RunOptions.beside.manifestFile, World.small.current⟩
    have hadmits : root.Admits .beside .small := by
      refine ⟨rfl, rfl, rfl, by decide, ?_⟩
      rw [hmodels, ← models_small]
      exact namesApart_small
    have hstart : Generations root [] .small := by
      have hplace : root.manifestPlace = ["out", "routes", "a", "list"] := by decide
      refine .start rfl ?_
      rw [hplace]
      rfl
    refine ⟨root, .beside, r, _, hstart, hadmits, hrun, ?_⟩
    obtain ⟨result, done, h, -⟩ := RunOptions.run_settled rfl hrun
    have hplace : (RunOptions.beside.output.join
        (viewPath "A" .list RunOptions.beside.extension)).resolve World.small.current =
        RunOptions.beside.lock.place World.small.current := by
      decide
    have hnone : ((run .beside).after .small).disk.file? ((RunOptions.beside.output.join
        (viewPath "A" .list RunOptions.beside.extension)).resolve World.small.current) = none := by
      rw [hplace, Disk.file?, h.lock_free]
    exact Reconciliation.not_found_of_none rfl hrun hmodels hnone

end Generations

end ViewGen
