import ViewGen.Proofs.Names
import ViewGen.Proofs.Runs

/-!
# Where runs on one output root write

The views stand three names below the output root and the manifest with its lock file at most one, so
no view is written over either.  Views of models with names of their own do not stand in each other's
place.
-/

namespace ViewGen

/-- An output root with the name of its manifest and the extension of its views, seen from one
current directory. -/
structure Site where
  output : Path
  manifestFile : String
  extension : String
  current : Location
  isPart : Path.IsPart manifestFile
  noSlash : '/' ∉ extension.toList

/-- Every model has a directory of its own. -/
structure NamesApart (models : List Model) : Prop where
  isName : ∀ model ∈ models, Path.IsName model.name
  nodup : (models.map fun model => Text.lower model.name).Nodup

theorem namesApart_of_map_name {models : List Model} {names : List String}
    (h : models.map (·.name) = names) (hisName : ∀ name ∈ names, Path.IsName name)
    (hnodup : (names.map Text.lower).Nodup) : NamesApart models := by
  refine ⟨fun model hm => hisName _ (h ▸ List.mem_map_of_mem hm), ?_⟩
  have hlower : models.map (fun model => Text.lower model.name) = names.map Text.lower := by
    rw [← h, List.map_map]
    rfl
  rw [hlower]
  exact hnodup

/-! ## Places of views -/

section

variable {output : Path} {model extension : String} {kind : ViewKind} {models : List Model}
  {view : RenderedView}

theorem resolve_viewPath (output : Path) (hmodel : Path.IsName model)
    (hext : '/' ∉ extension.toList) (current : Location) :
    (output.join (viewPath model kind extension)).resolve current =
      output.resolve current ++ viewNames model kind extension := by
  have hnames : ∀ name ∈ viewNames model kind extension, name ≠ ".." := by
    intro name hm
    simp only [viewNames, List.mem_cons, List.not_mem_nil, or_false] at hm
    obtain rfl | rfl | rfl := hm
    · decide
    · exact hmodel.lower.2
    · exact (isName_kind kind hext).2
  rw [viewPath_of_isName hmodel hext]
  exact Path.resolve_names output hnames current

/-- The views have the names of the models in lower case and all kinds, in order. -/
theorem map_lower_key_of_shows {ε : Type} {previous : Manifest} {render : Renderings ε}
    {views : List RenderedView}
    (h : List.Forall₂ (RenderedView.Shows previous render extension) (viewsOf models) views) :
    views.map (fun view => (Text.lower view.model, view.kind)) =
      (viewsOf models).map fun pair => (Text.lower pair.1.name, pair.2) := by
  have hmap := congrArg (List.map fun key : String × ViewKind => (Text.lower key.1, key.2))
    (map_key_of_shows h)
  rwa [List.map_map, List.map_map] at hmap

/-- Views of models with names of their own differ in the lower case name of the model or in the kind. -/
theorem nodup_keys_of_shows {ε : Type} {previous : Manifest} {render : Renderings ε}
    {views : List RenderedView} (hnames : NamesApart models)
    (h : List.Forall₂ (RenderedView.Shows previous render extension) (viewsOf models) views) :
    (views.map fun view => (Text.lower view.model, view.kind)).Nodup :=
  map_lower_key_of_shows h ▸ nodup_viewsOf hnames.nodup

theorem isName_model_of_shows {ε : Type} {previous : Manifest} {render : Renderings ε}
    {views : List RenderedView} (hnames : ∀ model ∈ models, Path.IsName model.name)
    (h : List.Forall₂ (RenderedView.Shows previous render extension) (viewsOf models) views)
    (hm : view ∈ views) : Path.IsName view.model := by
  obtain ⟨pair, hpair, hname, -⟩ := exists_pair_of_mem h hm
  rw [← hname]
  exact hnames pair.1 (mem_of_mem_viewsOf hpair)

theorem NamesApart.isName_of_shows {ε : Type} {previous : Manifest} {render : Renderings ε}
    {views : List RenderedView} (hnames : NamesApart models)
    (h : List.Forall₂ (RenderedView.Shows previous render extension) (viewsOf models) views)
    (hm : view ∈ views) : Path.IsName view.model :=
  isName_model_of_shows hnames.isName h hm

theorem map_place_of_shows {ε : Type} {previous : Manifest} {render : Renderings ε}
    {views : List RenderedView} (output : Path) (hnames : ∀ model ∈ models, Path.IsName model.name)
    (hext : '/' ∉ extension.toList)
    (h : List.Forall₂ (RenderedView.Shows previous render extension) (viewsOf models) views)
    (current : Location) :
    views.map (·.place output current) =
      views.map fun view => output.resolve current ++
        viewNames view.model view.kind extension := by
  refine List.map_congr_left fun view hm => ?_
  rw [RenderedView.place, (shown_of_mem h hm).1]
  exact resolve_viewPath output (isName_model_of_shows hnames h hm) hext current

/-- No two views of models with names of their own stand at one place. -/
theorem nodup_places_of_shows {ε : Type} {previous : Manifest} {render : Renderings ε}
    {views : List RenderedView} (output : Path) (hnames : NamesApart models)
    (hext : '/' ∉ extension.toList)
    (h : List.Forall₂ (RenderedView.Shows previous render extension) (viewsOf models) views)
    (current : Location) : (views.map (·.place output current)).Nodup := by
  have hkeys := nodup_keys_of_shows hnames h
  have hviewsNodup := List.Nodup.of_map _ hkeys
  rw [map_place_of_shows output hnames.isName hext h, List.nodup_map_iff_inj_on hviewsNodup]
  intro first hfirst second hsecond he
  rw [List.append_cancel_left_eq] at he
  obtain ⟨hlower, hkind⟩ := viewNames_inj he
  exact List.inj_on_of_nodup_map hkeys hfirst hsecond (by rw [hlower, hkind])

end

namespace Site

def Covers (site : Site) (options : RunOptions) : Prop :=
  options.output = site.output ∧ options.manifestFile = site.manifestFile ∧
    options.extension = site.extension

def manifestPath (site : Site) : Path :=
  Manifest.path site.output site.manifestFile

def manifestPlace (site : Site) : Location :=
  site.manifestPath.resolve site.current

def lockPlace (site : Site) : Location :=
  (Manifest.path site.output (site.manifestFile ++ ".lock")).resolve site.current

/-! ## Places -/

variable {site : Site} {options : RunOptions} {view other : RenderedView} {models : List Model}

/-- A view as a run on the site makes it. -/
structure Made (site : Site) (view : RenderedView) : Prop where
  isName : Path.IsName view.model
  path : view.path = viewPath view.model view.kind site.extension
  hash : view.hash = fingerprint view.content

theorem Made.parts (h : site.Made view) :
    view.path = ⟨.relative, viewNames view.model view.kind site.extension⟩ :=
  h.path.trans (viewPath_of_isName h.isName site.noSlash)

theorem Made.place (h : site.Made view) (current : Location) :
    view.place site.output current =
      site.output.resolve current ++ viewNames view.model view.kind site.extension := by
  rw [RenderedView.place, h.path]
  exact resolve_viewPath site.output h.isName site.noSlash current

theorem Made.path_eq_of_place (h : site.Made view) (h' : site.Made other) {current : Location}
    (he : view.place site.output current = other.place site.output current) :
    view.path = other.path := by
  rw [h.place, h'.place, List.append_cancel_left_eq] at he
  rw [h.parts, h'.parts, he]

theorem manifestPlace_length (site : Site) :
    site.manifestPlace.length ≤ (site.output.resolve site.current).length + 1 := by
  unfold manifestPlace manifestPath Manifest.path
  rw [Path.joinName_of_isPart site.isPart, Path.resolve_append]
  by_cases hup : site.manifestFile = ".."
  · simp only [List.foldl_cons, List.foldl_nil, hup, if_true, List.length_dropLast]
    omega
  · simp only [List.foldl_cons, List.foldl_nil, hup, if_false, List.length_append,
      List.length_singleton]
    omega

theorem lockPlace_eq (site : Site) :
    site.lockPlace = site.output.resolve site.current ++ [site.manifestFile ++ ".lock"] := by
  have hname : Path.IsName (site.manifestFile ++ ".lock") := by
    refine site.isPart.append (by decide) ?_
    rw [String.length_append]
    have hlock : ".lock".length = 5 := by decide
    omega
  unfold lockPlace Manifest.path
  rw [Path.joinName_of_isPart hname.1]
  exact Path.resolve_names site.output (by simpa using hname.2) site.current

theorem manifestPlace_ne_lockPlace (site : Site) : site.manifestPlace ≠ site.lockPlace := by
  rw [lockPlace_eq]
  unfold manifestPlace manifestPath Manifest.path
  rw [Path.joinName_of_isPart site.isPart, Path.resolve_append]
  intro he
  -- A manifest named by two dots would stand above, where the lock file does not stand either.
  by_cases hup : site.manifestFile = ".."
  · have hlength := congrArg List.length he
    simp only [List.foldl_cons, List.foldl_nil, hup, if_true, List.length_dropLast,
      List.length_append, List.length_singleton] at hlength
    omega
  · simp only [List.foldl_cons, List.foldl_nil, hup, if_false, List.append_cancel_left_eq,
      List.cons.injEq, and_true] at he
    have hlength := congrArg String.length he
    have hlock : ".lock".length = 5 := by decide
    rw [String.length_append] at hlength
    omega

/-- Views stand deeper below the output root than the manifest and the lock file. -/
theorem place_ne (site : Site) {model : String} (hmodel : Path.IsName model) (kind : ViewKind) :
    (site.output.join (viewPath model kind site.extension)).resolve site.current ≠
        site.manifestPlace ∧
      (site.output.join (viewPath model kind site.extension)).resolve site.current ≠
        site.lockPlace := by
  -- A view stands exactly three names below the output root, whatever its model is called.
  have hdepth : ((site.output.join (viewPath model kind site.extension)).resolve
      site.current).length = (site.output.resolve site.current).length + 3 := by
    rw [resolve_viewPath site.output hmodel site.noSlash, List.length_append]
    rfl
  constructor
  · intro he
    have hmanifest := site.manifestPlace_length
    rw [← he] at hmanifest
    omega
  · intro he
    have hlock := congrArg List.length he
    rw [lockPlace_eq, List.length_append, List.length_singleton] at hlock
    omega

theorem Made.place_ne (h : site.Made view) :
    view.place site.output site.current ≠ site.manifestPlace ∧
      view.place site.output site.current ≠ site.lockPlace := by
  rw [RenderedView.place, h.path]
  exact site.place_ne h.isName view.kind

theorem Covers.manifestPath_eq (h : site.Covers options) : options.manifestPath = site.manifestPath := by
  unfold RunOptions.manifestPath manifestPath
  rw [h.1, h.2.1]

theorem Covers.place_lock (h : site.Covers options) :
    options.lock.place site.current = site.lockPlace := by
  unfold lockPlace
  rw [← h.1, ← h.2.1]
  rfl

/-! ## The views of a run -/

section

variable {w : World} {result : Reconciliation}

theorem made_of_decided (hcovers : site.Covers options) (hnames : NamesApart (options.models w))
    (h : options.decision w = .ok result)
    (hm : view ∈ result.views) : site.Made view := by
  obtain ⟨previous, views, -, -, hviews, rfl⟩ := RunOptions.exists_decided h
  obtain ⟨hpath, hhash, -⟩ := shown_of_mem hviews hm
  rw [hcovers.2.2] at hpath
  exact ⟨hnames.isName_of_shows hviews hm, hpath, hhash⟩

theorem nodup_places (hcovers : site.Covers options) (hnames : NamesApart (options.models w))
    (h : options.decision w = .ok result)
    (current : Location) : (result.views.map (·.place site.output current)).Nodup := by
  obtain ⟨previous, views, -, -, hviews, rfl⟩ := RunOptions.exists_decided h
  rw [hcovers.2.2] at hviews
  exact nodup_places_of_shows site.output hnames site.noSlash hviews current

end

end Site

theorem namesApart_small : NamesApart (RunOptions.small.models .small) := by
  rw [models_small]
  exact namesApart_of_map_name rfl (by decide) (by decide)

end ViewGen
