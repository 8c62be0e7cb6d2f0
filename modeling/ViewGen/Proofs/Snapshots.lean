import ViewGen.Proofs.Escapes
import ViewGen.Proofs.Incrementality

/-!
# What a reconciliation holds

Views and entries of the next manifest are made in step, one of each for every model and kind, so each
entry belongs to the view at its place.  The previous manifest is only looked into: whatever it holds twice,
or of models and kinds that are unknown, leaves no trace in the result but in the decisions.
-/

namespace ViewGen

/-! ## What the previous manifest says -/

namespace Manifest

variable {manifest : Manifest} {name : String} {kind : ViewKind} {entry : ManifestEntry}

/-- Whether an entry is about a kind of view of the models with a name. -/
def IsAbout (name : String) (kind : ViewKind) (entry : ManifestEntry) : Prop :=
  entry.model = .ofString name ∧ entry.viewType = .ofString kind.name

/-- Whether an entry is the first about a view, whatever stands behind it. -/
def FirstAbout (manifest : Manifest) (name : String) (kind : ViewKind) (entry : ManifestEntry) : Prop :=
  IsAbout name kind entry ∧ ∃ before after, manifest.entries = before ++ entry :: after ∧
    ∀ earlier ∈ before, ¬ IsAbout name kind earlier

theorem isAbout_iff :
    (entry.model == .ofString name && entry.viewType == .ofString kind.name) = true ↔
      IsAbout name kind entry := by
  rw [Bool.and_eq_true, beq_iff_eq, beq_iff_eq, IsAbout]

theorem find?_eq_some_iff_first :
    manifest.find? (.ofString name) (.ofString kind.name) = some entry ↔
      manifest.FirstAbout name kind entry := by
  simp only [find?, List.find?_eq_some_iff_append, FirstAbout, isAbout_iff, Bool.not_eq_true',
    ← Bool.not_eq_true]

theorem find?_eq_none_iff_absent :
    manifest.find? (.ofString name) (.ofString kind.name) = none ↔
      ∀ entry ∈ manifest.entries, ¬ IsAbout name kind entry := by
  simp only [find?, List.find?_eq_none, isAbout_iff]

end Manifest

/-- A view is changed exactly if nothing is recorded about it, or the first thing recorded is another
fingerprint. -/
theorem decide_eq_changed {previous : Manifest} {name hash : String} {kind : ViewKind} :
    RenderedView.decide previous name kind hash = .changed ↔
      (∀ entry ∈ previous.entries, ¬ Manifest.IsAbout name kind entry) ∨
      ∃ entry, previous.FirstAbout name kind entry ∧ entry.hash ≠ .ofString hash := by
  simp only [← Manifest.find?_eq_none_iff_absent, ← Manifest.find?_eq_some_iff_first]
  unfold RenderedView.decide
  cases previous.find? (.ofString name) (.ofString kind.name) with
  | none => simp
  | some entry => by_cases hhash : entry.hash = .ofString hash <;> simp [hhash]

/-! ## What is made of each pair -/

section

variable {ε : Type} {previous : Manifest} {render : Renderer ε} {extension : String}
  {models : List Model} {pairs : List (Model × ViewKind)} {views : List RenderedView}
  {pair : Model × ViewKind} {view : RenderedView}

theorem viewsOf_eq_product (models : List Model) : viewsOf models = models ×ˢ ViewKind.all := rfl

theorem length_viewsOf (models : List Model) : (viewsOf models).length = 5 * models.length := by
  rw [viewsOf_eq_product, List.length_product, Nat.mul_comm]
  rfl

/-- Where some pair cannot be rendered, one of them is the first. -/
theorem exists_failsFirst (h : ∃ pair ∈ pairs, ∃ fault, render pair.2 pair.1 = .error fault) :
    ∃ fault, FailsFirst (fun _ => render) fault pairs := by
  induction pairs with
  | nil => exact absurd h (by simp)
  | cons first rest ih =>
    cases hfirst : render first.2 first.1 with
    | error fault => exact ⟨fault, failsFirst_cons.mpr (.inl hfirst)⟩
    | ok content =>
      obtain ⟨pair, hm, fault, hfault⟩ := h
      obtain rfl | hrest := List.mem_cons.mp hm
      · rw [hfirst] at hfault
        cases hfault
      · obtain ⟨fault, hfails⟩ := ih ⟨pair, hrest, fault, hfault⟩
        exact ⟨fault, failsFirst_cons.mpr (.inr ⟨⟨content, hfirst⟩, hfails⟩)⟩

/-- The view that is made of a model and a kind. -/
structure RenderedView.IsMadeOf (previous : Manifest) (render : Renderer ε) (extension : String)
    (pair : Model × ViewKind) (view : RenderedView) : Prop where
  content : render pair.2 pair.1 = .ok view.content
  model : view.model = pair.1.name
  kind : view.kind = pair.2
  path : view.path = viewPath pair.1.name pair.2 extension
  hash : view.hash = Sha256.hexDigest view.content.toUTF8.toList
  decision : view.decision = .changed ↔
    (∀ entry ∈ previous.entries, ¬ Manifest.IsAbout pair.1.name pair.2 entry) ∨
    ∃ entry, previous.FirstAbout pair.1.name pair.2 entry ∧ entry.hash ≠ .ofString view.hash

/-- The entry that is made for a view. -/
structure ManifestEntry.IsMadeFor (view : RenderedView) (entry : ManifestEntry) : Prop where
  model : entry.model = .ofString view.model
  viewType : entry.viewType = .ofString view.kind.name
  hash : entry.hash = .ofString (Sha256.hexDigest view.content.toUTF8.toList)

theorem RenderedView.Shows.isMadeOf
    (h : RenderedView.Shows previous (fun _ => render) extension pair view) :
    RenderedView.IsMadeOf previous render extension pair view := by
  obtain ⟨number, content, hcontent, rfl⟩ := h
  constructor
  case content => exact hcontent
  case decision => exact decide_eq_changed
  all_goals simp only [RenderedView.ofContent, fingerprint]

theorem RenderedView.IsMadeOf.entry (h : RenderedView.IsMadeOf previous render extension pair view) :
    ManifestEntry.IsMadeFor view view.entry :=
  ⟨rfl, rfl, congrArg Units.ofString h.hash⟩

/-- Views and entries are those of all models and kinds, in step. -/
structure Reconciliation.IsAligned (models : List Model) (previous : Manifest) (render : Renderer ε)
    (extension : String) (result : Reconciliation) : Prop where
  views : List.Forall₂ (RenderedView.IsMadeOf previous render extension) (models ×ˢ ViewKind.all)
    result.views
  entries : List.Forall₂ ManifestEntry.IsMadeFor result.views result.manifest.entries
  version : result.manifest.version = previous.version
  parted : result.views.partition (fun view => view.decision = .changed) =
    (result.changed, result.unchanged)
  counted : result.changed.length + result.unchanged.length = 5 * models.length
  written : result.written = []

theorem forall₂_entry (h : List.Forall₂ (RenderedView.IsMadeOf previous render extension) pairs views) :
    List.Forall₂ ManifestEntry.IsMadeFor views (views.map (·.entry)) := by
  -- In step with the pairs that the views are made of.
  induction h with
  | nil => exact .nil
  | cons hview _ ih => exact .cons hview.entry ih

theorem Reconciliation.partition_views (result : Reconciliation) :
    result.views.partition (fun view => view.decision = .changed) =
      (result.changed, result.unchanged) := by
  have hchanged : (fun view : RenderedView => decide (view.decision = .changed)) =
      fun view => view.isChanged := by
    funext view
    rw [RenderedView.isChanged, Bool.eq_iff_iff, decide_eq_true_eq, beq_iff_eq]
  rw [List.partition_eq_filter_filter, hchanged]
  rfl

theorem isAligned_ofViews
    (h : List.Forall₂ (RenderedView.Shows previous (fun _ => render) extension) (viewsOf models)
      views) :
    Reconciliation.IsAligned models previous render extension (.ofViews previous views) := by
  have hviews := h.imp fun _ _ hview => hview.isMadeOf
  refine ⟨hviews, forall₂_entry hviews, rfl, Reconciliation.partition_views _, ?_, rfl⟩
  rw [Reconciliation.changed, Reconciliation.unchanged, ← List.length_eq_length_filter_add,
    ← length_viewsOf]
  exact h.length_eq.symm

/-- Reconciling fails with the first view that cannot be rendered.  Where all can, it holds one view and one
entry for each model and kind, and the previous manifest decides only which of them are changed.  As a job
it does the same, and notes what it decides. -/
theorem reconcile_aligned (models : List Model) (previous : Manifest) (render : Renderer ε)
    (extension : String) :
    ((∃ pair ∈ models ×ˢ ViewKind.all, ∃ fault, render pair.2 pair.1 = .error fault) →
      ∃ fault, FailsFirst (fun _ => render) fault (models ×ˢ ViewKind.all) ∧
        reconcile models previous render extension = .error fault ∧
        ∀ w, (reconcileNoting models previous (fun _ => render) extension).Answers w (.error fault)) ∧
    ((∀ pair ∈ models ×ˢ ViewKind.all, ∃ content, render pair.2 pair.1 = .ok content) →
      ∃ result, reconcile models previous render extension = .ok result ∧
        result.IsAligned models previous render extension ∧
        ∀ w, (reconcileNoting models previous (fun _ => render) extension).Answers w (.ok result)) := by
  have hanswers : ∀ w, (reconcileNoting models previous (fun _ => render) extension).Answers w
      (reconcile models previous render extension) :=
    reconcileNoting_answers models previous _ extension
  constructor
  · intro h
    obtain ⟨fault, hfails⟩ := exists_failsFirst h
    have hfault : reconcile models previous render extension = .error fault :=
      reconcileAll_eq_error.mpr hfails
    rw [hfault] at hanswers
    exact ⟨fault, hfails, hfault, hanswers⟩
  · intro h
    cases hresult : reconcile models previous render extension with
    | error fault =>
      -- The pair that failed would have been rendered.
      obtain ⟨before, pair, after, hpairs, -, hfails⟩ := reconcileAll_eq_error.mp hresult
      obtain ⟨content, hcontent⟩ := h pair (by rw [← viewsOf_eq_product, hpairs]; simp)
      cases hcontent.symm.trans hfails
    | ok result =>
      obtain ⟨views, hshows, rfl⟩ := reconcile_eq_ok.mp hresult
      rw [hresult] at hanswers
      exact ⟨_, rfl, isAligned_ofViews hshows, hanswers⟩

end

/-- The second of two namesakes is compared with the first entry of their name, though a later one has its
fingerprint.  Entries of a vanished model and of an unknown kind decide nothing, and are not kept. -/
theorem reconcile_aligned_namesakes :
    let models := [Model.ofNumbers "A" ["x"], .ofNumbers "A" ["x", "y"]]
    let hash model := Units.ofString (fingerprint (fieldCount .list model))
    let previous : Manifest := ⟨.ofString "0.9",
      [⟨.ofString "Gone", .ofString "List", .ofString "1"⟩,
        ⟨.ofString "A", .ofString "Grid", .ofString "2"⟩,
        ⟨.ofString "A", .ofString "List", hash (.ofNumbers "A" ["x"])⟩,
        ⟨.ofString "A", .ofString "List", hash (.ofNumbers "A" ["x", "y"])⟩]⟩
    let render : Renderer String := fun kind model => .ok (fieldCount kind model)
    let failing : Renderer String := fun kind model =>
      if kind = .delete then .error model.name else render kind model
    (∃ result, reconcile models previous render "tsx" = .ok result ∧
      result.IsAligned models previous render "tsx" ∧
      (result.views.filter (·.kind = .list)).map (·.decision) = [.unchanged, .changed] ∧
      result.changed.length = 9) ∧
    reconcile models previous failing "tsx" = .error "A" := by
  intro models hash previous render failing
  have hdecisions : (reconcile models previous render "tsx").toOption.map (fun result =>
      ((result.views.filter (·.kind = .list)).map (·.decision), result.changed.length)) =
        some ([.unchanged, .changed], 9) := by
    decide +kernel
  obtain ⟨result, hresult, haligned, -⟩ :=
    (reconcile_aligned models previous render "tsx").2 fun pair _ => ⟨_, rfl⟩
  rw [hresult, Except.toOption, Option.map_some, Option.some.injEq, Prod.mk.injEq] at hdecisions
  refine ⟨⟨result, hresult, haligned, hdecisions⟩, ?_⟩
  obtain ⟨fault, ⟨before, pair, after, hpairs, -, hfault⟩, hfails, -⟩ :=
    (reconcile_aligned models previous failing "tsx").1
      ⟨(.ofNumbers "A" ["x"], .delete), by decide, "A", rfl⟩
  -- All pairs have this name, so it does not matter which of them fails first.
  have hnames : ∀ pair ∈ models ×ˢ ViewKind.all, pair.1.name = "A" := by decide
  obtain rfl : fault = "A" := by
    rw [← hnames pair (hpairs ▸ List.mem_append_right _ List.mem_cons_self)]
    simp only [failing, render] at hfault
    split at hfault
    · exact (Except.error.inj hfault).symm
    · cases hfault
  exact hfails

end ViewGen
