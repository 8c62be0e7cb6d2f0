import Mathlib.Data.List.Forall2
import ViewGen.Proofs.Views
import ViewGen.Schema.Parser

/-!
# Reconciling against the manifest of a reconciliation

A manifest made by reconciling has an entry for every model and kind, and a lookup stops at the first one
of a name.  So what is decided about a view later depends on the first model of its name alone, whatever
other models have been added, removed or put in another order, and a model that shares its name with an
earlier one is compared with that one's renderings.
-/

namespace ViewGen

section

variable {ε : Type} {previous : Manifest} {render : Renderer ε} {extension name : String}
  {models : List Model} {pairs : List (Model × ViewKind)} {views : List RenderedView}
  {kind : ViewKind} {model : Model} {result : Reconciliation}

/-! ## What is recorded -/

/-- The fingerprint that comes first for a name and a kind when views are rendered. -/
def recorded (render : Renderer ε) (models : List Model) (name : String) (kind : ViewKind) :
    Option String :=
  (models.find? (·.name == name)).bind fun model => (render kind model).toOption.map fingerprint

theorem find?_viewsOf (models : List Model) (name : String) (kind : ViewKind) :
    (viewsOf models).find? (fun pair => pair.1.name == name && pair.2 == kind) =
      (models.find? (·.name == name)).map (·, kind) := by
  induction models with
  | nil => rfl
  | cons model rest ih =>
    -- One model has one pair of each kind.
    have hkinds : (ViewKind.all.map fun other => (model, other)).find?
        (fun pair => pair.1.name == name && pair.2 == kind) =
          if model.name == name then some (model, kind) else none := by
      simp only [ViewKind.all, List.map_cons, List.map_nil, List.find?_cons]
      cases model.name == name <;> cases kind <;> rfl
    rw [viewsOf, List.flatMap_cons, List.find?_append, hkinds, List.find?_cons]
    cases model.name == name with
    | true => rfl
    | false => exact ih

theorem find?_entries
    (h : List.Forall₂ (RenderedView.Shows previous (fun _ => render) extension) pairs views)
    (name : String) (kind : ViewKind) :
    (views.map (·.entry)).find? (fun entry => entry.model == .ofString name &&
        entry.viewType == .ofString kind.name) =
      ((pairs.find? fun pair => pair.1.name == name && pair.2 == kind).bind fun pair =>
        (render pair.2 pair.1).toOption.map fingerprint).map fun hash =>
          ⟨.ofString name, .ofString kind.name, .ofString hash⟩ := by
  -- On the pairs: the entry of a pair has the key looked for exactly if the pair has it.
  induction h with
  | nil => rfl
  | @cons pair view _ _ hshows _ ih =>
    obtain ⟨number, content, hcontent, rfl⟩ := hshows
    rw [List.map_cons, List.find?_cons, List.find?_cons]
    by_cases hkey : pair.1.name = name ∧ pair.2 = kind
    · obtain ⟨rfl, rfl⟩ := hkey
      simp only [RenderedView.ofContent, RenderedView.entry, beq_self_eq_true, Bool.and_self,
        Option.bind_some, hcontent, Except.toOption, Option.map_some]
    · have hentry : (Units.ofString pair.1.name == Units.ofString name &&
          Units.ofString pair.2.name == Units.ofString kind.name) = false := by
        rw [Bool.and_eq_false_iff, beq_eq_false_iff_ne, beq_eq_false_iff_ne, ← not_and_or]
        rintro ⟨hname, hkind⟩
        exact hkey ⟨Units.ofString_inj.mp hname, ViewKind.name_inj (Units.ofString_inj.mp hkind)⟩
      have hpair : (pair.1.name == name && pair.2 == kind) = false := by
        rwa [Bool.and_eq_false_iff, beq_eq_false_iff_ne, beq_eq_false_iff_ne, ← not_and_or]
      rw [hpair]
      simp only [RenderedView.ofContent, RenderedView.entry] at hentry ⊢
      rw [hentry]
      exact ih

/-- A manifest made by reconciling knows the first model of each name. -/
theorem find?_manifest (h : reconcile models previous render extension = .ok result)
    (name : String) (kind : ViewKind) :
    result.manifest.find? (.ofString name) (.ofString kind.name) =
      (recorded render models name kind).map fun hash =>
        ⟨.ofString name, .ofString kind.name, .ofString hash⟩ := by
  obtain ⟨views, hshows, rfl⟩ := reconcile_eq_ok.mp h
  have hentries := find?_entries hshows name kind
  rw [find?_viewsOf, Option.bind_map] at hentries
  exact hentries

theorem decide_manifest (h : reconcile models previous render extension = .ok result)
    (name : String) (kind : ViewKind) (hash : String) :
    RenderedView.decide result.manifest name kind hash = .unchanged ↔
      recorded render models name kind = some hash := by
  unfold RenderedView.decide
  rw [find?_manifest h]
  cases recorded render models name kind with
  | none => simp
  | some found => simp

/-! ## What is decided -/

theorem mem_viewsOf {pair : Model × ViewKind} : pair ∈ viewsOf models ↔ pair.1 ∈ models := by
  refine ⟨mem_of_mem_viewsOf, fun h => List.mem_flatMap.mpr ⟨pair.1, h, ?_⟩⟩
  have hall : ∀ kind, kind ∈ ViewKind.all := by
    intro kind
    cases kind <;> decide
  exact List.mem_map.mpr ⟨pair.2, hall pair.2, rfl⟩

theorem Decision.eq_of_unchanged_iff {decision other : Decision}
    (h : decision = .unchanged ↔ other = .unchanged) : decision = other := by
  revert h
  cases decision <;> cases other <;> decide

/-- Reconciling succeeds where every rendering does. -/
theorem reconcile_of_content {content : ViewKind → Model → String} (previous : Manifest)
    (extension : String) (h : ∀ m ∈ models, ∀ kind, render kind m = .ok (content kind m)) :
    reconcile models previous render extension =
      .ok (.ofViews previous ((viewsOf models).map fun pair =>
        .ofContent previous extension pair.1.name pair.2 (content pair.2 pair.1))) := by
  apply reconcile_eq_ok.mpr
  refine ⟨_, ?_, rfl⟩
  rw [List.forall₂_map_right_iff, List.forall₂_same]
  intro pair hpair
  exact ⟨0, _, h pair.1 (mem_of_mem_viewsOf hpair) pair.2, rfl⟩

end

/-- What is decided about a view with that content: whether the first model of its name was rendered to
content of the same fingerprint before. -/
def IsDecided {ε ε' : Type} (render : Renderer ε) (models : List Model) (again : Renderer ε')
    (pair : Model × ViewKind) (view : RenderedView) : Prop :=
  ∃ content, again pair.2 pair.1 = .ok content ∧ view.model = pair.1.name ∧ view.kind = pair.2 ∧
    view.hash = fingerprint content ∧
    (view.decision = .unchanged ↔
      recorded render models pair.1.name pair.2 = some (fingerprint content))

section

variable {ε ε' : Type} {previous : Manifest} {render : Renderer ε} {again : Renderer ε'}
  {extension extension' : String} {models later : List Model} {first second : Reconciliation}

theorem views_isDecided (hfirst : reconcile models previous render extension = .ok first)
    (hsecond : reconcile later first.manifest again extension' = .ok second) :
    List.Forall₂ (IsDecided render models again) (viewsOf later) second.views := by
  obtain ⟨views, hshows, rfl⟩ := reconcile_eq_ok.mp hsecond
  refine hshows.imp fun pair view hview => ?_
  obtain ⟨number, content, hcontent, rfl⟩ := hview
  exact ⟨content, hcontent, rfl, rfl, rfl, decide_manifest hfirst _ _ _⟩

/-- Nothing is written again exactly if every view finds its own fingerprint. -/
theorem forall_unchanged_iff {pairs : List (Model × ViewKind)} {views : List RenderedView}
    (h : List.Forall₂ (IsDecided render models again) pairs views) :
    (∀ view ∈ views, view.decision = .unchanged) ↔ ∀ pair ∈ pairs, ∀ content,
      again pair.2 pair.1 = .ok content →
        recorded render models pair.1.name pair.2 = some (fingerprint content) := by
  induction h with
  | nil => simp
  | @cons pair view _ _ hview _ ih =>
    obtain ⟨content, hcontent, -, -, -, hdecision⟩ := hview
    rw [List.forall_mem_cons, List.forall_mem_cons, ih, hdecision]
    refine and_congr_left fun _ => ⟨fun h other hother => ?_, fun h => h content hcontent⟩
    rw [hcontent, Except.ok.injEq] at hother
    rwa [← hother]

theorem changed_length_eq_zero {result : Reconciliation} :
    result.changed.length = 0 ↔ ∀ view ∈ result.views, view.decision = .unchanged := by
  rw [Reconciliation.changed, List.length_eq_zero_iff, List.filter_eq_nil_iff]
  refine forall₂_congr fun view _ => ?_
  rw [RenderedView.isChanged, beq_iff_eq]
  cases view.decision <;> decide

end

/-! ## Namesakes -/

section

variable {ε : Type} {render : Renderer ε} {models others : List Model} {model : Model} {name : String}
  {kind : ViewKind} {content : ViewKind → Model → String}

theorem name_of_find? (h : models.find? (·.name == name) = some model) : model.name = name :=
  beq_iff_eq.mp (List.find?_some (p := fun m : Model => m.name == name) h)

theorem find?_name_eq_none (h : ∀ m ∈ models, m.name ≠ name) :
    models.find? (·.name == name) = none := by
  rw [List.find?_eq_none]
  intro m hm he
  exact h m hm (beq_iff_eq.mp he)

/-- Models with the same namesake record the same for it. -/
theorem recorded_congr (hothers : (others.map (·.name)).Nodup)
    (hsame : ∀ m, m.name = name → (m ∈ models ↔ m ∈ others)) :
    recorded render models name kind = recorded render others name kind := by
  have hfind : models.find? (·.name == name) = others.find? (·.name == name) := by
    cases hfound : models.find? (·.name == name) with
    | none =>
      rw [List.find?_eq_none] at hfound
      refine (find?_name_eq_none fun m hm he => ?_).symm
      exact hfound m ((hsame m he).mpr hm) (beq_iff_eq.mpr he)
    | some m =>
      -- Found in the one, it is in the other, where it has the name for itself.
      obtain rfl := name_of_find? hfound
      exact (find?_key_of_mem hothers ((hsame m rfl).mp (List.mem_of_find?_eq_some hfound))).symm
  rw [recorded, recorded, hfind]

theorem exists_first_named (hm : model ∈ models) :
    ∃ m ∈ models, m.name = model.name ∧ models.find? (·.name == model.name) = some m := by
  cases hfound : models.find? (·.name == model.name) with
  | none => exact absurd (beq_self_eq_true model.name) (List.find?_eq_none.mp hfound model hm)
  | some m => exact ⟨m, List.mem_of_find?_eq_some hfound, name_of_find? hfound, rfl⟩

theorem recorded_of_find? (hrender : ∀ m ∈ models, ∀ kind, render kind m = .ok (content kind m))
    (hfind : models.find? (·.name == name) = some model) :
    recorded render models name kind = some (fingerprint (content kind model)) := by
  have hcontent := hrender model (List.mem_of_find?_eq_some hfind) kind
  rw [recorded, hfind, Option.bind_some, hcontent]
  rfl

end

/-! ## Two runs -/

/-- Whether a run over later models has followed one over earlier models. -/
def ReconciledInTurn {ε ε' : Type} (render : Renderer ε) (models : List Model)
    (first : Reconciliation) (again : Renderer ε') (later : List Model) (second : Reconciliation) :
    Prop :=
  ∃ previous extension extension', reconcile models previous render extension = .ok first ∧
    reconcile later first.manifest again extension' = .ok second

/-- What is decided about a view, given the contents to which models were rendered before and are
now. -/
structure DecidedAgainst (models : List Model) (before now : ViewKind → Model → String)
    (pair : Model × ViewKind) (view : RenderedView) : Prop where
  model : view.model = pair.1.name
  kind : view.kind = pair.2
  hash : view.hash = fingerprint (now pair.2 pair.1)
  known : ∀ m ∈ models, m.name = pair.1.name → (view.decision = .unchanged ↔
    fingerprint (now pair.2 pair.1) = fingerprint (before pair.2 m))
  unknown : (∀ m ∈ models, m.name ≠ pair.1.name) → view.decision = .changed

section

variable {ε ε' : Type} {render : Renderer ε} {again : Renderer ε'} {models later : List Model}
  {before now : ViewKind → Model → String} {pair : Model × ViewKind} {view : RenderedView}

theorem ReconciledInTurn.isDecided {first second : Reconciliation}
    (h : ReconciledInTurn render models first again later second)
    (hm : (pair, view) ∈ (viewsOf later).zip second.views) :
    IsDecided render models again pair view := by
  obtain ⟨previous, extension, extension', hfirst, hsecond⟩ := h
  exact List.forall₂_zip (views_isDecided hfirst hsecond) hm

/-- What is recorded and rendered is all that decides. -/
theorem IsDecided.congr {others : List Model} {view' : RenderedView}
    (h : IsDecided render models again pair view) (h' : IsDecided render others again pair view')
    (hrecorded : recorded render models pair.1.name pair.2 =
      recorded render others pair.1.name pair.2) : view'.decision = view.decision := by
  obtain ⟨content, hcontent, -, -, -, hdecision⟩ := h
  obtain ⟨content', hcontent', -, -, -, hdecision'⟩ := h'
  obtain rfl : content = content' := by
    rwa [hcontent, Except.ok.injEq] at hcontent'
  apply Decision.eq_of_unchanged_iff
  rw [hdecision, hdecision', hrecorded]

theorem IsDecided.against (h : IsDecided render models again pair view)
    (hnames : (models.map (·.name)).Nodup)
    (hrender : ∀ m ∈ models, ∀ kind, render kind m = .ok (before kind m))
    (hagain : again pair.2 pair.1 = .ok (now pair.2 pair.1)) :
    DecidedAgainst models before now pair view := by
  obtain ⟨content, hcontent, hmodel, hkind, hhash, hdecision⟩ := h
  obtain rfl : now pair.2 pair.1 = content := by
    rwa [hagain, Except.ok.injEq] at hcontent
  refine ⟨hmodel, hkind, hhash, fun m hm he => ?_, fun hnone => ?_⟩
  · have hfind := find?_key_of_mem hnames hm
    rw [he] at hfind
    rw [hdecision, recorded_of_find? hrender hfind, Option.some.injEq]
    exact eq_comm
  · have hrecorded : recorded render models pair.1.name pair.2 = none := by
      rw [recorded, find?_name_eq_none hnone, Option.bind_none]
    rw [hrecorded] at hdecision
    cases hview : view.decision with
    | changed => rfl
    | unchanged => exact nomatch hdecision.mp hview

/-- After a run over models with names of their own, a view of a later one is left alone exactly if the
model of its name was rendered to content of the same fingerprint.  Nothing else about the models decides
over it, and no entry of a vanished model is kept. -/
theorem decided_by_namesake (previous : Manifest) (extension extension' : String)
    (hnames : (models.map (·.name)).Nodup)
    (hrender : ∀ m ∈ models, ∀ kind, render kind m = .ok (before kind m))
    (hagain : ∀ m ∈ later, ∀ kind, again kind m = .ok (now kind m)) :
    ∃ first second, reconcile models previous render extension = .ok first ∧
      reconcile later first.manifest again extension' = .ok second ∧
      List.Forall₂ (DecidedAgainst models before now) (viewsOf later) second.views ∧
      second.manifest.entries = (viewsOf later).map (fun pair => ⟨.ofString pair.1.name,
        .ofString pair.2.name, .ofString (fingerprint (now pair.2 pair.1))⟩) ∧
      (∀ m ∈ models, (∀ m' ∈ later, m'.name ≠ m.name) →
        ∀ entry ∈ second.manifest.entries, entry.model ≠ .ofString m.name) ∧
      ∀ (others others' : List Model) (first' second' : Reconciliation),
        (others.map (·.name)).Nodup →
        ReconciledInTurn render others first' again others' second' →
        ∀ model kind view view', (∀ m, m.name = model.name → (m ∈ models ↔ m ∈ others)) →
          ((model, kind), view) ∈ (viewsOf later).zip second.views →
          ((model, kind), view') ∈ (viewsOf others').zip second'.views →
          view'.decision = view.decision := by
  have hfirst := reconcile_of_content previous extension hrender
  refine ⟨_, _, hfirst, reconcile_of_content _ extension' hagain, ?_, ?_, ?_, ?_⟩
  · have hdecided := views_isDecided hfirst (reconcile_of_content _ extension' hagain)
    refine List.forall₂_iff_zip.mpr ⟨hdecided.length_eq, fun {pair view} hm => ?_⟩
    have hmodel := mem_of_mem_viewsOf (List.of_mem_zip hm).1
    exact (List.forall₂_zip hdecided hm).against hnames hrender (hagain _ hmodel _)
  · exact List.map_map
  · intro m _ hvanished entry hentry
    obtain ⟨view, hview, rfl⟩ := List.mem_map.mp hentry
    obtain ⟨pair, hpair, rfl⟩ := List.mem_map.mp hview
    exact fun he => hvanished pair.1 (mem_of_mem_viewsOf hpair) (Units.ofString_inj.mp he)
  · -- Other runs record the same for the namesake, and render the model to the same content.
    intro others others' first' second' hothers hturn model kind view view' hsame hm hm'
    have hdecided := views_isDecided hfirst (reconcile_of_content _ extension' hagain)
    exact (List.forall₂_zip hdecided hm).congr (hturn.isDecided hm') (recorded_congr hothers hsame)

end

/-- A model of number fields. -/
def Model.ofNumbers (name : String) (fields : List String) : Model :=
  { name, fields := fields.map fun field => ⟨field, "Int", true, false, false, none, none⟩ }

/-- A content that tells how many fields a model has. -/
def fieldCount (kind : ViewKind) (model : Model) : String :=
  model.name ++ ":" ++ kind.name ++ ":" ++ toString model.fields.length

/-- One model vanishes, one stays as it is, one gets a field and one is new. -/
theorem decided_by_namesake_small :
    let models := [Model.ofNumbers "A" ["x"], .ofNumbers "B" ["y"], .ofNumbers "C" ["z"]]
    let later := [Model.ofNumbers "C" ["z"], .ofNumbers "D" [], .ofNumbers "B" ["y", "w"]]
    let render : Renderer Empty := fun kind model => .ok (fieldCount kind model)
    (models.map (·.name)).Nodup ∧
      (∀ kind, fingerprint (fieldCount kind (.ofNumbers "B" ["y", "w"])) ≠
        fingerprint (fieldCount kind (.ofNumbers "B" ["y"]))) ∧
      ∃ first second, reconcile models .initial render defaultExtension = .ok first ∧
        reconcile later first.manifest render defaultExtension = .ok second ∧
        List.Forall₂ (DecidedAgainst models fieldCount fieldCount) (viewsOf later) second.views ∧
        ∀ entry ∈ second.manifest.entries, entry.model ≠ .ofString "A" := by
  intro models later render
  have hnames : (models.map (·.name)).Nodup := by decide
  have hrender : ∀ m ∈ models, ∀ kind, render kind m = .ok (fieldCount kind m) := fun _ _ _ => rfl
  have hagain : ∀ m ∈ later, ∀ kind, render kind m = .ok (fieldCount kind m) := fun _ _ _ => rfl
  obtain ⟨first, second, hfirst, hsecond, hdecided, -, hvanished, -⟩ :=
    decided_by_namesake .initial defaultExtension defaultExtension hnames hrender hagain
  refine ⟨hnames, ?_, first, second, hfirst, hsecond, hdecided, ?_⟩
  · intro kind
    cases kind <;> decide +kernel
  · exact hvanished (.ofNumbers "A" ["x"]) List.mem_cons_self (by decide)

/-! ## The same run again -/

section

variable {ε : Type} {render : Renderer ε} {models : List Model} {content : ViewKind → Model → String}

/-- When models are reconciled again, a view is left alone exactly if its content has the fingerprint of
that of the first model of its name.  So nothing is to be written again exactly if models of one name are
rendered alike. -/
theorem unchanged_again_iff (previous : Manifest) (extension : String)
    (hrender : ∀ m ∈ models, ∀ kind, render kind m = .ok (content kind m)) :
    ∃ first second, reconcile models previous render extension = .ok first ∧
      reconcile models first.manifest render extension = .ok second ∧
      List.Forall₂ (fun pair view => view.decision = .unchanged ↔
          ∀ m, models.find? (·.name == pair.1.name) = some m →
            fingerprint (content pair.2 m) = fingerprint (content pair.2 pair.1))
        (viewsOf models) second.views ∧
      (second.changed.length = 0 ↔ ∀ m ∈ models, ∀ m' ∈ models, m.name = m'.name →
        ∀ kind, fingerprint (content kind m) = fingerprint (content kind m')) := by
  have hfirst := reconcile_of_content previous extension hrender
  refine ⟨_, _, hfirst, reconcile_of_content _ extension hrender, ?_, ?_⟩
  all_goals have hdecided := views_isDecided hfirst (reconcile_of_content _ extension hrender)
  · refine List.forall₂_iff_zip.mpr ⟨hdecided.length_eq, fun {pair view} hm => ?_⟩
    have hmodel := mem_of_mem_viewsOf (List.of_mem_zip hm).1
    obtain ⟨now, hnow, -, -, -, hdecision⟩ := List.forall₂_zip hdecided hm
    rw [hrender _ hmodel, Except.ok.injEq] at hnow
    obtain ⟨first, -, -, hfind⟩ := exists_first_named hmodel
    rw [hdecision, recorded_of_find? hrender hfind, hfind, Option.some.injEq, ← hnow]
    simp
  · rw [changed_length_eq_zero, forall_unchanged_iff hdecided]
    constructor
    · intro h m hm m' hm' hname kind
      -- Both find what is recorded for their name.
      have hself := h (m, kind) (mem_viewsOf.mpr hm) _ (hrender m hm kind)
      have hother := h (m', kind) (mem_viewsOf.mpr hm') _ (hrender m' hm' kind)
      dsimp only at hself hother
      rw [hname, hother, Option.some.injEq] at hself
      exact hself.symm
    · intro h pair hpair now hnow
      have hmodel := mem_of_mem_viewsOf hpair
      rw [hrender _ hmodel, Except.ok.injEq] at hnow
      obtain ⟨first, hmem, hname, hfind⟩ := exists_first_named hmodel
      rw [recorded_of_find? hrender hfind, ← hnow, h first hmem pair.1 hmodel hname]

/-- Where a name is declared twice, the parser keeps both models, and views are written again though
nothing has changed. -/
theorem unchanged_again_iff_twice :
    let models := [Model.ofNumbers "A" ["x"], .ofNumbers "A" ["x", "y"]]
    let render : Renderer Empty := fun kind model => .ok (fieldCount kind model)
    Schema.parse "model A \x7b\n  x Int\n\x7d\nmodel A \x7b\n  x Int\n  y Int\n\x7d\n" =
        .ok ⟨models, none⟩ ∧
      ∃ first second, reconcile models .initial render defaultExtension = .ok first ∧
        reconcile models first.manifest render defaultExtension = .ok second ∧
        second.changed.length ≠ 0 := by
  intro models render
  have hrender : ∀ m ∈ models, ∀ kind, render kind m = .ok (fieldCount kind m) := fun _ _ _ => rfl
  obtain ⟨first, second, hfirst, hsecond, -, hiff⟩ :=
    unchanged_again_iff .initial defaultExtension hrender
  refine ⟨by decide, first, second, hfirst, hsecond, ?_⟩
  rw [ne_eq, hiff]
  intro h
  have hsame := h _ List.mem_cons_self _ (List.mem_cons_of_mem _ List.mem_cons_self) rfl .list
  exact absurd hsame (by decide +kernel)

end

end ViewGen
