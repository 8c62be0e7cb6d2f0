import ViewGen.Embedded
import ViewGen.Proofs.Decisions
import ViewGen.Proofs.Incrementality
import ViewGen.Proofs.TemplateRows

/-!
# What the bundled templates show

Each bundled template shows a model's name and rows of its own: all scalar fields, those without a default,
those that are not unique, those of text, or none.  So a view is written again only if one of these has
changed, and whatever happens to relations, nothing is.
-/

namespace ViewGen

namespace Template

/-! ## Reading the bundled templates -/

/-- The lines of a template with their characters, each with its line feed. -/
inductive Spells : List String → List Char → Prop
  | nil : Spells [] []
  | cons {line chars : List Char} {rest : List String} : Spells rest chars →
    Spells (String.ofList line :: rest) (line ++ '\n' :: chars)

theorem Spells.toList_ofLines {lines : List String} {chars : List Char} (h : Spells lines chars) :
    (Bundled.ofLines lines).toList = chars := by
  unfold Bundled.ofLines
  rw [String.toList_join, List.flatMap_map]
  induction h with
  | nil => rfl
  | @cons line chars rest _ ih =>
    rw [List.flatMap_cons, ih, String.toList_append, String.toList_ofList, List.append_assoc]
    rfl

/-- A template that has been cut into tokens. -/
def ofTokens (tokens : List Token) : Except Nat Template :=
  match Parser.statements (2 * tokens.length + 1) [] tokens with
  | .error line => .error line
  | .ok (statements, _) =>
    match unknownFilterIn false statements with
    | some line => .error line
    | none => .ok ⟨statements⟩

theorem parse_eq_ofTokens (text : String) : parse text = ofTokens (Token.scan text.toList) := rfl

/-- Whether a text is a template that shows nothing but the rows and the model's name. -/
def Rows.covers (rows : Rows) (chars : List Char) : Bool :=
  match ofTokens (Token.scan chars) with
  | .error _ => false
  | .ok template => (shapesOfAll? rows [("model", .model)] template.statements).isSome

theorem parse_of_covers {rows : Rows} {lines : List String} {chars : List Char}
    (hspells : Spells lines chars) (hcovers : rows.covers chars = true) :
    ∃ template, parse (Bundled.ofLines lines) = .ok template ∧
      (shapesOfAll? rows [("model", .model)] template.statements).isSome = true := by
  rw [parse_eq_ofTokens, hspells.toList_ofLines]
  unfold Rows.covers at hcovers
  split at hcovers
  · cases hcovers
  · rename_i template htemplate
    exact ⟨template, htemplate, hcovers⟩

end Template

namespace ViewKind

open Template

/-! ## The rows of each kind -/

section

variable (scope : Scope) (field : Field)

theorem conditionHolds_default :
    conditionHolds (("field", .field field) :: scope)
      (some (.isNull (.attribute (.name "field") "default"))) = .ok field.defaultText.isNone := by
  obtain ⟨name, baseType, isRequired, isList, isUnique, defaultText, relation⟩ := field
  cases defaultText <;> rfl

theorem conditionHolds_type (baseType : String) :
    conditionHolds (("field", .field field) :: scope)
      (some (.equals (.attribute (.name "field") "type") (.literal baseType))) =
        .ok (field.baseType == baseType) := by
  have hequal : (Value.text field.baseType == .text baseType) = (field.baseType == baseType) := by
    rw [Bool.eq_iff_iff, beq_iff_eq, beq_iff_eq, Value.text.injEq]
  rw [← hequal]
  rfl

end

/-- The rows that the bundled template of a kind shows. -/
def rows : ViewKind → Rows
  | .list =>
    { name := "field"
      condition := none
      selects := fun _ => true
      traits := [.name]
      holds := fun _ _ => rfl }
  | .create =>
    { name := "field"
      condition := some (.isNull (.attribute (.name "field") "default"))
      selects := fun field => field.defaultText.isNone
      traits := [.name, .inputType, .isRequired]
      holds := conditionHolds_default }
  | .update =>
    { name := "field"
      condition := some (.not (.attribute (.name "field") "is_unique"))
      selects := fun field => !field.isUnique
      traits := [.name, .inputType]
      holds := fun _ _ => rfl }
  | .delete =>
    { name := "field"
      condition := some (.bool false)
      selects := fun _ => false
      traits := []
      holds := fun _ _ => rfl }
  | .search =>
    { name := "field"
      condition := some (.equals (.attribute (.name "field") "type") (.literal "String"))
      selects := fun field => field.baseType == "String"
      traits := [.name]
      holds := fun scope field => conditionHolds_type scope field "String" }

set_option maxRecDepth 4000 in
/-- Every bundled template can be read, and shows nothing but its rows. -/
theorem bundled_covered (kind : ViewKind) :
    ∃ template, parse (TemplateSource.bundledText kind) = .ok template ∧
      (shapesOfAll? kind.rows [("model", .model)] template.statements).isSome = true := by
  cases kind with
  | list => exact parse_of_covers (by repeat constructor) (by decide +kernel)
  | create => exact parse_of_covers (by repeat constructor) (by decide +kernel)
  | update => exact parse_of_covers (by repeat constructor) (by decide +kernel)
  | delete => exact parse_of_covers (by repeat constructor) (by decide +kernel)
  | search => exact parse_of_covers (by repeat constructor) (by decide +kernel)

/-- Whether the bundled template of a kind shows two models of one name alike. -/
def ShowsAlike (model other : Model) : ViewKind → Prop
  | .list => model.scalarFields.map (·.name) = other.scalarFields.map (·.name)
  | .create =>
    (model.scalarFields.filter (·.defaultText.isNone)).map
        (fun field => (field.name, Naming.inputType field.baseType, field.isRequired)) =
      (other.scalarFields.filter (·.defaultText.isNone)).map
        (fun field => (field.name, Naming.inputType field.baseType, field.isRequired))
  | .update =>
    (model.scalarFields.filter (!·.isUnique)).map
        (fun field => (field.name, Naming.inputType field.baseType)) =
      (other.scalarFields.filter (!·.isUnique)).map
        (fun field => (field.name, Naming.inputType field.baseType))
  | .delete => True
  | .search =>
    (model.scalarFields.filter (·.baseType == "String")).map (·.name) =
      (other.scalarFields.filter (·.baseType == "String")).map (·.name)

instance (model other : Model) (kind : ViewKind) : Decidable (kind.ShowsAlike model other) :=
  match kind with
  | .list => inferInstanceAs (Decidable ((_ : List String) = _))
  | .create => inferInstanceAs (Decidable ((_ : List (String × String × Bool)) = _))
  | .update => inferInstanceAs (Decidable ((_ : List (String × String)) = _))
  | .delete => .isTrue trivial
  | .search => inferInstanceAs (Decidable ((_ : List String) = _))

end ViewKind

open Template

section

variable {model other : Model} {kind : ViewKind}

theorem ViewKind.rows_list (model : Model) : ViewKind.list.rows.of model = model.scalarFields :=
  List.filter_true model.scalarFields

theorem ViewKind.rows_delete (model : Model) : ViewKind.delete.rows.of model = [] :=
  List.filter_false model.scalarFields

/-- Where what is listed of each row tells its traits, models with the same list are shown alike. -/
theorem Template.Rows.alike_of_map {rows : Rows} {α : Type} (listed : Field → α)
    (hname : model.name = other.name)
    (hlisted : ∀ field field', listed field = listed field' → rows.Same field field')
    (h : (rows.of model).map listed = (rows.of other).map listed) : rows.Alike model other := by
  rw [← List.forall₂_eq_eq_eq, List.forall₂_map_left_iff, List.forall₂_map_right_iff] at h
  exact ⟨hname, h.imp fun field field' hsame => hlisted field field' hsame⟩

theorem ViewKind.ShowsAlike.alike (hname : model.name = other.name)
    (h : kind.ShowsAlike model other) : kind.rows.Alike model other := by
  -- What a kind lists of a field has to tell each trait that its rows show.
  cases kind with
  | list =>
    refine Rows.alike_of_map (·.name) hname ?_ ?_
    · intro field field' hsame trait htrait
      obtain rfl := List.mem_singleton.mp htrait
      exact congrArg Value.text hsame
    · rw [rows_list, rows_list]
      exact h
  | create =>
    refine Rows.alike_of_map _ hname ?_ h
    intro field field' hsame trait _
    obtain ⟨hfield, hinput, hrequired⟩ := by simpa only [Prod.mk.injEq] using hsame
    cases trait with
    | name => exact congrArg Value.text hfield
    | isRequired => exact congrArg Value.bool hrequired
    | inputType => exact congrArg Value.text hinput
  | update =>
    refine Rows.alike_of_map _ hname ?_ h
    intro field field' hsame trait htrait
    obtain ⟨hfield, hinput⟩ := by simpa only [Prod.mk.injEq] using hsame
    cases trait with
    | name => exact congrArg Value.text hfield
    | isRequired => exact absurd htrait (by decide)
    | inputType => exact congrArg Value.text hinput
  | delete =>
    refine ⟨hname, ?_⟩
    rw [rows_delete, rows_delete]
    exact .nil
  | search =>
    refine Rows.alike_of_map _ hname ?_ h
    intro field field' hsame trait htrait
    obtain rfl := List.mem_singleton.mp htrait
    exact congrArg Value.text hsame

/-- Models with the same name and the same scalar fields are shown alike by every view. -/
theorem ViewKind.showsAlike_of_scalarFields (h : model.scalarFields = other.scalarFields) :
    kind.ShowsAlike model other := by
  cases kind <;> simp only [ShowsAlike, h]

/-! ## Rendering the bundled templates -/

/-- What is rendered of the bundled template of a kind depends on nothing but the model. -/
theorem TemplateSource.render_bundled {template : Template} {content : String}
    (hparse : parse (bundledText kind) = .ok template) (h : template.render model = .ok content)
    (engine : TemplateEngine) (disk : Disk) (current : Location) (number : Nat) :
    bundled.render engine disk current number kind model = .ok content := by
  simp only [render, load, Template.load, hparse, h, Except.mapError]

theorem render_bundled_of_alike (h : kind.rows.Alike model other) :
    ∃ content, ∀ engine disk current number,
      TemplateSource.bundled.render engine disk current number kind model = .ok content ∧
      TemplateSource.bundled.render engine disk current number kind other = .ok content := by
  obtain ⟨template, hparse, hcovered⟩ := kind.bundled_covered
  obtain ⟨content, hmodel, hother⟩ := render_of_alike hcovered h
  exact ⟨content, fun engine disk current number =>
    ⟨TemplateSource.render_bundled hparse hmodel engine disk current number,
      TemplateSource.render_bundled hparse hother engine disk current number⟩⟩

theorem exists_bundled_content :
    ∃ content : ViewKind → Model → String, ∀ engine disk current number kind model,
      TemplateSource.bundled.render engine disk current number kind model =
        .ok (content kind model) := by
  have hcontent : ∀ (kind : ViewKind) (model : Model), ∃ content,
      ∀ engine disk current number,
        TemplateSource.bundled.render engine disk current number kind model = .ok content := by
    intro kind model
    have halike : kind.rows.Alike model model :=
      ⟨rfl, List.forall₂_same.mpr fun field _ trait _ => rfl⟩
    obtain ⟨content, hrender⟩ := render_bundled_of_alike halike
    exact ⟨content, fun engine disk current number => (hrender engine disk current number).1⟩
  choose content hrender using hcontent
  exact ⟨content, fun engine disk current number kind model =>
    hrender kind model engine disk current number⟩

end

/-! ## Two runs -/

section

variable {ε : Type} {models : List Model} {previous : Manifest} {render : Renderings ε}
  {extension : String} {result : Reconciliation}

/-- Where nothing has changed, generating the views writes none. -/
theorem generateViews_of_unchanged (output : Path)
    (h : reconcileAll models previous render extension = .ok result) (hnone : result.changed = [])
    (w : World) :
    (generateViews models output render previous extension false).Answers w (.ok result) := by
  obtain ⟨start, hstart, hgenerate⟩ := RunOptions.generateViews_of_ok output false h w
  obtain ⟨later, hlater, hwrite⟩ := writeViews_eq result output start
  obtain ⟨views, -, rfl⟩ := reconcileAll_eq_ok h
  rw [hnone] at hlater hwrite
  refine ⟨later, hstart.trans hlater, ?_⟩
  rw [hgenerate, if_neg (by decide), Job.bind_of_ok (hwrite _)]
  rfl

end

/-- Bundled templates render models alike that they show alike.  So after models with names of their own
have been reconciled, whatever is reconciled then, each view that shows its model as it was is left alone.
In particular, where models keep their scalar fields, whatever has become of their relations, nothing is
written. -/
theorem bundled_unchanged_of_showsAlike :
    (∀ (kind : ViewKind) (model other : Model), model.name = other.name →
      kind.ShowsAlike model other → ∃ content, ∀ engine disk current number,
        TemplateSource.bundled.render engine disk current number kind model = .ok content ∧
        TemplateSource.bundled.render engine disk current number kind other = .ok content) ∧
    ∀ (models later : List Model) (previous : Manifest) (extension extension' : String)
      (engine engine' : TemplateEngine) (disk disk' : Disk) (current current' : Location),
      (models.map (·.name)).Nodup →
      ∃ first second,
        reconcileAll models previous (TemplateSource.bundled.render engine disk current)
          extension = .ok first ∧
        reconcileAll later first.manifest (TemplateSource.bundled.render engine' disk' current')
          extension' = .ok second ∧
        List.Forall₂ (fun pair view => view.model = pair.1.name ∧ view.kind = pair.2 ∧
            ((∃ model ∈ models, model.name = pair.1.name ∧ pair.2.ShowsAlike model pair.1) →
              view.decision = .unchanged))
          (viewsOf later) second.views ∧
        ((∀ other ∈ later, ∃ model ∈ models, model.name = other.name ∧
            model.scalarFields = other.scalarFields) →
          second.changed = [] ∧ ∀ output w,
            (generateViews later output (TemplateSource.bundled.render engine' disk' current')
              first.manifest extension' false).Answers w (.ok second)) := by
  refine ⟨fun kind model other hname h => render_bundled_of_alike (h.alike hname), ?_⟩
  intro models later previous extension extension' engine engine' disk disk' current current' hnames
  obtain ⟨content, hcontent⟩ := exists_bundled_content
  -- Bundled templates are rendered alike whatever the number of the rendering is.
  let render : Renderer TemplateFault := TemplateSource.bundled.render engine disk current 0
  let render' : Renderer TemplateFault := TemplateSource.bundled.render engine' disk' current' 0
  have hrender : ∀ m ∈ models, ∀ kind, render kind m = .ok (content kind m) :=
    fun m _ kind => hcontent engine disk current 0 kind m
  obtain ⟨first, hfirst⟩ : ∃ first, reconcile models previous render extension = .ok first :=
    ⟨_, reconcile_of_content previous extension hrender⟩
  obtain ⟨second, hsecond⟩ : ∃ second, reconcile later first.manifest render' extension' =
      .ok second :=
    ⟨_, reconcile_of_content _ extension' fun m _ kind => hcontent engine' disk' current' 0 kind m⟩
  have hviews : List.Forall₂ (fun pair view => view.model = pair.1.name ∧ view.kind = pair.2 ∧
      ((∃ model ∈ models, model.name = pair.1.name ∧ pair.2.ShowsAlike model pair.1) →
        view.decision = .unchanged)) (viewsOf later) second.views := by
    refine (views_isDecided hfirst hsecond).imp fun pair view hdecided => ?_
    have hagainst := hdecided.against hnames hrender (hcontent engine' disk' current' 0 pair.2 pair.1)
    refine ⟨hagainst.model, hagainst.kind, ?_⟩
    rintro ⟨model, hm, hname, hshows⟩
    -- Both models are rendered to one content, so that one has the fingerprint recorded.
    obtain ⟨shown, hshown⟩ := render_bundled_of_alike (hshows.alike hname)
    obtain ⟨hbefore, hnow⟩ := hshown engine disk current 0
    rw [hcontent, Except.ok.injEq] at hbefore hnow
    rw [hagainst.known model hm hname, hbefore, hnow]
  refine ⟨first, second, hfirst, hsecond, hviews, fun hkept => ?_⟩
  have hnone : second.changed = [] := by
    rw [← List.length_eq_zero_iff, changed_length_eq_zero]
    intro view hview
    obtain ⟨pair, hpair, -, -, hleft⟩ := exists_of_mem_right hviews hview
    obtain ⟨model, hm, hname, hscalar⟩ := hkept pair.1 (mem_of_mem_viewsOf hpair)
    exact hleft ⟨model, hm, hname, ViewKind.showsAlike_of_scalarFields hscalar⟩
  exact ⟨hnone, fun output w => generateViews_of_unchanged output hsecond hnone w⟩

/-- A post with its author. -/
def Model.post : Model where
  name := "Post"
  fields := [
    ⟨"id", "Int", true, false, true, some "autoincrement()", none⟩,
    ⟨"title", "String", true, false, false, none, none⟩,
    ⟨"author", "User", true, false, false, none, some ⟨"PostToUser", .manyToOne, "User"⟩⟩]

/-- A post without an author, whose title may be missing. -/
def Model.draft : Model where
  name := "Post"
  fields := [
    ⟨"id", "Int", true, false, true, some "autoincrement()", none⟩,
    ⟨"title", "String", false, false, false, none, none⟩]

/-- A post with tags, whose author has been renamed and put first. -/
def Model.taggedPost : Model where
  name := "Post"
  fields := [
    ⟨"writer", "User", true, false, false, none, some ⟨"PostToUser", .manyToOne, "User"⟩⟩,
    ⟨"id", "Int", true, false, true, some "autoincrement()", none⟩,
    ⟨"tags", "Tag", true, true, false, none, some ⟨"PostToTag", .manyToMany, "Tag"⟩⟩,
    ⟨"title", "String", true, false, false, none, none⟩]

/-- An update shows a post and its draft alike, though the form for a new one does not, and tags are no
reason to write anything. -/
theorem bundled_unchanged_of_showsAlike_post :
    ¬ ViewKind.create.ShowsAlike .post .draft ∧
    (∃ content, ∀ engine disk current number,
      TemplateSource.bundled.render engine disk current number .update .post = .ok content ∧
      TemplateSource.bundled.render engine disk current number .update .draft = .ok content) ∧
    ∃ first second,
      reconcileAll [.post] .initial (TemplateSource.bundled.render .embedded .empty []) "tsx" =
        .ok first ∧
      reconcileAll [.taggedPost] first.manifest (TemplateSource.bundled.render .embedded .empty [])
        "tsx" = .ok second ∧
      second.changed = [] ∧ second.views.length = 5 := by
  obtain ⟨hrender, hreconcile⟩ := bundled_unchanged_of_showsAlike
  refine ⟨by decide, hrender .update .post .draft rfl (by decide), ?_⟩
  obtain ⟨first, second, hfirst, hsecond, hviews, hkept⟩ := hreconcile [.post] [.taggedPost] .initial
    "tsx" "tsx" .embedded .embedded .empty .empty [] [] (by decide)
  have hscalar : ∀ other ∈ [Model.taggedPost], ∃ model ∈ [Model.post],
      model.name = other.name ∧ model.scalarFields = other.scalarFields := by
    decide
  exact ⟨first, second, hfirst, hsecond, (hkept hscalar).1, hviews.length_eq.symm⟩

end ViewGen
