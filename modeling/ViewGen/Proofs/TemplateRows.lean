import Mathlib.Data.List.Forall2
import ViewGen.Template.Render

/-!
# What templates show

A template shows a model by its name and by rows, which are the scalar fields that pass a condition, and
each row by a few traits of its field.  That a template shows nothing else can be checked on its statements
alone, and then models with the same name and the same rows are rendered to the same text.
-/

namespace ViewGen.Template

/-! ## Rows -/

/-- What a template may show of a field. -/
inductive Trait where
  | name
  | isRequired
  | inputType
deriving DecidableEq, Repr

/-- A trait as the value that a template sees. -/
def Trait.value (field : Field) : Trait → Value
  | .name => .text field.name
  | .isRequired => .bool field.isRequired
  | .inputType => .text (Naming.inputType field.baseType)

/-- The rows of a template: the name that loops bind, the condition they put on fields, which fields pass
it, and what is shown of those. -/
structure Rows where
  name : String
  condition : Option Expr
  selects : Field → Bool
  traits : List Trait
  /-- The condition reads nothing but the field. -/
  holds : ∀ scope field,
    conditionHolds ((name, .field field) :: scope) condition = .ok (selects field)

namespace Rows

/-- The fields of a model that have rows. -/
def of (rows : Rows) (model : Model) : List Field :=
  model.scalarFields.filter rows.selects

/-- Whether two fields make the same row. -/
def Same (rows : Rows) (field other : Field) : Prop :=
  ∀ trait ∈ rows.traits, trait.value field = trait.value other

/-- Whether two models are shown alike. -/
structure Alike (rows : Rows) (model other : Model) : Prop where
  name : model.name = other.name
  rows : List.Forall₂ rows.Same (rows.of model) (rows.of other)

end Rows

/-! ## Values in two renderings -/

/-- What is known of a value that stands at the same place in two renderings. -/
inductive Shape where
  | text
  | flag
  | model
  | field
deriving DecidableEq, Repr

def Trait.shape : Trait → Shape
  | .name => .text
  | .isRequired => .flag
  | .inputType => .text

/-- The values are of a shape: the same text, the same truth value, or models or fields shown alike. -/
inductive Shape.Fits (rows : Rows) : Shape → Value → Value → Prop
  | text {content : String} : Fits rows .text (.text content) (.text content)
  | flag {value : Bool} : Fits rows .flag (.bool value) (.bool value)
  | model {model other : Model} : rows.Alike model other → Fits rows .model (.model model) (.model other)
  | field {field other : Field} : rows.Same field other → Fits rows .field (.field field) (.field other)

/-- The shapes of the names that are bound, the innermost first. -/
abbrev Shapes := List (String × Shape)

/-- The same names are bound in both renderings, to values of these shapes. -/
inductive Shapes.Fit (rows : Rows) : Shapes → Scope → Scope → Prop
  | nil : Fit rows [] [] []
  | cons {name : String} {shape : Shape} {value value' : Value} {shapes : Shapes}
      {scope scope' : Scope} : shape.Fits rows value value' → Fit rows shapes scope scope' →
      Fit rows ((name, shape) :: shapes) ((name, value) :: scope) ((name, value') :: scope')

variable {rows : Rows} {shapes : Shapes} {shape : Shape} {scope scope' : Scope} {value value' : Value}

theorem Shapes.Fit.lookup {name : String} (h : shapes.Fit rows scope scope')
    (hshape : shapes.lookup name = some shape) :
    shape.Fits rows (scope.value name) (scope'.value name) := by
  unfold Scope.value
  induction h with
  | nil => cases hshape
  | @cons bound _ _ _ _ _ _ hvalue _ ih =>
    rw [List.lookup_cons] at hshape ⊢
    rw [List.lookup_cons]
    cases hname : name == bound with
    | true =>
      rw [hname] at hshape
      cases hshape
      exact hvalue
    | false =>
      rw [hname] at hshape
      exact ih hshape

/-! ## Attributes and filters -/

/-- The trait that an attribute of a field is. -/
def Trait.ofAttribute? : String → Option Trait
  | "name" => some .name
  | "is_required" => some .isRequired
  | _ => none

theorem Trait.attribute_of {member : String} {trait : Trait} (h : ofAttribute? member = some trait)
    (field : Field) : attributeOf member (.field field) = .ok (trait.value field) := by
  unfold ofAttribute? at h
  split at h
  · cases h
    rfl
  · cases h
    rfl
  · cases h

theorem Trait.fits {trait : Trait} {field other : Field}
    (h : trait.value field = trait.value other) :
    trait.shape.Fits rows (trait.value field) (trait.value other) := by
  rw [h]
  cases trait with
  | name => exact .text
  | isRequired => exact .flag
  | inputType => exact .text

/-- Whether a filter turns every text into a text. -/
def Filter.respells : Filter → Bool
  | .camelCase | .snakeCase | .kebabCase | .plural => true
  | .inputType | .unknown _ => false

theorem Filter.apply_text {filter : Filter} (h : filter.respells = true) (content : String) :
    ∃ changed, filter.apply (.text content) = .ok (.text changed) := by
  cases filter with
  | inputType => cases h
  | unknown name => cases h
  | _ => exact ⟨_, rfl⟩

/-- The shape of an attribute that is shown. -/
def Shape.attribute? (rows : Rows) (member : String) : Shape → Option Shape
  | .model => if member = "name" then some .text else none
  | .field =>
    match Trait.ofAttribute? member with
    | some trait => if trait ∈ rows.traits then some trait.shape else none
    | none => none
  | _ => none

theorem Shape.Fits.attributeOf {member : String} {found : Shape} (hfits : shape.Fits rows value value')
    (h : shape.attribute? rows member = some found) :
    ∃ taken taken', attributeOf member value = .ok taken ∧ attributeOf member value' = .ok taken' ∧
      found.Fits rows taken taken' := by
  cases hfits with
  | text => cases h
  | flag => cases h
  | @model model other halike =>
    rw [attribute?] at h
    split at h
    · rename_i hmember
      cases h
      refine ⟨.text model.name, .text other.name, by rw [hmember]; rfl, by rw [hmember]; rfl, ?_⟩
      rw [halike.name]
      exact .text
    · cases h
  | @field field other hsame =>
    rw [attribute?] at h
    split at h
    · rename_i trait htrait
      split at h
      · rename_i hmem
        cases h
        exact ⟨_, _, Trait.attribute_of htrait field, Trait.attribute_of htrait other,
          Trait.fits (hsame trait hmem)⟩
      · cases h
    · cases h

/-- The shape of what a filter gives, where it can be applied. -/
def Shape.filtered? (rows : Rows) (filter : Filter) : Shape → Option Shape
  | .text => if filter.respells then some .text else none
  | .field => if filter = .inputType ∧ Trait.inputType ∈ rows.traits then some .text else none
  | _ => none

theorem Shape.Fits.filtered {filter : Filter} {found : Shape} (hfits : shape.Fits rows value value')
    (h : shape.filtered? rows filter = some found) :
    ∃ changed changed', filter.apply value = .ok changed ∧ filter.apply value' = .ok changed' ∧
      found.Fits rows changed changed' := by
  cases hfits with
  | @text content =>
    rw [filtered?] at h
    split at h
    · rename_i hrespells
      cases h
      obtain ⟨changed, hchanged⟩ := Filter.apply_text hrespells content
      exact ⟨_, _, hchanged, hchanged, .text⟩
    · cases h
  | flag => cases h
  | model => cases h
  | field hsame =>
    rw [filtered?] at h
    split at h
    · rename_i hinput
      obtain ⟨rfl, hmem⟩ := hinput
      cases h
      exact ⟨_, _, rfl, rfl, Trait.fits (hsame _ hmem)⟩
    · cases h

/-! ## Expressions -/

/-- The shape of an expression, if it reads nothing but what is shown. -/
def Expr.shape? (rows : Rows) (shapes : Shapes) : Expr → Option Shape
  | .name bound => shapes.lookup bound
  | .literal _ => some .text
  | .bool _ => some .flag
  | .attribute object member => (object.shape? rows shapes).bind (·.attribute? rows member)
  | .filter operand applied _ => (operand.shape? rows shapes).bind (·.filtered? rows applied)
  | _ => none

/-- An expression has values of its shape. -/
theorem Expr.eval_fits (hfit : shapes.Fit rows scope scope') :
    ∀ {e : Expr} {shape : Shape}, e.shape? rows shapes = some shape →
      ∃ value value', e.eval scope = .ok value ∧ e.eval scope' = .ok value' ∧
        shape.Fits rows value value'
  | .name _, _, h => ⟨_, _, rfl, rfl, hfit.lookup h⟩
  | .literal _, _, rfl => ⟨_, _, rfl, rfl, .text⟩
  | .bool _, _, rfl => ⟨_, _, rfl, rfl, .flag⟩
  | .attribute object member, _, h => by
    obtain ⟨found, hobject, hmember⟩ := Option.bind_eq_some_iff.mp h
    obtain ⟨_, _, hvalue, hvalue', hfits⟩ := eval_fits hfit hobject
    simp only [Expr.eval, hvalue, hvalue']
    exact hfits.attributeOf hmember
  | .filter operand applied line, _, h => by
    obtain ⟨found, hoperand, hfilter⟩ := Option.bind_eq_some_iff.mp h
    obtain ⟨_, _, hvalue, hvalue', hfits⟩ := eval_fits hfit hoperand
    simp only [Expr.eval, hvalue, hvalue']
    exact hfits.filtered hfilter
  | .null, _, h => nomatch h
  | .isNull _, _, h => nomatch h
  | .equals _ _, _, h => nomatch h
  | .not _, _, h => nomatch h

/-! ## Loops -/

/-- The expression whose scalar fields an expression stands for. -/
def Expr.scalarFieldsOf? : Expr → Option Expr
  | .attribute object "scalar_fields" => some object
  | _ => none

theorem Expr.eq_of_scalarFieldsOf? {e object : Expr} (h : e.scalarFieldsOf? = some object) :
    e = .attribute object "scalar_fields" := by
  unfold scalarFieldsOf? at h
  split at h
  · cases h
    rfl
  · cases h

/-- A loop runs over the fields that have rows as a loop without a condition does. -/
theorem renderItems_filter (rows : Rows) (scope : Scope) (body : Scope → Except RenderFault String)
    (fields : List Field) :
    renderItems rows.name rows.condition scope body (fields.map .field) =
      renderItems rows.name none scope body ((fields.filter rows.selects).map .field) := by
  induction fields with
  | nil => rfl
  | cons field rest ih =>
    rw [List.map_cons, renderItems, rows.holds]
    cases hselected : rows.selects field with
    | false => simp only [List.filter_cons_of_neg (Bool.eq_false_iff.mp hselected), ih]
    | true =>
      simp only [List.filter_cons_of_pos hselected, List.map_cons, ih]
      rfl

/-- Loops over the same rows come to the same text, where their bodies do so row by row. -/
theorem renderItems_same {name : String} {body body' : Scope → Except RenderFault String}
    (hbody : ∀ field other, rows.Same field other → ∃ text,
      body ((name, .field field) :: scope) = .ok text ∧
      body' ((name, .field other) :: scope') = .ok text)
    {fields others : List Field} (h : List.Forall₂ rows.Same fields others) :
    ∃ text, renderItems name none scope body (fields.map .field) = .ok text ∧
      renderItems name none scope' body' (others.map .field) = .ok text := by
  induction h with
  | nil => exact ⟨none, rfl, rfl⟩
  | cons hsame _ ih =>
    obtain ⟨first, hfirst, hfirst'⟩ := hbody _ _ hsame
    obtain ⟨rest, hrest, hrest'⟩ := ih
    refine ⟨some (first ++ rest.getD ""), ?_, ?_⟩
    · simp only [List.map_cons, renderItems, conditionHolds, hfirst, hrest]
    · simp only [List.map_cons, renderItems, conditionHolds, hfirst', hrest']

/-! ## Statements -/

mutual

/-- The shapes of the names that are bound after a statement, if it shows nothing but the rows and their
model's name. -/
def Statement.shapes? (rows : Rows) (shapes : Shapes) : Statement → Option Shapes
  | .text _ => some shapes
  | .print value =>
    match value.shape? rows shapes with
    | some .text => some shapes
    | some .flag => some shapes
    | _ => none
  | .set name value => (value.shape? rows shapes).map fun shape => (name, shape) :: shapes
  | .loop name source condition body otherwise =>
    match source.scalarFieldsOf? with
    | some object =>
      if object.shape? rows shapes = some .model ∧ name = rows.name ∧ condition = rows.condition ∧
          (shapesOfAll? rows ((name, .field) :: shapes) body).isSome ∧
          (shapesOfAll? rows shapes otherwise).isSome then some shapes
      else none
    | none => none
  | .branch condition yes no =>
    match condition.shape? rows shapes with
    | some .flag =>
      match shapesOfAll? rows shapes yes with
      | some after => if shapesOfAll? rows shapes no = some after then some after else none
      | none => none
    | _ => none

def shapesOfAll? (rows : Rows) (shapes : Shapes) : List Statement → Option Shapes
  | [] => some shapes
  | statement :: rest =>
    match statement.shapes? rows shapes with
    | some after => shapesOfAll? rows after rest
    | none => none

end

/-- Both renderings come to the same text, and bind names to values of these shapes. -/
def Agree (rows : Rows) (shapes : Shapes) (first second : Except RenderFault (String × Scope)) : Prop :=
  ∃ text scope scope', first = .ok (text, scope) ∧ second = .ok (text, scope') ∧
    shapes.Fit rows scope scope'

/-- Values that are shown alike print alike, unless they are models or fields. -/
theorem Shape.Fits.text? (hfits : shape.Fits rows value value') (h : shape = .text ∨ shape = .flag) :
    ∃ text, value.text? = .ok text ∧ value'.text? = .ok text := by
  cases hfits with
  | text => exact ⟨_, rfl, rfl⟩
  | flag => exact ⟨_, rfl, rfl⟩
  | model => simp at h
  | field => simp at h

theorem render_print_agree (hfit : shapes.Fit rows scope scope') {e : Expr}
    (h : e.shape? rows shapes = some shape) (hprints : shape = .text ∨ shape = .flag) :
    Agree rows shapes ((Statement.print e).render scope) ((Statement.print e).render scope') := by
  obtain ⟨_, _, hvalue, hvalue', hfits⟩ := Expr.eval_fits hfit h
  obtain ⟨text, htext, htext'⟩ := hfits.text? hprints
  refine ⟨text, scope, scope', ?_, ?_, hfit⟩
  · simp only [Statement.render, hvalue, htext, used]
  · simp only [Statement.render, hvalue', htext', used]

/-- The text of statements, whatever names they bind. -/
def textOf (statements : List Statement) (scope : Scope) : Except RenderFault String :=
  (renderAll scope statements).map (·.1)

theorem Agree.textOf {statements : List Statement}
    (h : Agree rows shapes (renderAll scope statements) (renderAll scope' statements)) :
    ∃ text, textOf statements scope = .ok text ∧ textOf statements scope' = .ok text := by
  obtain ⟨text, _, _, hrender, hrender', -⟩ := h
  refine ⟨text, ?_, ?_⟩
  · rw [Template.textOf, hrender]
    rfl
  · rw [Template.textOf, hrender']
    rfl

/-- A loop over the scalar fields of a model. -/
theorem render_loop {name : String} {condition : Option Expr} {object : Expr}
    {body otherwise : List Statement} {model : Model} {text : Option String} {instead : String}
    (hobject : object.eval scope = .ok (.model model))
    (hitems : renderItems name condition scope (textOf body) (model.scalarFields.map .field) = .ok text)
    (hinstead : textOf otherwise scope = .ok instead) :
    (Statement.loop name (.attribute object "scalar_fields") condition body otherwise).render scope =
      .ok (text.getD instead, scope) := by
  have hsource : (Expr.attribute object "scalar_fields").eval scope =
      .ok (.fields model.scalarFields) := by
    simp only [Expr.eval, hobject]
    rfl
  have hbody : (fun inner => (renderAll inner body).map (·.1)) = textOf body := rfl
  simp only [Statement.render, hsource, itemsOf, hbody, hitems]
  cases text with
  | some text => rfl
  | none =>
    unfold textOf at hinstead
    cases hrender : renderAll scope otherwise with
    | error fault =>
      rw [hrender] at hinstead
      cases hinstead
    | ok result =>
      rw [hrender] at hinstead
      cases hinstead
      rfl

/-- A loop over the rows of models shown alike comes to the same text, where its body does so for every
row and what stands for no row does too. -/
theorem render_loop_agree (hfit : shapes.Fit rows scope scope') {object : Expr}
    (hobject : object.shape? rows shapes = some .model) {body otherwise : List Statement}
    {inner outer : Shapes}
    (hbody : ∀ field other, rows.Same field other → Agree rows inner
      (renderAll ((rows.name, .field field) :: scope) body)
      (renderAll ((rows.name, .field other) :: scope') body))
    (hotherwise : Agree rows outer (renderAll scope otherwise) (renderAll scope' otherwise)) :
    let loop := Statement.loop rows.name (.attribute object "scalar_fields") rows.condition body otherwise
    Agree rows shapes (loop.render scope) (loop.render scope') := by
  intro loop
  obtain ⟨_, _, hvalue, hvalue', hfits⟩ := Expr.eval_fits hfit hobject
  cases hfits with
  | model halike =>
    obtain ⟨text, htext, htext'⟩ := renderItems_same
      (fun field other hsame => (hbody field other hsame).textOf) halike.rows
    obtain ⟨instead, hinstead, hinstead'⟩ := hotherwise.textOf
    unfold Rows.of at htext htext'
    rw [← renderItems_filter] at htext htext'
    exact ⟨_, _, _, render_loop hvalue htext hinstead, render_loop hvalue' htext' hinstead', hfit⟩

mutual

/-- A statement that shows nothing but rows and name comes to the same text in both renderings. -/
theorem Statement.render_agree {shapes after : Shapes} {scope scope' : Scope}
    (hfit : shapes.Fit rows scope scope') :
    ∀ {statement : Statement}, statement.shapes? rows shapes = some after →
      Agree rows after (statement.render scope) (statement.render scope')
  | .text content, h => by
    cases h
    exact ⟨content, _, _, rfl, rfl, hfit⟩
  | .print value, h => by
    rw [Statement.shapes?] at h
    split at h
    · rename_i hshape
      cases h
      exact render_print_agree hfit hshape (Or.inl rfl)
    · rename_i hshape
      cases h
      exact render_print_agree hfit hshape (Or.inr rfl)
    · cases h
  | .set name value, h => by
    obtain ⟨shape, hshape, rfl⟩ := Option.map_eq_some_iff.mp h
    obtain ⟨_, _, hvalue, hvalue', hfits⟩ := Expr.eval_fits hfit hshape
    refine ⟨"", _, _, ?_, ?_, .cons hfits hfit⟩
    · simp only [Statement.render, hvalue]
    · simp only [Statement.render, hvalue']
  | .loop name source condition body otherwise, h => by
    -- Only loops through the scalar fields of a model have shapes, and these fields agree pairwise.
    rw [Statement.shapes?] at h
    split at h
    · rename_i object hsource
      split at h
      · rename_i hchecked
        obtain ⟨hobject, rfl, rfl, hbody, hotherwise⟩ := hchecked
        obtain rfl := Expr.eq_of_scalarFieldsOf? hsource
        cases h
        obtain ⟨_, hbody⟩ := Option.isSome_iff_exists.mp hbody
        obtain ⟨_, hotherwise⟩ := Option.isSome_iff_exists.mp hotherwise
        exact render_loop_agree hfit hobject
          (fun field other hsame => renderAll_agree (.cons (.field hsame) hfit) hbody)
          (renderAll_agree hfit hotherwise)
      · cases h
    · cases h
  | .branch condition yes no, h => by
    rw [Statement.shapes?] at h
    split at h
    · rename_i hcondition
      split at h
      · rename_i after hyes
        split at h
        · rename_i hno
          cases h
          obtain ⟨_, _, hvalue, hvalue', hfits⟩ := Expr.eval_fits hfit hcondition
          cases hfits with
          | @flag value =>
            simp only [Statement.render, hvalue, hvalue', Value.holds, used]
            cases value with
            | true => exact renderAll_agree hfit hyes
            | false => exact renderAll_agree hfit hno
        · cases h
      · cases h
    · cases h

theorem renderAll_agree {shapes after : Shapes} {scope scope' : Scope}
    (hfit : shapes.Fit rows scope scope') :
    ∀ {statements : List Statement}, shapesOfAll? rows shapes statements = some after →
      Agree rows after (renderAll scope statements) (renderAll scope' statements)
  | [], h => by
    cases h
    exact ⟨"", _, _, rfl, rfl, hfit⟩
  | statement :: rest, h => by
    rw [shapesOfAll?] at h
    split at h
    · rename_i middle hfirst
      obtain ⟨first, _, _, hrender, hrender', hmiddle⟩ := Statement.render_agree hfit hfirst
      obtain ⟨others, _, _, hrest, hrest', hafter⟩ := renderAll_agree hmiddle h
      refine ⟨first ++ others, _, _, ?_, ?_, hafter⟩
      · simp only [renderAll, hrender, hrest]
      · simp only [renderAll, hrender', hrest']
    · cases h

end

/-- Models that are shown alike are rendered to the same text by a template that shows nothing else. -/
theorem render_of_alike {template : Template} {model other : Model}
    (h : (shapesOfAll? rows [("model", .model)] template.statements).isSome = true)
    (halike : rows.Alike model other) :
    ∃ text, template.render model = .ok text ∧ template.render other = .ok text := by
  obtain ⟨after, hafter⟩ := Option.isSome_iff_exists.mp h
  exact (renderAll_agree (.cons (.model halike) .nil) hafter).textOf

end ViewGen.Template
