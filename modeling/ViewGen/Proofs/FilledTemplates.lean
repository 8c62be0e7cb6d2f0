import ViewGen.Proofs.BundledViews

/-!
# How the bundled templates are filled in

A bundled template is a form: texts that are shown as they are, places in double braces for what is known
of the model, and regions whose body is shown once for every field selected.  What is written of a form is
the template without the line that names the variable, and to fill it in is nothing but to put the values
at their places.
-/

namespace ViewGen

namespace Template

/-! ## Forms -/

/-- What stands outside the regions of a form: a text, a value in double braces, or a brace. -/
inductive Piece where
  | text (content : String)
  | variable
  | variables
  | name
  | names
  | route
  | opening
  | closing
deriving DecidableEq, Repr

/-- What stands in the body of a region: besides pieces, what is known of the field, and a mark for fields
that are required. -/
inductive Cell where
  | plain (piece : Piece)
  | fieldName
  | inputType
  | mark (content : String)
deriving DecidableEq, Repr

/-- What a form consists of. -/
inductive Block where
  | plain (piece : Piece)
  | region (body : List Cell)
deriving DecidableEq, Repr

abbrev Form := List Block

/-! ### What is written -/

def Piece.written : Piece → String
  | .text content => content
  | .variable => "\x7b\x7b var \x7d\x7d"
  | .variables => "\x7b\x7b var | plural \x7d\x7d"
  | .name => "\x7b\x7b model.name \x7d\x7d"
  | .names => "\x7b\x7b model.name | plural \x7d\x7d"
  | .route => "\x7b\x7b model.name | kebab_case \x7d\x7d"
  | .opening => "\x7b\x7b '\x7b' \x7d\x7d"
  | .closing => "\x7b\x7b '\x7d' \x7d\x7d"

def Cell.parts : Cell → List String
  | .plain piece => [piece.written]
  | .fieldName => ["\x7b\x7b field.name \x7d\x7d"]
  | .inputType => ["\x7b\x7b field | input_type \x7d\x7d"]
  | .mark content => ["\x7b% if field.is_required %\x7d", content, "\x7b% endif %\x7d"]

/-- A region stands between two lines of its own, the first of which says which fields it is for. -/
def Block.parts (clause : String) : Block → List String
  | .plain piece => [piece.written]
  | .region body =>
    ("\x7b% for field in model.scalar_fields" ++ clause ++ " %\x7d\n") ::
      (body.flatMap Cell.parts ++ ["\x7b% endfor %\x7d\n"])

/-- The first line names the variable. -/
def Form.parts (clause : String) (form : Form) : List String :=
  "\x7b% set var = model.name | camel_case %\x7d\n" :: form.flatMap (Block.parts clause)

/-- The template that a form is written as. -/
def Form.written (clause : String) (form : Form) : String :=
  String.join (form.parts clause)

/-! ### What is shown -/

def Piece.shown (model : Model) : Piece → String
  | .text content => content
  | .variable => Naming.camelCase model.name
  | .variables => Naming.plural (Naming.camelCase model.name)
  | .name => model.name
  | .names => Naming.plural model.name
  | .route => Naming.kebabCase model.name
  | .opening => "\x7b"
  | .closing => "\x7d"

def Cell.shown (model : Model) (field : Field) : Cell → String
  | .plain piece => piece.shown model
  | .fieldName => field.name
  | .inputType => Naming.inputType field.baseType
  | .mark content => if field.isRequired then content else ""

/-- The body of a region, filled in for one field. -/
def rowOf (model : Model) (body : List Cell) (field : Field) : String :=
  String.join (body.map (Cell.shown model field))

/-- A region is shown as one row for each field, in their order. -/
def Block.shown (model : Model) (fields : List Field) : Block → String
  | .plain piece => piece.shown model
  | .region body => String.join (fields.map (rowOf model body))

def Form.filled (model : Model) (fields : List Field) (form : Form) : String :=
  String.join (form.map (Block.shown model fields))

/-! ### What is a text -/

/-- No value, tag or comment is opened by these two characters. -/
def OpensNothing (first second : Char) : Prop :=
  ¬ (first = '\x7b' ∧ second ∈ ['\x7b', '%', '#'])

instance : DecidableRel OpensNothing :=
  fun first second => inferInstanceAs (Decidable (¬ (first = '\x7b' ∧ second ∈ ['\x7b', '%', '#'])))

/-- A text in which nothing is opened. -/
def IsPlain (content : String) : Prop :=
  content.toList.IsChain OpensNothing

def Piece.texts : Piece → List String
  | .text content => [content]
  | _ => []

def Cell.texts : Cell → List String
  | .plain piece => piece.texts
  | .mark content => [content]
  | _ => []

def Block.texts : Block → List String
  | .plain piece => piece.texts
  | .region body => body.flatMap Cell.texts

def Form.texts (form : Form) : List String :=
  form.flatMap Block.texts

def Block.region? : Block → Option (List Cell)
  | .plain _ => none
  | .region body => some body

/-- The bodies of the regions of a form. -/
def Form.regions (form : Form) : List (List Cell) :=
  form.filterMap Block.region?

end Template

open Template

/-! ## The forms of the bundled templates -/

namespace ViewKind

/-- The condition on fields as the bundled template of a kind writes it. -/
def clause : ViewKind → String
  | .list => ""
  | .create => " if field.default is none"
  | .update => " if not field.is_unique"
  | .delete => ""
  | .search => " if field.type == \"String\""

/-- The fields that the regions of a kind are for. -/
def listed (model : Model) : ViewKind → List Field
  | .list => model.scalarFields
  | .create => model.scalarFields.filter (·.defaultText.isNone)
  | .update => model.scalarFields.filter (!·.isUnique)
  | .delete => []
  | .search => model.scalarFields.filter (·.baseType == "String")

/-- The part of a form in which a field is sent. -/
def dataBody : List Cell :=
  [.plain (.text "      "), .fieldName, .plain (.text ": formData.get(\""), .fieldName,
    .plain (.text "\") as string,\n")]

/-- The part of a form in which a field is asked for. -/
def inputBody (attributes : List Cell) : List Cell :=
  [.plain (.text "      <label>\n        "), .fieldName, .plain (.text "\n        <input type=\""),
    .inputType, .plain (.text "\" name=\""), .fieldName] ++ attributes

/-- The bodies of the regions in the bundled template of a kind. -/
def regions : ViewKind → List (List Cell)
  | .list => [
    [.plain (.text "            <th>"), .fieldName, .plain (.text "</th>\n")],
    [.plain (.text "              <td>\x7bString(item."), .fieldName,
      .plain (.text " ?? \"\")\x7d</td>\n")]]
  | .create => [
    dataBody,
    inputBody [.plain (.text "\""), .mark " required", .plain (.text " />\n      </label>\n")]]
  | .update => [
    dataBody,
    inputBody [.plain (.text "\" defaultValue=\x7bString("), .plain .variable, .plain (.text "."),
      .fieldName, .plain (.text " ?? \"\")\x7d />\n      </label>\n")]]
  | .delete => []
  | .search => [
    [.plain (.text "            \x7b "), .fieldName, .plain (.text ": \x7b contains: q \x7d \x7d,\n")]]

end ViewKind

namespace Template

/-! ## Statements as forms -/

theorem forall₂_of_mapM {α β : Type} {f : α → Option β} {items : List α} {results : List β}
    (h : items.mapM f = some results) : List.Forall₂ (fun a b => f a = some b) items results := by
  induction items generalizing results with
  | nil =>
    cases h
    exact .nil
  | cons a rest ih =>
    rw [List.mapM_cons] at h
    obtain ⟨b, hb, h⟩ := Option.bind_eq_some_iff.mp h
    obtain ⟨others, hothers, h⟩ := Option.bind_eq_some_iff.mp h
    cases h
    exact .cons hb (ih hothers)

/-- Statements that are shown one by one, and bind no name, are shown one after another. -/
theorem renderAll_of_forall₂ {α : Type} {scope : Scope} {shown : α → String} {items : List α}
    {statements : List Statement}
    (h : List.Forall₂ (fun statement item => statement.render scope = .ok (shown item, scope))
      statements items) :
    renderAll scope statements = .ok (String.join (items.map shown), scope) := by
  induction h with
  | nil => rfl
  | cons hfirst _ ih =>
    simp only [renderAll, hfirst, ih, List.map_cons, String.join_cons]

/-- The names that a bundled template uses outside its regions. -/
structure Binds (model : Model) (scope : Scope) : Prop where
  value_model : scope.value "model" = .model model
  value_var : scope.value "var" = .text (Naming.camelCase model.name)

section

variable {model : Model} {scope : Scope}

/-- A region binds the name of its field besides. -/
theorem Binds.field (h : Binds model scope) (field : Field) :
    Binds model (("field", .field field) :: scope) :=
  ⟨h.value_model, h.value_var⟩

/-! ### Pieces and cells -/

/-- The piece whose value an expression is. -/
def Piece.ofExpr? : Expr → Option Piece
  | .name "var" => some .variable
  | .filter (.name "var") .plural _ => some .variables
  | .attribute (.name "model") "name" => some .name
  | .filter (.attribute (.name "model") "name") .plural _ => some .names
  | .filter (.attribute (.name "model") "name") .kebabCase _ => some .route
  | .literal "\x7b" => some .opening
  | .literal "\x7d" => some .closing
  | _ => none

theorem Piece.eval_of {e : Expr} {piece : Piece} (hbinds : Binds model scope)
    (h : Piece.ofExpr? e = some piece) : e.eval scope = .ok (.text (piece.shown model)) := by
  unfold ofExpr? at h
  split at h <;> cases h
  · simp only [Expr.eval, hbinds.value_var, shown]
  · simp only [Expr.eval, hbinds.value_var]
    rfl
  · simp only [Expr.eval, hbinds.value_model]
    rfl
  · simp only [Expr.eval, hbinds.value_model]
    rfl
  · simp only [Expr.eval, hbinds.value_model]
    rfl
  · rfl
  · rfl

/-- An expression that is a text is printed as that text. -/
theorem render_print {e : Expr} {content : String} (h : e.eval scope = .ok (.text content)) :
    (Statement.print e).render scope = .ok (content, scope) := by
  rw [Statement.render, h]
  rfl

def Piece.ofStatement? : Statement → Option Piece
  | .text content => some (.text content)
  | .print e => Piece.ofExpr? e
  | _ => none

theorem Piece.render_of {statement : Statement} {piece : Piece} (hbinds : Binds model scope)
    (h : Piece.ofStatement? statement = some piece) :
    statement.render scope = .ok (piece.shown model, scope) := by
  unfold ofStatement? at h
  split at h
  · cases h
    rfl
  · exact render_print (Piece.eval_of hbinds h)
  · cases h

def Cell.ofStatement? : Statement → Option Cell
  | .print (.attribute (.name "field") "name") => some .fieldName
  | .print (.filter (.name "field") .inputType _) => some .inputType
  | .branch (.attribute (.name "field") "is_required") [.text content] [] => some (.mark content)
  | statement => (Piece.ofStatement? statement).map .plain

theorem Cell.render_of {statement : Statement} {cell : Cell} (hbinds : Binds model scope)
    (field : Field) (h : Cell.ofStatement? statement = some cell) :
    statement.render (("field", .field field) :: scope) =
      .ok (cell.shown model field, ("field", .field field) :: scope) := by
  unfold ofStatement? at h
  split at h
  · cases h
    exact render_print rfl
  · cases h
    exact render_print rfl
  · rename_i content
    cases h
    obtain ⟨name, baseType, isRequired, isList, isUnique, defaultText, relation⟩ := field
    -- A required field is marked, and any other one shows the empty branch.
    cases isRequired with
    | true => exact congrArg (fun text => Except.ok (text, _)) (String.append_empty)
    | false => rfl
  · obtain ⟨piece, hpiece, rfl⟩ := Option.map_eq_some_iff.mp h
    exact Piece.render_of (hbinds.field field) hpiece

/-! ### Regions -/

/-- A loop without a condition shows its body once for each field, in their order. -/
theorem renderItems_join {name : String} {body : Scope → Except RenderFault String}
    {row : Field → String} (hbody : ∀ field, body ((name, .field field) :: scope) = .ok (row field))
    (fields : List Field) :
    ∃ text, renderItems name none scope body (fields.map .field) = .ok text ∧
      text.getD "" = String.join (fields.map row) := by
  induction fields with
  | nil => exact ⟨none, rfl, rfl⟩
  | cons field rest ih =>
    obtain ⟨text, htext, hrows⟩ := ih
    refine ⟨some (row field ++ text.getD ""), ?_, ?_⟩
    · simp only [List.map_cons, renderItems, conditionHolds, hbody, htext]
    · rw [List.map_cons, String.join_cons, ← hrows]
      rfl

/-- A loop over the scalar fields that pass the condition shows one row for each of them. -/
theorem render_region {rows : Rows} (hname : rows.name = "field") (hbinds : Binds model scope)
    {body : List Statement} {cells : List Cell} (hcells : body.mapM Cell.ofStatement? = some cells) :
    (Statement.loop "field" (.attribute (.name "model") "scalar_fields") rows.condition body
        []).render scope =
      .ok (String.join ((rows.of model).map (rowOf model cells)), scope) := by
  have hrow : ∀ field, textOf body ((rows.name, .field field) :: scope) =
      .ok (rowOf model cells field) := by
    intro field
    rw [hname, textOf, renderAll_of_forall₂ ((forall₂_of_mapM hcells).imp
      fun _ _ hcell => Cell.render_of hbinds field hcell)]
    rfl
  -- The condition leaves the fields that have rows.
  obtain ⟨text, htext, hrows⟩ := renderItems_join hrow (rows.of model)
  unfold Rows.of at htext
  rw [← renderItems_filter, hname] at htext
  have hmodel : (Expr.name "model").eval scope = .ok (.model model) :=
    congrArg Except.ok hbinds.value_model
  -- Nothing is shown in place of the rows where there are none.
  rw [render_loop hmodel htext rfl, hrows]

/-- The block that a statement is, if its loop is for the fields that pass the condition. -/
def Block.ofStatement? (condition : Option Expr) : Statement → Option Block
  | .loop "field" (.attribute (.name "model") "scalar_fields") found body [] =>
    if found = condition then (body.mapM Cell.ofStatement?).map .region else none
  | statement => (Piece.ofStatement? statement).map .plain

theorem Block.render_of {rows : Rows} (hname : rows.name = "field") {statement : Statement}
    {block : Block} (hbinds : Binds model scope)
    (h : Block.ofStatement? rows.condition statement = some block) :
    statement.render scope = .ok (block.shown model (rows.of model), scope) := by
  unfold ofStatement? at h
  split at h
  · split at h
    · rename_i hfound
      obtain rfl := hfound
      obtain ⟨cells, hcells, rfl⟩ := Option.map_eq_some_iff.mp h
      exact render_region hname hbinds hcells
    · cases h
  · obtain ⟨piece, hpiece, rfl⟩ := Option.map_eq_some_iff.mp h
    exact Piece.render_of hbinds hpiece

/-- The form that a template is, after it has named the variable. -/
def Form.ofTemplate? (condition : Option Expr) (template : Template) : Option Form :=
  match template.statements with
  | .set "var" (.filter (.attribute (.name "model") "name") .camelCase _) :: rest =>
    rest.mapM (Block.ofStatement? condition)
  | _ => none

/-- A template that is a form is rendered by filling in the form. -/
theorem Form.render_of {rows : Rows} (hname : rows.name = "field") {template : Template}
    {form : Form} (h : Form.ofTemplate? rows.condition template = some form) :
    template.render model = .ok (form.filled model (rows.of model)) := by
  unfold ofTemplate? at h
  split at h
  · rename_i line rest hstatements
    -- The first line shows nothing, and the blocks are shown in the scope that it leaves.
    have hbinds : Binds model
        [("var", .text (Naming.camelCase model.name)), ("model", .model model)] :=
      ⟨rfl, rfl⟩
    have hset : (Statement.set "var"
        (.filter (.attribute (.name "model") "name") .camelCase line)).render
          [("model", .model model)] =
        .ok ("", [("var", .text (Naming.camelCase model.name)), ("model", .model model)]) :=
      rfl
    rw [Template.render, hstatements, renderAll, hset]
    simp only [renderAll_of_forall₂ ((forall₂_of_mapM h).imp
      fun _ _ hblock => Block.render_of hname hbinds hblock)]
    exact congrArg Except.ok String.empty_append
  · cases h

end

/-! ## The parts of a template -/

/-- The texts of a template and its tags, one after another.  A block tag takes the line feed behind it
along. -/
def segmentsFrom : Bool → List Char → List Char → List (List Char)
  | _, part, [] => [part.reverse]
  | false, part, '\x7b' :: '\x7b' :: rest => part.reverse :: segmentsFrom true ['\x7b', '\x7b'] rest
  | false, part, '\x7b' :: '%' :: rest => part.reverse :: segmentsFrom true ['%', '\x7b'] rest
  | true, part, '\x7d' :: '\x7d' :: rest =>
    ('\x7d' :: '\x7d' :: part).reverse :: segmentsFrom false [] rest
  | true, part, '%' :: '\x7d' :: '\n' :: rest =>
    ('\n' :: '\x7d' :: '%' :: part).reverse :: segmentsFrom false [] rest
  | true, part, '%' :: '\x7d' :: rest => ('\x7d' :: '%' :: part).reverse :: segmentsFrom false [] rest
  | inTag, part, c :: rest => segmentsFrom inTag (c :: part) rest

def segments (chars : List Char) : List (List Char) :=
  (segmentsFrom false [] chars).filter (· ≠ [])

/-- Whether texts consist of these characters.  Their bytes are compared, since to cut a text into its
characters takes much longer. -/
def consistOf (texts : List String) (parts : List (List Char)) : Bool :=
  decide (texts.map (·.toByteArray.data.toList) = parts.map (·.flatMap String.utf8EncodeChar))

theorem eq_of_consistOf {texts : List String} {parts : List (List Char)}
    (h : consistOf texts parts = true) : texts = parts.map String.ofList := by
  have hbytes : parts.map (·.flatMap String.utf8EncodeChar) =
      (parts.map String.ofList).map (·.toByteArray.data.toList) := by
    rw [List.map_map]
    apply List.map_congr_left
    intro part _
    rw [Function.comp_apply, String.toByteArray_ofList, List.utf8Encode, List.toList_data_toByteArray]
  have hinjective : Function.Injective fun text : String => text.toByteArray.data.toList :=
    fun text other h => String.toByteArray_inj.mp (ByteArray.ext (Array.toList_inj.mp h))
  apply List.map_injective_iff.mpr hinjective
  rw [of_decide_eq_true h, hbytes]

end Template

open Template

namespace ViewKind

/-- Whether the template that the characters spell is a form of the kind, written with them. -/
def isFormed (kind : ViewKind) (chars : List Char) : Bool :=
  match ofTokens (Token.scan chars) with
  | .error _ => false
  | .ok template =>
    match Form.ofTemplate? kind.rows.condition template with
    | none => false
    | some form =>
      let parts := segments chars
      decide (parts.flatten = chars) &&
        consistOf (form.parts kind.clause) parts &&
        consistOf form.texts (parts.filter (List.IsChain OpensNothing)) &&
        decide (form.regions = kind.regions)

/-- A template whose form has been checked. -/
theorem exists_form_of_isFormed {kind : ViewKind} {lines : List String} {chars : List Char}
    (hspells : Spells lines chars) (h : kind.isFormed chars = true) :
    ∃ (template : Template) (form : Form), parse (Bundled.ofLines lines) = .ok template ∧
      Form.ofTemplate? kind.rows.condition template = some form ∧
      Bundled.ofLines lines = form.written kind.clause ∧ (∀ text ∈ form.texts, IsPlain text) ∧
      form.regions = kind.regions := by
  have hchars := hspells.toList_ofLines
  unfold isFormed at h
  split at h
  · cases h
  rename_i template htemplate
  split at h
  · cases h
  rename_i form hform
  simp only [Bool.and_eq_true, decide_eq_true_eq] at h
  obtain ⟨⟨⟨hflatten, hparts⟩, htexts⟩, hregions⟩ := h
  refine ⟨template, form, ?_, hform, ?_, ?_, hregions⟩
  · rw [parse_eq_ofTokens, hchars, htemplate]
  · -- Joined again, the parts are the characters that were cut.
    rw [← String.toList_inj, hchars, Form.written, eq_of_consistOf hparts, String.toList_join,
      List.flatMap_map]
    simp only [String.toList_ofList]
    rw [List.flatMap_id', hflatten]
  · intro text htext
    rw [eq_of_consistOf htexts] at htext
    obtain ⟨part, hpart, rfl⟩ := List.mem_map.mp htext
    rw [IsPlain, String.toList_ofList]
    exact of_decide_eq_true (List.mem_filter.mp hpart).2

set_option maxRecDepth 4000 in
theorem bundled_form (kind : ViewKind) :
    ∃ (template : Template) (form : Form), parse (TemplateSource.bundledText kind) = .ok template ∧
      Form.ofTemplate? kind.rows.condition template = some form ∧
      TemplateSource.bundledText kind = form.written kind.clause ∧
      (∀ text ∈ form.texts, IsPlain text) ∧ form.regions = kind.regions := by
  cases kind with
  | list => exact exists_form_of_isFormed (by repeat constructor) (by decide +kernel)
  | create => exact exists_form_of_isFormed (by repeat constructor) (by decide +kernel)
  | update => exact exists_form_of_isFormed (by repeat constructor) (by decide +kernel)
  | delete => exact exists_form_of_isFormed (by repeat constructor) (by decide +kernel)
  | search => exact exists_form_of_isFormed (by repeat constructor) (by decide +kernel)

theorem rows_name (kind : ViewKind) : kind.rows.name = "field" := by
  cases kind <;> rfl

theorem rows_of (kind : ViewKind) (model : Model) : kind.rows.of model = kind.listed model := by
  cases kind with
  | list => exact rows_list model
  | create => rfl
  | update => rfl
  | delete => exact rows_delete model
  | search => rfl

end ViewKind

/-- Every bundled template is written as a form, whose texts open no value, tag or comment of their own and
whose regions have these bodies.  Rendering it for a model fills in this form, with a row of each region
for every field that its kind lists. -/
theorem bundled_render_filled (kind : ViewKind) :
    ∃ form : Form, TemplateSource.bundledText kind = form.written kind.clause ∧
      (∀ text ∈ form.texts, IsPlain text) ∧ form.regions = kind.regions ∧
      ∀ engine disk current number model,
        TemplateSource.bundled.render engine disk current number kind model =
          .ok (form.filled model (kind.listed model)) := by
  obtain ⟨template, form, hparse, hform, hwritten, hplain, hregions⟩ := kind.bundled_form
  refine ⟨form, hwritten, hplain, hregions, fun engine disk current number model => ?_⟩
  have hrender : template.render model = .ok (form.filled model (kind.rows.of model)) :=
    Form.render_of kind.rows_name hform
  rw [TemplateSource.render_bundled hparse hrender engine disk current number, kind.rows_of]

end ViewGen
