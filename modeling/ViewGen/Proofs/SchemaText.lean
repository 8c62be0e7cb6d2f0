import Mathlib.Data.Bool.AllAny
import ViewGen.Proofs.Attributes
import ViewGen.Proofs.Blocks

/-!
# Printed schemas

Models have a printed form, one line for each field, that reads back as the same models.  A default
attribute is torn apart at its spaces and put together again, so its text may hold anything that leaves
its parentheses balanced, its spaces single and no piece of it taken for another attribute.
-/

namespace ViewGen

/-! ## Declarations -/

/-- How the type of a field is marked. -/
inductive TypeShape where
  | plain
  | optional
  | list
deriving DecidableEq, Repr

def TypeShape.marker : TypeShape → String
  | .plain => ""
  | .optional => "?"
  | .list => "[]"

theorem TypeShape.isWord_append {baseType : String} (h : Text.IsWord baseType.toList)
    (shape : TypeShape) : Text.IsWord (baseType ++ shape.marker).toList := by
  rw [String.toList_append]
  refine ⟨fun hnil => h.1 (List.append_eq_nil_iff.mp hnil).1, fun c hc => ?_⟩
  obtain hc | hc := List.mem_append.mp hc
  · exact h.2 c hc
  · have hmarker : ∀ c ∈ shape.marker.toList, Text.isBlank c = false := by
      cases shape <;> exact List.all_iff_forall_prop.mp (by decide)
    exact hmarker c hc

/-- A relation as a field declares it. -/
structure RelationClause where
  name : String
  hasReferences : Bool
  name_plain : ∀ c ∈ name.toList, Text.isBlank c = false ∧ c ∉ ['"', ',', '(', ')', '\x7b']

/-- Whether a text can be the argument of a default attribute. -/
structure IsDefaultText (s : List Char) : Prop where
  balanced : Attribute.Balanced s
  brace : '\x7b' ∉ s
  blank : ∀ c ∈ s, Text.isBlank c = true → c = ' '
  single : ¬ [' ', ' '] <:+: s
  pieces : ∀ piece ∈ Text.pieces ' ' s, piece ≠ "@unique".toList ∧ ¬ "@relation".toList <+: piece

structure FieldDeclaration where
  name : String
  baseType : String
  shape : TypeShape
  isUnique : Bool
  defaultText : Option String
  relation : Option RelationClause
  name_isWord : Text.IsWord name.toList
  name_plain : '\x7b' ∉ name.toList ∧ name ≠ "model" ∧ ¬ "//".toList <+: name.toList ∧
    ¬ "@@".toList <+: name.toList
  baseType_isWord : Text.IsWord baseType.toList
  baseType_plain : ∀ c ∈ baseType.toList, c ∉ ['\x7b', '?', '[', ']']
  defaultText_plain : ∀ text ∈ defaultText, IsDefaultText text.toList

structure ModelDeclaration where
  name : String
  fields : List FieldDeclaration
  name_isWord : Text.IsWord name.toList

/-- What stands before the declaration of a field. -/
structure Indent where
  text : String
  blank : ∀ c ∈ text.toList, Text.isBlank c = true ∧ Text.isLineBreak c = false

/-! ## What is declared -/

/-- Many rows on this side make the relation one to many or many to many, and references to the
other side make it one to many or many to one. -/
def RelationClause.cardinality (clause : RelationClause) : TypeShape → Cardinality
  | .list => if clause.hasReferences then .oneToMany else .manyToMany
  | _ => if clause.hasReferences then .manyToOne else .oneToOne

def FieldDeclaration.field (d : FieldDeclaration) : Field where
  name := d.name
  baseType := d.baseType
  isRequired := d.shape ≠ .optional
  isList := d.shape = .list
  isUnique := d.isUnique
  defaultText := d.defaultText
  relation := d.relation.map fun clause =>
    { name := clause.name, cardinality := clause.cardinality d.shape, relatedModel := d.baseType }

def ModelDeclaration.model (d : ModelDeclaration) : Model where
  name := d.name
  fields := d.fields.map (·.field)

/-! ## The printed form -/

def RelationClause.argument (clause : RelationClause) : String :=
  "\"" ++ clause.name ++ "\"" ++ if clause.hasReferences then ", references: [id]" else ""

namespace FieldDeclaration

def uniqueAttribute (d : FieldDeclaration) : List String :=
  if d.isUnique then ["@unique"] else []

def defaultAttribute (d : FieldDeclaration) : List String :=
  (d.defaultText.map fun text => "@default" ++ "(" ++ text ++ ")").toList

def relationAttribute (d : FieldDeclaration) : List String :=
  (d.relation.map fun clause => "@relation" ++ "(" ++ clause.argument ++ ")").toList

def attributes (d : FieldDeclaration) : List String :=
  d.uniqueAttribute ++ d.defaultAttribute ++ d.relationAttribute

def line (d : FieldDeclaration) : String :=
  " ".intercalate (d.name :: (d.baseType ++ d.shape.marker) :: d.attributes)

end FieldDeclaration

def ModelDeclaration.header (d : ModelDeclaration) : String :=
  "model " ++ d.name ++ " \x7b"

def ModelDeclaration.lines (indent : Indent) (d : ModelDeclaration) : List String :=
  d.header :: (d.fields.map fun field => indent.text ++ field.line) ++ ["\x7d"]

def Schema.printed (indent : Indent) (models : List ModelDeclaration) : String :=
  String.join ((models.flatMap (·.lines indent)).map (· ++ "\n"))

/-! ## Type words -/

namespace Declaration

variable {base : List Char}

theorem dropMarker_append (hoptional : '?' ∉ base) (hlist : '[' ∉ base) (shape : TypeShape) :
    dropMarker (base ++ shape.marker.toList) = base := by
  induction base with
  | nil => cases shape <;> rfl
  | cons c rest ih =>
    rw [List.mem_cons, not_or] at hoptional hlist
    rw [List.cons_append, dropMarker, ih hoptional.2 hlist.2]
    · exact fun h => hoptional.1 h.symm
    · exact fun _ h _ => hlist.1 h.symm

theorem hasListMarker_append (hlist : '[' ∉ base) (shape : TypeShape) :
    hasListMarker (base ++ shape.marker.toList) = decide (shape = .list) := by
  induction base with
  | nil => cases shape <;> rfl
  | cons c rest ih =>
    rw [List.mem_cons, not_or] at hlist
    rw [List.cons_append, hasListMarker, ih hlist.2]
    exact fun _ h _ => hlist.1 h.symm

theorem eraseListMarkers_append (hlist : '[' ∉ base) (shape : TypeShape) :
    eraseListMarkers (base ++ shape.marker.toList) =
      base ++ eraseListMarkers shape.marker.toList := by
  induction base with
  | nil => rfl
  | cons c rest ih =>
    rw [List.mem_cons, not_or] at hlist
    rw [List.cons_append, eraseListMarkers, ih hlist.2, List.cons_append]
    exact fun _ h _ => hlist.1 h.symm

theorem relatedModel_append {base : String} (hoptional : '?' ∉ base.toList) (hlist : '[' ∉ base.toList)
    (shape : TypeShape) : relatedModel (base ++ shape.marker) = base := by
  have hmarker : (eraseListMarkers shape.marker.toList).filter (· ≠ '?') = [] := by
    cases shape <;> rfl
  have hbase : base.toList.filter (· ≠ '?') = base.toList := by
    rw [List.filter_eq_self]
    intro c hc
    rw [decide_eq_true_eq]
    rintro rfl
    exact hoptional hc
  rw [relatedModel, String.toList_append, eraseListMarkers_append hlist, List.filter_append, hbase,
    hmarker, List.append_nil, String.ofList_toList]

/-- What the type word says of a field. -/
theorem field_marked {base : String} (hoptional : '?' ∉ base.toList) (hlist : '[' ∉ base.toList)
    (shape : TypeShape) (name : String) (modifiers : List String) :
    field name (base ++ shape.marker) modifiers =
      { name
        baseType := base
        isRequired := shape ≠ .optional
        isList := shape = .list
        isUnique := modifiers.contains "@unique"
        defaultText := Attribute.argument? "@default" modifiers
        relation := (Attribute.argument? "@relation" modifiers).map
          (relation (base ++ shape.marker) (decide (shape = .list))) } := by
  have hrequired : (!(base ++ shape.marker).toList.contains '?') = decide (shape ≠ .optional) := by
    simp only [String.toList_append, List.contains_eq_mem, List.mem_append, or_iff_right hoptional]
    cases shape <;> decide
  have hmany : hasListMarker (base ++ shape.marker).toList = decide (shape = .list) := by
    rw [String.toList_append, hasListMarker_append hlist]
  have hbase : baseType (base ++ shape.marker) = base := by
    rw [baseType, String.toList_append, dropMarker_append hoptional hlist, String.ofList_toList]
  unfold field
  rw [hmany, hbase, hrequired]

end Declaration

/-! ## Relation arguments -/

namespace RelationClause

theorem toList_argument (clause : RelationClause) :
    clause.argument.toList = '"' :: clause.name.toList ++
      if clause.hasReferences then ['"', ','] ++ ' ' :: "references: [id]".toList else ['"'] := by
  unfold argument
  cases clause.hasReferences <;> simp

theorem space_not_mem (clause : RelationClause) : ' ' ∉ clause.name.toList := by
  intro h
  exact absurd (clause.name_plain ' ' h).1 (by decide)

theorem balanced_argument (clause : RelationClause) :
    Attribute.Balanced clause.argument.toList := by
  have hopen : '(' ∉ clause.name.toList := fun h => (clause.name_plain '(' h).2 (by decide)
  have hclose : ')' ∉ clause.name.toList := fun h => (clause.name_plain ')' h).2 (by decide)
  rw [toList_argument]
  apply Attribute.balanced_of_not_mem
  · cases clause.hasReferences <;> simp [hopen]
  · cases clause.hasReferences <;> simp [hclose]

theorem pieces_space (clause : RelationClause) :
    Text.pieces ' ' clause.argument.toList =
      if clause.hasReferences then
        [('"' :: clause.name.toList) ++ ['"', ','], "references:".toList, "[id]".toList]
      else [('"' :: clause.name.toList) ++ ['"']] := by
  have hname := clause.space_not_mem
  rw [toList_argument]
  cases clause.hasReferences with
  | false => exact Text.pieces_of_not_mem (by simp [hname])
  | true =>
    rw [if_pos rfl, if_pos rfl, ← List.append_assoc, Text.pieces_append_cons,
      Text.pieces_of_not_mem (by simp [hname])]
    rfl

theorem isTight_attribute (clause : RelationClause) :
    Text.IsTight ("@relation" ++ "(" ++ clause.argument ++ ")").toList := by
  have hname : ∀ c ∈ clause.name.toList, Text.isBlank c = false := fun c hc =>
    (clause.name_plain c hc).1
  have hfirst : Text.IsWord "@relation(\"".toList := by decide
  have hword : ∀ last : List Char, Text.IsWord last →
      Text.IsWord ("@relation(\"".toList ++ (clause.name.toList ++ last)) := by
    intro last hlast
    refine ⟨by simp, fun c hc => ?_⟩
    obtain hc | hc := List.mem_append.mp hc
    · exact hfirst.2 c hc
    · exact (List.mem_append.mp hc).elim (hname c) (hlast.2 c)
  have hargument := clause.toList_argument
  cases hrefs : clause.hasReferences with
  | false =>
    have htight := (hword ['"', ')'] (by decide)).isTight
    simpa [hargument, hrefs] using htight
  | true =>
    have hlater : Text.IsTight "references: [id])".toList := by decide
    have htight := (hword ['"', ','] (by decide)).isTight.append hlater
    simpa [hargument, hrefs] using htight

theorem pieces_comma (clause : RelationClause) :
    Text.pieces ',' clause.argument.toList = ('"' :: clause.name.toList ++ ['"']) ::
      if clause.hasReferences then [" references: [id]".toList] else [] := by
  have hname : ',' ∉ '"' :: clause.name.toList ++ ['"'] := by
    simp only [List.cons_append, List.mem_cons, List.mem_append, List.not_mem_nil, or_false, not_or]
    refine ⟨by decide, fun h => ?_, by decide⟩
    exact (clause.name_plain ',' h).2 (by decide)
  rw [toList_argument]
  cases clause.hasReferences with
  | false => exact Text.pieces_of_not_mem hname
  | true =>
    have he : '"' :: clause.name.toList ++ (['"', ','] ++ ' ' :: "references: [id]".toList) =
        ('"' :: clause.name.toList ++ ['"']) ++ ',' :: " references: [id]".toList := by simp
    rw [if_pos rfl, if_pos rfl, he, Text.pieces_append_cons, Text.pieces_of_not_mem hname]
    rfl

end RelationClause

namespace Declaration

/-- The name of a relation is read back without the quotes around it. -/
theorem trimChars_name (clause : RelationClause) :
    Text.trimChars (· == '"')
      (Text.trimChars Text.isBlank ('"' :: clause.name.toList ++ ['"'])) = clause.name.toList := by
  have hlast : ∀ c ∈ ('"' :: clause.name.toList ++ ['"']).getLast?, Text.isBlank c = false := by
    intro c hc
    rw [List.getLast?_concat] at hc
    cases hc
    decide
  have hblank := Text.trimChars_around (List.forall_mem_nil _) (List.forall_mem_nil _)
    (by simp; decide) hlast
  have hquote : ∀ c ∈ clause.name.toList, (c == '"') = false := by
    intro c hc
    rw [beq_eq_false_iff_ne]
    rintro rfl
    exact (clause.name_plain '"' hc).2 (by decide)
  have hname := Text.trimChars_around (p := (· == '"')) (a := ['"']) (b := ['"'])
    (s := clause.name.toList) (by simp) (by simp)
    (fun c hc => hquote c (List.mem_of_head? hc)) (fun c hc => hquote c (List.mem_of_getLast? hc))
  rw [List.nil_append, List.append_nil] at hblank
  rw [hblank]
  exact hname

theorem relation_argument {typeWord : String} (clause : RelationClause) (shape : TypeShape) :
    relation typeWord (decide (shape = .list)) clause.argument =
      { name := clause.name, cardinality := clause.cardinality shape,
        relatedModel := relatedModel typeWord } := by
  have hcardinality : Cardinality.classify (decide (shape = .list))
      (((if clause.hasReferences then [" references: [id]".toList] else []).map
        (Text.trimChars Text.isBlank))[0]?.map String.ofList) = clause.cardinality shape := by
    rw [RelationClause.cardinality.eq_def]
    cases clause.hasReferences <;> cases shape <;> decide
  unfold relation
  rw [clause.pieces_comma, List.map_cons]
  simp only [List.headD_cons, List.getElem?_cons_succ]
  rw [trimChars_name, hcardinality, String.ofList_toList]

end Declaration

/-! ## Attributes among words -/

namespace Attribute

/-- The words into which attributes fall. -/
def spread (attributes : List String) : List String :=
  attributes.flatMap fun text => (Text.pieces ' ' text.toList).map String.ofList

theorem spread_append (s t : List String) : spread (s ++ t) = spread s ++ spread t :=
  List.flatMap_append

theorem spread_eq_pieces {attributes : List String} (hne : attributes ≠ []) :
    spread attributes =
      (Text.pieces ' ' ([' '].intercalate (attributes.map String.toList))).map String.ofList := by
  have hmap : attributes.map String.toList ≠ [] := fun h => hne (List.map_eq_nil_iff.mp h)
  rw [Text.pieces_intercalate hmap, List.flatMap_map, List.map_flatMap]
  rfl

/-- An attribute is found where no word before it begins as it does. -/
theorem argument?_spread {name argument : String} {before : List String} (hname : ' ' ∉ name.toList)
    (hbefore : ∀ word ∈ spread before, ¬ name.toList <+: word.toList)
    (hargument : Balanced argument.toList) (later : List String) :
    argument? name (spread (before ++ (name ++ "(" ++ argument ++ ")") :: later)) = some argument := by
  have hjoined : ∃ after, [' '].intercalate (((name ++ "(" ++ argument ++ ")") :: later).map
      String.toList) = name.toList ++ '(' :: (argument.toList ++ ')' :: after) := by
    cases later with
    | nil => exact ⟨[], by simp⟩
    | cons next others =>
      exact ⟨' ' :: [' '].intercalate ((next :: others).map String.toList), by
        simp [List.intercalate_cons_cons]⟩
  obtain ⟨after, hjoined⟩ := hjoined
  -- Whatever comes after it, a balanced argument ends at its own parenthesis.
  have hread := parenthesized_eq_some_iff.mpr ⟨hargument, after, rfl⟩
  rw [spread_append, argument?_append hbefore, spread_eq_pieces (List.cons_ne_nil _ _), hjoined,
    argument?_pieces hname, hread, Option.map_some, String.ofList_toList]

/-- A word of an attribute begins as the attribute does, or it is a piece of the argument, or that
piece with the parenthesis after it. -/
theorem mem_spread_singleton {name argument word : String} (hname : ' ' ∉ name.toList)
    (h : word ∈ spread [name ++ "(" ++ argument ++ ")"]) :
    name.toList ++ ['('] <+: word.toList ∨ word.toList ∈ Text.pieces ' ' argument.toList ∨
      ∃ piece ∈ Text.pieces ' ' argument.toList, word.toList = piece ++ [')'] := by
  have htext : (name ++ "(" ++ argument ++ ")").toList =
      (name.toList ++ ['(']) ++ (argument.toList ++ [')']) := by simp
  have hleft : ' ' ∉ name.toList ++ ['('] := by
    rw [List.mem_append, not_or]
    exact ⟨hname, by decide⟩
  rw [spread, List.flatMap_singleton, htext, List.mem_map] at h
  obtain ⟨piece, hpiece, rfl⟩ := h
  rw [String.toList_ofList]
  exact Text.mem_pieces_around hleft (by decide) hpiece

theorem spread_of_isWord {text : String} (h : Text.IsWord text.toList) : spread [text] = [text] := by
  rw [spread, List.flatMap_singleton, h.pieces, List.map_singleton, String.ofList_toList]

/-- Where no piece of an argument begins as another attribute does, no word does. -/
theorem not_prefix_of_mem_spread {name argument word : String} {other : List Char}
    (hname : ' ' ∉ name.toList) (h : word ∈ spread [name ++ "(" ++ argument ++ ")"])
    (hother : ¬ other <+: name.toList ++ ['(']) (hshort : ¬ name.toList ++ ['('] <+: other)
    (hclose : ')' ∉ other) (hpieces : ∀ piece ∈ Text.pieces ' ' argument.toList, ¬ other <+: piece) :
    ¬ other <+: word.toList := by
  intro hword
  obtain hfirst | hpiece | ⟨piece, hpiece, he⟩ := mem_spread_singleton hname h
  · -- Of two beginnings of one word the longer begins as the shorter does.
    exact (List.prefix_or_prefix_of_prefix hword hfirst).elim hother hshort
  · exact hpieces _ hpiece hword
  · rw [he, List.prefix_concat_iff] at hword
    obtain rfl | hword := hword
    · exact hclose (List.mem_append_right _ List.mem_cons_self)
    · exact hpieces piece hpiece hword

end Attribute

/-! ## The attributes of a field -/

namespace FieldDeclaration

variable {d : FieldDeclaration} {word : String}

open Attribute (spread)

theorem mem_spread_unique (h : word ∈ spread d.uniqueAttribute) : word = "@unique" := by
  unfold uniqueAttribute at h
  cases hu : d.isUnique with
  | false =>
    rw [hu] at h
    cases h
  | true =>
    rw [hu, if_pos rfl] at h
    have hwords : spread ["@unique"] = ["@unique"] := by decide
    rw [hwords, List.mem_singleton] at h
    exact h

theorem mem_spread_default (h : word ∈ spread d.defaultAttribute) :
    word ≠ "@unique" ∧ ¬ "@relation".toList <+: word.toList := by
  unfold defaultAttribute at h
  cases htext : d.defaultText with
  | none =>
    rw [htext] at h
    cases h
  | some text =>
    rw [htext] at h
    have hpieces := (d.defaultText_plain text htext).pieces
    refine ⟨?_, ?_⟩
    · rintro rfl
      obtain hfirst | hpiece | ⟨piece, -, he⟩ := Attribute.mem_spread_singleton (by decide) h
      · exact absurd hfirst (by decide)
      · exact (hpieces _ hpiece).1 rfl
      · -- The last word holds the closing parenthesis.
        have hlast := congrArg List.getLast? he
        rw [List.getLast?_concat] at hlast
        exact absurd hlast (by decide)
    · exact Attribute.not_prefix_of_mem_spread (by decide) h (by decide) (by decide) (by decide)
        fun piece hpiece => (hpieces piece hpiece).2

theorem mem_spread_relation (h : word ∈ spread d.relationAttribute) :
    word ≠ "@unique" ∧ ¬ "@default".toList <+: word.toList := by
  unfold relationAttribute at h
  cases hclause : d.relation with
  | none =>
    rw [hclause] at h
    cases h
  | some clause =>
    rw [hclause] at h
    -- The name is in quotes, so no piece begins as an attribute does.
    have hpieces : ∀ piece ∈ Text.pieces ' ' clause.argument.toList, ∀ rest,
        ¬ '@' :: rest <+: piece := by
      rw [clause.pieces_space]
      cases clause.hasReferences <;> simp
    refine ⟨?_, ?_⟩
    · have hunique : ¬ "@unique".toList <+: word.toList :=
        Attribute.not_prefix_of_mem_spread (by decide) h (by decide) (by decide) (by decide)
          fun piece hpiece => hpieces piece hpiece _
      rintro rfl
      exact hunique (List.prefix_refl _)
    · exact Attribute.not_prefix_of_mem_spread (by decide) h (by decide) (by decide) (by decide)
        fun piece hpiece => hpieces piece hpiece _

theorem contains_unique : (spread d.attributes).contains "@unique" = d.isUnique := by
  have hothers : "@unique" ∉ spread d.defaultAttribute ∧ "@unique" ∉ spread d.relationAttribute :=
    ⟨fun h => (mem_spread_default h).1 rfl, fun h => (mem_spread_relation h).1 rfl⟩
  simp only [List.contains_eq_mem, attributes, Attribute.spread_append, List.mem_append,
    or_iff_left hothers.2, or_iff_left hothers.1, uniqueAttribute]
  cases d.isUnique <;> decide

theorem argument_default : Attribute.argument? "@default" (spread d.attributes) = d.defaultText := by
  have hunique : ∀ word ∈ spread d.uniqueAttribute, ¬ "@default".toList <+: word.toList := by
    intro word h
    rw [mem_spread_unique h]
    decide
  rw [attributes, List.append_assoc, defaultAttribute]
  cases htext : d.defaultText with
  | none =>
    rw [Option.map_none, Option.toList_none, List.nil_append, Attribute.spread_append,
      Attribute.argument?_append hunique]
    exact Attribute.argument?_eq_none fun word h => (mem_spread_relation h).2
  | some text =>
    rw [Option.map_some, Option.toList_some, List.singleton_append]
    exact Attribute.argument?_spread (by decide) hunique (d.defaultText_plain text htext).balanced _

theorem argument_relation :
    Attribute.argument? "@relation" (spread d.attributes) = d.relation.map (·.argument) := by
  have hbefore : ∀ word ∈ spread (d.uniqueAttribute ++ d.defaultAttribute),
      ¬ "@relation".toList <+: word.toList := by
    intro word h
    rw [Attribute.spread_append, List.mem_append] at h
    obtain h | h := h
    · rw [mem_spread_unique h]
      decide
    · exact (mem_spread_default h).2
  rw [attributes, relationAttribute]
  cases d.relation with
  | none =>
    rw [Option.map_none, Option.toList_none, List.append_nil]
    exact Attribute.argument?_eq_none hbefore
  | some clause =>
    rw [Option.map_some, Option.toList_some]
    exact Attribute.argument?_spread (by decide) hbefore clause.balanced_argument _

/-- The words of the line declare the field. -/
theorem field_spread :
    Declaration.field d.name (d.baseType ++ d.shape.marker) (spread d.attributes) = d.field := by
  have hoptional : '?' ∉ d.baseType.toList := fun h => d.baseType_plain '?' h (by decide)
  have hlist : '[' ∉ d.baseType.toList := fun h => d.baseType_plain '[' h (by decide)
  have hrelation : ∀ clause : RelationClause,
      Declaration.relation (d.baseType ++ d.shape.marker) (decide (d.shape = .list)) clause.argument =
        { name := clause.name, cardinality := clause.cardinality d.shape,
          relatedModel := d.baseType } := by
    intro clause
    rw [Declaration.relation_argument, Declaration.relatedModel_append hoptional hlist]
  rw [Declaration.field_marked hoptional hlist, contains_unique, argument_default, argument_relation,
    field]
  simp only [Option.map_map, Function.comp_def, hrelation]

/-! ## The line of a field -/

theorem mem_attributes {text : String} (h : text ∈ d.attributes) :
    text = "@unique" ∨ (∃ argument ∈ d.defaultText, text = "@default" ++ "(" ++ argument ++ ")") ∨
      ∃ clause ∈ d.relation, text = "@relation" ++ "(" ++ clause.argument ++ ")" := by
  rw [attributes, List.mem_append, List.mem_append] at h
  obtain (h | h) | h := h
  · unfold uniqueAttribute at h
    split at h
    · exact Or.inl (List.mem_singleton.mp h)
    · cases h
  · obtain ⟨argument, hargument, he⟩ := Option.map_eq_some_iff.mp (Option.mem_toList.mp h)
    exact Or.inr (Or.inl ⟨argument, hargument, he.symm⟩)
  · obtain ⟨clause, hclause, he⟩ := Option.map_eq_some_iff.mp (Option.mem_toList.mp h)
    exact Or.inr (Or.inr ⟨clause, hclause, he.symm⟩)

theorem isTight_attributes : ∀ text ∈ d.attributes, Text.IsTight text.toList := by
  intro text h
  obtain rfl | ⟨argument, hargument, rfl⟩ | ⟨clause, -, rfl⟩ := mem_attributes h
  · exact Text.IsWord.isTight (by decide)
  · have hplain := d.defaultText_plain argument hargument
    have htight := Text.isTight_around (a := "@default(".toList) (b := [')']) (by decide) (by decide)
      hplain.blank hplain.single
    simpa using htight
  · exact clause.isTight_attribute

theorem brace_not_mem_attributes : ∀ text ∈ d.attributes, '\x7b' ∉ text.toList := by
  intro text h
  obtain rfl | ⟨argument, hargument, rfl⟩ | ⟨clause, -, rfl⟩ := mem_attributes h
  · decide
  · have hbrace := (d.defaultText_plain argument hargument).brace
    simp [hbrace]
  · have hbrace : '\x7b' ∉ clause.name.toList := fun h => (clause.name_plain _ h).2 (by decide)
    have hargument := clause.toList_argument
    cases hrefs : clause.hasReferences <;> simp [hargument, hrefs, hbrace]

theorem isWord_type : Text.IsWord (d.baseType ++ d.shape.marker).toList :=
  d.shape.isWord_append d.baseType_isWord

theorem toList_line : d.line.toList = [' '].intercalate
    ((d.name :: (d.baseType ++ d.shape.marker) :: d.attributes).map String.toList) := by
  rw [line, String.toList_intercalate]
  rfl

theorem isTight_line : Text.IsTight d.line.toList := by
  rw [toList_line]
  apply Text.IsTight.intercalate (by simp)
  intro t ht
  obtain ⟨text, htext, rfl⟩ := List.mem_map.mp ht
  obtain rfl | rfl | htext := by simpa only [List.mem_cons] using htext
  · exact d.name_isWord.isTight
  · exact d.isWord_type.isTight
  · exact d.isTight_attributes text htext

theorem words_line : Text.words d.line =
    d.name :: (d.baseType ++ d.shape.marker) :: spread d.attributes := by
  have hwords := d.isTight_line.words
  rw [String.ofList_toList, toList_line, ← Attribute.spread_eq_pieces (List.cons_ne_nil _ _)] at hwords
  -- Name and type are words; only the attributes fall apart.
  have hsplit : d.name :: (d.baseType ++ d.shape.marker) :: d.attributes =
      [d.name] ++ ([d.baseType ++ d.shape.marker] ++ d.attributes) := rfl
  rw [hwords, hsplit, Attribute.spread_append, Attribute.spread_append,
    Attribute.spread_of_isWord d.name_isWord, Attribute.spread_of_isWord d.isWord_type]
  rfl

theorem parse_line (n : Option Int) : Field.parse d.line n = .ok d.field := by
  unfold Field.parse
  rw [words_line]
  dsimp only
  rw [field_spread]

theorem brace_not_mem_line : '\x7b' ∉ d.line.toList := by
  rw [toList_line]
  intro h
  obtain h | ⟨t, ht, h⟩ := Text.mem_intercalate h
  · exact absurd h (by decide)
  obtain ⟨text, htext, rfl⟩ := List.mem_map.mp ht
  rw [List.mem_cons, List.mem_cons] at htext
  obtain rfl | rfl | htext := htext
  · exact d.name_plain.1 h
  · rw [String.toList_append, List.mem_append] at h
    obtain h | h := h
    · exact d.baseType_plain _ h (by decide)
    · revert h
      cases d.shape <;> decide
  · exact d.brace_not_mem_attributes text htext h

/-- No line of a field is taken for structure. -/
theorem declaresField_line : Schema.DeclaresField d.line := by
  -- The line begins with what its name begins with, up to the first space.
  have hstarts : ∀ t, ' ' ∉ t → t <+: d.line.toList → t <+: d.name.toList := by
    intro t ht h
    rw [toList_line, List.map_cons, List.map_cons, List.intercalate_cons_cons, List.append_assoc,
      List.singleton_append] at h
    exact Text.prefix_of_prefix_append_cons ht h
  refine ⟨?_, ?_, d.brace_not_mem_line, ?_, ?_, ?_⟩
  · intro h
    exact d.isTight_line.ne_nil (by rw [h]; rfl)
  · rw [Schema.IsHeader, words_line, List.head?_cons, Option.some.injEq]
    exact d.name_plain.2.1
  · intro h
    have hwords := d.words_line
    have hone : Text.words "\x7d" = ["\x7d"] := by decide
    rw [h, hone] at hwords
    exact absurd (congrArg List.length hwords) (by simp)
  · exact fun h => d.name_plain.2.2.1 (hstarts _ (by decide) h)
  · exact fun h => d.name_plain.2.2.2 (hstarts _ (by decide) h)

theorem ofLine_line : LineRole.ofLine d.line = .field :=
  Schema.ofLine_eq_field (by rw [words_line]; exact List.cons_ne_nil _ _) d.declaresField_line

end FieldDeclaration

/-! ## Lines and blocks -/

theorem Indent.strip (indent : Indent) {line : String} (h : Text.IsTight line.toList) :
    Text.strip (indent.text ++ line) = line := by
  have hstrip := h.strip (a := indent.text.toList) fun c hc => (indent.blank c hc).1
  rwa [String.ofList_append, String.ofList_toList, String.ofList_toList] at hstrip

namespace ModelDeclaration

variable {d : ModelDeclaration}

theorem toList_header : d.header.toList = "model".toList ++ ' ' :: (d.name.toList ++ ' ' :: ['\x7b']) := by
  simp [header]

theorem isTight_header : Text.IsTight d.header.toList := by
  have hmodel : Text.IsWord "model".toList := by decide
  have hbrace : Text.IsWord ['\x7b'] := by decide
  rw [toList_header]
  exact hmodel.isTight.append (d.name_isWord.isTight.append hbrace.isTight)

theorem ofLine_header : LineRole.ofLine d.header = .header (some d.name) := by
  -- The role depends on the first two words.
  have hwords := d.isTight_header.words
  rw [String.ofList_toList, toList_header, Text.pieces_append_cons, Text.pieces_append_cons,
    d.name_isWord.pieces] at hwords
  have hmodel : Text.pieces ' ' "model".toList = ["model".toList] := by decide
  rw [hmodel] at hwords
  unfold LineRole.ofLine
  rw [hwords]
  simp

theorem strip_lines (indent : Indent) :
    (d.lines indent).map Text.strip = d.header :: (d.fields.map (·.line) ++ ["\x7d"]) := by
  have hheader : Text.strip d.header = d.header := by
    have hstrip := d.isTight_header.strip (List.forall_mem_nil _)
    rwa [List.nil_append, String.ofList_toList] at hstrip
  have hclosing : Text.strip "\x7d" = "\x7d" := by decide
  have hfield : ∀ field : FieldDeclaration, Text.strip (indent.text ++ field.line) = field.line :=
    fun field => indent.strip field.isTight_line
  rw [lines, List.cons_append, List.map_cons, List.map_append, List.map_map, hheader]
  simp only [Function.comp_def, hfield, List.map_cons, List.map_nil, hclosing]

theorem not_isLineBreak_lines (indent : Indent) :
    ∀ line ∈ d.lines indent, ∀ c ∈ line.toList, Text.isLineBreak c = false := by
  intro line hline c hc
  rw [lines, List.cons_append, List.mem_cons, List.mem_append, List.mem_singleton] at hline
  obtain rfl | hline | rfl := hline
  · exact d.isTight_header.not_isLineBreak c hc
  · obtain ⟨field, -, rfl⟩ := List.mem_map.mp hline
    rw [String.toList_append, List.mem_append] at hc
    obtain hc | hc := hc
    · exact (indent.blank c hc).2
    · exact field.isTight_line.not_isLineBreak c hc
  · rw [show "\x7d".toList = ['\x7d'] from rfl, List.mem_singleton] at hc
    subst hc
    decide

end ModelDeclaration

namespace Schema

theorem ofLines_fields (fields : List FieldDeclaration) (n : Nat) (model : Model) (rest : List String) :
    ofLines n (some model) (fields.map (·.line) ++ rest) =
      ofLines (n + fields.length) (some { model with fields := model.fields ++ fields.map (·.field) })
        rest := by
  induction fields generalizing n model with
  | nil => simp
  | cons d others ih =>
    rw [List.map_cons, List.cons_append, ofLines_field d.ofLine_line (d.parse_line _), ih]
    simp [Nat.add_assoc, Nat.add_comm 1]

theorem ofLines_printed (indent : Indent) (models : List ModelDeclaration) (n : Nat) :
    ofLines n none ((models.flatMap (·.lines indent)).map Text.strip) =
      .ok ⟨models.map (·.model), none⟩ := by
  -- On the models: each block is opened, filled and closed before the next one begins.
  induction models generalizing n with
  | nil => rfl
  | cons d others ih =>
    rw [List.flatMap_cons, List.map_append, d.strip_lines, List.cons_append,
      ofLines_header d.ofLine_header, List.append_assoc, ofLines_fields, List.singleton_append,
      ofLines_closing (by decide), ih]
    rfl

/-- Printed models are read back, in order, with every field that they declare. -/
theorem parse_printed (indent : Indent) (models : List ModelDeclaration) :
    parse (printed indent models) = .ok ⟨models.map (·.model), none⟩ := by
  have hlines : Text.lines (printed indent models) = models.flatMap (·.lines indent) := by
    apply Text.lines_join
    intro line hline
    obtain ⟨d, -, hline⟩ := List.mem_flatMap.mp hline
    exact d.not_isLineBreak_lines indent line hline
  rw [parse, hlines, ofLines_printed]

example :
    printed ⟨"  ", List.all_iff_forall_prop.mp (by decide)⟩
      [{ name := "Post"
         name_isWord := by decide
         fields :=
          [{ name := "author"
             baseType := "User"
             shape := .optional
             isUnique := true
             defaultText := some "pick(\"a b\", @id)"
             relation := some ⟨"by", true, List.all_iff_forall_prop.mp (by decide)⟩
             name_isWord := by decide
             name_plain := by decide
             baseType_isWord := by decide
             baseType_plain := List.all_iff_forall_prop.mp (by decide)
             defaultText_plain := by
              rintro _ ⟨⟩
              exact ⟨by decide, by decide, List.all_iff_forall_prop.mp (by decide), by decide,
                by decide⟩ }] }] =
      "model Post \x7b\n  author User? @unique @default(pick(\"a b\", @id)) " ++
        "@relation(\"by\", references: [id])\n\x7d\n" := by
  decide

end Schema

end ViewGen
