import ViewGen.Proofs.AttributeLines
import ViewGen.Proofs.SchemaText

/-!
# Foreign keys

The side of an unnamed relation that holds the foreign key lists its own fields and those that they
reference.  The clause is cut at every comma, also at those between the fields, and what follows the first
comma is searched for the references.  So the side is recognised by a key of one field, and by a longer
one only if the second field's name happens to say so.
-/

namespace ViewGen

/-! ## Lists of names -/

namespace Text

variable {a t : List Char} {name : List Char} {names later : List (List Char)}

/-- What ends the piece of the first name of a list, if others may follow. -/
def closing (later : List (List Char)) : List Char :=
  if later = [] then [']'] else []

theorem IsWord.append_closing (h : IsWord name) (later : List (List Char)) :
    IsWord (name ++ closing later) := by
  refine ⟨by simp [h.1], ?_⟩
  rw [List.forall_mem_append, closing]
  refine ⟨h.2, ?_⟩
  split
  · exact List.forall_mem_singleton.mpr (by decide)
  · exact List.forall_mem_nil _

theorem infix_append_closing (hne : a ≠ []) (ha : ']' ∉ a) :
    a <:+: name ++ closing later ↔ a <:+: name := by
  unfold closing
  split
  · rw [List.infix_concat_iff, or_iff_right]
    intro hsuffix
    obtain hnil | ⟨init, rfl, -⟩ := List.suffix_concat_iff.mp hsuffix
    · exact hne hnil
    · exact ha (List.mem_append_right _ List.mem_cons_self)
  · rw [List.append_nil]

/-- Trimming takes away what stands before a text that ends with a word. -/
theorem IsWord.trimChars (h : IsWord name) (ha : ∀ c ∈ a, isBlank c = true)
    (hhead : ∀ c ∈ (t ++ name).head?, isBlank c = false) :
    trimChars isBlank (a ++ (t ++ name)) = t ++ name := by
  have hlast : ∀ c ∈ (t ++ name).getLast?, isBlank c = false := by
    intro c hc
    rw [List.getLast?_append_of_ne_nil _ h.1] at hc
    exact h.2 c (List.mem_of_getLast? hc)
  have htrim := trimChars_around ha (List.forall_mem_nil _) hhead hlast
  rwa [List.append_nil] at htrim

/-- The first comma in a list of names follows the first name, or the list. -/
theorem pieces_listed (ha : ',' ∉ a) (hname : ',' ∉ name) (ht : t = [] ∨ ∃ after, t = ',' :: after) :
    (pieces ',' (a ++ ([',', ' '].intercalate (name :: later) ++ ']' :: t))).head? =
      some (a ++ (name ++ closing later)) := by
  have hfirst : ',' ∉ a ++ name := by simp [ha, hname]
  cases later with
  | nil =>
    have hclosed : ',' ∉ a ++ (name ++ [']']) := by simp [ha, hname]
    have hsame : a ++ ([',', ' '].intercalate [name] ++ ']' :: t) = (a ++ (name ++ [']'])) ++ t := by
      simp
    rw [hsame]
    obtain rfl | ⟨after, rfl⟩ := ht
    · rw [List.append_nil, pieces_of_not_mem hclosed]
      rfl
    · rw [pieces_append_cons, pieces_of_not_mem hclosed]
      rfl
  | cons next others =>
    have hsame : a ++ ([',', ' '].intercalate (name :: next :: others) ++ ']' :: t) =
        (a ++ name) ++ ',' :: ' ' :: ([',', ' '].intercalate (next :: others) ++ ']' :: t) := by
      simp [List.intercalate_cons_cons]
    rw [hsame, pieces_append_cons, pieces_of_not_mem hfirst]
    simp [closing]

/-- A list of names has single spaces only. -/
theorem collapse_listed (hne : names ≠ []) (hwords : ∀ name ∈ names, IsWord name) (within : Bool)
    (t : List Char) :
    collapseFrom within ([',', ' '].intercalate names ++ t) =
      [',', ' '].intercalate names ++ collapse t := by
  induction names generalizing within with
  | nil => exact absurd rfl hne
  | cons name rest ih =>
    rw [List.forall_mem_cons] at hwords
    cases rest with
    | nil =>
      rw [List.intercalate_singleton]
      exact hwords.1.collapseFrom_append within t
    | cons next others =>
      rw [List.intercalate_cons_cons, List.append_assoc, List.append_assoc, hwords.1.collapseFrom_append]
      -- The name is followed by a comma and one space, which begins a run.
      show name ++ ',' :: ' ' :: collapseFrom true ([',', ' '].intercalate (next :: others) ++ t) = _
      rw [ih (List.cons_ne_nil next others) hwords.2 true]
      simp

end Text

/-! ## The clause -/

/-- An unnamed relation as the side with the foreign key declares it. -/
structure ForeignKey where
  name : String
  baseType : String
  shape : TypeShape
  fields : List String
  references : List String
  name_isWord : Text.IsWord name.toList
  baseType_isIdentifier : Text.IsIdentifier baseType.toList
  fields_ne_nil : fields ≠ []
  references_ne_nil : references ≠ []
  fields_isIdentifier : ∀ f ∈ fields, Text.IsIdentifier f.toList
  references_isIdentifier : ∀ r ∈ references, Text.IsIdentifier r.toList

namespace ForeignKey

def argument (key : ForeignKey) : String :=
  "fields: [" ++ ", ".intercalate key.fields ++ "], references: [" ++
    ", ".intercalate key.references ++ "]"

def text (key : ForeignKey) : String :=
  key.name ++ " " ++ key.baseType ++ key.shape.marker ++ " @relation(" ++ key.argument ++ ")"

/-- Whether what follows the first comma of the clause mentions the references. -/
def IsRecognised (key : ForeignKey) : Prop :=
  key.fields.length = 1 ∨ ∃ f ∈ key.fields[1]?, "references".toList <:+: f.toList

/-- What stands before that comma. -/
def shownName (key : ForeignKey) : String :=
  "fields: [" ++ key.fields.headD "" ++ if key.fields.length = 1 then "]" else ""

theorem toList_argument (key : ForeignKey) : key.argument.toList =
    "fields: [".toList ++ ([',', ' '].intercalate (key.fields.map String.toList) ++
      ("], references: [".toList ++
        ([',', ' '].intercalate (key.references.map String.toList) ++ [']']))) := by
  unfold argument
  simp only [String.toList_append, String.toList_intercalate, List.append_assoc]
  rfl

/-- The clause holds letters, digits and underscores, and what stands around and between the names. -/
theorem not_mem_argument (key : ForeignKey) {c : Char}
    (hc : c.toNat < 128 ∧ c.isAlphanum = false ∧ c ≠ '_')
    (haround : c ∉ "fields: [], references: []".toList) : c ∉ key.argument.toList := by
  have hpart : ∀ part : List Char, part ⊆ "fields: [], references: []".toList → c ∉ part :=
    fun part hpart h => haround (hpart h)
  have hlist : ∀ names : List String, (∀ name ∈ names, Text.IsIdentifier name.toList) →
      c ∉ [',', ' '].intercalate (names.map String.toList) := by
    intro names hnames hmem
    obtain hbetween | ⟨chars, hchars, hin⟩ := Text.mem_intercalate hmem
    · exact hpart _ (by decide) hbetween
    · obtain ⟨name, hname, rfl⟩ := List.mem_map.mp hchars
      exact (hnames name hname).not_mem hc hin
  rw [toList_argument]
  simp only [List.mem_append, not_or]
  exact ⟨hpart _ (by decide), hlist _ key.fields_isIdentifier, hpart _ (by decide),
    hlist _ key.references_isIdentifier, hpart _ (by decide)⟩

theorem isWord_names {names : List String} (h : ∀ name ∈ names, Text.IsIdentifier name.toList) :
    ∀ name ∈ names.map String.toList, Text.IsWord name := by
  rw [List.forall_mem_map]
  exact fun name hname => (h name hname).1

theorem collapsed_argument (key : ForeignKey) : Text.collapsed key.argument = key.argument := by
  have hfields := isWord_names key.fields_isIdentifier
  have hreferences := isWord_names key.references_isIdentifier
  rw [Text.collapsed, ← String.toList_inj, String.toList_ofList, toList_argument]
  have hlater : Text.collapse ("], references: [".toList ++
      ([',', ' '].intercalate (key.references.map String.toList) ++ [']'])) =
      "], references: [".toList ++ ([',', ' '].intercalate (key.references.map String.toList) ++ [']']) := by
    show "], references: [".toList ++
      Text.collapseFrom false ([',', ' '].intercalate (key.references.map String.toList) ++ [']']) = _
    rw [Text.collapse_listed (by simpa using key.references_ne_nil) hreferences]
    rfl
  generalize "], references: [".toList ++
    ([',', ' '].intercalate (key.references.map String.toList) ++ [']']) = later at hlater ⊢
  show "fields: [".toList ++
    Text.collapseFrom false ([',', ' '].intercalate (key.fields.map String.toList) ++ later) = _
  rw [Text.collapse_listed (by simpa using key.fields_ne_nil) hfields, hlater]

/-! ## Its parts -/

/-- After the only field of a key come the references. -/
theorem pieces_of_single (key : ForeignKey) {f : String} (hfields : key.fields = [f]) :
    ∃ second others, Text.pieces ',' key.argument.toList = key.shownName.toList :: second :: others ∧
      "references".toList <:+: Text.trimChars Text.isBlank second := by
  obtain ⟨r, more, hreferences⟩ := List.exists_cons_of_ne_nil key.references_ne_nil
  have hf := key.fields_isIdentifier f (by simp [hfields])
  have hr := key.references_isIdentifier r (by simp [hreferences])
  have hshown : key.shownName.toList = "fields: [".toList ++ (f.toList ++ [']']) := by
    simp [shownName, hfields]
  have hcomma : ',' ∉ key.shownName.toList := by
    rw [hshown, List.mem_append, List.mem_append, not_or, not_or]
    exact ⟨by decide, hf.not_mem (by decide), by decide⟩
  have hargument : key.argument.toList = key.shownName.toList ++ ',' :: (" references: [".toList ++
      ([',', ' '].intercalate (r.toList :: more.map String.toList) ++ ']' :: [])) := by
    rw [toList_argument, hfields, hreferences, hshown]
    simp
  -- The comma behind the bracket is the first one, and what follows it names the references.
  have hlisted : (Text.pieces ',' (" references: [".toList ++
      ([',', ' '].intercalate (r.toList :: more.map String.toList) ++ ']' :: []))).head? =
      some (" references: [".toList ++ (r.toList ++ Text.closing (more.map String.toList))) :=
    Text.pieces_listed (by decide) (hr.not_mem (by decide)) (Or.inl rfl)
  obtain ⟨others, hothers⟩ := List.head?_eq_some_iff.mp hlisted
  rw [hargument, Text.pieces_append_cons, Text.pieces_of_not_mem hcomma, hothers]
  refine ⟨_, others, rfl, ?_⟩
  have htrim := (hr.1.append_closing (more.map String.toList)).trimChars (a := [' '])
    (t := "references: [".toList) (List.forall_mem_singleton.mpr (by decide)) (by simp; decide)
  show _ <:+: Text.trimChars Text.isBlank ([' '] ++ ("references: [".toList ++ _))
  rw [htrim]
  rw [show "references: [".toList = "references".toList ++ ": [".toList by decide, List.append_assoc]
  exact (List.prefix_append _ _).isInfix

/-- After the first one of several fields comes the second one. -/
theorem pieces_of_several (key : ForeignKey) {f g : String} {later : List String}
    (hfields : key.fields = f :: g :: later) :
    ∃ second others, Text.pieces ',' key.argument.toList = key.shownName.toList :: second :: others ∧
      ("references".toList <:+: Text.trimChars Text.isBlank second ↔
        "references".toList <:+: g.toList) := by
  have hf := key.fields_isIdentifier f (by simp [hfields])
  have hg := key.fields_isIdentifier g (by simp [hfields])
  have hshown : key.shownName.toList = "fields: [".toList ++ f.toList := by
    simp [shownName, hfields]
  have hcomma : ',' ∉ key.shownName.toList := by
    rw [hshown, List.mem_append, not_or]
    exact ⟨by decide, hf.not_mem (by decide)⟩
  have hargument : key.argument.toList = key.shownName.toList ++ ',' :: ([' '] ++
      ([',', ' '].intercalate (g.toList :: later.map String.toList) ++ ']' :: (',' ::
        (" references: [".toList ++
          ([',', ' '].intercalate (key.references.map String.toList) ++ [']']))))) := by
    rw [toList_argument, hfields, hshown]
    simp [List.intercalate_cons_cons]
  -- The first comma is the one behind the first field, inside the brackets.
  have hlisted : ∀ after, (Text.pieces ',' ([' '] ++
      ([',', ' '].intercalate (g.toList :: later.map String.toList) ++ ']' :: ',' :: after))).head? =
      some ([' '] ++ (g.toList ++ Text.closing (later.map String.toList))) :=
    fun after => Text.pieces_listed (by decide) (hg.not_mem (by decide)) (Or.inr ⟨after, rfl⟩)
  obtain ⟨others, hothers⟩ := List.head?_eq_some_iff.mp (hlisted _)
  rw [hargument, Text.pieces_append_cons, Text.pieces_of_not_mem hcomma, hothers]
  refine ⟨_, others, rfl, ?_⟩
  have hword := hg.1.append_closing (later.map String.toList)
  have htrim := hword.trimChars (a := [' ']) (t := []) (List.forall_mem_singleton.mpr (by decide))
    fun c hc => hword.2 c (List.mem_of_head? hc)
  rw [List.nil_append] at htrim
  rw [htrim]
  exact Text.infix_append_closing (by decide) (by decide)

theorem trimChars_shownName (key : ForeignKey) :
    Text.trimChars (· == '"') (Text.trimChars Text.isBlank key.shownName.toList) =
      key.shownName.toList := by
  obtain ⟨f, rest, hfields⟩ := List.exists_cons_of_ne_nil key.fields_ne_nil
  have hf := key.fields_isIdentifier f (by simp [hfields])
  have hshown : key.shownName.toList =
      "fields: [".toList ++ (f.toList ++ Text.closing (rest.map String.toList)) := by
    cases rest <;> simp [shownName, hfields, Text.closing]
  have hblank := (hf.1.append_closing (rest.map String.toList)).trimChars (a := [])
    (t := "fields: [".toList) (List.forall_mem_nil _) (by simp; decide)
  have hquote : '"' ∉ key.shownName.toList := by
    have hclosing : '"' ∉ Text.closing (rest.map String.toList) := by
      unfold Text.closing
      split <;> decide
    rw [hshown, List.mem_append, List.mem_append, not_or, not_or]
    exact ⟨by decide, hf.not_mem (by decide), hclosing⟩
  have hend : ∀ c ∈ key.shownName.toList, (c == '"') = false := by
    intro c hc
    rw [beq_eq_false_iff_ne]
    rintro rfl
    exact hquote hc
  rw [List.nil_append, ← hshown] at hblank
  rw [hblank]
  have hsame := Text.trimChars_around (p := (· == '"')) (a := []) (b := []) (List.forall_mem_nil _)
    (List.forall_mem_nil _) (fun c hc => hend c (List.mem_of_head? hc))
    (fun c hc => hend c (List.mem_of_getLast? hc))
  rwa [List.nil_append, List.append_nil] at hsame

/-- The second part decides on the cardinality. -/
theorem relation_argument (key : ForeignKey) (typeWord : String) (isList : Bool) : ∃ mapping,
    Declaration.relation typeWord isList key.argument =
      { name := key.shownName
        cardinality := Cardinality.classify isList (some mapping)
        relatedModel := Declaration.relatedModel typeWord } ∧
      (Text.occursIn "references".toList mapping.toList = true ↔ key.IsRecognised) := by
  have hpieces : ∃ second others,
      Text.pieces ',' key.argument.toList = key.shownName.toList :: second :: others ∧
        ("references".toList <:+: Text.trimChars Text.isBlank second ↔ key.IsRecognised) := by
    obtain ⟨f, rest, hfields⟩ := List.exists_cons_of_ne_nil key.fields_ne_nil
    cases rest with
    | nil =>
      obtain ⟨second, others, hpieces, hfound⟩ := key.pieces_of_single hfields
      exact ⟨second, others, hpieces, iff_of_true hfound (Or.inl (by simp [hfields]))⟩
    | cons g later =>
      obtain ⟨second, others, hpieces, hfound⟩ := key.pieces_of_several hfields
      refine ⟨second, others, hpieces, hfound.trans ?_⟩
      simp [IsRecognised, hfields]
  obtain ⟨second, others, hpieces, hfound⟩ := hpieces
  refine ⟨String.ofList (Text.trimChars Text.isBlank second), ?_, ?_⟩
  · unfold Declaration.relation
    rw [hpieces]
    simp [trimChars_shownName]
  · have hsecond : (String.ofList (Text.trimChars Text.isBlank second)).toList =
        Text.trimChars Text.isBlank second := String.toList_ofList
    rw [hsecond, Text.occursIn_iff]
    exact hfound

/-! ## The line -/

def clause (key : ForeignKey) : FieldAttribute where
  name := "relation"
  argument := some key.argument
  name_isIdentifier := by decide

def line (key : ForeignKey) : FieldLine where
  name := key.name
  gap := .space
  typeWord := key.baseType ++ key.shape.marker
  parts := [(.space, key.clause)]
  name_isWord := key.name_isWord
  typeWord_isWord := key.shape.isWord_append key.baseType_isIdentifier.1

theorem text_line (key : ForeignKey) : key.line.text = key.text := by
  have hjoin : key.line.text = key.name ++ (" " ++ ((key.baseType ++ key.shape.marker) ++
      String.join [" " ++ ("@relation(" ++ key.argument ++ ")")])) := rfl
  rw [hjoin, text]
  simp [← String.toList_inj]

/-- No word of the clause but the first one looks like an attribute. -/
theorem at_not_mem (key : ForeignKey) : ∀ word ∈ key.clause.innerWords, '@' ∉ word.toList := by
  intro word hword hat
  obtain ⟨start, -, -, hsome⟩ := key.clause.words_eq
  obtain hmem | heq := (hsome key.argument rfl).2 word hword '@' hat
  · exact key.not_mem_argument (by decide) (by decide) hmem
  · exact absurd heq (by decide)

theorem keepsOut_line (key : ForeignKey) (name : String) : key.line.KeepsOut name := by
  intro a ha word hword hstart
  obtain rfl : a = key.clause := List.mem_singleton.mp (List.takeWhile_subset _ ha)
  exact key.at_not_mem word hword (hstart.mem (by simp))

theorem balanced_argument (key : ForeignKey) : Attribute.Balanced key.argument.toList := by
  apply Attribute.balanced_of_not_mem
  · exact key.not_mem_argument (by decide) (by decide)
  · exact key.not_mem_argument (by decide) (by decide)

/-- What is read of the line. -/
theorem parse_text (key : ForeignKey) (n : Option Int) : Field.parse key.text n = .ok
    { name := key.name
      baseType := key.baseType
      isRequired := key.shape ≠ .optional
      isList := key.shape = .list
      isUnique := false
      defaultText := none
      relation := some (Declaration.relation (key.baseType ++ key.shape.marker)
        (decide (key.shape = .list)) key.argument) } := by
  have hoptional := key.baseType_isIdentifier.not_mem (c := '?') (by decide)
  have hlist := key.baseType_isIdentifier.not_mem (c := '[') (by decide)
  -- The clause is the only attribute of the line: it is what the one key finds, and others find nothing.
  have hunique : (key.line.attributes.flatMap (·.words)).contains "@unique" = false := by
    rw [← Bool.not_eq_true, key.line.contains_unique_iff]
    rintro ⟨a, ha, hmarker⟩
    obtain rfl : a = key.clause := List.mem_singleton.mp ha
    obtain ⟨hname, -⟩ | hword := hmarker
    · exact absurd hname (by decide : "relation" ≠ "unique")
    · exact key.at_not_mem _ hword (by decide)
  have hother : key.line.first? "default" = none :=
    List.find?_cons_of_neg (by simp [clause])
  have hfirst : key.line.first? "relation" = some key.clause :=
    List.find?_cons_of_pos (by simp [clause])
  have hdefault : Attribute.argument? ("@" ++ "default")
      (key.line.attributes.flatMap (·.words)) = none :=
    FieldLine.argument?_of_first?_none (by decide) (key.keepsOut_line _) hother
  rw [show "@" ++ "default" = "@default" by decide] at hdefault
  have hrelation : Attribute.argument? "@relation" (key.line.attributes.flatMap (·.words)) =
      some key.argument := by
    obtain ⟨later, hread⟩ :=
      FieldLine.argument?_of_first?_some (by decide) (key.keepsOut_line _) hfirst
    have hclause := FieldAttribute.argument?_of_balanced (a := key.clause) rfl rfl
      key.balanced_argument later
    rw [collapsed_argument] at hclause
    exact hread.trans hclause
  rw [← text_line, FieldLine.parse_text]
  show Except.ok (Declaration.field key.name (key.baseType ++ key.shape.marker) _) = _
  rw [Declaration.field_marked hoptional hlist, hunique, hdefault, hrelation]
  rfl

end ForeignKey

/-! ## Recognition -/

/-- The cardinality of a side that holds the foreign key. -/
def TypeShape.withReferences : TypeShape → Cardinality
  | .list => .oneToMany
  | _ => .manyToOne

/-- The cardinality of the other side. -/
def TypeShape.withoutReferences : TypeShape → Cardinality
  | .list => .manyToMany
  | _ => .oneToOne

theorem TypeShape.classify (shape : TypeShape) (mapping : String) :
    Cardinality.classify (decide (shape = .list)) (some mapping) =
      if Text.occursIn "references".toList mapping.toList then shape.withReferences
      else shape.withoutReferences := by
  unfold Cardinality.classify
  dsimp only
  cases shape <;> cases Text.occursIn "references".toList mapping.toList <;> rfl

/-- Every unnamed relation with a foreign key is read, and with the model that its type names, but it is
taken for the side that holds the key only if the key has one field or the second one's name mentions
the references. -/
theorem ForeignKey.parse_recognised_iff (key : ForeignKey) (n : Option Int) : ∃ cardinality,
    Field.parse key.text n = .ok
      { name := key.name
        baseType := key.baseType
        isRequired := key.shape ≠ .optional
        isList := key.shape = .list
        isUnique := false
        defaultText := none
        relation := some { name := key.shownName, cardinality, relatedModel := key.baseType } } ∧
      (cardinality = key.shape.withReferences ↔ key.IsRecognised) ∧
      (cardinality = key.shape.withoutReferences ↔ ¬ key.IsRecognised) := by
  have hoptional := key.baseType_isIdentifier.not_mem (c := '?') (by decide)
  have hlist := key.baseType_isIdentifier.not_mem (c := '[') (by decide)
  obtain ⟨mapping, hrelation, hfound⟩ := key.relation_argument (key.baseType ++ key.shape.marker)
    (decide (key.shape = .list))
  have hdistinct : key.shape.withReferences ≠ key.shape.withoutReferences := by
    cases key.shape <;> decide
  refine ⟨Cardinality.classify (decide (key.shape = .list)) (some mapping), ?_, ?_⟩
  · rw [key.parse_text, hrelation, Declaration.relatedModel_append hoptional hlist]
  rw [TypeShape.classify, ← hfound]
  split
  · rename_i h
    exact ⟨iff_of_true rfl h, iff_of_false hdistinct (not_not_intro h)⟩
  · rename_i h
    exact ⟨iff_of_false hdistinct.symm h, iff_of_true rfl h⟩

/-- A key of two fields. -/
def ForeignKey.pair : ForeignKey where
  name := "author"
  baseType := "User"
  shape := .plain
  fields := ["a", "b"]
  references := ["c", "d"]
  name_isWord := by decide
  baseType_isIdentifier := by decide
  fields_ne_nil := by decide
  references_ne_nil := by decide
  fields_isIdentifier := List.forall_mem_cons.mpr ⟨by decide, by simp; decide⟩
  references_isIdentifier := List.forall_mem_cons.mpr ⟨by decide, by simp; decide⟩

/-- It is not recognised. -/
theorem ForeignKey.parse_recognised_iff_pair :
    ForeignKey.pair.text = "author User @relation(fields: [a, b], references: [c, d])" ∧
      ∃ field relation, Field.parse ForeignKey.pair.text none = .ok field ∧
        field.relation = some relation ∧ relation.cardinality = .oneToOne ∧
        relation.relatedModel = "User" := by
  refine ⟨by decide, ?_⟩
  obtain ⟨cardinality, hparse, -, hnot⟩ := ForeignKey.pair.parse_recognised_iff none
  have hunrecognised : ¬ ForeignKey.pair.IsRecognised := by
    rintro (hsingle | ⟨f, hf, hin⟩)
    · exact absurd hsingle (by decide)
    · obtain rfl : "b" = f := Option.some.inj hf
      revert hin
      decide
  have hcardinality : cardinality = .oneToOne := hnot.mpr hunrecognised
  exact ⟨_, ⟨ForeignKey.pair.shownName, cardinality, "User"⟩, hparse, rfl, hcardinality, rfl⟩

end ViewGen
