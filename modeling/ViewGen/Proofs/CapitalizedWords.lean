import ViewGen.Proofs.WordBoundaries

/-!
# Capitalized words

Words that begin with a capital and go on in small letters and digits are found again in the text that they
make up.  Snake case and kebab case give them in lower case between separators, camel case changes nothing
but the first letter, and camel case of either of the others is camel case of the text itself.
-/

namespace ViewGen.Naming

variable {c : Char} {s w : List Char} {begins : Option Char → Char → List Char → Bool}

/-! ## Words -/

/-- A capital and then small letters or digits, at least one. -/
def IsCapitalized (w : List Char) : Prop :=
  w.head?.any isCapital = true ∧ w.tail ≠ [] ∧ ∀ d ∈ w.tail, isSmallOrDigit d = true

instance (w : List Char) : Decidable (IsCapitalized w) :=
  have : Decidable (∀ d ∈ w.tail, isSmallOrDigit d = true) := List.decidableBAll _ w.tail
  inferInstanceAs (Decidable (_ ∧ _ ∧ _))

theorem IsCapitalized.exists_cons (h : IsCapitalized w) :
    ∃ c rest, w = c :: rest ∧ isCapital c = true ∧ rest ≠ [] ∧ ∀ d ∈ rest, isSmallOrDigit d = true := by
  cases w with
  | nil => exact absurd h.1 (by decide)
  | cons c rest => exact ⟨c, rest, rfl, h⟩

/-- A rule by which nothing but a capital begins a word, never the first character of the text, and always
a capital after a small letter or a digit. -/
structure MarksCapitals (begins : Option Char → Char → List Char → Bool) : Prop where
  first : ∀ c rest, begins none c rest = false
  other : ∀ before c rest, isCapital c = false → begins before c rest = false
  capital : ∀ x c rest, isSmallOrDigit x = true → isCapital c = true → begins (some x) c rest = true

theorem marksCapitals_followsSmall : MarksCapitals followsSmall where
  first := followsSmall_none
  other _ _ _ h := by simp [followsSmall, h]
  capital _ _ _ hx hc := by simp [followsSmall, hx, hc]

theorem marksCapitals_beginsWord : MarksCapitals beginsWord where
  first := beginsWord_none
  other _ _ _ h := by simp [beginsWord, h]
  capital _ _ _ hx hc := by simp [beginsWord, hx, hc]

/-- What holds no capital is kept, and marking goes on behind its last character. -/
theorem MarksCapitals.append (h : MarksCapitals begins) (hs : ∀ d ∈ s, isCapital d = false)
    (before : Option Char) (t : List Char) :
    mark begins before (s ++ t) = s ++ mark begins (s.getLast?.or before) t := by
  induction s generalizing before with
  | nil => rfl
  | cons d rest ih =>
    rw [List.forall_mem_cons] at hs
    rw [List.cons_append, mark_cons_of_false (h.other before d _ hs.1), ih hs.2, List.getLast?_cons]
    cases rest.getLast? <;> rfl

theorem MarksCapitals.eq_self (h : MarksCapitals begins) (hs : ∀ d ∈ s, isCapital d = false) :
    mark begins none s = s := by
  have happend := h.append hs none []
  rwa [List.append_nil, mark, List.append_nil] at happend

/-- A word is kept at the beginning of a text, and marking goes on behind a small letter or a digit. -/
theorem MarksCapitals.word (h : MarksCapitals begins) (hw : IsCapitalized w) :
    ∃ x, isSmallOrDigit x = true ∧ ∀ t, mark begins none (w ++ t) = w ++ mark begins (some x) t := by
  obtain ⟨c, rest, rfl, -, hne, hrest⟩ := hw.exists_cons
  have hplain : ∀ d ∈ rest, isCapital d = false := fun d hd => isCapital_eq_false (hrest d hd)
  refine ⟨rest.getLast hne, hrest _ (List.getLast_mem hne), fun t => ?_⟩
  rw [List.cons_append, mark_cons_of_false (h.first c _), h.append hplain,
    List.getLast?_eq_some_getLast hne]
  rfl

/-- Capitalized words are found again in the text that they make up. -/
theorem MarksCapitals.flatten (h : MarksCapitals begins) {ws : List (List Char)}
    (hws : ∀ w ∈ ws, IsCapitalized w) : mark begins none ws.flatten = ['_'].intercalate ws := by
  induction ws with
  | nil => rfl
  | cons w rest ih =>
    rw [List.forall_mem_cons] at hws
    have hrest := ih hws.2
    obtain ⟨x, hx, hword⟩ := h.word hws.1
    rw [List.flatten_cons, hword]
    cases rest with
    | nil => rw [List.flatten_nil, mark, List.append_nil, List.intercalate_singleton]
    | cons next others =>
      obtain ⟨c, more, rfl, hc, -⟩ := (hws.2 next List.mem_cons_self).exists_cons
      rw [List.flatten_cons, List.cons_append] at hrest ⊢
      rw [mark_some (h.first c _), if_pos (h.capital x c _ hx hc), hrest, List.intercalate_cons_cons,
        List.append_assoc]
      rfl

/-! ## Cases of capitalized words -/

theorem toNat_lt_of_isCapital (h : isCapital c = true) : c.toNat < 0x80 := by
  rw [isCapital_iff] at h
  omega

theorem toNat_lt_of_isSmallOrDigit (h : isSmallOrDigit c = true) : c.toNat < 0x80 := by
  rw [isSmallOrDigit_iff, isSmall_iff] at h
  omega

theorem toLower_of_isSmallOrDigit (h : isSmallOrDigit c = true) : c.toLower = c :=
  Text.forall_ascii (p := fun c => isSmallOrDigit c = true → c.toLower = c) (by decide)
    (toNat_lt_of_isSmallOrDigit h) h

theorem toUpper_of_isCapital (h : isCapital c = true) : c.toUpper = c :=
  Text.forall_ascii (p := fun c => isCapital c = true → c.toUpper = c) (by decide)
    (toNat_lt_of_isCapital h) h

theorem toUpper_toLower (h : isCapital c = true) : c.toLower.toUpper = c :=
  Text.forall_ascii (p := fun c => isCapital c = true → c.toLower.toUpper = c) (by decide)
    (toNat_lt_of_isCapital h) h

theorem isSmallOrDigit_toLower (h : isCapital c = true) : isSmallOrDigit c.toLower = true :=
  Text.forall_ascii (p := fun c => isCapital c = true → isSmallOrDigit c.toLower = true) (by decide)
    (toNat_lt_of_isCapital h) h

theorem lowerAfter_ascii (hs : ∀ c ∈ s, c.toNat < 0x80) (before : List Char) :
    Text.lowerAfter before s = s.map Char.toLower := by
  induction s generalizing before with
  | nil => rfl
  | cons c rest ih =>
    rw [List.forall_mem_cons] at hs
    have hsigma : c ≠ '\u03A3' := by
      rintro rfl
      exact absurd hs.1 (by decide)
    rw [Text.lowerAfter, ih hs.2, if_neg hsigma, Text.lowerChar, if_pos hs.1]
    rfl

theorem map_toLower (hs : ∀ d ∈ s, isSmallOrDigit d = true) : s.map Char.toLower = s :=
  (List.map_congr_left fun d hd => toLower_of_isSmallOrDigit (hs d hd)).trans (List.map_id s)

theorem lowerAfter_eq_self (hs : ∀ d ∈ s, isSmallOrDigit d = true) (before : List Char) :
    Text.lowerAfter before s = s := by
  rw [lowerAfter_ascii fun d hd => toNat_lt_of_isSmallOrDigit (hs d hd), map_toLower hs]

theorem lowerChars_cons (hc : isCapital c = true) (hs : ∀ d ∈ s, isSmallOrDigit d = true) :
    Text.lowerChars (c :: s) = c.toLower :: s := by
  have hascii : ∀ d ∈ c :: s, d.toNat < 0x80 := by
    rw [List.forall_mem_cons]
    exact ⟨toNat_lt_of_isCapital hc, fun d hd => toNat_lt_of_isSmallOrDigit (hs d hd)⟩
  rw [Text.lowerChars, lowerAfter_ascii hascii, List.map_cons, map_toLower hs]

theorem IsCapitalized.lower (h : IsCapitalized w) :
    ∀ d ∈ Text.lowerChars w, isSmallOrDigit d = true := by
  obtain ⟨c, rest, rfl, hc, -, hrest⟩ := h.exists_cons
  rw [lowerChars_cons hc hrest, List.forall_mem_cons]
  exact ⟨isSmallOrDigit_toLower hc, hrest⟩

theorem capitalizeChars_eq (hc : c.toNat < 0x80) (hs : ∀ d ∈ s, isSmallOrDigit d = true) :
    Text.capitalizeChars (c :: s) = c.toUpper :: s := by
  rw [Text.capitalizeChars, lowerAfter_eq_self hs, Text.titleChar, if_pos hc]
  rfl

/-- A word is capitalized already, and its lower case form becomes the word again. -/
theorem IsCapitalized.capitalizeChars (h : IsCapitalized w) :
    Text.capitalizeChars w = w ∧ Text.capitalizeChars (Text.lowerChars w) = w := by
  obtain ⟨c, rest, rfl, hc, -, hrest⟩ := h.exists_cons
  have hlower := toNat_lt_of_isSmallOrDigit (isSmallOrDigit_toLower hc)
  rw [lowerChars_cons hc hrest, capitalizeChars_eq (toNat_lt_of_isCapital hc) hrest,
    capitalizeChars_eq hlower hrest, toUpper_of_isCapital hc, toUpper_toLower hc]
  exact ⟨rfl, rfl⟩

theorem IsCapitalized.isCapital_or (h : IsCapitalized w) :
    ∀ d ∈ w, isCapital d = true ∨ isSmallOrDigit d = true := by
  obtain ⟨c, rest, rfl, hc, -, hrest⟩ := h.exists_cons
  rw [List.forall_mem_cons]
  exact ⟨Or.inl hc, fun d hd => Or.inr (hrest d hd)⟩

/-- Letters and digits are no separators. -/
theorem separators_not_mem (h : ∀ d ∈ s, isCapital d = true ∨ isSmallOrDigit d = true) :
    '_' ∉ s ∧ '-' ∉ s :=
  ⟨fun hm => absurd (h '_' hm) (by decide), fun hm => absurd (h '-' hm) (by decide)⟩

/-! ## The conventions on capitalized words -/

section

variable {ws : List (List Char)}

theorem lowerChars_intercalate (hws : ∀ w ∈ ws, IsCapitalized w) :
    Text.lowerChars (['_'].intercalate ws) = ['_'].intercalate (ws.map Text.lowerChars) := by
  have hword : ∀ w ∈ ws, ∀ d ∈ w, d.toNat < 0x80 := by
    intro w hw d hd
    exact ((hws w hw).isCapital_or d hd).elim toNat_lt_of_isCapital toNat_lt_of_isSmallOrDigit
  have hascii : ∀ d ∈ ['_'].intercalate ws, d.toNat < 0x80 := by
    intro d hd
    obtain hsep | ⟨w, hw, hdw⟩ := Text.mem_intercalate hd
    · rw [List.mem_singleton.mp hsep]
      decide
    · exact hword w hw d hdw
  rw [Text.lowerChars, lowerAfter_ascii hascii, Text.map_intercalate]
  exact congrArg _ (List.map_congr_left fun w hw => (lowerAfter_ascii (hword w hw) []).symm)

theorem snakeCaseChars_flatten (hws : ∀ w ∈ ws, IsCapitalized w) :
    snakeCaseChars ws.flatten = ['_'].intercalate (ws.map Text.lowerChars) := by
  rw [snakeCaseChars, markCapitals_markWords, marksCapitals_beginsWord.flatten hws,
    lowerChars_intercalate hws]

/-- A character that stands in no word can only be replaced between them. -/
theorem map_replace_intercalate (sep : Char) {a b : Char} (h : ∀ w ∈ ws, a ∉ w) :
    ([sep].intercalate ws).map (fun c => if c = a then b else c) =
      [if sep = a then b else sep].intercalate ws := by
  have hself : ws.map (·.map fun c => if c = a then b else c) = ws := by
    refine (List.map_congr_left fun w hw => ?_).trans (List.map_id ws)
    refine (List.map_congr_left fun c hc => ?_).trans (List.map_id w)
    refine if_neg ?_
    rintro rfl
    exact h w hw hc
  rw [Text.map_intercalate, hself, List.map_singleton]

theorem not_mem_lowerChars (hws : ∀ w ∈ ws, IsCapitalized w) :
    ∀ w ∈ ws.map Text.lowerChars, '_' ∉ w ∧ '-' ∉ w := by
  rw [List.forall_mem_map]
  intro w hw
  exact separators_not_mem fun d hd => Or.inr ((hws w hw).lower d hd)

theorem kebabCaseChars_flatten (hws : ∀ w ∈ ws, IsCapitalized w) :
    kebabCaseChars ws.flatten = ['-'].intercalate (ws.map Text.lowerChars) := by
  rw [kebabCaseChars, snakeCaseChars_flatten hws,
    map_replace_intercalate '_' fun w hw => (not_mem_lowerChars hws w hw).1, if_pos rfl]

theorem flatMap_capitalizeChars (hws : ∀ w ∈ ws, IsCapitalized w) :
    ws.flatMap Text.capitalizeChars = ws.flatten ∧
      (ws.map Text.lowerChars).flatMap Text.capitalizeChars = ws.flatten := by
  have hid (f : List Char → List Char) (h : ∀ w ∈ ws, f w = w) : ws.flatMap f = ws.flatten := by
    rw [List.flatMap_def, (List.map_congr_left h).trans (List.map_id ws)]
  rw [List.flatMap_map]
  exact ⟨hid _ fun w hw => (hws w hw).capitalizeChars.1,
    hid _ fun w hw => (hws w hw).capitalizeChars.2⟩

/-- Words in lower case are not marked, whatever stands between them. -/
theorem markCapitals_intercalate {sep : Char} (hsep : isCapital sep = false)
    (hws : ∀ w ∈ ws, IsCapitalized w) :
    markCapitals ([sep].intercalate (ws.map Text.lowerChars)) =
      [sep].intercalate (ws.map Text.lowerChars) := by
  rw [markCapitals_eq]
  refine marksCapitals_followsSmall.eq_self fun d hd => ?_
  obtain hd | ⟨u, hu, hd⟩ := Text.mem_intercalate hd
  · rwa [List.mem_singleton.mp hd]
  · obtain ⟨w, hw, rfl⟩ := List.mem_map.mp hu
    exact isCapital_eq_false ((hws w hw).lower d hd)

/-- Camel case of a text that is made of words between separators once its capitals are marked. -/
theorem camelCaseChars_of_words {sep : Char} {v : List Char} {vs : List (List Char)}
    (hs : markCapitals s = [sep].intercalate (v :: vs)) (hsep : sep = '_' ∨ sep = '-')
    (h : ∀ u ∈ v :: vs, '_' ∉ u ∧ '-' ∉ u) :
    camelCaseChars s = Text.lowerChars v ++ vs.flatMap Text.capitalizeChars := by
  have hunder : (if sep = '-' then '_' else sep) = '_' := by
    obtain rfl | rfl := hsep <;> rfl
  have hpieces : Text.pieces '_' (['_'].intercalate (v :: vs)) = v :: vs :=
    Text.pieces_intercalate_of_not_mem (List.cons_ne_nil v vs) fun u hu => (h u hu).1
  rw [camelCaseChars, hs, map_replace_intercalate sep fun u hu => (h u hu).2, hunder, hpieces]

/-- Camel case of capitalized words, and of the same words in lower case between separators. -/
theorem camelCaseChars_flatten (hws : ∀ u ∈ w :: ws, IsCapitalized u) :
    camelCaseChars (w :: ws).flatten = Text.lowerChars w ++ ws.flatten ∧
      ∀ sep, sep = '_' ∨ sep = '-' →
        camelCaseChars ([sep].intercalate ((w :: ws).map Text.lowerChars)) =
          Text.lowerChars w ++ ws.flatten := by
  have hletters : ∀ u ∈ w :: ws, '_' ∉ u ∧ '-' ∉ u :=
    fun u hu => separators_not_mem (hws u hu).isCapital_or
  rw [List.forall_mem_cons] at hws
  obtain ⟨hplain, hlowered⟩ := flatMap_capitalizeChars hws.2
  have hall := List.forall_mem_cons.mpr hws
  constructor
  · have hmarked : markCapitals (w :: ws).flatten = ['_'].intercalate (w :: ws) := by
      rw [markCapitals_eq, marksCapitals_followsSmall.flatten hall]
    rw [camelCaseChars_of_words hmarked (Or.inl rfl) hletters, hplain]
  · intro sep hsep
    have hcapital : isCapital sep = false := by
      obtain rfl | rfl := hsep <;> decide
    have hagain : Text.lowerChars (Text.lowerChars w) = Text.lowerChars w :=
      lowerAfter_eq_self hws.1.lower []
    rw [camelCaseChars_of_words (markCapitals_intercalate hcapital hall) hsep
      (not_mem_lowerChars hall), hlowered, hagain]

end

/-- The conventions find the same words in a text of capitalized ones: between underscores or hyphens they
are in lower case, camel case only changes the first letter, and it is the same from each of the others. -/
theorem cases_of_capitalized (ws : List String) (hws : ∀ w ∈ ws, IsCapitalized w.toList) :
    snakeCase (String.join ws) = "_".intercalate (ws.map Text.lower) ∧
      kebabCase (String.join ws) = "-".intercalate (ws.map Text.lower) ∧
      camelCase (String.join ws) =
        String.ofList ((String.join ws).toList.modifyHead Char.toLower) ∧
      camelCase (snakeCase (String.join ws)) = camelCase (String.join ws) ∧
      camelCase (kebabCase (String.join ws)) = camelCase (String.join ws) := by
  have hchars : ∀ w ∈ ws.map String.toList, IsCapitalized w := List.forall_mem_map.mpr hws
  have hjoin : (String.join ws).toList = (ws.map String.toList).flatten := by
    rw [String.toList_join, List.flatMap_def]
  have hlower (sep : String) : (sep.intercalate (ws.map Text.lower)).toList =
      sep.toList.intercalate ((ws.map String.toList).map Text.lowerChars) := by
    rw [String.toList_intercalate, List.map_map, List.map_map]
    exact congrArg _ (List.map_congr_left fun w _ => String.toList_ofList)
  have hsnake : snakeCase (String.join ws) = "_".intercalate (ws.map Text.lower) := by
    rw [← String.toList_inj, hlower, snakeCase, String.toList_ofList, hjoin,
      snakeCaseChars_flatten hchars]
    rfl
  have hkebab : kebabCase (String.join ws) = "-".intercalate (ws.map Text.lower) := by
    rw [← String.toList_inj, hlower, kebabCase, String.toList_ofList, hjoin,
      kebabCaseChars_flatten hchars]
    rfl
  refine ⟨hsnake, hkebab, ?_⟩
  rw [hsnake, hkebab, camelCase, camelCase, camelCase, hlower, hlower, hjoin]
  -- Camel case treats the first word in its own way, so that one is set apart.
  cases hws' : ws.map String.toList with
  | nil => exact ⟨rfl, rfl, rfl⟩
  | cons w rest =>
    rw [hws'] at hchars
    obtain ⟨hcamel, hfrom⟩ := camelCaseChars_flatten hchars
    have hunder : camelCaseChars ("_".toList.intercalate ((w :: rest).map Text.lowerChars)) = _ :=
      hfrom '_' (Or.inl rfl)
    have hhyphen : camelCaseChars ("-".toList.intercalate ((w :: rest).map Text.lowerChars)) = _ :=
      hfrom '-' (Or.inr rfl)
    rw [hcamel, hunder, hhyphen]
    obtain ⟨c, more, rfl, hc, -, hmore⟩ := (hchars w List.mem_cons_self).exists_cons
    rw [lowerChars_cons hc hmore]
    exact ⟨rfl, rfl, rfl⟩

theorem cases_of_capitalized_digits :
    snakeCase "User2P0Tag" = "user2_p0_tag" ∧ kebabCase "User2P0Tag" = "user2-p0-tag" ∧
      camelCase "User2P0Tag" = "user2P0Tag" ∧ camelCase "user2_p0_tag" = "user2P0Tag" ∧
      camelCase "user2-p0-tag" = "user2P0Tag" := by
  have hwords : ∀ w ∈ ["User2", "P0", "Tag"], IsCapitalized w.toList := by decide
  have hjoin : String.join ["User2", "P0", "Tag"] = "User2P0Tag" := by decide
  obtain ⟨hsnake, hkebab, hcamel, hfromSnake, hfromKebab⟩ :=
    cases_of_capitalized ["User2", "P0", "Tag"] hwords
  rw [hjoin] at hsnake hkebab hcamel hfromSnake hfromKebab
  have hunder : snakeCase "User2P0Tag" = "user2_p0_tag" := hsnake.trans (by decide)
  have hhyphen : kebabCase "User2P0Tag" = "user2-p0-tag" := hkebab.trans (by decide)
  have hnone : camelCase "User2P0Tag" = "user2P0Tag" := hcamel.trans (by decide)
  rw [hunder, hnone] at hfromSnake
  rw [hhyphen, hnone] at hfromKebab
  exact ⟨hunder, hhyphen, hnone, hfromSnake, hfromKebab⟩

end ViewGen.Naming
