import Mathlib.Data.List.Infix
import Mathlib.Data.List.TakeWhile
import ViewGen.Text.Separators

/-!
# Words, pieces and lines

A text without blanks at its ends, in which nothing but single spaces stands between the words, falls
into the same words at its blanks as into pieces at its spaces.  Trimming takes away exactly the blanks
around such a text, and lines that hold no line break are read back from the text that ends each of them
by a line feed.  A text is cut into words at any blank, and its words, joined again, are the text with its
blanks made single spaces.
-/

namespace ViewGen.Text

variable {sep : Char} {s t a b w : List Char}

theorem drop_length_takeWhile (p : Char → Bool) (s : List Char) :
    s.drop (s.takeWhile p).length = s.dropWhile p := by
  induction s with
  | nil => rfl
  | cons c rest ih =>
    by_cases hc : p c = true
    · simp only [List.takeWhile_cons_of_pos hc, List.length_cons, List.drop_succ_cons, ih,
        List.dropWhile_cons_of_pos hc]
    · simp only [List.takeWhile_cons_of_neg hc, List.length_nil, List.drop_zero,
        List.dropWhile_cons_of_neg hc]

/-- What holds of the characters of ASCII, gone through one by one. -/
theorem forall_ascii {p : Char → Prop} (h : ∀ n < 0x80, p (Char.ofNat n)) {c : Char}
    (hc : c.toNat < 0x80) : p c := by
  have hp := h c.toNat hc
  rwa [Char.ofNat_toNat] at hp

/-- Every character of ASCII takes one byte. -/
theorem utf8ByteSize_of_ascii {s : String} (h : ∀ c ∈ s.toList, c.toNat < 0x80) :
    s.utf8ByteSize = s.length := by
  have hchars : ∀ chars : List Char, (∀ c ∈ chars, c.toNat < 0x80) →
      (String.ofList chars).utf8ByteSize = chars.length := by
    intro chars hascii
    induction chars with
    | nil => rfl
    | cons c rest ih =>
      have hone : c.utf8Size = 1 := Char.utf8Size_eq_one_iff.mpr
        (UInt32.le_iff_toNat_le.mpr (Nat.le_of_lt_succ (hascii c List.mem_cons_self)))
      rw [String.ofList_cons, String.utf8ByteSize_append, String.utf8ByteSize_singleton, hone,
        ih fun d hd => hascii d (List.mem_cons_of_mem c hd), List.length_cons, Nat.add_comm]
  rw [← String.ofList_toList (s := s), hchars _ h, String.length_ofList]

/-! ## Pieces -/

theorem pieces_eq_splitOn (sep : Char) (s : List Char) : pieces sep s = s.splitOn sep := by
  induction s with
  | nil => rfl
  | cons c rest ih =>
    rw [pieces, ih, List.splitOn_cons_eq_if_modifyHead]
    simp only [beq_iff_eq]
    split
    · rfl
    · obtain ⟨first, others, he⟩ := List.exists_cons_of_ne_nil (List.splitOn_ne_nil sep rest)
      rw [he]
      rfl

@[simp] theorem pieces_cons_self (sep : Char) (s : List Char) :
    pieces sep (sep :: s) = [] :: pieces sep s := by
  rw [pieces, if_pos rfl]

theorem pieces_cons_of_ne {c : Char} (h : c ≠ sep) (s : List Char) :
    pieces sep (c :: s) = (pieces sep s).modifyHead (c :: ·) := by
  simp only [pieces_eq_splitOn, List.splitOn_cons_eq_if_modifyHead, beq_iff_eq, if_neg h]

theorem pieces_of_not_mem (h : sep ∉ s) : pieces sep s = [s] := by
  rw [pieces_eq_splitOn, List.splitOn_eq_singleton h]

theorem pieces_append_cons (s t : List Char) :
    pieces sep (s ++ sep :: t) = pieces sep s ++ pieces sep t := by
  simp only [pieces_eq_splitOn, List.splitOn_append_cons_self]

theorem intercalate_pieces (s : List Char) : [sep].intercalate (pieces sep s) = s := by
  rw [pieces_eq_splitOn, List.intercalate_splitOn]

theorem pieces_intercalate {ts : List (List Char)} (h : ts ≠ []) :
    pieces sep ([sep].intercalate ts) = ts.flatMap (pieces sep) := by
  induction ts with
  | nil => exact absurd rfl h
  | cons t rest ih =>
    cases rest with
    | nil => simp
    | cons next others =>
      have hrest := ih (List.cons_ne_nil next others)
      rw [List.intercalate_cons_cons, List.append_assoc, List.singleton_append, pieces_append_cons,
        hrest]
      rfl

theorem pieces_intercalate_of_not_mem {ts : List (List Char)} (hne : ts ≠ []) (h : ∀ t ∈ ts, sep ∉ t) :
    pieces sep ([sep].intercalate ts) = ts := by
  rw [pieces_intercalate hne, List.flatMap_congr fun t ht => pieces_of_not_mem (h t ht),
    List.flatMap_singleton']

theorem intercalate_append {ss ts : List (List Char)} (hss : ss ≠ []) (hts : ts ≠ []) :
    [sep].intercalate (ss ++ ts) = [sep].intercalate ss ++ sep :: [sep].intercalate ts := by
  induction ss with
  | nil => exact absurd rfl hss
  | cons s rest ih =>
    cases rest with
    | nil =>
      show [sep].intercalate (s :: ts) = _
      rw [List.intercalate_cons_of_ne_nil hts, List.intercalate_singleton, List.append_assoc]
      rfl
    | cons next others =>
      have hrest := ih (List.cons_ne_nil next others)
      rw [List.cons_append, List.intercalate_cons_of_ne_nil (by simp), hrest,
        List.intercalate_cons_cons]
      simp only [List.append_assoc]

theorem mem_intercalate {c : Char} {between : List Char} {ts : List (List Char)}
    (h : c ∈ between.intercalate ts) : c ∈ between ∨ ∃ t ∈ ts, c ∈ t := by
  induction ts with
  | nil => cases h
  | cons t rest ih =>
    cases rest with
    | nil =>
      rw [List.intercalate_singleton] at h
      exact Or.inr ⟨t, List.mem_cons_self, h⟩
    | cons next others =>
      rw [List.intercalate_cons_cons, List.mem_append, List.mem_append] at h
      obtain (h | h) | h := h
      · exact Or.inr ⟨t, List.mem_cons_self, h⟩
      · exact Or.inl h
      · exact (ih h).imp_right fun ⟨u, hu, hc⟩ => ⟨u, List.mem_cons_of_mem t hu, hc⟩

theorem map_intercalate (f : Char → Char) (between : List Char) (ws : List (List Char)) :
    (between.intercalate ws).map f = (between.map f).intercalate (ws.map (·.map f)) := by
  induction ws with
  | nil => rfl
  | cons w rest ih =>
    cases rest with
    | nil => simp
    | cons next others =>
      rw [List.map_cons] at ih
      rw [List.intercalate_cons_cons, List.map_append, List.map_append, ih, List.map_cons, List.map_cons,
        List.intercalate_cons_cons]

/-- Only the first piece decides whether a text begins with what holds no separator. -/
theorem prefix_of_prefix_append_cons (ha : sep ∉ a) (h : a <+: s ++ sep :: t) : a <+: s := by
  obtain ⟨r, hr⟩ := h
  obtain ⟨more, rfl, -⟩ | ⟨more, rfl, hmore⟩ := List.append_eq_append_iff.mp hr
  · exact List.prefix_append a more
  · cases more with
    | nil => rw [List.append_nil]
    | cons c others =>
      rw [List.cons_append, List.cons.injEq] at hmore
      exact absurd (List.mem_append_right s (hmore.1 ▸ List.mem_cons_self)) ha

/-- What is put before a text goes to its first piece, if it holds no separator. -/
theorem pieces_append_left (ha : sep ∉ a) (s : List Char) :
    ∃ first others, pieces sep s = first :: others ∧ pieces sep (a ++ s) = (a ++ first) :: others := by
  obtain ⟨first, others, he⟩ := List.exists_cons_of_ne_nil (pieces_ne_nil sep s)
  refine ⟨first, others, he, ?_⟩
  induction a with
  | nil => exact he
  | cons c rest ih =>
    rw [List.mem_cons, not_or] at ha
    rw [List.cons_append, pieces_cons_of_ne (Ne.symm ha.1), ih ha.2]
    rfl

/-- What is put after a text goes to its last piece, if it holds no separator. -/
theorem pieces_append_right (sep : Char) (s : List Char) :
    ∃ init last, pieces sep s = init ++ [last] ∧
      ∀ b, sep ∉ b → pieces sep (s ++ b) = init ++ [last ++ b] := by
  -- On the text: a separator begins a new piece, any other character is the first of one.
  induction s with
  | nil => exact ⟨[], [], rfl, fun b hb => pieces_of_not_mem hb⟩
  | cons c rest ih =>
    obtain ⟨init, last, hrest, hright⟩ := ih
    by_cases hc : c = sep
    · subst hc
      refine ⟨[] :: init, last, ?_, fun b hb => ?_⟩
      · rw [pieces_cons_self, hrest]
        rfl
      · rw [List.cons_append, pieces_cons_self, hright b hb]
        rfl
    · cases init with
      | nil =>
        refine ⟨[], c :: last, ?_, fun b hb => ?_⟩
        · rw [pieces_cons_of_ne hc, hrest]
          rfl
        · rw [List.cons_append, pieces_cons_of_ne hc, hright b hb]
          rfl
      | cons first others =>
        refine ⟨(c :: first) :: others, last, ?_, fun b hb => ?_⟩
        · rw [pieces_cons_of_ne hc, hrest]
          rfl
        · rw [List.cons_append, pieces_cons_of_ne hc, hright b hb]
          rfl

theorem mem_pieces_around (ha : sep ∉ a) (hb : sep ∉ b) (h : w ∈ pieces sep (a ++ (s ++ b))) :
    a <+: w ∨ w ∈ pieces sep s ∨ ∃ piece ∈ pieces sep s, w = piece ++ b := by
  obtain ⟨first, others, hpieces, hleft⟩ := pieces_append_left ha (s ++ b)
  obtain ⟨init, last, hs, hright⟩ := pieces_append_right sep s
  rw [hleft, List.mem_cons] at h
  obtain rfl | h := h
  · exact Or.inl (List.prefix_append a first)
  · have hmem : w ∈ pieces sep (s ++ b) := hpieces ▸ List.mem_cons_of_mem first h
    rw [hright b hb, List.mem_append, List.mem_singleton] at hmem
    rw [hs]
    obtain hmem | rfl := hmem
    · exact Or.inr (Or.inl (List.mem_append_left _ hmem))
    · exact Or.inr (Or.inr ⟨last, List.mem_append_right _ List.mem_cons_self, rfl⟩)

/-- Without two separators in a row only the first piece can be empty, and the last one if nothing
follows. -/
theorem nil_not_mem_tail_pieces (hs : ¬ [sep, sep] <:+: s) (hb : sep ∉ b) (hne : b ≠ []) :
    [] ∉ (pieces sep (s ++ b)).tail := by
  induction s with
  | nil =>
    rw [List.nil_append, pieces_of_not_mem hb]
    exact List.not_mem_nil
  | cons c rest ih =>
    have hrest := ih fun h => hs (h.trans (List.suffix_cons c rest).isInfix)
    by_cases hc : c = sep
    · subst hc
      rw [List.cons_append, pieces_cons_self, List.tail_cons]
      cases rest with
      | nil =>
        rw [List.nil_append, pieces_of_not_mem hb, List.mem_singleton]
        exact Ne.symm hne
      | cons d more =>
        -- The next character begins the piece that follows.
        have hd : d ≠ c := by
          rintro rfl
          exact hs (List.prefix_append [d, d] more).isInfix
        rw [List.cons_append] at hrest ⊢
        rw [pieces_cons_of_ne hd] at hrest ⊢
        cases hp : pieces c (more ++ b) with
        | nil => exact absurd hp (pieces_ne_nil c _)
        | cons first others =>
          rw [hp] at hrest
          rw [List.modifyHead_cons, List.mem_cons, not_or]
          exact ⟨List.cons_ne_nil d first |>.symm, hrest⟩
    · rw [List.cons_append, pieces_cons_of_ne hc, List.tail_modifyHead]
      exact hrest

/-! ## Words -/

/-- Whether nothing but single spaces stands between the words of a text, and nothing around them. -/
def IsTight (s : List Char) : Prop :=
  (∀ c ∈ s, isBlank c = true → c = ' ') ∧ [] ∉ pieces ' ' s

/-- Whether a text is one word. -/
def IsWord (s : List Char) : Prop :=
  s ≠ [] ∧ ∀ c ∈ s, isBlank c = false

-- Deciding goes along the text; all characters there are would take too long.
instance (s : List Char) : Decidable (IsTight s) :=
  have : Decidable (∀ c ∈ s, isBlank c = true → c = ' ') := List.decidableBAll _ s
  inferInstanceAs (Decidable (_ ∧ _))

instance (s : List Char) : Decidable (IsWord s) :=
  have : Decidable (∀ c ∈ s, isBlank c = false) := List.decidableBAll _ s
  inferInstanceAs (Decidable (_ ∧ _))

theorem space_not_mem (h : ∀ c ∈ s, isBlank c = false) : ' ' ∉ s := by
  intro hm
  exact absurd (h ' ' hm) (by decide)

theorem IsWord.pieces (h : IsWord s) : pieces ' ' s = [s] :=
  pieces_of_not_mem (space_not_mem h.2)

theorem IsWord.isTight (h : IsWord s) : IsTight s := by
  refine ⟨fun c hc hblank => ?_, ?_⟩
  · rw [h.2 c hc] at hblank
    cases hblank
  · rw [h.pieces, List.mem_singleton]
    exact Ne.symm h.1

theorem wordsFrom_of_isTight (hw : ∀ c ∈ w, isBlank c = false) (h : IsTight (w.reverse ++ s)) :
    wordsFrom w s = pieces ' ' (w.reverse ++ s) := by
  -- On the text; the word begun is the beginning of the first piece.
  induction s generalizing w with
  | nil =>
    have hspace : ' ' ∉ w.reverse := fun hm => space_not_mem hw (List.mem_reverse.mp hm)
    have hne := h.2
    rw [List.append_nil, pieces_of_not_mem hspace] at hne ⊢
    rw [wordsFrom, if_neg]
    intro he
    rw [List.isEmpty_iff] at he
    exact hne (by rw [he]; exact List.mem_cons_self)
  | cons c rest ih =>
    rw [wordsFrom]
    cases hc : isBlank c with
    | true =>
      have hspace := h.1 c (List.mem_append_right _ List.mem_cons_self) hc
      subst hspace
      have hfirst : pieces ' ' w.reverse = [w.reverse] :=
        pieces_of_not_mem fun hm => space_not_mem hw (List.mem_reverse.mp hm)
      have hne := h.2
      rw [pieces_append_cons, hfirst, List.mem_append, not_or, List.mem_singleton] at hne
      have hrest : IsTight ([].reverse ++ rest) :=
        ⟨fun d hd => h.1 d (List.mem_append_right _ (List.mem_cons_of_mem _ hd)), hne.2⟩
      have hlater := ih (List.forall_mem_nil _) hrest
      rw [if_pos rfl, if_neg, hlater, pieces_append_cons, hfirst]
      · rfl
      · intro he
        rw [List.isEmpty_iff] at he
        exact hne.1 (by rw [he]; rfl)
    | false =>
      have hlonger : ∀ d ∈ c :: w, isBlank d = false := by
        intro d hd
        obtain rfl | hd := List.mem_cons.mp hd
        · exact hc
        · exact hw d hd
      have he : (c :: w).reverse ++ rest = w.reverse ++ c :: rest := by simp
      rw [if_neg (by simp), ih hlonger (he ▸ h), he]

theorem IsTight.words (h : IsTight s) :
    words (String.ofList s) = (pieces ' ' s).map String.ofList := by
  rw [Text.words, String.toList_ofList, wordsFrom_of_isTight (w := []) (List.forall_mem_nil _) h]
  rfl

theorem IsTight.append (hs : IsTight s) (ht : IsTight t) : IsTight (s ++ ' ' :: t) := by
  refine ⟨fun c hc hblank => ?_, ?_⟩
  · obtain hc | hc := List.mem_append.mp hc
    · exact hs.1 c hc hblank
    · obtain rfl | hc := List.mem_cons.mp hc
      · rfl
      · exact ht.1 c hc hblank
  · rw [pieces_append_cons, List.mem_append, not_or]
    exact ⟨hs.2, ht.2⟩

theorem IsTight.intercalate {ts : List (List Char)} (hne : ts ≠ []) (h : ∀ t ∈ ts, IsTight t) :
    IsTight ([' '].intercalate ts) := by
  induction ts with
  | nil => exact absurd rfl hne
  | cons t rest ih =>
    have ht := h t List.mem_cons_self
    cases rest with
    | nil => rwa [List.intercalate_singleton]
    | cons next others =>
      have hrest := ih (List.cons_ne_nil next others) fun u hu => h u (List.mem_cons_of_mem t hu)
      rw [List.intercalate_cons_cons, List.append_assoc]
      exact ht.append hrest

/-- A text with single spaces becomes tight between two words. -/
theorem isTight_around (ha : IsWord a) (hb : IsWord b) (hblank : ∀ c ∈ s, isBlank c = true → c = ' ')
    (hs : ¬ [' ', ' '] <:+: s) : IsTight (a ++ (s ++ b)) := by
  refine ⟨fun c hc hb' => ?_, ?_⟩
  · rw [List.mem_append, List.mem_append] at hc
    obtain hc | hc | hc := hc
    · exact ha.isTight.1 c hc hb'
    · exact hblank c hc hb'
    · exact hb.isTight.1 c hc hb'
  · obtain ⟨first, others, hpieces, hleft⟩ := pieces_append_left (space_not_mem ha.2) (s ++ b)
    have htail := nil_not_mem_tail_pieces hs (space_not_mem hb.2) hb.1
    rw [hpieces, List.tail_cons] at htail
    rw [hleft, List.mem_cons, not_or]
    refine ⟨fun he => ha.1 ?_, htail⟩
    exact (List.append_eq_nil_iff.mp he.symm).1

theorem IsTight.ne_nil (h : IsTight s) : s ≠ [] := by
  rintro rfl
  exact h.2 List.mem_cons_self

theorem IsTight.head (h : IsTight s) : ∀ c ∈ s.head?, isBlank c = false := by
  intro c hc
  rw [Option.mem_def, List.head?_eq_some_iff] at hc
  obtain ⟨rest, rfl⟩ := hc
  refine Bool.eq_false_iff.mpr fun hblank => ?_
  have hspace := h.1 c List.mem_cons_self hblank
  subst hspace
  have hne := h.2
  rw [pieces_cons_self] at hne
  exact hne List.mem_cons_self

theorem IsTight.getLast (h : IsTight s) : ∀ c ∈ s.getLast?, isBlank c = false := by
  intro c hc
  rw [Option.mem_def, List.getLast?_eq_some_iff] at hc
  obtain ⟨init, rfl⟩ := hc
  refine Bool.eq_false_iff.mpr fun hblank => ?_
  have hspace := h.1 c (List.mem_append_right _ List.mem_cons_self) hblank
  subst hspace
  have hne := h.2
  rw [pieces_append_cons] at hne
  exact hne (List.mem_append_right _ List.mem_cons_self)

/-! ## Trimming -/

theorem dropWhile_eq_self {p : Char → Bool} (h : ∀ c ∈ s.head?, p c = false) :
    s.dropWhile p = s := by
  cases s with
  | nil => rfl
  | cons c rest => rw [List.dropWhile_cons, h c rfl, if_neg (by decide)]

/-- Trimming removes what is around a text whose ends are outside the class. -/
theorem trimChars_around {p : Char → Bool} (ha : ∀ c ∈ a, p c = true) (hb : ∀ c ∈ b, p c = true)
    (hhead : ∀ c ∈ s.head?, p c = false) (hlast : ∀ c ∈ s.getLast?, p c = false) :
    trimChars p (a ++ (s ++ b)) = s := by
  rw [trimChars, List.dropWhile_append_of_pos ha]
  by_cases hne : s = []
  · have hnone : b.dropWhile p = [] := List.dropWhile_eq_nil_iff.mpr hb
    rw [hne, List.nil_append, hnone]
    rfl
  · have hfront : (s ++ b).dropWhile p = s ++ b := by
      apply dropWhile_eq_self
      rwa [List.head?_append_of_ne_nil _ hne]
    have hback : s.reverse.dropWhile p = s.reverse := by
      apply dropWhile_eq_self
      rwa [List.head?_reverse]
    have hb' : ∀ c ∈ b.reverse, p c = true := fun c hc => hb c (List.mem_reverse.mp hc)
    rw [hfront, List.reverse_append, List.dropWhile_append_of_pos hb', hback, List.reverse_reverse]

/-- The blanks before a tight text are all that trimming removes. -/
theorem IsTight.strip (h : IsTight s) (ha : ∀ c ∈ a, isBlank c = true) :
    strip (String.ofList (a ++ s)) = String.ofList s := by
  have htrim := trimChars_around ha (List.forall_mem_nil _) h.head h.getLast
  rw [List.append_nil] at htrim
  rw [Text.strip, String.toList_ofList, htrim]

theorem getLast_trimChars (p : Char → Bool) (s : List Char) :
    ∀ c ∈ (trimChars p s).getLast?, p c = false := by
  intro c hc
  have hnot := List.head?_dropWhile_not p (s.dropWhile p).reverse
  rw [trimChars, List.getLast?_reverse, Option.mem_def] at hc
  rwa [hc] at hnot

theorem wordsFrom_eq_nil (h : wordsFrom w s = []) : w = [] ∧ ∀ c ∈ s, isBlank c = true := by
  induction s generalizing w with
  | nil =>
    cases w with
    | nil => exact ⟨rfl, List.forall_mem_nil _⟩
    | cons c rest => cases h
  | cons c rest ih =>
    rw [wordsFrom] at h
    cases hc : isBlank c with
    | true =>
      rw [if_pos hc] at h
      cases w with
      | nil => exact ⟨rfl, List.forall_mem_cons.mpr ⟨hc, (ih h).2⟩⟩
      | cons d more => cases h
    | false =>
      rw [if_neg (by rw [hc]; decide)] at h
      cases (ih h).1

/-- A trimmed line without words is empty. -/
theorem eq_empty_of_words_strip {line : String} (h : words (strip line) = []) : strip line = "" := by
  rw [words, List.map_eq_nil_iff] at h
  have hblank := (wordsFrom_eq_nil h).2
  have hlast := getLast_trimChars isBlank line.toList
  rw [strip, String.toList_ofList] at hblank
  cases hs : (trimChars isBlank line.toList).getLast? with
  | none =>
    rw [List.getLast?_eq_none_iff] at hs
    rw [strip, hs, String.ofList_nil]
  | some c =>
    rw [hs] at hlast
    have hc := hblank c (List.mem_of_getLast? hs)
    rw [hlast c rfl] at hc
    cases hc

/-! ## Lines -/

theorem isBlank_of_isLineBreak {c : Char} (h : isLineBreak c = true) : isBlank c = true := by
  simp only [isLineBreak, isBlank, Bool.or_eq_true, Bool.and_eq_true, decide_eq_true_eq,
    beq_iff_eq] at h ⊢
  omega

theorem linesFrom_append (line : List Char) (hs : ∀ c ∈ s, isLineBreak c = false) (t : List Char) :
    linesFrom line (s ++ '\n' :: t) = (line.reverse ++ s) :: linesFrom [] t := by
  induction s generalizing line with
  | nil => simp [linesFrom, isLineBreak]
  | cons c rest ih =>
    have hc := hs c List.mem_cons_self
    have hrest := fun d hd => hs d (List.mem_cons_of_mem c hd)
    rw [List.cons_append, linesFrom, if_neg (by simp [hc]), ih _ hrest]
    · simp
    · -- A carriage return would be a line break.
      rintro others rfl
      exact absurd hc (by decide)

theorem IsTight.not_isLineBreak (h : IsTight s) : ∀ c ∈ s, isLineBreak c = false := by
  intro c hc
  refine Bool.eq_false_iff.mpr fun hbreak => ?_
  have hspace := h.1 c hc (isBlank_of_isLineBreak hbreak)
  subst hspace
  exact absurd hbreak (by decide)

/-- Lines that each end by a line feed are read back, if no line break stands within. -/
theorem lines_join {ls : List String} (h : ∀ line ∈ ls, ∀ c ∈ line.toList, isLineBreak c = false) :
    lines (String.join (ls.map (· ++ "\n"))) = ls := by
  have hchars : ∀ ls : List String, (∀ line ∈ ls, ∀ c ∈ line.toList, isLineBreak c = false) →
      linesFrom [] (String.join (ls.map (· ++ "\n"))).toList = ls.map String.toList := by
    intro ls hls
    induction ls with
    | nil => rfl
    | cons line rest ih =>
      have hrest := ih fun other ho => hls other (List.mem_cons_of_mem line ho)
      rw [List.map_cons, String.join_cons, String.toList_append, String.toList_append,
        List.append_assoc]
      have hline := linesFrom_append [] (hls line List.mem_cons_self)
        (String.join (rest.map (· ++ "\n"))).toList
      rw [hrest] at hline
      exact hline
  rw [lines, hchars ls h, List.map_map]
  simp

/-! ## Words of composed texts -/

/-- A blank ends the word before it. -/
theorem wordsFrom_append_cons {c : Char} (hc : isBlank c = true) (w s t : List Char) :
    wordsFrom w (s ++ c :: t) = wordsFrom w s ++ wordsFrom [] t := by
  induction s generalizing w with
  | nil =>
    rw [List.nil_append, wordsFrom, wordsFrom, if_pos hc]
    split <;> rfl
  | cons d rest ih =>
    rw [List.cons_append, wordsFrom, wordsFrom]
    split
    · split
      · exact ih []
      · rw [ih [], List.cons_append]
    · exact ih (d :: w)

/-- What holds no blank goes to the word that has been begun. -/
theorem wordsFrom_append_left (hs : ∀ c ∈ s, isBlank c = false) (w t : List Char) :
    wordsFrom w (s ++ t) = wordsFrom (s.reverse ++ w) t := by
  induction s generalizing w with
  | nil => rfl
  | cons c rest ih =>
    rw [List.forall_mem_cons] at hs
    rw [List.cons_append, wordsFrom, if_neg (by simp [hs.1]), ih hs.2, List.reverse_cons,
      List.append_assoc]
    rfl

/-- Blanks before a text give no words. -/
theorem wordsFrom_blanks (ha : ∀ c ∈ a, isBlank c = true) (s : List Char) :
    wordsFrom [] (a ++ s) = wordsFrom [] s := by
  induction a with
  | nil => rfl
  | cons c rest ih =>
    rw [List.forall_mem_cons] at ha
    rw [List.cons_append, wordsFrom, if_pos ha.1, if_pos (by rfl)]
    exact ih ha.2

theorem IsWord.wordsFrom (h : IsWord s) : wordsFrom [] s = [s] := by
  have htight := wordsFrom_of_isTight (w := []) (List.forall_mem_nil _) h.isTight
  rw [htight]
  exact h.pieces

theorem mem_of_mem_wordsFrom {c : Char} (h : a ∈ wordsFrom w s) (hc : c ∈ a) : c ∈ w ∨ c ∈ s := by
  induction s generalizing w with
  | nil =>
    rw [Text.wordsFrom] at h
    split at h
    · cases h
    · rw [List.mem_singleton] at h
      subst h
      exact Or.inl (List.mem_reverse.mp hc)
  | cons d rest ih =>
    have hlater : c ∈ [] ∨ c ∈ rest → c ∈ w ∨ c ∈ d :: rest := by
      rintro (hnil | hrest)
      · cases hnil
      · exact Or.inr (List.mem_cons_of_mem d hrest)
    rw [Text.wordsFrom] at h
    split at h
    · split at h
      · exact hlater (ih h)
      · obtain rfl | h := List.mem_cons.mp h
        · exact Or.inl (List.mem_reverse.mp hc)
        · exact hlater (ih h)
    · obtain hword | hrest := ih h
      · obtain rfl | hword := List.mem_cons.mp hword
        · exact Or.inr List.mem_cons_self
        · exact Or.inl hword
      · exact Or.inr (List.mem_cons_of_mem d hrest)

/-- The word that has been begun goes on, and all else that comes of a text is made of it. -/
theorem wordsFrom_cons (hw : w ≠ []) (s : List Char) :
    ∃ first others, wordsFrom w s = (w.reverse ++ first) :: others ∧
      ∀ word ∈ first :: others, ∀ c ∈ word, c ∈ s := by
  induction s generalizing w with
  | nil =>
    refine ⟨[], [], ?_, by simp⟩
    rw [Text.wordsFrom, if_neg (by simpa using hw), List.append_nil]
  | cons d rest ih =>
    rw [Text.wordsFrom]
    split
    · rw [if_neg (by simpa using hw)]
      refine ⟨[], Text.wordsFrom [] rest, by rw [List.append_nil], ?_⟩
      rw [List.forall_mem_cons]
      refine ⟨List.forall_mem_nil _, fun word hword c hc => ?_⟩
      obtain hnil | hrest := mem_of_mem_wordsFrom hword hc
      · cases hnil
      · exact List.mem_cons_of_mem d hrest
    · obtain ⟨first, others, he, hchars⟩ := ih (List.cons_ne_nil d w)
      refine ⟨d :: first, others, by rw [he]; simp, ?_⟩
      rw [List.forall_mem_cons] at hchars ⊢
      refine ⟨fun c hc => ?_, fun word hword c hc => List.mem_cons_of_mem d (hchars.2 word hword c hc)⟩
      obtain rfl | hc := List.mem_cons.mp hc
      · exact List.mem_cons_self
      · exact List.mem_cons_of_mem d (hchars.1 c hc)

/-! ## Single spaces -/

/-- A text with one space for each run of blanks, where `within` says whether a run has begun. -/
def collapseFrom (within : Bool) : List Char → List Char
  | [] => []
  | c :: rest =>
    if isBlank c then
      if within then collapseFrom true rest else ' ' :: collapseFrom true rest
    else c :: collapseFrom false rest

/-- A text with one space for each run of blanks. -/
def collapse (s : List Char) : List Char :=
  collapseFrom false s

theorem collapse_append (ha : ∀ c ∈ a, isBlank c = false) (s : List Char) :
    collapse (a ++ s) = a ++ collapse s := by
  induction a with
  | nil => rfl
  | cons c rest ih =>
    rw [List.forall_mem_cons] at ha
    have hrest := ih ha.2
    unfold collapse at hrest ⊢
    rw [List.cons_append, collapseFrom, if_neg (by simp [ha.1]), hrest]
    rfl

/-- A word ends the run of blanks before it. -/
theorem IsWord.collapseFrom_append (ha : IsWord a) (within : Bool) (s : List Char) :
    collapseFrom within (a ++ s) = a ++ collapse s := by
  obtain ⟨c, rest, rfl⟩ := List.exists_cons_of_ne_nil ha.1
  have hblank := List.forall_mem_cons.mp ha.2
  rw [List.cons_append, collapseFrom, if_neg (by simp [hblank.1])]
  exact congrArg (c :: ·) (collapse_append hblank.2 s)

/-- The words of a text, joined again, are the text with single spaces, if it ends with a word. -/
theorem intercalate_wordsFrom {c : Char} (hc : isBlank c = false) (w s : List Char) :
    [' '].intercalate (wordsFrom w (s ++ [c])) = w.reverse ++ (collapseFrom w.isEmpty s ++ [c]) := by
  -- On the text; a word that has been begun is what stands before the next space.
  induction s generalizing w with
  | nil =>
    rw [List.nil_append, Text.wordsFrom, if_neg (by simp [hc]), Text.wordsFrom, if_neg (by simp)]
    simp [collapseFrom]
  | cons d rest ih =>
    rw [List.cons_append, Text.wordsFrom, collapseFrom]
    by_cases hd : isBlank d = true
    · rw [if_pos hd, if_pos hd]
      by_cases hw : w = []
      · subst hw
        exact ih []
      · have hempty : w.isEmpty = false := by simpa using hw
        have hne : Text.wordsFrom [] (rest ++ [c]) ≠ [] := by
          intro hnil
          have hblank := (wordsFrom_eq_nil hnil).2 c (List.mem_append_right _ List.mem_cons_self)
          rw [hc] at hblank
          cases hblank
        rw [hempty, if_neg (by decide), if_neg (by decide), List.intercalate_cons_of_ne_nil hne, ih []]
        simp
    · rw [if_neg hd, if_neg hd, ih (d :: w)]
      simp

/-! ## Occurrences -/

theorem occursIn_iff : occursIn a s = true ↔ a <:+: s := by
  induction s with
  | nil => rw [occursIn, List.isEmpty_iff, List.infix_nil]
  | cons c rest ih =>
    rw [occursIn, Bool.or_eq_true, List.isPrefixOf_iff_prefix, ih, List.infix_cons_iff]

end ViewGen.Text
