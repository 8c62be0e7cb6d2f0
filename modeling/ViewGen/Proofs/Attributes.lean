import Mathlib.Data.List.Infix
import ViewGen.Proofs.Words
import ViewGen.Schema.Declaration

/-!
# Arguments of attributes

The argument of an attribute is the balanced text between the parentheses that follow its name.  It is
found again when the text of the attributes has been cut into words, whatever spaces it holds.
-/

namespace ViewGen.Attribute

variable {depth : Nat} {c : Char} {r t : List Char}

/-! ## Balanced texts -/

/-- Whether a text closes every parenthesis that it opens and none before it has opened it. -/
def Balanced (s : List Char) : Prop :=
  s.count '(' = s.count ')' ∧ ∀ t, t <+: s → t.count ')' ≤ t.count '('

/-- Whether a text closes `depth` parentheses beyond those that it opens, and never more than are
open. -/
def Closes (depth : Nat) (s : List Char) : Prop :=
  s.count '(' + depth = s.count ')' ∧ ∀ t, t <+: s → t.count ')' ≤ t.count '(' + depth

instance (s : List Char) : Decidable (Balanced s) :=
  decidable_of_iff (s.count '(' = s.count ')' ∧ ∀ t ∈ s.inits, t.count ')' ≤ t.count '(')
    (by simp only [List.mem_inits, Balanced])

theorem closes_zero_iff : Closes 0 r ↔ Balanced r :=
  Iff.rfl

theorem balanced_of_not_mem (hopen : '(' ∉ r) (hclose : ')' ∉ r) : Balanced r := by
  refine ⟨by rw [List.count_eq_zero_of_not_mem hopen, List.count_eq_zero_of_not_mem hclose],
    fun t ht => ?_⟩
  rw [List.count_eq_zero_of_not_mem fun h => hclose (ht.mem h)]
  exact Nat.zero_le _

theorem forall_prefix_cons_iff {p : List Char → Prop} :
    (∀ t, t <+: c :: r → p t) ↔ p [] ∧ ∀ t, t <+: r → p (c :: t) := by
  simp only [List.prefix_cons_iff]
  constructor
  · intro h
    exact ⟨h [] (Or.inl rfl), fun t ht => h (c :: t) (Or.inr ⟨t, rfl, ht⟩)⟩
  · rintro ⟨hnil, hcons⟩ t (rfl | ⟨rest, rfl, hrest⟩)
    · exact hnil
    · exact hcons rest hrest

/-- A character changes what is open by what it opens and closes. -/
theorem closes_cons_iff (opened closed : Nat) {inner : Nat}
    (hopen : ∀ t : List Char, (c :: t).count '(' = t.count '(' + opened)
    (hclose : ∀ t : List Char, (c :: t).count ')' = t.count ')' + closed)
    (hinner : inner + closed = depth + opened) : Closes depth (c :: r) ↔ Closes inner r := by
  simp only [Closes, forall_prefix_cons_iff, hopen, hclose, List.count_nil]
  constructor
  · rintro ⟨h, -, hall⟩
    refine ⟨by omega, fun t ht => ?_⟩
    have := hall t ht
    omega
  · rintro ⟨h, hall⟩
    refine ⟨by omega, by omega, fun t ht => ?_⟩
    have := hall t ht
    omega

theorem closes_cons_open : Closes depth ('(' :: r) ↔ Closes (depth + 1) r := by
  apply closes_cons_iff 1 0
  · exact fun t => List.count_cons_self
  · exact fun t => List.count_cons_of_ne (by decide)
  · rfl

theorem closes_cons_close : Closes (depth + 1) (')' :: r) ↔ Closes depth r := by
  apply closes_cons_iff 0 1
  · exact fun t => List.count_cons_of_ne (by decide)
  · exact fun t => List.count_cons_self
  · rfl

theorem closes_cons_of_ne (hopen : c ≠ '(') (hclose : c ≠ ')') :
    Closes depth (c :: r) ↔ Closes depth r := by
  apply closes_cons_iff 0 0
  · exact fun t => List.count_cons_of_ne hopen
  · exact fun t => List.count_cons_of_ne hclose
  · rfl

theorem not_closes_zero : ¬ Closes 0 (')' :: r) := by
  rintro ⟨-, h⟩
  exact absurd (h [')'] (by simp)) (by decide)

theorem not_closes_nil : ¬ Closes (depth + 1) [] := by
  rintro ⟨h, -⟩
  rw [List.count_nil, List.count_nil] at h
  omega

/-! ## Parentheses -/

/-- A character of the argument goes on with the argument of the rest. -/
theorem map_cons_eq_some_iff {inner : Nat} {found : Option (List Char)} {rest : List Char}
    (hfound : ∀ s, found = some s ↔ Closes inner s ∧ ∃ after, rest = s ++ ')' :: after)
    (hcons : ∀ s, Closes depth (c :: s) ↔ Closes inner s) (hnil : c = ')' → ¬ Closes depth []) :
    found.map (c :: ·) = some r ↔ Closes depth r ∧ ∃ after, c :: rest = r ++ ')' :: after := by
  rw [Option.map_eq_some_iff]
  constructor
  · rintro ⟨s, hs, rfl⟩
    obtain ⟨hcloses, after, rfl⟩ := (hfound s).mp hs
    exact ⟨(hcons s).mpr hcloses, after, rfl⟩
  · rintro ⟨hcloses, after, h⟩
    obtain ⟨rfl, he⟩ | ⟨s, rfl, he⟩ := List.cons_eq_append_iff.mp h
    · rw [List.cons.injEq] at he
      exact absurd hcloses (hnil he.1.symm)
    · exact ⟨s, (hfound s).mpr ⟨(hcons s).mp hcloses, after, he⟩, rfl⟩

theorem argumentBody_eq_some_iff :
    argumentBody depth t = some r ↔ Closes depth r ∧ ∃ after, t = r ++ ')' :: after := by
  -- On the text: each character is part of the argument, but for the parenthesis that closes it.
  induction t generalizing depth r with
  | nil => simp [argumentBody]
  | cons c rest ih =>
    rw [argumentBody.eq_def]
    dsimp only
    by_cases hopen : c = '('
    · subst hopen
      rw [if_pos rfl]
      exact map_cons_eq_some_iff (fun s => ih) (fun s => closes_cons_open)
        fun h => absurd h (by decide)
    rw [if_neg hopen]
    by_cases hclose : c = ')'
    · subst hclose
      rw [if_pos rfl]
      cases depth with
      | zero =>
        simp only [Option.some.injEq]
        constructor
        · rintro rfl
          exact ⟨by simp [Closes], rest, rfl⟩
        · rintro ⟨hcloses, after, h⟩
          obtain ⟨rfl, -⟩ | ⟨s, rfl, -⟩ := List.cons_eq_append_iff.mp h
          · rfl
          · exact absurd hcloses not_closes_zero
      | succ inner =>
        exact map_cons_eq_some_iff (fun s => ih) (fun s => closes_cons_close)
          fun _ => not_closes_nil
    rw [if_neg hclose]
    exact map_cons_eq_some_iff (fun s => ih) (fun s => closes_cons_of_ne hopen hclose)
      fun h => absurd h hclose

theorem parenthesized_eq_some_iff :
    parenthesized t = some r ↔ Balanced r ∧ ∃ after, t = '(' :: (r ++ ')' :: after) := by
  unfold parenthesized
  split
  · rename_i rest
    rw [argumentBody_eq_some_iff, closes_zero_iff]
    simp only [List.cons.injEq, true_and]
  · rename_i hnot
    constructor
    · intro h
      cases h
    · rintro ⟨-, after, rfl⟩
      exact absurd rfl (hnot _)

/-! ## Words -/

theorem argument?_append {name : String} {before : List String}
    (h : ∀ word ∈ before, ¬ name.toList <+: word.toList) (later : List String) :
    argument? name (before ++ later) = argument? name later := by
  induction before with
  | nil => rfl
  | cons word rest ih =>
    rw [List.cons_append, argument?, if_neg, ih fun other ho => h other (List.mem_cons_of_mem word ho)]
    rw [List.isPrefixOf_iff_prefix]
    exact h word List.mem_cons_self

theorem argument?_eq_none {name : String} {words : List String}
    (h : ∀ word ∈ words, ¬ name.toList <+: word.toList) : argument? name words = none := by
  have hnil := argument?_append h []
  rwa [List.append_nil] at hnil

/-- Where the first word begins with the name, the words are joined again, and what follows the name is
read. -/
theorem argument?_of_joined {name word : String} {later : List String} {rest : List Char}
    (hword : name.toList <+: word.toList)
    (hjoined : [' '].intercalate ((word :: later).map String.toList) = name.toList ++ rest) :
    argument? name (word :: later) = (parenthesized rest).map String.ofList := by
  have htext : (" ".intercalate (word :: later)).toList = name.toList ++ rest := by
    rw [String.toList_intercalate]
    exact hjoined
  rw [argument?, if_pos (List.isPrefixOf_iff_prefix.mpr hword), htext, ← String.length_toList]
  show (parenthesized ((name.toList ++ rest).drop name.toList.length)).map String.ofList = _
  rw [List.drop_left]

/-- An attribute is read back from the pieces of its text, with what follows it. -/
theorem argument?_pieces {name : String} (hname : ' ' ∉ name.toList) (rest : List Char) :
    argument? name ((Text.pieces ' ' (name.toList ++ rest)).map String.ofList) =
      (parenthesized rest).map String.ofList := by
  obtain ⟨first, others, -, hpieces⟩ := Text.pieces_append_left hname rest
  have hid : String.toList ∘ String.ofList = id := funext fun s => String.toList_ofList
  rw [hpieces, List.map_cons]
  apply argument?_of_joined
  · rw [String.toList_ofList]
    exact List.prefix_append _ _
  · rw [← List.map_cons, ← hpieces, List.map_map, hid, List.map_id]
    exact Text.intercalate_pieces _

/-! ## Arguments told by what they are -/

/-- Whether a text begins with `r` in parentheses, and `r` is balanced. -/
def Encloses (t r : List Char) : Prop :=
  Balanced r ∧ ∃ after, t = '(' :: (r ++ ')' :: after)

/-- Only one balanced text stands in parentheses at the beginning of another. -/
theorem Encloses.unique {other : List Char} (h : Encloses t r) (hother : Encloses t other) :
    other = r := by
  have hfound := parenthesized_eq_some_iff.mpr h
  rw [parenthesized_eq_some_iff.mpr hother, Option.some.injEq] at hfound
  exact hfound

theorem parenthesized_eq_none_iff : parenthesized t = none ↔ ¬ ∃ r, Encloses t r := by
  constructor
  · rintro hnone ⟨r, h⟩
    rw [parenthesized_eq_some_iff.mpr h] at hnone
    cases hnone
  · intro hnot
    cases hfound : parenthesized t with
    | none => rfl
    | some r => exact absurd ⟨r, parenthesized_eq_some_iff.mp hfound⟩ hnot

/-- The words from the first one that begins with the name decide, joined by spaces. -/
theorem argument?_cons_eq_some_iff {name word argument : String} {later : List String}
    (hword : name.toList <+: word.toList) :
    argument? name (word :: later) = some argument ↔ Balanced argument.toList ∧
      ∃ after, " ".intercalate (word :: later) = name ++ "(" ++ argument ++ ")" ++ after := by
  obtain ⟨rest, hrest⟩ : name.toList <+: [' '].intercalate ((word :: later).map String.toList) := by
    cases later with
    | nil => simpa using hword
    | cons next others =>
      rw [List.map_cons, List.map_cons, List.intercalate_cons_cons, List.append_assoc]
      exact hword.trans (List.prefix_append _ _)
  have hjoined : (" ".intercalate (word :: later)).toList = name.toList ++ rest :=
    String.toList_intercalate.trans hrest.symm
  rw [argument?_of_joined hword hrest.symm, Option.map_eq_some_iff]
  constructor
  · rintro ⟨r, hfound, rfl⟩
    obtain ⟨hbalanced, after, rfl⟩ := parenthesized_eq_some_iff.mp hfound
    refine ⟨by rwa [String.toList_ofList], String.ofList after, ?_⟩
    rw [← String.toList_inj, hjoined]
    simp
  · rintro ⟨hbalanced, after, hwhole⟩
    refine ⟨argument.toList, parenthesized_eq_some_iff.mpr ⟨hbalanced, after.toList, ?_⟩,
      String.ofList_toList⟩
    rw [hwhole] at hjoined
    simpa using hjoined.symm

theorem argument?_iff_findIdx? {name argument : String} {words : List String} :
    argument? name words = some argument ↔
      ∃ i after, words.findIdx? (fun word => name.toList.isPrefixOf word.toList) = some i ∧
        " ".intercalate (words.drop i) = name ++ "(" ++ argument ++ ")" ++ after ∧
        Balanced argument.toList := by
  induction words with
  | nil => simp [argument?]
  | cons word rest ih =>
    rw [List.findIdx?_cons]
    by_cases hword : name.toList.isPrefixOf word.toList = true
    · rw [argument?_cons_eq_some_iff (List.isPrefixOf_iff_prefix.mp hword), if_pos hword]
      simp [and_comm]
    · rw [argument?, if_neg hword, if_neg hword, ih]
      simp

/-- The argument at the beginning of a text is the only balanced one that stands there in parentheses, and
it is missing just where there is none.  That of an attribute stands so behind its name, in the words from
the first one that begins with the name, joined by spaces. -/
theorem balanced_arguments :
    (∀ t, (∀ r, parenthesized t = some r ↔ Encloses t r) ∧
      ((∃ r, Encloses t r) ↔ ∃! r, Encloses t r) ∧
      (parenthesized t = none ↔ ¬ ∃ r, Encloses t r)) ∧
    ∀ name words argument, argument? name words = some argument ↔
      ∃ i after, words.findIdx? (fun word => name.toList.isPrefixOf word.toList) = some i ∧
        " ".intercalate (words.drop i) = name ++ "(" ++ argument ++ ")" ++ after ∧
        Balanced argument.toList := by
  refine ⟨fun t => ⟨fun r => parenthesized_eq_some_iff, ?_, parenthesized_eq_none_iff⟩,
    fun name words argument => argument?_iff_findIdx?⟩
  exact ⟨fun ⟨r, h⟩ => ⟨r, h, fun other hother => h.unique hother⟩, ExistsUnique.exists⟩

end ViewGen.Attribute
