import ViewGen.Proofs.ManifestStore
import ViewGen.Proofs.NumberText

/-!
# Reading JSON texts

A JSON text is read the same however its lines end: a carriage return is a blank between tokens and stands
in none.  Reading nests too deeply where an array or object begins inside of as many others as can be open
at once.
-/

namespace ViewGen

/-! ## Line breaks -/

namespace Text

variable {s : List Char} {c : Char} {p : Char → Bool}

theorem unifyBreaks_cons (hc : c ≠ '\r') (s : List Char) :
    unifyBreaks (c :: s) = c :: unifyBreaks s := by
  rw [unifyBreaks, if_neg hc]
  rintro rest rfl
  exact absurd rfl hc

theorem unifyBreaks_return (s : List Char) : ∃ rest, unifyBreaks ('\r' :: s) = '\n' :: rest := by
  cases s with
  | nil => exact ⟨[], rfl⟩
  | cons d rest =>
    by_cases hd : d = '\n'
    · subst hd
      exact ⟨unifyBreaks rest, rfl⟩
    · refine ⟨unifyBreaks (d :: rest), ?_⟩
      rw [unifyBreaks, if_pos rfl]
      rintro others - he
      exact hd (List.cons.inj he).1

/-- How a text begins, and how it does with its line breaks unified. -/
theorem unifyBreaks_cases (s : List Char) :
    s = [] ∨ (∃ rest others, s = '\r' :: rest ∧ unifyBreaks s = '\n' :: others) ∨
      ∃ c rest, c ≠ '\r' ∧ s = c :: rest ∧ unifyBreaks s = c :: unifyBreaks rest := by
  cases s with
  | nil => exact Or.inl rfl
  | cons c rest =>
    by_cases hc : c = '\r'
    · subst hc
      obtain ⟨others, he⟩ := unifyBreaks_return rest
      exact Or.inr (Or.inl ⟨rest, others, rfl, he⟩)
    · exact Or.inr (Or.inr ⟨c, rest, hc, rfl, unifyBreaks_cons hc rest⟩)

/-- Texts without a carriage return and a line feed. -/
def Unbroken (s : List Char) : Prop :=
  ∀ c ∈ s, c ≠ '\r' ∧ c ≠ '\n'

instance (s : List Char) : Decidable (Unbroken s) :=
  List.decidableBAll _ s

theorem unbroken_cons : Unbroken (c :: s) ↔ (c ≠ '\r' ∧ c ≠ '\n') ∧ Unbroken s :=
  List.forall_mem_cons

theorem Unbroken.append {t : List Char} (hs : Unbroken s) (ht : Unbroken t) : Unbroken (s ++ t) := by
  intro c hc
  obtain hc | hc := List.mem_append.mp hc
  · exact hs c hc
  · exact ht c hc

theorem unifyBreaks_append (h : Unbroken s) (t : List Char) :
    unifyBreaks (s ++ t) = s ++ unifyBreaks t := by
  induction s with
  | nil => rfl
  | cons c rest ih =>
    obtain ⟨hc, hrest⟩ := unbroken_cons.mp h
    rw [List.cons_append, unifyBreaks_cons hc.1, ih hrest, List.cons_append]

/-- What comes before any line break is kept, and stood there before. -/
theorem of_unifyBreaks_eq_append {body after : List Char} (hb : Unbroken body)
    (h : unifyBreaks s = body ++ after) : ∃ t, s = body ++ t ∧ unifyBreaks t = after := by
  -- On what is kept: its characters stand at the beginning one by one.
  induction body generalizing s with
  | nil => exact ⟨s, rfl, h⟩
  | cons c body ih =>
    obtain ⟨hc, hbody⟩ := unbroken_cons.mp hb
    cases s with
    | nil => cases h
    | cons d rest =>
      by_cases hd : d = '\r'
      · subst hd
        obtain ⟨others, he⟩ := unifyBreaks_return rest
        rw [he] at h
        exact absurd (List.cons.inj h).1.symm hc.2
      · rw [unifyBreaks_cons hd] at h
        obtain ⟨rfl, hrest⟩ := List.cons.inj h
        obtain ⟨t, rfl, ht⟩ := ih hbody hrest
        exact ⟨t, rfl, ht⟩

theorem takeWhile_unifyBreaks (hr : p '\r' = false) (hn : p '\n' = false) (s : List Char) :
    (unifyBreaks s).takeWhile p = s.takeWhile p := by
  induction s with
  | nil => rfl
  | cons c rest ih =>
    by_cases hc : c = '\r'
    · subst hc
      obtain ⟨others, he⟩ := unifyBreaks_return rest
      rw [he, List.takeWhile_cons_of_neg (by simp [hn]), List.takeWhile_cons_of_neg (by simp [hr])]
    · rw [unifyBreaks_cons hc, List.takeWhile_cons, List.takeWhile_cons, ih]

theorem dropWhile_unifyBreaks (hr : p '\r' = false) (hn : p '\n' = false) (s : List Char) :
    (unifyBreaks s).dropWhile p = unifyBreaks (s.dropWhile p) := by
  induction s with
  | nil => rfl
  | cons c rest ih =>
    by_cases hc : c = '\r'
    · subst hc
      obtain ⟨others, he⟩ := unifyBreaks_return rest
      rw [List.dropWhile_cons_of_neg (by simp [hr]), he, List.dropWhile_cons_of_neg (by simp [hn])]
    · rw [unifyBreaks_cons hc, List.dropWhile_cons, List.dropWhile_cons, ih]
      split
      · rfl
      · rw [unifyBreaks_cons hc]

end Text

namespace Json

namespace Token

open Text

variable {α : Type} {s rest : List Char} {c : Char}

theorem dropWhile_isSpace_unifyBreaks (s : List Char) :
    (unifyBreaks s).dropWhile isSpace = unifyBreaks (s.dropWhile isSpace) := by
  have hreturn : isSpace '\r' = true := by decide
  have hfeed : isSpace '\n' = true := by decide
  fun_induction unifyBreaks s with
  | case1 => rfl
  | case2 rest ih =>
    rw [List.dropWhile_cons_of_pos hfeed, ih, List.dropWhile_cons_of_pos hreturn,
      List.dropWhile_cons_of_pos hfeed]
  | case3 c rest hpair ih =>
    by_cases hc : c = '\r'
    · subst hc
      rw [if_pos rfl, List.dropWhile_cons_of_pos hfeed, ih, List.dropWhile_cons_of_pos hreturn]
    · rw [if_neg hc, List.dropWhile_cons, List.dropWhile_cons, ih]
      split
      · rfl
      · rw [unifyBreaks_cons hc]

/-! ## Values of one token -/

/-- A reader of the beginning of a text that reads the same whether or not the line breaks behind are
unified. -/
def PassesBreaks (read : List Char → Option (α × List Char)) : Prop :=
  ∀ s, read (unifyBreaks s) = (read s).map fun (value, after) => (value, unifyBreaks after)

/-- A reader of the beginning of a text to which nothing counts but what it reads, which is something and
holds no line break. -/
def ReadsInline (read : List Char → Option (α × List Char)) : Prop :=
  ∀ s value after, read s = some (value, after) →
    ∃ body, s = body ++ after ∧ body ≠ [] ∧ Unbroken body ∧ ∀ t, read (body ++ t) = some (value, t)

theorem ReadsInline.passesBreaks {read : List Char → Option (α × List Char)} (h : ReadsInline read) :
    PassesBreaks read := by
  intro s
  cases hs : read s with
  | some found =>
    obtain ⟨body, rfl, -, hbody, hread⟩ := h s found.1 found.2 hs
    rw [unifyBreaks_append hbody, hread]
    rfl
  | none =>
    cases hu : read (unifyBreaks s) with
    | none => rfl
    | some found =>
      -- What is read of the unified text stands at the beginning of the text itself.
      obtain ⟨body, he, -, hbody, hread⟩ := h _ found.1 found.2 hu
      obtain ⟨t, rfl, -⟩ := of_unifyBreaks_eq_append hbody he
      rw [hread] at hs
      cases hs

theorem ReadsInline.length_lt {read : List Char → Option (α × List Char)} (h : ReadsInline read)
    {value : α} (hs : read s = some (value, rest)) : rest.length < s.length := by
  obtain ⟨body, rfl, hne, -⟩ := h s value rest hs
  have hbody := List.length_pos_of_ne_nil hne
  rw [List.length_append]
  omega

theorem unbroken_of_unit? {a b c d : Char} {u : UInt16} (h : unit? a b c d = some u) :
    Unbroken [a, b, c, d] := by
  have hbreak : ∀ x, (hexValue? x).isSome = true → x ≠ '\r' ∧ x ≠ '\n' := by
    intro x hx
    constructor <;> rintro rfl <;> exact absurd hx (by decide)
  unfold unit? at h
  split at h
  · rename_i ha hb hc hd
    intro x hx
    apply hbreak
    simp only [List.mem_cons, List.not_mem_nil, or_false] at hx
    obtain rfl | rfl | rfl | rfl := hx
    · rw [ha, Option.isSome_some]
    · rw [hb, Option.isSome_some]
    · rw [hc, Option.isSome_some]
    · rw [hd, Option.isSome_some]
  · cases h

theorem textBody_unit {a b c d : Char} {u : UInt16} (h : unit? a b c d = some u) (rest : List Char) :
    textBody ('\\' :: 'u' :: ([a, b, c, d] ++ rest)) =
      (textBody rest).map fun p => (u :: p.1, p.2) := by
  rw [List.cons_append, List.cons_append, List.cons_append, List.singleton_append, textBody, h]
  cases textBody rest <;> rfl

/-- A character that a backslash may stand before is no line break, and no `u`. -/
theorem ne_of_escape? {e : Char} {u : UInt16} (h : escape? e = some u) :
    e ≠ 'u' ∧ e ≠ '\r' ∧ e ≠ '\n' := by
  refine ⟨?_, ?_, ?_⟩ <;> rintro rfl <;> cases h

theorem readsInline_textBody : ReadsInline textBody := by
  intro s units after h
  fun_induction textBody s generalizing units with
  | case1 => cases h
  | case2 rest =>
    -- The closing quotation mark.
    cases h
    exact ⟨['"'], rfl, List.cons_ne_nil _ _, by decide, fun t => rfl⟩
  | case3 a b c d rest u more last hrest hu ih =>
    -- An escape by the number of its unit.
    cases h
    obtain ⟨body, rfl, -, hbody, hread⟩ := ih _ hrest
    refine ⟨'\\' :: 'u' :: ([a, b, c, d] ++ body), rfl, List.cons_ne_nil _ _, ?_, fun t => ?_⟩
    · exact unbroken_cons.mpr ⟨by decide, unbroken_cons.mpr ⟨by decide,
        (unbroken_of_unit? hu).append hbody⟩⟩
    · rw [List.cons_append, List.cons_append, List.append_assoc, textBody_unit hu, hread]
      rfl
  | case4 => cases h
  | case5 e rest _ u more last hrest hu ih =>
    -- An escape by a letter.
    cases h
    obtain ⟨body, rfl, -, hbody, hread⟩ := ih _ hrest
    obtain ⟨hne, hbreak⟩ := ne_of_escape? hu
    refine ⟨'\\' :: e :: body, rfl, List.cons_ne_nil _ _, ?_, fun t => ?_⟩
    · exact unbroken_cons.mpr ⟨by decide, unbroken_cons.mpr ⟨hbreak, hbody⟩⟩
    · rw [List.cons_append, List.cons_append, textBody_escape hu hne, hread]
      rfl
  | case6 => cases h
  | case7 => cases h
  | case8 c rest hq _ _ hn more last hrest ih =>
    -- A plain character, which is no control character and so no line break.
    cases h
    obtain ⟨body, rfl, -, hbody, hread⟩ := ih _ hrest
    rw [Bool.or_eq_true, decide_eq_true_eq, decide_eq_true_eq, not_or, Nat.not_lt] at hn
    have hbreak : ∀ b : Char, b.toNat < 0x20 → c ≠ b := by
      rintro b hb rfl
      omega
    refine ⟨c :: body, rfl, List.cons_ne_nil _ _, ?_, fun t => ?_⟩
    · exact unbroken_cons.mpr ⟨⟨hbreak _ (by decide), hbreak _ (by decide)⟩, hbody⟩
    · rw [List.cons_append, textBody_plain hq hn.2 hn.1, hread]
      rfl
  | case9 => cases h

/-! ### Words -/

theorem unbroken_words : ∀ entry ∈ words, entry.1 ≠ [] ∧ Unbroken entry.1 := by
  decide

/-- No word begins another one, so what follows a word does not make it a different one. -/
theorem word_append : ∀ entry ∈ words, ∀ t, word (entry.1 ++ t) = some (entry.2, t) := by
  simp only [words, List.forall_mem_cons, List.not_mem_nil, false_implies, implies_true, and_true]
  exact ⟨fun _ => rfl, fun _ => rfl, fun _ => rfl, fun _ => rfl, fun _ => rfl, fun _ => rfl⟩

theorem readsInline_word : ReadsInline word := by
  intro s value after h
  obtain ⟨⟨name, found⟩, hm, hfound⟩ := List.exists_of_findSome?_eq_some h
  by_cases hstart : name.isPrefixOf s = true
  · simp only [hstart, if_true, Option.some.injEq, Prod.mk.injEq] at hfound
    obtain ⟨rfl, rfl⟩ := hfound
    obtain ⟨t, rfl⟩ := List.isPrefixOf_iff_prefix.mp hstart
    obtain ⟨hne, hbody⟩ := unbroken_words _ hm
    rw [List.drop_left]
    exact ⟨name, rfl, hne, hbody, word_append _ hm⟩
  · simp only [hstart] at hfound
    cases hfound

/-! ### Numbers -/

theorem isDigit_return : Char.isDigit '\r' = false := by decide

theorem isDigit_feed : Char.isDigit '\n' = false := by decide

theorem wholeDigits_unifyBreaks (s : List Char) : wholeDigits (unifyBreaks s) = wholeDigits s := by
  obtain rfl | ⟨rest, others, rfl, he⟩ | ⟨c, rest, -, rfl, he⟩ := unifyBreaks_cases s
  · rfl
  · rw [he]
    rfl
  · -- A leading zero stands alone; other digits go on as long as they can.
    by_cases hc : c = '0'
    · subst hc
      rw [he]
      rfl
    · have hwhole : ∀ others, wholeDigits (c :: others) = (c :: others).takeWhile Char.isDigit := by
        intro others
        unfold wholeDigits
        split
        · rename_i h
          exact absurd (List.cons.inj h).1 hc
        · rfl
      rw [he, hwhole, hwhole, ← he, takeWhile_unifyBreaks isDigit_return isDigit_feed]

theorem fraction_unifyBreaks (s : List Char) :
    fraction (unifyBreaks s) = ((fraction s).1, unifyBreaks (fraction s).2) := by
  obtain rfl | ⟨rest, others, rfl, he⟩ | ⟨c, rest, hr, rfl, he⟩ := unifyBreaks_cases s
  · rfl
  · have hreturn : fraction ('\r' :: rest) = ([], '\r' :: rest) := fraction_of_ne (by simp)
    rw [hreturn, he]
    exact fraction_of_ne (by simp)
  · by_cases hc : c = '.'
    · subst hc
      rw [he]
      simp only [fraction, takeWhile_unifyBreaks isDigit_return isDigit_feed,
        dropWhile_unifyBreaks isDigit_return isDigit_feed]
      -- Without digits behind it the point is not read either.
      cases rest.takeWhile Char.isDigit with
      | nil => rw [← he]
      | cons d digits => rfl
    · have hnone : ∀ others, fraction (c :: others) = ([], c :: others) :=
        fun _ => fraction_of_ne (by simpa using hc)
      rw [he, hnone, hnone, he]

/-- The sign before the digits of an exponent, and what follows it. -/
def signed : List Char → Bool × List Char
  | '-' :: rest => (true, rest)
  | '+' :: rest => (false, rest)
  | s => (false, s)

theorem signed_of_ne (h : ∀ c ∈ s.head?, c ≠ '-' ∧ c ≠ '+') : signed s = (false, s) := by
  unfold signed
  split
  · exact absurd rfl (h '-' (by simp)).1
  · exact absurd rfl (h '+' (by simp)).2
  · rfl

theorem signed_unifyBreaks (s : List Char) :
    signed (unifyBreaks s) = ((signed s).1, unifyBreaks (signed s).2) := by
  obtain rfl | ⟨rest, others, rfl, he⟩ | ⟨c, rest, -, rfl, he⟩ := unifyBreaks_cases s
  · rfl
  · rw [signed_of_ne (s := '\r' :: rest) (by simp), he]
    exact signed_of_ne (by simp)
  · by_cases hc : c = '-' ∨ c = '+'
    · rw [he]
      obtain rfl | rfl := hc <;> rfl
    · rw [signed_of_ne (s := c :: rest) (by simpa using hc), he]
      exact signed_of_ne (by simpa using hc)

theorem exponent_letter (hc : c = 'e' ∨ c = 'E') (s : List Char) :
    exponent (c :: s) =
      match (signed s).2.takeWhile Char.isDigit with
      | [] => (none, c :: s)
      | digits => (some (if (signed s).1 then -(decimalValue digits : Int) else decimalValue digits),
          (signed s).2.dropWhile Char.isDigit) := by
  obtain rfl | rfl := hc <;> rfl

theorem exponent_unifyBreaks (s : List Char) :
    exponent (unifyBreaks s) = ((exponent s).1, unifyBreaks (exponent s).2) := by
  obtain rfl | ⟨rest, others, rfl, he⟩ | ⟨c, rest, -, rfl, he⟩ := unifyBreaks_cases s
  · rfl
  · have hreturn : exponent ('\r' :: rest) = (none, '\r' :: rest) := exponent_of_ne (by simp)
    rw [hreturn, he]
    exact exponent_of_ne (by simp)
  · by_cases hc : c = 'e' ∨ c = 'E'
    · rw [he, exponent_letter hc, exponent_letter hc, signed_unifyBreaks]
      simp only [takeWhile_unifyBreaks isDigit_return isDigit_feed,
        dropWhile_unifyBreaks isDigit_return isDigit_feed]
      cases (signed rest).2.takeWhile Char.isDigit with
      | nil => rw [← he]
      | cons d digits => rfl
    · have hnone : ∀ others, exponent (c :: others) = (none, c :: others) :=
        fun _ => exponent_of_ne (by simpa using hc)
      rw [he, hnone, hnone, he]

theorem prefix_wholeDigits (s : List Char) : wholeDigits s <+: s := by
  unfold wholeDigits
  split
  · exact ⟨_, rfl⟩
  · exact List.takeWhile_prefix _

theorem isDigit_of_mem_wholeDigits (hc : c ∈ wholeDigits s) : c.isDigit = true := by
  unfold wholeDigits at hc
  split at hc
  · rw [List.mem_singleton.mp hc]
    rfl
  · exact (List.all_eq_true.mp List.all_takeWhile) c hc

theorem unbroken_wholeDigits (s : List Char) : Unbroken (wholeDigits s) := by
  intro c hc
  have hdigit := isDigit_of_mem_wholeDigits hc
  constructor <;> rintro rfl <;> exact absurd hdigit (by decide)

theorem passesBreaks_number (negative : Bool) : PassesBreaks (number negative) := by
  intro s
  -- The digits are the same, so unifying line breaks commutes with dropping them.
  have hdrop : (unifyBreaks s).drop (wholeDigits s).length =
      unifyBreaks (s.drop (wholeDigits s).length) := by
    obtain ⟨rest, hs⟩ := prefix_wholeDigits s
    have hunified := unifyBreaks_append (unbroken_wholeDigits s) rest
    rw [hs] at hunified
    rw [hunified, List.drop_left]
    nth_rewrite 2 [← hs]
    rw [List.drop_left]
  simp only [number, wholeDigits_unifyBreaks, hdrop, fraction_unifyBreaks, exponent_unifyBreaks]
  split
  · rfl
  · split
    · split <;> rfl
    · rfl

theorem suffix_fraction (s : List Char) : (fraction s).2 <:+ s := by
  unfold fraction
  split
  · split
    · exact List.suffix_rfl
    · exact (List.dropWhile_suffix _).trans (List.suffix_cons _ _)
  · exact List.suffix_rfl

theorem suffix_signed (s : List Char) : (signed s).2 <:+ s := by
  unfold signed
  split
  · exact List.suffix_cons _ _
  · exact List.suffix_cons _ _
  · exact List.suffix_rfl

theorem suffix_exponent (s : List Char) : (exponent s).2 <:+ s := by
  cases s with
  | nil => exact List.suffix_rfl
  | cons c rest =>
    by_cases hc : c = 'e' ∨ c = 'E'
    · rw [exponent_letter hc]
      split
      · exact List.suffix_rfl
      · exact ((List.dropWhile_suffix _).trans (suffix_signed rest)).trans (List.suffix_cons _ _)
    · have hnone : exponent (c :: rest) = (none, c :: rest) := exponent_of_ne (by simpa using hc)
      simp only [hnone, List.suffix_refl]

theorem length_number_lt {negative : Bool} {value : Json} (h : number negative s = some (value, rest)) :
    rest.length < s.length := by
  have hwhole : wholeDigits s ≠ [] := by
    intro hnone
    simp [number, hnone] at h
  have hrest : rest = (exponent (fraction (s.drop (wholeDigits s).length)).2).2 := by
    simp only [number] at h
    split at h
    · cases h
    · split at h
      · split at h
        · cases h
        · cases h
          rfl
      · cases h
        rfl
  have hsuffix := (suffix_exponent _).trans (suffix_fraction (s.drop (wholeDigits s).length))
  rw [← hrest] at hsuffix
  have hlength := hsuffix.length_le
  have hdigits := (prefix_wholeDigits s).length_le
  have hpos := List.length_pos_of_ne_nil hwhole
  rw [List.length_drop] at hlength
  omega

/-! ### All values -/

theorem scalar?_of_ne {c : Char} (hquote : c ≠ '"') (hminus : c ≠ '-') (rest : List Char) :
    scalar? (c :: rest) = (number false (c :: rest)).or (word (c :: rest)) := by
  unfold scalar?
  split
  · exact absurd (List.cons.inj ‹_›).1 hquote
  · exact absurd (List.cons.inj ‹_›).1 hminus
  · cases number false (c :: rest) <;> rfl

theorem scalar?_minus (rest : List Char) :
    scalar? ('-' :: rest) = (number true rest).or (word ('-' :: rest)) := by
  rw [scalar?]
  cases number true rest <;> rfl

theorem passesBreaks_scalar : PassesBreaks scalar? := by
  intro s
  obtain rfl | ⟨rest, others, rfl, he⟩ | ⟨c, rest, -, rfl, he⟩ := unifyBreaks_cases s
  · rfl
  · rw [he]
    rfl
  · have hword := readsInline_word.passesBreaks (c :: rest)
    rw [he] at hword ⊢
    by_cases hquote : c = '"'
    · subst hquote
      simp only [scalar?, readsInline_textBody.passesBreaks rest]
      cases textBody rest <;> rfl
    · by_cases hminus : c = '-'
      · subst hminus
        rw [scalar?_minus, scalar?_minus, passesBreaks_number, hword]
        cases number true rest <;> rfl
      · have hnumber := passesBreaks_number false (c :: rest)
        rw [he] at hnumber
        rw [scalar?_of_ne hquote hminus, scalar?_of_ne hquote hminus, hnumber, hword]
        cases number false (c :: rest) <;> rfl

theorem length_scalar_lt {value : Json} (h : scalar? s = some (value, rest)) :
    rest.length < s.length := by
  unfold scalar? at h
  split at h
  · rename_i body
    obtain ⟨⟨units, after⟩, hbody, hfound⟩ := Option.map_eq_some_iff.mp h
    cases hfound
    have hlength := readsInline_textBody.length_lt hbody
    rw [List.length_cons]
    omega
  · rename_i unsigned
    split at h
    · rename_i hnumber
      cases h
      have hlength := length_number_lt hnumber
      rw [List.length_cons]
      omega
    · exact readsInline_word.length_lt h
  · split at h
    · rename_i hnumber
      cases h
      exact length_number_lt hnumber
    · exact readsInline_word.length_lt h

/-! ## Tokens -/

theorem scanFrom_unifyBreaks (fuel : Nat) (s : List Char) :
    scanFrom fuel (unifyBreaks s) = scanFrom fuel s := by
  induction fuel generalizing s with
  | zero => rfl
  | succ fuel ih =>
    rw [scanFrom, scanFrom, dropWhile_isSpace_unifyBreaks]
    obtain h | ⟨rest, -, h, -⟩ | ⟨c, rest, -, h, he⟩ := unifyBreaks_cases (s.dropWhile isSpace)
    · rw [h]
      rfl
    · -- What comes after blanks is no carriage return.
      have hspace := List.head?_dropWhile_not isSpace s
      rw [h] at hspace
      cases hspace
    · have hscalar := passesBreaks_scalar (c :: rest)
      rw [h] at he
      rw [he] at hscalar
      simp only [h, he, hscalar, ih]
      cases punctuation? c with
      | some token => rfl
      | none =>
        cases scalar? (c :: rest) with
        | none => rfl
        | some found => simp only [Option.map_some, ih]

/-- More fuel than characters makes no difference. -/
theorem scanFrom_eq {m n : Nat} (hm : s.length < m) (hn : s.length < n) :
    scanFrom m s = scanFrom n s := by
  -- Every token takes a character at least, so the fuel stays greater than the text is long.
  induction m generalizing s n with
  | zero => exact absurd hm (Nat.not_lt_zero _)
  | succ m ih =>
    cases n with
    | zero => exact absurd hn (Nat.not_lt_zero _)
    | succ n =>
      have hdrop := (List.dropWhile_suffix isSpace (l := s)).length_le
      rw [scanFrom, scanFrom]
      cases h : s.dropWhile isSpace with
      | nil => rfl
      | cons c rest =>
        rw [h, List.length_cons] at hdrop
        dsimp only
        cases punctuation? c with
        | some token => rw [ih (n := n) (by omega) (by omega)]
        | none =>
          cases hscalar : scalar? (c :: rest) with
          | none => rfl
          | some found =>
            have hlength := length_scalar_lt hscalar
            rw [List.length_cons] at hlength
            dsimp only
            rw [ih (n := n) (by omega) (by omega)]

end Token

variable {s : List Char}

theorem scans_scan (s : List Char) : Scans s (Token.scan s) :=
  fun _ hfuel => Token.scanFrom_eq hfuel (Nat.lt_succ_self _)

/-- However the lines of a text end, it is the same value. -/
theorem parse_withLineFeeds (limit : DepthLimit) (text : String) :
    parse limit (Text.withLineFeeds text) = parse limit text := by
  have hscan : Token.scan (Text.unifyBreaks text.toList) = Token.scan text.toList := by
    -- Both scans are the same with fuel enough for either text.
    rw [← scans_scan text.toList (text.toList.length + (Text.unifyBreaks text.toList).length + 1)
        (by omega), ← Token.scanFrom_unifyBreaks,
      scans_scan _ (text.toList.length + (Text.unifyBreaks text.toList).length + 1) (by omega)]
  rw [parse, parse, Text.withLineFeeds, String.toList_ofList, hscan]

/-! ## Depth -/

variable {limit : DepthLimit}

theorem State.opened_eq_tooDeep {state next : State} :
    state.opened limit next = .error .tooDeep ↔ limit.count ≤ state.frames.length := by
  unfold opened
  split
  · exact iff_of_true rfl ‹_›
  · exact iff_of_false (fun h => nomatch h) ‹_›

theorem State.step_openArray {state : State} {orClose : Bool} (h : state.awaiting = .value orClose) :
    state.step limit .openArray = state.opened limit ⟨.array [] :: state.frames, .value true⟩ := by
  simp only [step, h]

theorem State.step_openObject {state : State} {orClose : Bool} (h : state.awaiting = .value orClose) :
    state.step limit .openObject = state.opened limit ⟨state.frames, .name [] true⟩ := by
  simp only [step, h]

theorem State.step_eq_tooDeep {state : State} {token : Token} :
    state.step limit token = .error .tooDeep ↔ limit.count ≤ state.frames.length ∧
      (∃ orClose, state.awaiting = .value orClose) ∧
        (token = .openArray ∨ token = .openObject) := by
  constructor
  · intro h
    unfold step at h
    split at h
    case h_2 orClose hawaiting =>
      exact ⟨opened_eq_tooDeep.mp h, ⟨orClose, hawaiting⟩, Or.inl rfl⟩
    case h_3 orClose hawaiting =>
      exact ⟨opened_eq_tooDeep.mp h, ⟨orClose, hawaiting⟩, Or.inr rfl⟩
    -- In all other cases the token is read or is not in its place.
    all_goals first | cases h | (split at h <;> cases h)
  · rintro ⟨hdepth, ⟨orClose, hawaiting⟩, rfl | rfl⟩
    · rw [step_openArray hawaiting]
      exact opened_eq_tooDeep.mpr hdepth
    · rw [step_openObject hawaiting]
      exact opened_eq_tooDeep.mpr hdepth

/-- A run that nests too deeply does so at one of its tokens. -/
theorem State.run_eq_tooDeep {state : State} {tokens : List Token} :
    state.run limit tokens = .error .tooDeep ↔ ∃ before token after middle,
      tokens = before ++ token :: after ∧ state.run limit before = .ok middle ∧
        middle.step limit token = .error .tooDeep := by
  -- Either the first token already nests too deeply, or a later one does for the state after it.
  induction tokens generalizing state with
  | nil => simp [run]
  | cons first rest ih =>
    rw [run]
    constructor
    · intro h
      cases hstep : state.step limit first with
      | error fault =>
        rw [hstep] at h
        cases h
        exact ⟨[], first, rest, state, rfl, rfl, hstep⟩
      | ok next =>
        rw [hstep] at h
        obtain ⟨before, token, after, middle, rfl, hrun, htoken⟩ := ih.mp h
        refine ⟨first :: before, token, after, middle, rfl, ?_, htoken⟩
        rw [run, hstep]
        exact hrun
    · rintro ⟨before, token, after, middle, he, hrun, htoken⟩
      cases before with
      | nil =>
        obtain ⟨rfl, rfl⟩ := List.cons.inj he
        cases hrun
        rw [htoken]
      | cons other before =>
        obtain ⟨rfl, rfl⟩ := List.cons.inj he
        rw [run] at hrun
        cases hstep : state.step limit first with
        | error fault =>
          rw [hstep] at hrun
          cases hrun
        | ok next =>
          rw [hstep] at hrun
          exact ih.mpr ⟨before, token, after, middle, rfl, hrun, htoken⟩

/-- Somewhere an array or object begins as a value inside of as many others as can be open at once. -/
def NestsTooDeeply (limit : DepthLimit) (text : String) : Prop :=
  ∃ before token after state, Token.scan text.toList = before ++ token :: after ∧
    State.start.run limit before = .ok state ∧ limit.count ≤ state.frames.length ∧
      (∃ orClose, state.awaiting = .value orClose) ∧ (token = .openArray ∨ token = .openObject)

theorem parse_eq_tooDeep {text : String} :
    parse limit text = .error .tooDeep ↔ NestsTooDeeply limit text := by
  have hparse : parse limit text = .error .tooDeep ↔
      State.start.run limit (Token.scan text.toList) = .error .tooDeep := by
    unfold parse ofTokens
    cases State.start.run limit (Token.scan text.toList) with
    | error fault => simp only [Except.error.injEq]
    | ok state =>
      -- Tokens that are all read make up a value or not, and neither is a matter of depth.
      obtain ⟨frames, awaiting⟩ := state
      cases frames <;> cases awaiting <;> simp
  rw [hparse, State.run_eq_tooDeep]
  simp only [State.step_eq_tooDeep, NestsTooDeeply]

/-- The state inside of so many arrays that have just begun. -/
def State.inside (depth : Nat) : State :=
  ⟨List.replicate depth (.array []), .value (depth != 0)⟩

theorem State.run_brackets {depth n : Nat} (h : depth + n ≤ limit.count) :
    (State.inside depth).run limit (List.replicate n .openArray) = .ok (.inside (depth + n)) := by
  induction n generalizing depth with
  | zero => rfl
  | succ n ih =>
    have hopen : ¬ limit.count ≤ (State.inside depth).frames.length := by
      rw [inside, List.length_replicate]
      omega
    have hstep : (State.inside depth).step limit .openArray = .ok (.inside (depth + 1)) := by
      rw [step_openArray rfl, opened]
      exact if_neg hopen
    rw [List.replicate_succ, run, hstep]
    dsimp only
    rw [ih (by omega), Nat.add_right_comm, Nat.add_assoc]

theorem Scans.brackets {tokens : List Token} (h : Scans s tokens) (n : Nat) :
    Scans (List.replicate n '[' ++ s) (List.replicate n .openArray ++ tokens) := by
  induction n with
  | zero => exact h
  | succ n ih => exact punctuation (by decide) rfl ih

/-- A text that opens more arrays than can be open at once nests too deeply, whatever follows. -/
theorem nestsTooDeeply_brackets {n : Nat} (h : limit.count < n) (s : List Char) :
    NestsTooDeeply limit (String.ofList (List.replicate n '[' ++ s)) := by
  obtain ⟨k, rfl⟩ := Nat.exists_eq_add_of_lt h
  have hrun : (State.inside 0).run limit (List.replicate limit.count .openArray) =
      .ok (.inside (0 + limit.count)) := State.run_brackets (by omega)
  rw [Nat.zero_add] at hrun
  refine ⟨List.replicate limit.count .openArray, .openArray,
    List.replicate k .openArray ++ Token.scan s, .inside limit.count, ?_, hrun, ?_, ⟨_, rfl⟩,
    Or.inl rfl⟩
  · rw [String.toList_ofList, ((scans_scan s).brackets _).scan, Nat.add_assoc, List.replicate_add,
      List.append_assoc, List.replicate_succ, List.cons_append]
  · rw [State.inside, List.length_replicate]

end Json

end ViewGen
