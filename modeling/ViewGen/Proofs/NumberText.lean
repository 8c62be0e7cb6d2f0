import ViewGen.Json.Basic
import ViewGen.Proofs.ManifestText

/-!
# Numbers as JSON tokens

The text of a number is one token, whatever follows it that cannot belong to a number.  The digits of a
number that is not zero do not begin with a zero, so none of them is cut off.
-/

namespace ViewGen

namespace Text

/-! ## Digits -/

theorem isDigit_of_mem_toDigits {n : Nat} {c : Char} (h : c ∈ Nat.toDigits 10 n) :
    c.isDigit = true :=
  Nat.isDigit_of_mem_toDigits (by decide) (by decide) h

theorem head?_toDigits_ne {n : Nat} (hn : n ≠ 0) : (Nat.toDigits 10 n).head? ≠ some '0' := by
  induction n using Nat.strongRecOn with
  | ind n ih =>
    by_cases hlt : n < 10
    · have hdigit : ∀ d < 10, d ≠ 0 → Nat.digitChar d ≠ '0' := by decide
      rw [Nat.toDigits_of_lt_base hlt, List.head?_cons, ne_eq, Option.some.injEq]
      exact hdigit n hlt hn
    · rw [Nat.toDigits_of_base_le (by decide) (by omega),
        List.head?_append_of_ne_nil _ Nat.toDigits_ne_nil]
      exact ih (n / 10) (by omega) (by omega)

theorem decimalValue_toDigits (n : Nat) : decimalValue (Nat.toDigits 10 n) = n := by
  have hdigit : ∀ d < 10, hexValue? (Nat.digitChar d) = some d := by decide
  induction n using Nat.strongRecOn with
  | ind n ih =>
    by_cases hlt : n < 10
    · rw [Nat.toDigits_of_lt_base hlt]
      simp [decimalValue, digitsValue, hdigit n hlt]
    · have hlast := hdigit (n % 10) (Nat.mod_lt n (by decide))
      rw [Nat.toDigits_of_base_le (by decide) (by omega)]
      have hinit := ih (n / 10) (by omega)
      unfold decimalValue digitsValue at hinit ⊢
      rw [List.foldl_append, hinit, List.foldl_cons, List.foldl_nil, hlast, Option.getD_some]
      omega

end Text

namespace Json.Token

/-! ## Reading numbers -/

/-- What is no part of a number, whatever stands before it. -/
def Follows (s : List Char) : Prop :=
  ∀ c ∈ s.head?, c.isDigit = false ∧ c ≠ '.' ∧ c ≠ 'e' ∧ c ≠ 'E'

/-- Digits of which all belong to one number: a zero stands alone. -/
structure Whole (digits : List Char) : Prop where
  ne_nil : digits ≠ []
  all : ∀ c ∈ digits, c.isDigit = true
  head : digits = ['0'] ∨ digits.head? ≠ some '0'

variable {digits rest : List Char}

theorem takeWhile_digits (hd : ∀ c ∈ digits, c.isDigit = true)
    (hr : ∀ c ∈ rest.head?, c.isDigit = false) :
    (digits ++ rest).takeWhile Char.isDigit = digits ∧
      (digits ++ rest).dropWhile Char.isDigit = rest := by
  have hnone : rest.takeWhile Char.isDigit = [] ∧ rest.dropWhile Char.isDigit = rest := by
    cases rest with
    | nil => exact ⟨rfl, rfl⟩
    | cons c rest =>
      have hc := hr c (by simp)
      exact ⟨List.takeWhile_cons_of_neg (by simp [hc]), List.dropWhile_cons_of_neg (by simp [hc])⟩
  rw [List.takeWhile_append_of_pos hd, List.dropWhile_append_of_pos hd, hnone.1, hnone.2,
    List.append_nil]
  exact ⟨rfl, rfl⟩

theorem fraction_point (hne : digits ≠ []) (hd : ∀ c ∈ digits, c.isDigit = true)
    (hr : ∀ c ∈ rest.head?, c.isDigit = false) :
    fraction ('.' :: (digits ++ rest)) = (digits, rest) := by
  obtain ⟨htake, hdrop⟩ := takeWhile_digits hd hr
  rw [fraction]
  simp only [htake, hdrop]

theorem fraction_of_ne (h : ∀ c ∈ rest.head?, c ≠ '.') : fraction rest = ([], rest) := by
  unfold fraction
  split
  · exact absurd rfl (h '.' (by simp))
  · rfl

theorem exponent_of_ne (h : ∀ c ∈ rest.head?, c ≠ 'e' ∧ c ≠ 'E') :
    exponent rest = (none, rest) := by
  cases rest with
  | nil => rfl
  | cons c rest =>
    obtain ⟨hsmall, hcapital⟩ := h c (by simp)
    have hletter : (decide (c = 'e') || decide (c = 'E')) = false := by simp [hsmall, hcapital]
    simp only [exponent, hletter, Bool.false_eq_true, if_false]

theorem exponent_signed {sign : Char} (hsign : sign = '-' ∨ sign = '+') (hne : digits ≠ [])
    (hd : ∀ c ∈ digits, c.isDigit = true) (hr : ∀ c ∈ rest.head?, c.isDigit = false) :
    ∃ power, exponent ('e' :: sign :: (digits ++ rest)) = (some power, rest) := by
  obtain ⟨htake, hdrop⟩ := takeWhile_digits hd hr
  cases digits with
  | nil => exact absurd rfl hne
  | cons d digits =>
    obtain rfl | rfl := hsign
    · simp only [exponent, htake, hdrop]
      exact ⟨_, rfl⟩
    · simp only [exponent, htake, hdrop]
      exact ⟨_, rfl⟩

theorem wholeDigits_append (hw : Whole digits) (hr : ∀ c ∈ rest.head?, c.isDigit = false) :
    wholeDigits (digits ++ rest) = digits := by
  obtain rfl | hhead := hw.head
  · rfl
  · unfold wholeDigits
    split
    · rename_i others hzero
      rw [← List.head?_append_of_ne_nil digits hw.ne_nil, hzero] at hhead
      exact absurd rfl hhead
    · exact (takeWhile_digits hw.all hr).1

theorem number_append {decimals after : List Char} {power : Option Int}
    (hw : Whole digits) (hr : ∀ c ∈ rest.head?, c.isDigit = false) {others : List Char}
    (hf : fraction rest = (decimals, others)) (he : exponent others = (power, after))
    (negative : Bool) :
    number negative (digits ++ rest) =
      if decimals.isEmpty && power.isNone then
        if digitLimit < digits.length then none
        else some (.integer (if negative then -(Text.decimalValue digits : Int)
          else Text.decimalValue digits), after)
      else some (.real (.ofDecimal negative (Text.decimalValue (digits ++ decimals))
        (power.getD 0 - decimals.length)), after) := by
  have hempty : digits.isEmpty = false := by simpa using hw.ne_nil
  simp only [number, wholeDigits_append hw hr, hempty, Bool.false_eq_true, if_false,
    List.drop_left, hf, he]

/-- A number with decimals. -/
theorem number_decimals {decimals : List Char} (hw : Whole digits) (hne : decimals ≠ [])
    (hd : ∀ c ∈ decimals, c.isDigit = true) (hr : Follows rest) (negative : Bool) :
    ∃ x, number negative (digits ++ '.' :: (decimals ++ rest)) = some (.real x, rest) := by
  have hfraction := fraction_point hne hd fun c hc => (hr c hc).1
  have hexponent := exponent_of_ne fun c hc => (hr c hc).2.2
  have hempty : decimals.isEmpty = false := by simpa using hne
  rw [number_append hw (by simp) hfraction hexponent, hempty, Bool.false_and,
    if_neg Bool.false_ne_true]
  exact ⟨_, rfl⟩

/-- A number with an exponent, which may have decimals. -/
theorem number_exponent {decimals power : List Char} {sign : Char} (hw : Whole digits)
    (hd : ∀ c ∈ decimals, c.isDigit = true) (hsign : sign = '-' ∨ sign = '+') (hne : power ≠ [])
    (hp : ∀ c ∈ power, c.isDigit = true) (hr : Follows rest) (negative : Bool) :
    ∃ x, number negative (digits ++ ((if decimals = [] then [] else '.' :: decimals) ++
      'e' :: sign :: (power ++ rest))) = some (.real x, rest) := by
  obtain ⟨n, hexponent⟩ := exponent_signed hsign hne hp fun c hc => (hr c hc).1
  split
  · have hfraction : fraction ('e' :: sign :: (power ++ rest)) = ([], _) :=
      fraction_of_ne (by simp)
    rw [List.nil_append, number_append hw (by simp) hfraction hexponent]
    exact ⟨_, rfl⟩
  · have hfraction : fraction ('.' :: (decimals ++ 'e' :: sign :: (power ++ rest))) =
        (decimals, 'e' :: sign :: (power ++ rest)) :=
      fraction_point ‹decimals ≠ []› hd (by simp)
    rw [List.cons_append, number_append hw (by simp) hfraction hexponent, Option.isNone_some,
      Bool.and_false, if_neg Bool.false_ne_true]
    exact ⟨_, rfl⟩

theorem number_integer (hw : Whole digits) (hlen : digits.length ≤ digitLimit) (hr : Follows rest)
    (negative : Bool) :
    number negative (digits ++ rest) =
      some (.integer (if negative then -(Text.decimalValue digits : Int)
        else Text.decimalValue digits), rest) := by
  have hfraction := fraction_of_ne fun c hc => (hr c hc).2.1
  have hexponent := exponent_of_ne fun c hc => (hr c hc).2.2
  rw [number_append hw (fun c hc => (hr c hc).1) hfraction hexponent]
  simp [Nat.not_lt.mpr hlen]

/-! ## Where a number begins -/

theorem digit_facts {c : Char} (h : c.isDigit = true) :
    isSpace c = false ∧ punctuation? c = none ∧ c ≠ '"' ∧ c ≠ '-' := by
  have hne (d : Char) (hd : d.isDigit = false) : c ≠ d := by
    rintro rfl
    exact absurd (h.symm.trans hd) (by decide)
  refine ⟨?_, ?_, hne '"' rfl, hne '-' rfl⟩
  · simp [isSpace, hne ' ' rfl, hne '\t' rfl, hne '\n' rfl, hne '\r' rfl]
  · unfold punctuation?
    split
    case h_7 => rfl
    all_goals exact absurd h (by decide)

theorem head_of_number {negative : Bool} {s : List Char} {found : Json × List Char}
    (h : number negative s = some found) : ∃ d others, s = d :: others ∧ d.isDigit = true := by
  have hne : wholeDigits s ≠ [] := by
    intro hnone
    simp [number, hnone] at h
  unfold wholeDigits at hne
  split at hne
  · exact ⟨'0', _, rfl, rfl⟩
  · cases s with
    | nil => exact absurd rfl hne
    | cons d others =>
      refine ⟨d, others, rfl, ?_⟩
      by_contra hd
      exact hne (List.takeWhile_cons_of_neg hd)

theorem scalar?_of_number {s : List Char} {found : Json × List Char}
    (h : number false s = some found) : scalar? s = some found := by
  obtain ⟨d, others, rfl, hd⟩ := head_of_number h
  obtain ⟨-, -, hquote, hminus⟩ := digit_facts hd
  unfold scalar?
  split
  · exact absurd (List.cons.inj ‹_›).1 hquote
  · exact absurd (List.cons.inj ‹_›).1 hminus
  · rw [h]

end Json.Token

namespace Binary64

/-! ## Digits that are not zero -/

/-- `10 ^ scale ≤ num / den`. -/
def AtLeast (num den : Nat) (scale : Int) : Prop :=
  den * Nat.pow 10 scale.toNat ≤ num * Nat.pow 10 (-scale).toNat

theorem AtLeast.mono {num den : Nat} {scale order : Int} (h : AtLeast num den order)
    (hle : scale ≤ order) : AtLeast num den scale := by
  unfold AtLeast at h ⊢
  calc den * Nat.pow 10 scale.toNat
      ≤ den * Nat.pow 10 order.toNat :=
      Nat.mul_le_mul_left _ (Nat.pow_le_pow_right (by decide) (by omega))
    _ ≤ num * Nat.pow 10 (-order).toNat := h
    _ ≤ num * Nat.pow 10 (-scale).toNat :=
      Nat.mul_le_mul_left _ (Nat.pow_le_pow_right (by decide) (by omega))

theorem lt_pow_decimalLength (n : Nat) : n < Nat.pow 10 (decimalLength n) := by
  have hpos : 0 < decimalLength n := List.length_pos_iff.mpr Nat.toDigits_ne_nil
  exact (Nat.length_toDigits_le_iff (by decide) hpos).mp (Nat.le_refl _)

theorem pow_decimalLength_le {n : Nat} (hn : n ≠ 0) : Nat.pow 10 (decimalLength n - 1) ≤ n := by
  by_cases hone : decimalLength n - 1 = 0
  · rw [hone]
    exact Nat.one_le_iff_ne_zero.mpr hn
  · refine Nat.le_of_not_lt fun hlt => ?_
    have hshort := (Nat.length_toDigits_le_iff (by decide) (by omega)).mpr hlt
    unfold decimalLength at hone hshort
    omega

theorem atLeast_decimalOrder {num den : Nat} (hn : num ≠ 0) (hd : den ≠ 0) :
    AtLeast num den (decimalOrder num den) := by
  unfold decimalOrder AtLeast
  -- From one upwards the quotient's own length tells the order, below one that of its reciprocal.
  split
  · have hquotient : num / den ≠ 0 := by
      rw [ne_eq, Nat.div_eq_zero_iff]
      omega
    have hpow : 10 ^ (decimalLength (num / den) - 1) ≤ num / den := pow_decimalLength_le hquotient
    have hscale : ((decimalLength (num / den) : Int) - 1).toNat = decimalLength (num / den) - 1 ∧
        (-((decimalLength (num / den) : Int) - 1)).toNat = 0 := by
      have hpos : 0 < decimalLength (num / den) := List.length_pos_iff.mpr Nat.toDigits_ne_nil
      omega
    rw [hscale.1, hscale.2, Nat.pow_eq, Nat.pow_eq, Nat.pow_zero, Nat.mul_one]
    calc den * 10 ^ (decimalLength (num / den) - 1)
        ≤ den * (num / den) := Nat.mul_le_mul_left _ hpow
      _ ≤ num := Nat.mul_div_le num den
  · have hpos : 0 < decimalLength (den / num) := List.length_pos_iff.mpr Nat.toDigits_ne_nil
    generalize hlength : decimalLength (den / num) = length at hpos
    dsimp only
    split
    · rename_i hle
      have hscale : (-((length : Int) - 1)).toNat = 0 ∧ (-(-((length : Int) - 1))).toNat = length - 1 := by
        omega
      rw [hscale.1, hscale.2, Nat.pow_eq, Nat.pow_eq, Nat.pow_zero, Nat.mul_one]
      exact hle
    · have hpow : den / num < 10 ^ length := hlength ▸ lt_pow_decimalLength (den / num)
      have hscale : (-(length : Int)).toNat = 0 ∧ (-(-(length : Int))).toNat = length := by omega
      rw [hscale.1, hscale.2, Nat.pow_eq, Nat.pow_eq, Nat.pow_zero, Nat.mul_one]
      have hlt := (Nat.div_lt_iff_lt_mul (Nat.pos_of_ne_zero hn)).mp hpow
      rw [Nat.mul_comm num]
      exact Nat.le_of_lt hlt

theorem nearestUnits_ne_zero {num den : Nat} {scale : Int} (hd : den ≠ 0)
    (h : AtLeast num den scale) : (nearestUnits num den scale).1 ≠ 0 := by
  have hpow (k : Nat) : 0 < 10 ^ k := Nat.pow_pos (by decide)
  unfold AtLeast at h
  cases scale with
  | ofNat s =>
    have hscale : (Int.ofNat s).toNat = s ∧ (-Int.ofNat s).toNat = 0 := by
      rw [Int.ofNat_eq_natCast]
      omega
    rw [hscale.1, hscale.2, Nat.pow_eq, Nat.pow_eq, Nat.pow_zero, Nat.mul_one] at h
    exact Nat.ne_of_gt (Nat.div_pos h (Nat.mul_pos (Nat.pos_of_ne_zero hd) (hpow s)))
  | negSucc s =>
    have hscale : (Int.negSucc s).toNat = 0 ∧ (-Int.negSucc s).toNat = s + 1 := ⟨rfl, rfl⟩
    rw [hscale.1, hscale.2, Nat.pow_eq, Nat.pow_eq, Nat.pow_zero, Nat.mul_one] at h
    exact Nat.ne_of_gt (Nat.div_pos h (Nat.pos_of_ne_zero hd))

theorem shortestFrom_ne_zero {interval : Interval} {num den : Nat} {order : Int} (hd : den ≠ 0)
    (h : AtLeast num den order) (count more : Nat) (hcount : 1 ≤ count) :
    (shortestFrom interval num den order count more).1 ≠ 0 := by
  induction more generalizing count with
  | zero => exact nearestUnits_ne_zero hd (h.mono (by omega))
  | succ more ih =>
    have hatLeast : AtLeast num den (order - count + 1) := h.mono (by omega)
    have hunits := nearestUnits_ne_zero hd hatLeast
    unfold shortestFrom
    dsimp only
    generalize nearestUnits num den (order - count + 1) = units at hunits ⊢
    generalize hpair : (if units.2 = true then (units.1 + 1, units.1)
      else (units.1, units.1 + 1)) = pair
    -- Either of the two candidates is at least the quotient.
    have hcandidates : pair.1 ≠ 0 ∧ pair.2 ≠ 0 := by
      rw [← hpair]
      split
      · exact ⟨Nat.succ_ne_zero units.1, hunits⟩
      · exact ⟨hunits, Nat.succ_ne_zero units.1⟩
    split
    · exact hcandidates.1
    · split
      · exact hcandidates.2
      · exact ih (count + 1) (by omega)

theorem scaled_ne_zero {num den : Nat} (hn : num ≠ 0) (hd : den ≠ 0) (shift : Int) :
    (scaled num den shift).1 ≠ 0 ∧ (scaled num den shift).2 ≠ 0 := by
  have hpow (k : Nat) : Nat.pow 2 k ≠ 0 := Nat.ne_of_gt (Nat.pow_pos (by decide))
  cases shift with
  | ofNat k => exact ⟨Nat.mul_ne_zero hn (hpow k), hd⟩
  | negSucc k => exact ⟨hn, Nat.mul_ne_zero hd (hpow (k + 1))⟩

theorem shortest_ne_zero {mantissa : Nat} (h : mantissa ≠ 0) (exponent : Int) :
    (shortest mantissa exponent).1 ≠ 0 := by
  obtain ⟨hnum, hden⟩ := scaled_ne_zero h Nat.one_ne_zero exponent
  exact shortestFrom_ne_zero hden (atLeast_decimalOrder hnum hden) 1 17 (Nat.le_refl 1)

theorem dropZeros_ne_zero {digits : Nat} (h : digits ≠ 0) (scale : Int) (fuel : Nat) :
    (dropZeros digits scale fuel).1 ≠ 0 := by
  induction fuel generalizing digits scale with
  | zero => exact h
  | succ fuel ih =>
    rw [dropZeros]
    split
    · exact ih (by omega) _
    · exact h

/-! ## The text of a number -/

open Json.Token

theorem whole_toDigits {n : Nat} : Whole (Nat.toDigits 10 n) where
  ne_nil := Nat.toDigits_ne_nil
  all _ hc := Text.isDigit_of_mem_toDigits hc
  head := by
    by_cases hn : n = 0
    · exact .inl (by rw [hn]; rfl)
    · exact .inr (Text.head?_toDigits_ne hn)

/-- What begins with a digit other than zero is a number up to its last digit. -/
theorem whole_append {n : Nat} (hn : n ≠ 0) {k : Nat} (hk : k ≠ 0) {more : List Char}
    (hmore : ∀ c ∈ more, c.isDigit = true) : Whole ((Nat.toDigits 10 n).take k ++ more) := by
  have hne : (Nat.toDigits 10 n).take k ≠ [] := by
    rw [ne_eq, List.take_eq_nil_iff, not_or]
    exact ⟨hk, Nat.toDigits_ne_nil⟩
  refine ⟨List.append_ne_nil_of_left_ne_nil hne _, fun c hc => ?_, .inr ?_⟩
  · obtain hc | hc := List.mem_append.mp hc
    · exact Text.isDigit_of_mem_toDigits (List.mem_of_mem_take hc)
    · exact hmore c hc
  · rw [List.head?_append_of_ne_nil _ hne, List.head?_take, if_neg hk]
    exact Text.head?_toDigits_ne hn

theorem whole_take {n : Nat} (hn : n ≠ 0) {k : Nat} (hk : k ≠ 0) :
    Whole ((Nat.toDigits 10 n).take k) := by
  have happend := whole_append hn hk (List.forall_mem_nil _)
  rw [List.append_nil] at happend
  exact happend

/-- Digits without an exponent: the point stands before, behind or among them. -/
theorem number_positional {n : Nat} (hn : n ≠ 0) {scale point : Int}
    (hpoint : point = (Nat.toDigits 10 n).length + scale) {rest : List Char} (hr : Follows rest)
    (negative : Bool) :
    ∃ x, number negative ((if point ≤ 0 then
        '0' :: '.' :: (List.replicate (-point).toNat '0' ++ Nat.toDigits 10 n)
      else if 0 ≤ scale then
        Nat.toDigits 10 n ++ List.replicate scale.toNat '0' ++ ['.', '0']
      else (Nat.toDigits 10 n).take point.toNat ++
        '.' :: (Nat.toDigits 10 n).drop point.toNat) ++ rest) = some (.real x, rest) := by
  have hdigits : ∀ c ∈ Nat.toDigits 10 n, c.isDigit = true :=
    fun c hc => Text.isDigit_of_mem_toDigits hc
  have hzeros (k : Nat) : ∀ c ∈ List.replicate k '0', c.isDigit = true := by
    intro c hc
    rw [List.eq_of_mem_replicate hc]
    rfl
  have hlength : (Nat.toDigits 10 n).length ≠ 0 := by simp
  split_ifs
  · exact number_decimals (whole_toDigits (n := 0))
      (List.append_ne_nil_of_right_ne_nil (List.replicate (-point).toNat '0') Nat.toDigits_ne_nil)
      (List.forall_mem_append.mpr ⟨hzeros _, hdigits⟩) hr negative
  · have hwhole := whole_append hn hlength (hzeros scale.toNat)
    have hdecimals := number_decimals hwhole (List.cons_ne_nil '0' []) (hzeros 1) hr negative
    rw [List.take_length] at hdecimals
    rw [List.append_assoc _ ['.', '0']]
    exact hdecimals
  · have hwhole := whole_take hn (k := point.toNat) (by omega)
    have hrest : (Nat.toDigits 10 n).drop point.toNat ≠ [] := by
      rw [ne_eq, List.drop_eq_nil_iff]
      omega
    have hdecimals := number_decimals hwhole hrest
      (fun c hc => hdigits c (List.mem_of_mem_drop hc)) hr negative
    rw [List.append_assoc, List.cons_append]
    exact hdecimals

/-- One digit before the point, with an exponent of at least two digits. -/
theorem number_scientific {n : Nat} (hn : n ≠ 0) (power : Int) {rest : List Char}
    (hr : Follows rest) (negative : Bool) :
    ∃ x, number negative ((Nat.toDigits 10 n).take 1 ++
      (if (Nat.toDigits 10 n).length ≤ 1 then [] else '.' :: (Nat.toDigits 10 n).drop 1) ++
      ['e', if power < 0 then '-' else '+'] ++
      (if (Nat.toDigits 10 power.natAbs).length < 2 then '0' :: Nat.toDigits 10 power.natAbs
        else Nat.toDigits 10 power.natAbs) ++ rest) = some (.real x, rest) := by
  have hwhole := whole_take hn Nat.one_ne_zero
  have hdecimals : ∀ c ∈ (Nat.toDigits 10 n).drop 1, c.isDigit = true :=
    fun c hc => Text.isDigit_of_mem_toDigits (List.mem_of_mem_drop hc)
  have hsign : (if power < 0 then '-' else '+') = '-' ∨ (if power < 0 then '-' else '+') = '+' := by
    split
    · exact .inl rfl
    · exact .inr rfl
  generalize (if power < 0 then '-' else '+') = sign at hsign ⊢
  generalize hexponent : (if (Nat.toDigits 10 power.natAbs).length < 2 then
    '0' :: Nat.toDigits 10 power.natAbs else Nat.toDigits 10 power.natAbs) = exponent
  have hexponents : exponent ≠ [] ∧ ∀ c ∈ exponent, c.isDigit = true := by
    rw [← hexponent]
    split
    · exact ⟨List.cons_ne_nil _ _, List.forall_mem_cons.mpr
        ⟨rfl, fun c hc => Text.isDigit_of_mem_toDigits hc⟩⟩
    · exact ⟨Nat.toDigits_ne_nil, fun c hc => Text.isDigit_of_mem_toDigits hc⟩
  have hnumber := number_exponent hwhole hdecimals hsign hexponents.1 hexponents.2 hr negative
  simp only [List.drop_eq_nil_iff] at hnumber
  simpa using hnumber

theorem number_decimalText {digits : Nat} (h : digits ≠ 0) (scale : Int) (negative : Bool)
    {rest : List Char} (hr : Follows rest) :
    ∃ x, number negative ((decimalText digits scale).toList ++ rest) = some (.real x, rest) := by
  have hdropped := dropZeros_ne_zero h scale 20
  unfold decimalText
  generalize dropZeros digits scale 20 = dropped at hdropped
  obtain ⟨digits, scale⟩ := dropped
  dsimp only at hdropped ⊢
  split
  · rw [String.toList_ofList]
    exact number_positional hdropped rfl hr negative
  · rw [String.toList_ofList]
    exact number_scientific hdropped _ hr negative

end Binary64

/-! ## Tokens -/

namespace Json.Scans

open Json.Token

variable {s rest : List Char} {tokens : List Token} {v : Json}

/-- A value that is one token and neither begins with a blank nor is a mark of its own. -/
theorem scalar {c : Char} (hspace : isSpace c = false) (hmark : punctuation? c = none)
    (hvalue : scalar? (c :: (s ++ rest)) = some (v, rest)) (h : Scans rest tokens) :
    Scans (c :: (s ++ rest)) (.scalar v :: tokens) := by
  intro fuel hf
  cases fuel with
  | zero => exact absurd hf (Nat.not_lt_zero _)
  | succ fuel =>
    have hlen : rest.length < fuel := by
      rw [List.length_cons, List.length_append] at hf
      omega
    rw [scanFrom, List.dropWhile_cons_of_neg (by simp [hspace])]
    simp only [hmark, hvalue, h fuel hlen]

theorem number (hr : Follows rest) (hn : Token.number false (s ++ rest) = some (v, rest))
    (h : Scans rest tokens) : Scans (s ++ rest) (.scalar v :: tokens) := by
  obtain ⟨d, others, he, hd⟩ := head_of_number hn
  cases s with
  | nil =>
    have hno := (hr d (by rw [← List.nil_append rest, he]; rfl)).1
    exact absurd (hd.symm.trans hno) (by decide)
  | cons c s =>
    obtain rfl : c = d := (List.cons.inj he).1
    have hfacts := digit_facts hd
    exact scalar hfacts.1 hfacts.2.1 (scalar?_of_number hn) h

theorem negative (hn : Token.number true (s ++ rest) = some (v, rest)) (h : Scans rest tokens) :
    Scans ('-' :: (s ++ rest)) (.scalar v :: tokens) := by
  refine scalar (by decide) rfl ?_ h
  rw [scalar?, hn]

theorem integer (n : Int) (hn : (Nat.toDigits 10 n.natAbs).length ≤ digitLimit)
    (hr : Follows rest) (h : Scans rest tokens) :
    Scans ((toString n).toList ++ rest) (.scalar (.integer n) :: tokens) := by
  have hdigits (k : Nat) (hk : (Nat.toDigits 10 k).length ≤ digitLimit) (negative : Bool) :=
    number_integer Binary64.whole_toDigits hk hr negative
  cases n with
  | ofNat n =>
    have hnumber := hdigits n hn false
    rw [Text.decimalValue_toDigits] at hnumber
    show Scans (n.repr.toList ++ rest) _
    rw [Nat.toList_repr]
    exact number hr hnumber h
  | negSucc n =>
    have hnumber := hdigits (n + 1) hn true
    rw [Text.decimalValue_toDigits] at hnumber
    show Scans (("-" ++ (n + 1).repr).toList ++ rest) _
    rw [String.toList_append, Nat.toList_repr]
    exact negative hnumber h

theorem real (x : Binary64) (hr : Follows rest) (h : Scans rest tokens) :
    ∃ y, Scans ((realText x).toList ++ rest) (.scalar (.real y) :: tokens) := by
  cases x with
  | notANumber => exact ⟨.notANumber, scalar (s := "aN".toList) (c := 'N') (by decide) rfl rfl h⟩
  | infinite sign =>
    refine ⟨.infinite sign, ?_⟩
    cases sign with
    | false => exact scalar (s := "nfinity".toList) (c := 'I') (by decide) rfl rfl h
    | true => exact scalar (s := "Infinity".toList) (c := '-') (by decide) rfl rfl h
  | finite sign mantissa exponent =>
    have hunsigned : ∃ y, Token.number sign ((if mantissa = 0 then "0.0" else
        Binary64.decimalText (Binary64.shortest mantissa exponent).1
          (Binary64.shortest mantissa exponent).2).toList ++ rest) = some (.real y, rest) := by
      split
      · exact number_decimals (Binary64.whole_toDigits (n := 0)) (List.cons_ne_nil '0' [])
          (by simp) hr sign
      · exact Binary64.number_decimalText (Binary64.shortest_ne_zero ‹_› exponent) _ sign hr
    obtain ⟨y, hy⟩ := hunsigned
    refine ⟨y, ?_⟩
    unfold realText Binary64.text
    cases sign with
    | false => exact number hr hy h
    | true =>
      dsimp only
      rw [if_pos rfl, String.toList_append]
      exact negative hy h

end Json.Scans

end ViewGen
