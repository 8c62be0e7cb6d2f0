import ViewGen.Naming
import ViewGen.Proofs.Words

/-!
# Word boundaries

A word begins at a capital that comes after a small letter or digit, and at one before a small letter.
Both passes that put underscores before such capitals come to one rule on the places of a text, so snake
case is the lower case form of the text with an underscore at each of these places.
-/

namespace ViewGen.Naming

variable {c d : Char} {s t : List Char} {before : Option Char}
  {begins : Option Char → Char → List Char → Bool}

/-! ## Letters -/

theorem isCapital_iff : isCapital c = true ↔ 65 ≤ c.toNat ∧ c.toNat ≤ 90 := by
  rw [isCapital, Bool.and_eq_true, decide_eq_true_eq, decide_eq_true_eq]
  rfl

theorem isSmall_iff : isSmall c = true ↔ 97 ≤ c.toNat ∧ c.toNat ≤ 122 := by
  rw [isSmall, Bool.and_eq_true, decide_eq_true_eq, decide_eq_true_eq]
  rfl

theorem isSmallOrDigit_iff :
    isSmallOrDigit c = true ↔ isSmall c = true ∨ (48 ≤ c.toNat ∧ c.toNat ≤ 57) := by
  rw [isSmallOrDigit, Bool.or_eq_true, Bool.and_eq_true, decide_eq_true_eq, decide_eq_true_eq]
  rfl

theorem isSmallOrDigit_of_isSmall (h : isSmall c = true) : isSmallOrDigit c = true :=
  isSmallOrDigit_iff.mpr (Or.inl h)

theorem isCapital_eq_false (h : isSmallOrDigit c = true) : isCapital c = false := by
  rw [isSmallOrDigit_iff, isSmall_iff] at h
  rw [← Bool.not_eq_true, isCapital_iff]
  omega

/-! ## Marked places -/

/-- A text with an underscore before each character that begins a word, as `begins` tells from the
character before it and the text after it. -/
def mark (begins : Option Char → Char → List Char → Bool) (before : Option Char) :
    List Char → List Char
  | [] => []
  | c :: rest =>
    if begins before c rest then '_' :: c :: mark begins (some c) rest
    else c :: mark begins (some c) rest

/-- A capital after a small letter or a digit. -/
def followsSmall (before : Option Char) (c : Char) (_rest : List Char) : Bool :=
  isCapital c && before.any isSmallOrDigit

/-- A capital after a small letter or a digit, or before a small letter and not at the beginning of a
line. -/
def beginsWord (before : Option Char) (c : Char) (rest : List Char) : Bool :=
  isCapital c &&
    (before.any isSmallOrDigit || (before.any (· ≠ '\n') && rest.head?.any isSmall))

theorem followsSmall_none (c : Char) (rest : List Char) : followsSmall none c rest = false := by
  simp [followsSmall]

theorem beginsWord_none (c : Char) (rest : List Char) : beginsWord none c rest = false := by
  simp [beginsWord]

theorem mark_cons_of_false (h : begins before c s = false) :
    mark begins before (c :: s) = c :: mark begins (some c) s := by
  rw [mark, if_neg (by simp [h])]

theorem mark_cons_of_true (h : begins before c s = true) :
    mark begins before (c :: s) = '_' :: c :: mark begins (some c) s := by
  rw [mark, if_pos h]

/-- Marking goes on behind a character as it begins, but for a mark before the next one. -/
theorem mark_some (hnone : begins none d s = false) (c : Char) :
    mark begins (some c) (d :: s) =
      if begins (some c) d s then '_' :: mark begins none (d :: s) else mark begins none (d :: s) := by
  rw [mark_cons_of_false hnone, mark]

/-! ## The two passes -/

theorem markCapitals_eq (s : List Char) : markCapitals s = mark followsSmall none s := by
  induction s with
  | nil => rfl
  | cons c rest ih =>
    rw [mark_cons_of_false (followsSmall_none c rest)]
    cases rest with
    | nil => rfl
    | cons d rest =>
      rw [markCapitals, ih, mark_some (followsSmall_none d rest)]
      by_cases h : followsSmall (some c) d rest = true
      · rw [if_pos h, if_pos (by simpa [followsSmall, Bool.and_comm] using h)]
      · rw [if_neg h, if_neg (by simpa [followsSmall, Bool.and_comm] using h)]

theorem markWords_of_short (h : s.length < 3) : markWords s = s := by
  rw [markWords]
  rintro c d e rest rfl
  simp only [List.length_cons] at h
  omega

theorem head?_markWords (s : List Char) : (markWords s).head? = s.head? := by
  rw [markWords.eq_def]
  split
  · split <;> rfl
  · rfl

theorem beginsWord_of_small (hc : isSmallOrDigit c = true) (d : Char) (s : List Char) :
    beginsWord (some c) d s = followsSmall (some c) d s := by
  simp [beginsWord, followsSmall, hc]

/-- Where the first pass finds no match, only a small letter or a digit begins a word behind it. -/
theorem beginsWord_of_unmatched
    (h : c ≠ '\n' → isCapital d = true → s.head?.any isSmall = false) :
    beginsWord (some c) d s = followsSmall (some c) d s := by
  cases hd : isCapital d with
  | false => simp [beginsWord, followsSmall, hd]
  | true =>
    have hnone : (Option.any (· ≠ '\n') (some c) && s.head?.any isSmall) = false := by
      by_cases hc : c = '\n'
      · simp [hc]
      · rw [h hc hd, Bool.and_false]
    rw [beginsWord, followsSmall, hnone, Bool.or_false]

/-- Where the first pass goes on with a text, the second pass does not miss the word that may begin
there. -/
theorem mark_markWords_some (ht : mark followsSmall none (markWords t) = mark beginsWord none t)
    (hc : ∀ d rest, t = d :: rest → beginsWord (some c) d rest = followsSmall (some c) d rest) :
    mark followsSmall (some c) (markWords t) = mark beginsWord (some c) t := by
  cases t with
  | nil => rw [markWords_of_short (by decide), mark, mark]
  | cons d rest =>
    have hhead := head?_markWords (d :: rest)
    rw [List.head?_cons, List.head?_eq_some_iff] at hhead
    obtain ⟨others, hothers⟩ := hhead
    rw [hothers] at ht ⊢
    rw [mark_some (followsSmall_none d others), mark_some (beginsWord_none d rest), hc d rest rfl, ht]
    rfl

/-- The small letters that a match takes hold no beginning, and what comes after them is marked by the
second pass. -/
theorem mark_markWords_smalls {smalls : List Char} (hsmalls : ∀ x ∈ smalls, isSmall x = true)
    (hc : isSmallOrDigit c = true)
    (ht : mark followsSmall none (markWords t) = mark beginsWord none t) :
    mark followsSmall (some c) (smalls ++ markWords t) = mark beginsWord (some c) (smalls ++ t) := by
  induction smalls generalizing c with
  | nil => exact mark_markWords_some ht fun d rest _ => beginsWord_of_small hc d rest
  | cons x rest ih =>
    rw [List.forall_mem_cons] at hsmalls
    have hx := isSmallOrDigit_of_isSmall hsmalls.1
    have hrest := ih hsmalls.2 hx
    have hplain : isCapital x = false := isCapital_eq_false hx
    rw [List.cons_append, List.cons_append, mark_cons_of_false (by simp [followsSmall, hplain]),
      mark_cons_of_false (by simp [beginsWord, hplain]), hrest]

/-- Both passes together mark the beginnings of words. -/
theorem markCapitals_markWords (s : List Char) :
    markCapitals (markWords s) = mark beginsWord none s := by
  rw [markCapitals_eq]
  -- On the matches of the first pass: what a match takes is passed over, and behind it the text goes on.
  induction s using markWords.induct with
  | case1 c d e rest hmatch ih =>
    obtain ⟨⟨hc, hd⟩, he⟩ : (c ≠ '\n' ∧ isCapital d = true) ∧ isSmall e = true := by
      simpa using hmatch
    have hplain : isCapital e = false := isCapital_eq_false (isSmallOrDigit_of_isSmall he)
    have hbegins : beginsWord (some c) d (e :: rest) = true := by
      simp [beginsWord, hc, hd, he]
    have hsmalls : ∀ x ∈ rest.takeWhile isSmall, isSmall x = true :=
      fun x hx => List.mem_takeWhile_imp hx
    have hlater := mark_markWords_smalls hsmalls (isSmallOrDigit_of_isSmall he) ih
    rw [List.takeWhile_append_dropWhile] at hlater
    rw [markWords, if_pos hmatch, mark_cons_of_false (followsSmall_none c _),
      mark_cons_of_false (by simp [followsSmall, isCapital]),
      mark_cons_of_false (by simp [followsSmall, isSmallOrDigit, isSmall]),
      mark_cons_of_false (by simp [followsSmall, hplain]), hlater,
      mark_cons_of_false (beginsWord_none c _), mark_cons_of_true hbegins,
      mark_cons_of_false (by simp [beginsWord, hplain])]
  | case2 c d e rest hmatch ih =>
    rw [markWords, if_neg hmatch, mark_cons_of_false (followsSmall_none c _),
      mark_cons_of_false (beginsWord_none c _), mark_markWords_some ih]
    intro _ _ htext
    obtain ⟨rfl, rfl⟩ := List.cons.inj htext
    exact beginsWord_of_unmatched (by simpa using hmatch)
  | case3 s hshort =>
    match s, hshort with
    | [], _ => rw [markWords_of_short (by decide), mark, mark]
    | [c], _ =>
      rw [markWords_of_short (by simp), mark_cons_of_false (followsSmall_none c _),
        mark_cons_of_false (beginsWord_none c _), mark, mark]
    | [c, d], _ =>
      rw [markWords_of_short (by simp)]
      simp [mark, followsSmall, beginsWord]
    | c :: d :: e :: rest, hshort => exact absurd rfl (hshort c d e rest)

/-! ## Places -/

/-- Whether a word begins at place `i`, beyond the first: a capital stands there, and before it a small
letter or a digit, or after it a small letter and before it no line feed. -/
def BeginsAt (s : List Char) (i : Nat) : Prop :=
  1 ≤ i ∧ s[i]?.any isCapital ∧
    (s[i - 1]?.any isSmallOrDigit ∨ s[i - 1]?.any (· ≠ '\n') ∧ s[i + 1]?.any isSmall)

instance (s : List Char) (i : Nat) : Decidable (BeginsAt s i) :=
  inferInstanceAs (Decidable (_ ∧ _ ∧ _))

/-- A text with one underscore before every place at which a word begins. -/
def marked (s : List Char) : List Char :=
  (s.mapIdx fun i c => if BeginsAt s i then ['_', c] else [c]).flatten

theorem beginsAt_iff (a : List Char) (c : Char) (s : List Char) :
    BeginsAt (a ++ c :: s) a.length ↔ beginsWord a.getLast? c s = true := by
  have hhere : (a ++ c :: s)[a.length]? = some c := by simp
  have hnext : (a ++ c :: s)[a.length + 1]? = s.head? := by
    rw [List.getElem?_append_right (by omega)]
    cases s <;> simp
  obtain rfl | ⟨init, last, rfl⟩ := List.eq_nil_or_concat' a
  · simp [BeginsAt, beginsWord]
  · have hlast : ((init ++ [last]) ++ c :: s)[(init ++ [last]).length - 1]? = some last := by
      simp
    unfold BeginsAt
    rw [hhere, hnext, hlast, List.getLast?_concat]
    simp [beginsWord]

/-- The rest of a text is marked by its places in the whole. -/
theorem flatten_mapIdx_eq_mark (a s : List Char) :
    (s.mapIdx fun i c => if BeginsAt (a ++ s) (i + a.length) then ['_', c] else [c]).flatten =
      mark beginsWord a.getLast? s := by
  induction s generalizing a with
  | nil => rfl
  | cons c rest ih =>
    have hrest := ih (a ++ [c])
    rw [List.append_assoc, List.singleton_append, List.getLast?_concat, List.length_append,
      List.length_singleton] at hrest
    rw [List.mapIdx_cons, List.flatten_cons, Nat.zero_add]
    simp only [Nat.add_assoc, Nat.add_comm 1]
    rw [hrest]
    by_cases h : beginsWord a.getLast? c rest = true
    · rw [if_pos ((beginsAt_iff a c rest).mpr h), mark_cons_of_true h]
      rfl
    · rw [if_neg (mt (beginsAt_iff a c rest).mp h), mark_cons_of_false (by simpa using h)]
      rfl

theorem marked_eq (s : List Char) : marked s = mark beginsWord none s :=
  flatten_mapIdx_eq_mark [] s

/-- Snake case is the lower case form of the text with an underscore before each place at which a word
begins. -/
theorem snakeCase_eq_lower_marked (s : String) :
    snakeCase s = Text.lower (String.ofList (marked s.toList)) := by
  rw [snakeCase, snakeCaseChars, markCapitals_markWords, marked_eq, Text.lower, String.toList_ofList]

example : marked "HTTPServerID2Go".toList = "HTTP_Server_ID2_Go".toList := by decide

end ViewGen.Naming
