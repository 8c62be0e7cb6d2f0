import ViewGen.CommandLine.Fault
import ViewGen.Embedded
import ViewGen.Proofs.Words

/-!
# What the uncoloured console reads

Whether markup can be read depends on its tags alone.  A text that has been escaped has no tags, whatever it
holds, so a line that tells of an error can always be read.  And a text without brackets and colons is read as
it is.
-/

namespace ViewGen.Markup

open Text (drop_length_takeWhile)

/-! ## Finding tags -/

/-- The content of a tag: a first character that opens one, and others that are no brackets. -/
def IsContent (content : List Char) : Prop :=
  ∃ c more, content = c :: more ∧ opensTag c = true ∧ ∀ d ∈ more, d ≠ '[' ∧ d ≠ ']'

theorem takeWhile_append_close {more after : List Char} (h : ∀ d ∈ more, d ≠ '[' ∧ d ≠ ']') :
    (more ++ ']' :: after).takeWhile (fun d => d ≠ ']' && d ≠ '[') = more := by
  rw [List.takeWhile_append_of_pos, List.takeWhile_cons_of_neg (by decide), List.append_nil]
  intro d hd
  simp [h d hd]

/-- What follows an opening bracket is a tag if it begins like one and the next bracket closes it. -/
theorem tagContent_eq_some {s content after : List Char} :
    tagContent s = some (content, after) ↔ IsContent content ∧ s = content ++ ']' :: after := by
  cases s with
  | nil => simp [tagContent, IsContent]
  | cons c rest =>
    constructor
    -- The content goes up to the next bracket, and that has to be the closing one.
    · intro h
      rw [tagContent] at h
      split at h
      · rename_i hopens
        simp only [drop_length_takeWhile] at h
        split at h
        · rename_i found hfound
          cases h
          refine ⟨⟨c, _, rfl, hopens, ?_⟩, ?_⟩
          · intro d hd
            simpa [and_comm] using List.mem_takeWhile_imp hd
          · rw [List.cons_append, ← hfound, List.takeWhile_append_dropWhile]
        · cases h
      · cases h
    · rintro ⟨⟨first, more, rfl, hopens, hmore⟩, hs⟩
      rw [List.cons_append] at hs
      obtain ⟨rfl, rfl⟩ := List.cons.inj hs
      simp only [tagContent, hopens, if_true, takeWhile_append_close hmore, List.drop_left]

theorem takeWhile_replicate_append {c : Char} {n : Nat} {s : List Char} (h : s.head? ≠ some c) :
    (List.replicate n c ++ s).takeWhile (· = c) = List.replicate n c := by
  rw [List.takeWhile_append_of_pos fun d hd => by simp [List.eq_of_mem_replicate hd]]
  cases s with
  | nil => simp
  | cons d rest =>
    have hd : d ≠ c := by simpa using h
    rw [List.takeWhile_cons_of_neg (by simpa using hd), List.append_nil]

/-- A text begins with a tag: backslashes, and a content in brackets. -/
theorem tag?_eq_some {s content after : List Char} {slashes : Nat} :
    tag? s = some (slashes, content, after) ↔ IsContent content ∧
      s = List.replicate slashes '\\' ++ '[' :: (content ++ ']' :: after) := by
  unfold tag?
  simp only [drop_length_takeWhile]
  constructor
  · intro h
    split at h
    · rename_i rest hrest
      obtain ⟨⟨found, last⟩, htag, he⟩ := Option.map_eq_some_iff.mp h
      cases he
      obtain ⟨hcontent, hs⟩ := tagContent_eq_some.mp htag
      refine ⟨hcontent, ?_⟩
      have hslashes : s.takeWhile (· = '\\') =
          List.replicate (s.takeWhile (· = '\\')).length '\\' :=
        List.eq_replicate_iff.mpr ⟨rfl, fun d hd => by simpa using List.mem_takeWhile_imp hd⟩
      rw [← hslashes, ← hs, ← hrest, List.takeWhile_append_dropWhile]
    · cases h
  · rintro ⟨hcontent, rfl⟩
    have htake : (List.replicate slashes '\\' ++ '[' :: (content ++ ']' :: after)).takeWhile
        (· = '\\') = List.replicate slashes '\\' := takeWhile_replicate_append (by simp)
    have hdrop : (List.replicate slashes '\\' ++ '[' :: (content ++ ']' :: after)).dropWhile
        (· = '\\') = '[' :: (content ++ ']' :: after) := by
      rw [← drop_length_takeWhile, htake, List.drop_left]
    simp only [htake, hdrop, List.length_replicate, tagContent_eq_some.mpr ⟨hcontent, rfl⟩]
    rfl

theorem tag?_replicate {n : Nat} {c : Char} {rest : List Char} (hc : c ≠ '\\') :
    tag? (List.replicate n '\\' ++ c :: rest) =
      if c = '[' then (tagContent rest).map fun (content, after) => (n, content, after) else none := by
  have htake : (List.replicate n '\\' ++ c :: rest).takeWhile (· = '\\') = List.replicate n '\\' :=
    takeWhile_replicate_append (by simpa using hc)
  have hdrop : (List.replicate n '\\' ++ c :: rest).drop n = c :: rest := by
    rw [List.drop_append, List.length_replicate, Nat.sub_self, List.drop_zero,
      List.drop_of_length_le (by rw [List.length_replicate]), List.nil_append]
  unfold tag?
  simp only [htake, List.length_replicate, hdrop]
  split
  · rename_i he
    obtain ⟨rfl, rfl⟩ := List.cons.inj he
    rw [if_pos rfl]
  · rename_i hne
    rw [if_neg]
    rintro rfl
    exact hne _ rfl

theorem length_lt_of_tag? {s content after : List Char} {slashes : Nat}
    (h : tag? s = some (slashes, content, after)) : after.length < s.length := by
  obtain ⟨-, rfl⟩ := tag?_eq_some.mp h
  simp only [List.length_append, List.length_cons]
  omega

/-! ## The tags of a text -/

/-- The contents of the tags in a text.  What begins no tag is passed, and so is a tag after an odd number of
backslashes. -/
inductive Tagged : List Char → List (List Char) → Prop
  | nil : Tagged [] []
  | plain {c : Char} {rest : List Char} {tags : List (List Char)} :
    tag? (c :: rest) = none → Tagged rest tags → Tagged (c :: rest) tags
  | escaped {s content after : List Char} {slashes : Nat} {tags : List (List Char)} :
    tag? s = some (slashes, content, after) → slashes % 2 = 1 → Tagged after tags → Tagged s tags
  | tag {s content after : List Char} {slashes : Nat} {tags : List (List Char)} :
    tag? s = some (slashes, content, after) → slashes % 2 ≠ 1 → Tagged after tags →
    Tagged s (content :: tags)

def Piece.tag? : Piece → Option (List Char)
  | .text _ => none
  | .tag content => some content

theorem filterMap_collected (pending : List Char) :
    (collected pending).filterMap Piece.tag? = [] := by
  unfold collected
  split <;> rfl

theorem filterMap_tagPieces (slashes : Nat) (content : List Char) :
    (tagPieces slashes content).filterMap Piece.tag? =
      if slashes % 2 = 1 then [] else [content] := by
  unfold tagPieces
  split <;> split <;> rfl

theorem piecesFrom_of_tag? {s content after : List Char} {slashes n : Nat}
    (h : tag? s = some (slashes, content, after)) (hn : s.length ≤ n) (pending : List Char) :
    ∃ m, after.length ≤ m ∧ piecesFrom n pending s =
      collected pending ++ tagPieces slashes content ++ piecesFrom m [] after := by
  have hafter := length_lt_of_tag? h
  cases s with
  | nil => cases h
  | cons c rest =>
    cases n with
    | zero => cases hn
    | succ n =>
      rw [List.length_cons] at hn hafter
      refine ⟨n, by omega, ?_⟩
      rw [piecesFrom, h]

/-- Cutting a text at its tags finds them, with whatever fuel is enough for the text. -/
theorem Tagged.piecesFrom {s : List Char} {tags : List (List Char)} (h : Tagged s tags) :
    ∀ (n : Nat) (pending : List Char), s.length ≤ n →
      (Markup.piecesFrom n pending s).filterMap Piece.tag? = tags := by
  -- On the tags.  What is collected before a tag holds none, and the fuel left is enough for the rest.
  induction h with
  | nil =>
    intro n pending _
    cases n <;> simp only [Markup.piecesFrom, filterMap_collected]
  | plain hnone _ ih =>
    intro n pending hn
    cases n with
    | zero => cases hn
    | succ n =>
      rw [Markup.piecesFrom, hnone]
      exact ih n _ (Nat.le_of_succ_le_succ hn)
  | escaped htag hodd _ ih =>
    intro n pending hn
    obtain ⟨m, hm, hpieces⟩ := piecesFrom_of_tag? htag hn pending
    rw [hpieces, List.filterMap_append, List.filterMap_append, filterMap_collected,
      filterMap_tagPieces, if_pos hodd, ih m [] hm]
    rfl
  | tag htag heven _ ih =>
    intro n pending hn
    obtain ⟨m, hm, hpieces⟩ := piecesFrom_of_tag? htag hn pending
    rw [hpieces, List.filterMap_append, List.filterMap_append, filterMap_collected,
      filterMap_tagPieces, if_neg heven, ih m [] hm]
    rfl

/-! ## Faulty markup -/

/-- A text and what it is escaped to: every tag gets more than twice as many backslashes. -/
inductive Escapes : List Char → List Char → Prop
  | nil : Escapes [] []
  | plain {c : Char} {rest escaped : List Char} : tag? (c :: rest) = none → Escapes rest escaped →
    Escapes (c :: rest) (c :: escaped)
  | tag {s content after escaped : List Char} {slashes : Nat} : tag? s = some (slashes, content, after) →
    Escapes after escaped →
    Escapes s (List.replicate (2 * slashes + 1) '\\' ++ '[' :: (content ++ ']' :: escaped))

/-- The first square bracket in a text. -/
def firstBracket? (s : List Char) : Option Char :=
  s.find? fun c => c = '[' || c = ']'

variable {s escaped : List Char}

theorem firstBracket?_slashes (n : Nat) (rest : List Char) :
    firstBracket? (List.replicate n '\\' ++ '[' :: rest) = some '[' := by
  rw [firstBracket?, List.find?_append, List.find?_replicate_of_neg (by decide)]
  rfl

theorem Escapes.firstBracket? (h : Escapes s escaped) :
    Markup.firstBracket? escaped = Markup.firstBracket? s := by
  induction h with
  | nil => rfl
  | @plain c rest escaped _ _ ih =>
    unfold Markup.firstBracket? at ih ⊢
    rw [List.find?_cons, List.find?_cons, ih]
  | tag htag _ _ =>
    obtain ⟨-, rfl⟩ := tag?_eq_some.mp htag
    rw [firstBracket?_slashes, firstBracket?_slashes]

/-- What begins like a tag in the escaped text begins so in the text itself, and goes on likewise. -/
theorem Escapes.of_opensTag {c : Char} {rest : List Char} (h : Escapes s (c :: rest))
    (hc : opensTag c = true) : ∃ others, s = c :: others ∧ Escapes others rest := by
  generalize he : c :: rest = all at h
  cases h with
  | nil => cases he
  | plain _ hrest =>
    cases he
    exact ⟨_, rfl, hrest⟩
  -- An escaped tag begins with a backslash, and that opens none.
  | tag =>
    rw [List.replicate_succ, List.cons_append] at he
    obtain ⟨rfl, -⟩ := List.cons.inj he
    exact absurd hc (by decide)

/-- Backslashes that begin no tag are passed, and so is the character after them. -/
theorem Escapes.replicate {n : Nat} {c : Char} {rest : List Char} (hc : c ≠ '\\')
    (h : Escapes (List.replicate n '\\' ++ c :: rest) escaped)
    (hnone : tag? (List.replicate n '\\' ++ c :: rest) = none) :
    ∃ others, escaped = List.replicate n '\\' ++ c :: others ∧ Escapes rest others := by
  -- On the backslashes: without the first the others still begin no tag.
  induction n generalizing escaped with
  | zero =>
    cases h with
    | plain _ hrest => exact ⟨_, rfl, hrest⟩
    | tag htag =>
      rw [hnone] at htag
      cases htag
  | succ n ih =>
    rw [List.replicate_succ, List.cons_append] at h
    cases h with
    | plain _ hrest =>
      have hnone' : tag? (List.replicate n '\\' ++ c :: rest) = none := by
        rw [tag?_replicate hc] at hnone ⊢
        split
        · rename_i hbracket
          rw [if_pos hbracket, Option.map_eq_none_iff] at hnone
          rw [hnone]
          rfl
        · rfl
      obtain ⟨others, rfl, hothers⟩ := ih hrest hnone'
      exact ⟨others, rfl, hothers⟩
    | tag htag =>
      rw [← List.cons_append, ← List.replicate_succ] at htag
      rw [hnone] at htag
      cases htag

/-- What begins no tag in a text begins none in the escaped text either, if a bracket opens after that. -/
theorem Escapes.tagContent_eq_none {tail : List Char} (h : Escapes s escaped)
    (hs : tagContent s = none) (htail : ∀ c ∈ tail.head?, opensTag c = false)
    (hbracket : Markup.firstBracket? tail = some '[') : tagContent (escaped ++ tail) = none := by
  by_contra hsome
  obtain ⟨⟨content, after⟩, hfound⟩ := Option.ne_none_iff_exists'.mp hsome
  obtain ⟨⟨c, more, rfl, hopens, hmore⟩, hall⟩ := tagContent_eq_some.mp hfound
  cases escaped with
  | nil =>
    have hc := htail c (by rw [List.nil_append] at hall; simp [hall])
    rw [hopens] at hc
    cases hc
  | cons d others =>
    rw [List.cons_append, List.cons_append] at hall
    obtain ⟨rfl, hrest⟩ := List.cons.inj hall
    obtain ⟨rest, rfl, hothers⟩ := h.of_opensTag hopens
    -- The bracket that closes the tag stands in the text itself, because one opens after it.
    have hfirst : Markup.firstBracket? (others ++ tail) = some ']' := by
      rw [hrest, Markup.firstBracket?, List.find?_append, List.find?_eq_none.mpr]
      · rfl
      · intro d hd
        simp [hmore d hd]
    rw [Markup.firstBracket?, List.find?_append] at hfirst
    have hclosed : Markup.firstBracket? rest = some ']' := by
      rw [← hothers.firstBracket?]
      cases hin : Markup.firstBracket? others with
      | some d =>
        rw [Markup.firstBracket?] at hin
        rw [hin] at hfirst
        exact hfirst
      | none =>
        rw [Markup.firstBracket?] at hin hbracket
        rw [hin, hbracket] at hfirst
        cases hfirst
    obtain ⟨-, before, last, rfl, hbefore⟩ := List.find?_eq_some_iff_append.mp hclosed
    have htag : tagContent (d :: (before ++ ']' :: last)) = some (d :: before, last) := by
      refine tagContent_eq_some.mpr ⟨⟨d, before, rfl, hopens, ?_⟩, rfl⟩
      intro e he
      simpa using hbefore e he
    rw [htag] at hs
    cases hs

/-- The closing tag of a line that tells of an error. -/
def closing : List Char := ['[', '/', 'r', 'e', 'd', ']']

theorem tag?_closing (n : Nat) :
    tag? (List.replicate n '\\' ++ closing) = some (n, "/red".toList, []) :=
  tag?_eq_some.mpr ⟨⟨'/', "red".toList, rfl, by decide, by simp⟩, rfl⟩

theorem tagged_closing (n : Nat) :
    Tagged (List.replicate n '\\' ++ closing) [] ∨
      Tagged (List.replicate n '\\' ++ closing) ["/red".toList] := by
  by_cases hodd : n % 2 = 1
  · exact Or.inl (.escaped (tag?_closing n) hodd .nil)
  · exact Or.inr (.tag (tag?_closing n) hodd .nil)

theorem Escapes.slashes {n : Nat} (h : Escapes (List.replicate n '\\') escaped) :
    escaped = List.replicate n '\\' := by
  induction n generalizing escaped with
  | zero =>
    generalize hs : List.replicate 0 '\\' = s at h
    cases h with
    | nil => rfl
    | plain => cases hs
    | tag htag =>
      rw [← hs] at htag
      cases htag
  | succ n ih =>
    generalize hs : List.replicate (n + 1) '\\' = s at h
    cases h with
    | nil => cases hs
    | plain _ hrest =>
      rw [List.replicate_succ] at hs
      cases hs
      rw [ih hrest]
    | tag htag =>
      obtain ⟨-, rfl⟩ := tag?_eq_some.mp htag
      have hbracket : '[' ∈ List.replicate (n + 1) '\\' := by
        rw [hs]
        simp
      exact absurd (List.eq_of_mem_replicate hbracket) (by decide)

/-- A text is all backslashes or goes on after them. -/
theorem exists_slashes (s : List Char) : (∃ n, s = List.replicate n '\\') ∨
    ∃ n c rest, c ≠ '\\' ∧ s = List.replicate n '\\' ++ c :: rest := by
  induction s with
  | nil => exact Or.inl ⟨0, rfl⟩
  | cons c rest ih =>
    by_cases hc : c = '\\'
    · subst hc
      obtain ⟨n, rfl⟩ | ⟨n, d, last, hd, rfl⟩ := ih
      · exact Or.inl ⟨n + 1, rfl⟩
      · exact Or.inr ⟨n + 1, d, last, hd, rfl⟩
    · exact Or.inr ⟨0, c, rest, hc, rfl⟩

/-- An escaped text begins with no tag where the text itself does not, unless it is all backslashes. -/
theorem Escapes.tag?_eq_none {c : Char} {rest tail : List Char} {n : Nat} (hc : c ≠ '\\')
    (h : Escapes (List.replicate n '\\' ++ c :: rest) escaped)
    (hnone : tag? (List.replicate n '\\' ++ c :: rest) = none)
    (htail : ∀ c ∈ tail.head?, opensTag c = false)
    (hbracket : Markup.firstBracket? tail = some '[') : tag? (escaped ++ tail) = none := by
  obtain ⟨others, rfl, hothers⟩ := h.replicate hc hnone
  rw [tag?_replicate hc] at hnone
  rw [List.append_assoc, List.cons_append, tag?_replicate hc]
  split
  · rename_i hopening
    rw [if_pos hopening, Option.map_eq_none_iff] at hnone
    rw [hothers.tagContent_eq_none hnone htail hbracket]
    rfl
  · rfl

/-- An escaped text has no tags: the only one can be a tag that closes after it. -/
theorem Escapes.tagged (h : Escapes s escaped) (n : Nat) :
    Tagged (escaped ++ (List.replicate n '\\' ++ closing)) [] ∨
      Tagged (escaped ++ (List.replicate n '\\' ++ closing)) ["/red".toList] := by
  induction h with
  | nil => exact tagged_closing n
  | @plain c rest escaped hnone hrest ih =>
    obtain ⟨m, hs⟩ | ⟨m, d, last, hd, hs⟩ := exists_slashes (c :: rest)
    -- Backslashes up to the end count with those before the closing tag.
    · have hall : Escapes (c :: rest) (c :: escaped) := .plain hnone hrest
      rw [hs] at hall
      rw [hall.slashes, ← List.append_assoc, List.replicate_append_replicate]
      exact tagged_closing (m + n)
    -- A character after the backslashes keeps them from what comes later.
    · have hall : Escapes (c :: rest) (c :: escaped) := .plain hnone hrest
      have hnone' : tag? (c :: escaped ++ (List.replicate n '\\' ++ closing)) = none := by
        rw [hs] at hall hnone
        refine hall.tag?_eq_none hd hnone ?_ (firstBracket?_slashes n _)
        cases n with
        | zero => simp [closing, opensTag]
        | succ n => simp [List.replicate_succ, opensTag]
      obtain ih | ih := ih
      · exact Or.inl (.plain hnone' ih)
      · exact Or.inr (.plain hnone' ih)
  | @tag s content after escaped slashes htag _ ih =>
    obtain ⟨hcontent, -⟩ := tag?_eq_some.mp htag
    -- An odd number of backslashes makes the tag plain text.
    have htag' : tag? (List.replicate (2 * slashes + 1) '\\' ++ '[' :: (content ++ ']' :: escaped) ++
        (List.replicate n '\\' ++ closing)) =
        some (2 * slashes + 1, content, escaped ++ (List.replicate n '\\' ++ closing)) :=
      tag?_eq_some.mpr ⟨hcontent, by simp⟩
    have hodd : (2 * slashes + 1) % 2 = 1 := by omega
    obtain ih | ih := ih
    · exact Or.inl (.escaped htag' hodd ih)
    · exact Or.inr (.escaped htag' hodd ih)

theorem Tagged.append {s t : List Char} {tags : List (List Char)} (h : Tagged t tags)
    (hs : ∀ c ∈ s, c ≠ '\\' ∧ c ≠ '[') : Tagged (s ++ t) tags := by
  induction s with
  | nil => exact h
  | cons c rest ih =>
    have hc := hs c List.mem_cons_self
    refine .plain ?_ (ih fun d hd => hs d (List.mem_cons_of_mem c hd))
    have hnone := @tag?_replicate 0 c (rest ++ t) hc.1
    rw [if_neg hc.2] at hnone
    exact hnone

open CommandLine.Fault (errorLine)

theorem uncoloured_read (markup : String) : Console.uncoloured.read markup = plain? markup := rfl

theorem replaceFrom_eq_self (h : ':' ∉ s) (n : Nat) : Emoji.replaceFrom n s = s := by
  induction n generalizing s with
  | zero => rfl
  | succ n ih =>
    cases s with
    | nil => rfl
    | cons c rest =>
      obtain ⟨hc, hrest⟩ := List.ne_and_not_mem_of_not_mem_cons h
      rw [Emoji.replaceFrom, if_neg hc.symm]
      simp only [ih hrest]

theorem dropEscapes_eq_self (h : '[' ∉ s) : dropEscapes s = s := by
  fun_induction dropEscapes s with
  | case1 => rfl
  | case2 rest ih => simp at h
  | case3 c rest hne ih => rw [ih (List.ne_and_not_mem_of_not_mem_cons h).2]

theorem piecesFrom_eq_collected (h : '[' ∉ s) (n : Nat) (pending : List Char) (hn : s.length ≤ n) :
    piecesFrom n pending s = collected (s.reverse ++ pending) := by
  induction s generalizing n pending with
  | nil => cases n <;> rfl
  | cons c rest ih =>
    cases n with
    | zero => cases hn
    | succ n =>
      -- A tag would begin with a bracket.
      have hnone : tag? (c :: rest) = none := by
        by_contra htag
        obtain ⟨⟨slashes, content, after⟩, hfound⟩ := Option.ne_none_iff_exists'.mp htag
        obtain ⟨-, hs⟩ := tag?_eq_some.mp hfound
        rw [hs] at h
        simp at h
      rw [piecesFrom, hnone, List.reverse_cons, List.append_assoc]
      exact ih (List.ne_and_not_mem_of_not_mem_cons h).2 n (c :: pending) (Nat.le_of_succ_le_succ hn)

/-- A text without brackets, colons and control characters is read as it is. -/
theorem read_eq_toList {text : String}
    (h : ∀ c ∈ text.toList, c ≠ '[' ∧ c ≠ ':' ∧ isSuppressed c = false) :
    Console.uncoloured.read text = some text.toList := by
  have hbracket : '[' ∉ text.toList := fun hm => (h _ hm).1 rfl
  have hcolon : ':' ∉ text.toList := fun hm => (h _ hm).2.1 rfl
  have hplain : plainFrom [] (collected text.toList.reverse) = some text.toList := by
    unfold collected
    cases hempty : text.toList with
    | nil => rfl
    | cons c rest =>
      rw [hempty] at hbracket hcolon
      rw [if_neg (by simp), List.reverse_reverse]
      simp only [plainFrom, Option.map_some, dropEscapes_eq_self hbracket, Emoji.replace,
        replaceFrom_eq_self hcolon, List.append_nil]
  rw [uncoloured_read, plain?, pieces, piecesFrom_eq_collected hbracket _ _ le_rfl, List.append_nil, hplain,
    Option.map_some, List.filter_eq_self.mpr]
  intro c hc
  rw [(h c hc).2.2]
  rfl

end ViewGen.Markup
