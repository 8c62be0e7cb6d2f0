import Mathlib.Data.List.Basic
import ViewGen.Manifest.Store

/-!
# The text of a manifest

A manifest is written in ASCII characters, and the text reads back as the same manifest: every unit of
a text survives its escape, every literal is one token, and the tokens make up the value that the
check turns into the entries.
-/

namespace ViewGen

namespace Units

/-! ## Characters as units -/

theorem ofNat_inj_of_lt {m n : Nat} (hm : m < 0x10000) (hn : n < 0x10000)
    (h : UInt16.ofNat m = UInt16.ofNat n) : m = n := by
  have ht := congrArg UInt16.toNat h
  rw [UInt16.toNat_ofNat', UInt16.toNat_ofNat'] at ht
  omega

/-- No character's units begin another character's units, so what follows them can be told apart. -/
theorem ofChar_append_inj {c d : Char} {s t : List UInt16} (h : ofChar c ++ s = ofChar d ++ t) :
    c = d ∧ s = t := by
  have hc : c.toNat < 0xD800 ∨ (0xDFFF < c.toNat ∧ c.toNat < 0x110000) := c.valid
  have hd : d.toNat < 0xD800 ∨ (0xDFFF < d.toNat ∧ d.toNat < 0x110000) := d.valid
  suffices hn : c.toNat = d.toNat ∧ s = t from ⟨Char.toNat_inj.mp hn.1, hn.2⟩
  unfold ofChar at h
  -- A character of one unit is no surrogate, so it differs from the first of a character of two.
  by_cases hc2 : c.toNat < 0x10000 <;> by_cases hd2 : d.toNat < 0x10000
  · simp only [hc2, hd2, if_true, List.cons_append, List.nil_append, List.cons.injEq] at h
    exact ⟨ofNat_inj_of_lt hc2 hd2 h.1, h.2⟩
  · simp only [hc2, hd2, if_true, if_false, List.cons_append, List.nil_append,
      List.cons.injEq] at h
    have := ofNat_inj_of_lt hc2 (by omega) h.1
    omega
  · simp only [hc2, hd2, if_true, if_false, List.cons_append, List.nil_append,
      List.cons.injEq] at h
    have := ofNat_inj_of_lt (by omega) hd2 h.1
    omega
  · simp only [hc2, hd2, if_false, List.cons_append, List.nil_append, List.cons.injEq] at h
    obtain ⟨hhigh, hlow, hrest⟩ := h
    have := ofNat_inj_of_lt (by omega) (by omega) hhigh
    have := ofNat_inj_of_lt (by omega) (by omega) hlow
    exact ⟨by omega, hrest⟩

theorem flatMap_ofChar_inj {s t : List Char} (h : s.flatMap ofChar = t.flatMap ofChar) :
    s = t := by
  have hne (c : Char) (rest : List UInt16) : ofChar c ++ rest ≠ [] := by
    unfold ofChar
    dsimp only
    split <;> simp
  induction s generalizing t with
  | nil =>
    cases t with
    | nil => rfl
    | cons d t => exact absurd h.symm (hne d _)
  | cons c s ih =>
    cases t with
    | nil => exact absurd h (hne c _)
    | cons d t =>
      obtain ⟨hcd, hst⟩ := ofChar_append_inj h
      rw [hcd, ih hst]

@[simp] theorem ofString_inj {s t : String} : ofString s = ofString t ↔ s = t := by
  constructor
  · intro h
    simp only [ofString, ofChars, Units.mk.injEq] at h
    exact String.toList_inj.mp (flatMap_ofChar_inj h)
  · rintro rfl
    rfl

end Units

namespace Json

/-! ## Literals -/

private theorem hexValue?_digitChar : ∀ d < 16, Text.hexValue? (Nat.digitChar d) = some d := by
  decide

theorem unit?_hexDigits {n : Nat} (hn : n < 65536) :
    Token.unit? (Nat.digitChar (n / 16 / 16 / 16 % 16)) (Nat.digitChar (n / 16 / 16 % 16))
      (Nat.digitChar (n / 16 % 16)) (Nat.digitChar (n % 16)) = some (UInt16.ofNat n) := by
  unfold Token.unit?
  rw [hexValue?_digitChar _ (Nat.mod_lt _ (by decide)),
    hexValue?_digitChar _ (Nat.mod_lt _ (by decide)),
    hexValue?_digitChar _ (Nat.mod_lt _ (by decide)),
    hexValue?_digitChar _ (Nat.mod_lt _ (by decide))]
  have he : ((n / 16 / 16 / 16 % 16 * 16 + n / 16 / 16 % 16) * 16 + n / 16 % 16) * 16 + n % 16 =
      n := by omega
  simp only [he]

theorem textBody_hexDigits (u : UInt16) (rest : List Char) :
    Token.textBody ('\\' :: 'u' :: Text.hexDigits 4 u.toNat ++ rest) =
      (Token.textBody rest).map fun p => (u :: p.1, p.2) := by
  have hu := unit?_hexDigits u.toNat_lt
  rw [UInt16.ofNat_toNat] at hu
  simp only [Text.hexDigits, List.nil_append, List.cons_append, Token.textBody, hu]
  cases Token.textBody rest <;> rfl

theorem textBody_escape {e : Char} {u : UInt16} (he : Token.escape? e = some u) (hu : e ≠ 'u')
    (rest : List Char) :
    Token.textBody ('\\' :: e :: rest) = (Token.textBody rest).map fun p => (u :: p.1, p.2) := by
  -- The equation of this branch asks for the four digits after a `u` to be ruled out first.
  rw [Token.textBody.eq_def]
  split
  · rename_i h
    cases h
  · rename_i h
    cases h
  · rename_i h
    cases h
    exact absurd rfl hu
  · rename_i h
    cases h
    rw [he]
    cases Token.textBody rest <;> rfl
  · rename_i hs h
    cases h
    exact absurd rfl (hs e rest rfl)

theorem textBody_plain {c : Char} (hq : c ≠ '"') (hb : c ≠ '\\') (hc : 0x20 ≤ c.toNat)
    (rest : List Char) :
    Token.textBody (c :: rest) =
      (Token.textBody rest).map fun p => (Units.ofChar c ++ p.1, p.2) := by
  rw [Token.textBody.eq_def]
  split
  · rename_i h
    cases h
  · rename_i h
    cases h
    exact absurd rfl hq
  · rename_i h
    cases h
    exact absurd rfl hb
  · rename_i h
    cases h
    exact absurd rfl hb
  · rename_i h
    cases h
    have hn : ¬ (decide (c.toNat < 0x20) || decide (c = '\\')) = true := by
      simp only [Bool.or_eq_true, decide_eq_true_eq, not_or]
      exact ⟨by omega, hb⟩
    rw [if_neg hn]
    cases Token.textBody rest <;> rfl

private theorem toNat_ofNat_ascii : ∀ n < 0x7F, (Char.ofNat n).toNat = n := by
  decide

/-- The class of the units that need no escape. -/
theorem unitText_of_printable {u : UInt16} (hq : u ≠ 0x22) (hb : u ≠ 0x5C) (hlo : 0x20 ≤ u.toNat)
    (hhi : u.toNat < 0x7F) : unitText u = [Char.ofNat u.toNat] := by
  have hne (v : UInt16) (hv : v.toNat < 0x20) : u ≠ v := by
    rintro rfl
    omega
  unfold unitText
  rw [if_neg hq, if_neg hb, if_neg (hne _ (by decide)), if_neg (hne _ (by decide)),
    if_neg (hne _ (by decide)), if_neg (hne _ (by decide)), if_neg (hne _ (by decide)), if_pos]
  rw [Bool.and_eq_true, decide_eq_true_eq, decide_eq_true_eq]
  exact ⟨hlo, hhi⟩

theorem textBody_unitText (u : UInt16) (rest : List Char) :
    Token.textBody (unitText u ++ rest) =
      (Token.textBody rest).map fun p => (u :: p.1, p.2) := by
  by_cases hp : 0x20 ≤ u.toNat ∧ u.toNat < 0x7F ∧ u ≠ 0x22 ∧ u ≠ 0x5C
  · obtain ⟨hlo, hhi, hq, hb⟩ := hp
    have hc : (Char.ofNat u.toNat).toNat = u.toNat := toNat_ofNat_ascii _ hhi
    have hne (c : Char) (h : u.toNat ≠ c.toNat) : Char.ofNat u.toNat ≠ c := by
      rintro rfl
      exact h hc.symm
    rw [unitText_of_printable hq hb hlo hhi, List.singleton_append,
      textBody_plain (hne _ fun h => hq (UInt16.toNat_inj.mp h))
        (hne _ fun h => hb (UInt16.toNat_inj.mp h)) (by omega)]
    have ho : Units.ofChar (Char.ofNat u.toNat) = [u] := by
      simp only [Units.ofChar, hc, if_pos (show u.toNat < 0x10000 by omega), UInt16.ofNat_toNat]
    rw [ho]
    rfl
  · unfold unitText
    -- Seven units have an escape of one letter; of the others a printable one is excluded by now.
    iterate 7 (split; · subst u; exact textBody_escape rfl (by decide) rest)
    split
    · rename_i hr
      rw [Bool.and_eq_true, decide_eq_true_eq, decide_eq_true_eq] at hr
      exact absurd ⟨hr.1, hr.2, ‹_›, ‹_›⟩ hp
    · exact textBody_hexDigits u rest

theorem textBody_literal (units : List UInt16) (rest : List Char) :
    Token.textBody (units.flatMap unitText ++ '"' :: rest) = some (units, rest) := by
  -- On the units: what stands for the first is read off, and the quote ends the rest.
  induction units with
  | nil => simp [Token.textBody]
  | cons u units ih =>
    rw [List.flatMap_cons, List.append_assoc, textBody_unitText, ih]
    rfl

/-! ## Tokens -/

/-- The tokens that a text is cut into, if there is fuel enough. -/
def Scans (s : List Char) (tokens : List Token) : Prop :=
  ∀ fuel, s.length < fuel → Token.scanFrom fuel s = tokens

namespace Scans

variable {s : List Char} {tokens : List Token}

theorem nil : Scans [] [] := by
  intro fuel hf
  cases fuel with
  | zero => exact absurd hf (Nat.not_lt_zero _)
  | succ fuel => rfl

theorem scan (h : Scans s tokens) : Token.scan s = tokens :=
  h _ (Nat.lt_succ_self _)

theorem space {c : Char} (hc : Token.isSpace c = true) (h : Scans s tokens) :
    Scans (c :: s) tokens := by
  intro fuel hf
  cases fuel with
  | zero => exact absurd hf (Nat.not_lt_zero _)
  | succ fuel =>
    have hs := h (fuel + 1) (by rw [List.length_cons] at hf; omega)
    rw [Token.scanFrom] at hs ⊢
    rw [List.dropWhile_cons_of_pos hc]
    exact hs

theorem spaces (blanks : List Char) (hb : blanks.all Token.isSpace = true)
    (h : Scans s tokens) : Scans (blanks ++ s) tokens := by
  induction blanks with
  | nil => exact h
  | cons c blanks ih =>
    rw [List.all_cons, Bool.and_eq_true] at hb
    exact space hb.1 (ih hb.2)

theorem punctuation {c : Char} {token : Token} (hs : Token.isSpace c = false)
    (hc : Token.punctuation? c = some token) (h : Scans s tokens) :
    Scans (c :: s) (token :: tokens) := by
  intro fuel hf
  cases fuel with
  | zero => exact absurd hf (Nat.not_lt_zero _)
  | succ fuel =>
    rw [Token.scanFrom, List.dropWhile_cons_of_neg (by simp [hs])]
    simp only [hc, h fuel (by rw [List.length_cons] at hf; omega)]

theorem literal (t : Units) (h : Scans s tokens) :
    Scans (textLiteral t ++ s) (.scalar (.text t) :: tokens) := by
  have he : textLiteral t ++ s = '"' :: (t.values.flatMap unitText ++ '"' :: s) := by
    simp [textLiteral]
  intro fuel hf
  rw [he] at hf ⊢
  cases fuel with
  | zero => exact absurd hf (Nat.not_lt_zero _)
  | succ fuel =>
    have hlen : s.length < fuel := by
      simp only [List.length_cons, List.length_append] at hf
      omega
    rw [Token.scanFrom, List.dropWhile_cons_of_neg (by decide)]
    have hq : Token.punctuation? '"' = none := rfl
    simp only [hq, Token.scalar?, textBody_literal, Option.map_some, h fuel hlen]

/-- A member's name after the brace or comma before it, with the colon and the blank that follow. -/
theorem name (blanks more : List Char) {p : Char} {token : Token} (n : Units)
    (hb : blanks.all Token.isSpace = true) (hm : more.all Token.isSpace = true)
    (hs : Token.isSpace p = false) (hp : Token.punctuation? p = some token)
    (h : Scans s tokens) :
    Scans (blanks ++ p :: (more ++ (textLiteral n ++ ':' :: ' ' :: s)))
      (token :: .scalar (.text n) :: .colon :: tokens) := by
  have hcolon : Scans (':' :: ' ' :: s) (.colon :: tokens) :=
    punctuation (by decide) rfl (space (by decide) h)
  exact spaces blanks hb (punctuation hs hp (spaces more hm (literal n hcolon)))

end Scans

end Json

namespace ManifestEntry

/-! ## Entries -/

def json (entry : ManifestEntry) : Json :=
  .object [(.ofString "model", .text entry.model), (.ofString "viewType", .text entry.viewType),
    (.ofString "hash", .text entry.hash)]

def tokens (entry : ManifestEntry) : List Json.Token :=
  [.openObject, .scalar (.text (.ofString "model")), .colon, .scalar (.text entry.model),
    .comma, .scalar (.text (.ofString "viewType")), .colon, .scalar (.text entry.viewType),
    .comma, .scalar (.text (.ofString "hash")), .colon, .scalar (.text entry.hash), .closeObject]

theorem scans_lines (entry : ManifestEntry) {s : List Char} {rest : List Json.Token}
    (h : Json.Scans s rest) : Json.Scans (entry.lines ++ s) (entry.tokens ++ rest) := by
  have hclose : Json.Scans ("\n    \x7d".toList ++ s) (.closeObject :: rest) :=
    Json.Scans.spaces "\n    ".toList (by decide)
      (Json.Scans.punctuation (c := '\x7d') (by decide) rfl h)
  have hhash := Json.Scans.name [] "\n      ".toList (p := ',') (.ofString "hash")
    (by decide) (by decide) (by decide) rfl (Json.Scans.literal entry.hash hclose)
  have hviewType := Json.Scans.name [] "\n      ".toList (p := ',') (.ofString "viewType")
    (by decide) (by decide) (by decide) rfl (Json.Scans.literal entry.viewType hhash)
  have hmodel := Json.Scans.name "    ".toList "\n      ".toList (p := '\x7b') (.ofString "model")
    (by decide) (by decide) (by decide) rfl (Json.Scans.literal entry.model hviewType)
  unfold lines
  simp only [List.append_assoc]
  exact hmodel

/-- The tokens of an entry are read as one value of the list they stand in. -/
theorem run_tokens (entry : ManifestEntry) {items : List Json} {frames : List Json.Frame}
    {b : Bool} {limit : Json.DepthLimit} (hdepth : frames.length + 1 < limit.count)
    (rest : List Json.Token) :
    (⟨.array items :: frames, .value b⟩ : Json.State).run limit (entry.tokens ++ rest) =
      (⟨.array items :: frames, .separator entry.json⟩ : Json.State).run limit rest := by
  have hopen : ¬ limit.count ≤ frames.length + 1 := by omega
  simp only [tokens, List.cons_append, List.nil_append, Json.State.run, Json.State.step,
    Json.State.opened, List.length_cons, hopen, if_false]
  rfl

theorem check_json (entry : ManifestEntry) : check entry.json = .ok entry := by
  have hm : (Units.ofString "hash" == Units.ofString "model") = false := by simp
  have hv : (Units.ofString "viewType" == Units.ofString "model") = false := by simp
  have hh : (Units.ofString "hash" == Units.ofString "viewType") = false := by simp
  simp [check, json, requiredText, Json.either?, Json.lookup, hm, hv, hh, Json.checkText,
    Checked.at', Checked.both]

end ManifestEntry

namespace Manifest

/-! ## Manifests -/

def entryTokens : List ManifestEntry → List Json.Token
  | [] => []
  | [entry] => entry.tokens
  | entry :: rest => entry.tokens ++ .comma :: entryTokens rest

def json (manifest : Manifest) : Json :=
  .object [(.ofString "version", .text manifest.version),
    (.ofString "generatedViews", .array (manifest.entries.map ManifestEntry.json))]

def tokens (manifest : Manifest) : List Json.Token :=
  [.openObject, .scalar (.text (.ofString "version")), .colon, .scalar (.text manifest.version),
    .comma, .scalar (.text (.ofString "generatedViews")), .colon, .openArray] ++
    entryTokens manifest.entries ++ [.closeArray, .closeObject]

theorem scans_entryLines (entries : List ManifestEntry) {s : List Char}
    {rest : List Json.Token} (h : Json.Scans s rest) :
    Json.Scans (entryLines entries ++ s) (entryTokens entries ++ rest) := by
  induction entries with
  | nil => exact h
  | cons entry others ih =>
    -- Only an entry that another follows has a comma, so the second entry is looked at too.
    cases others with
    | nil => exact entry.scans_lines h
    | cons second others =>
      have hcomma : Json.Scans (",\n".toList ++ (entryLines (second :: others) ++ s))
          (.comma :: (entryTokens (second :: others) ++ rest)) :=
        .punctuation (c := ',') (by decide) rfl (.space (c := '\n') (by decide) ih)
      have hlines := entry.scans_lines hcomma
      simpa only [entryLines, entryTokens, List.append_assoc, List.cons_append,
        List.nil_append] using hlines

theorem scans_render (manifest : Manifest) :
    Json.Scans manifest.render.toList manifest.tokens := by
  -- From the end of the text to its beginning, since a scan depends on what follows.
  have hend : Json.Scans ['\n', '\x7d'] [.closeObject] :=
    .space (by decide) (.punctuation (by decide) rfl .nil)
  have hentries : Json.Scans
      ((if manifest.entries.isEmpty then "[]".toList
        else "[\n".toList ++ entryLines manifest.entries ++ "\n  ]".toList) ++ ['\n', '\x7d'])
      (.openArray :: (entryTokens manifest.entries ++ [.closeArray, .closeObject])) := by
    cases he : manifest.entries with
    | nil => exact .punctuation (c := '[') (by decide) rfl (.punctuation (by decide) rfl hend)
    | cons entry others =>
      have hclose : Json.Scans ("\n  ]".toList ++ ['\n', '\x7d']) [.closeArray, .closeObject] :=
        .spaces "\n  ".toList (by decide) (.punctuation (c := ']') (by decide) rfl hend)
      have hopen : Json.Scans
          ("[\n".toList ++ (entryLines (entry :: others) ++
            ("\n  ]".toList ++ ['\n', '\x7d']))) _ :=
        .punctuation (c := '[') (by decide) rfl (.space (c := '\n') (by decide)
          (scans_entryLines (entry :: others) hclose))
      simpa only [List.isEmpty_cons, Bool.false_eq_true, if_false, List.append_assoc] using hopen
  have hviews := Json.Scans.name [] "\n  ".toList (p := ',') (.ofString "generatedViews")
    (by decide) (by decide) (by decide) rfl hentries
  have hversion := Json.Scans.name [] "\n  ".toList (p := '\x7b') (.ofString "version")
    (by decide) (by decide) (by decide) rfl (Json.Scans.literal manifest.version hviews)
  unfold render
  simp only [String.toList_ofList, List.append_assoc]
  exact hversion

theorem run_entryTokens (entries : List ManifestEntry) (hne : entries ≠ []) {items : List Json}
    {frames : List Json.Frame} {b : Bool} {limit : Json.DepthLimit}
    (hdepth : frames.length + 1 < limit.count) (rest : List Json.Token) :
    (⟨.array items :: frames, .value b⟩ : Json.State).run limit
        (entryTokens entries ++ .closeArray :: rest) =
      (⟨frames, .separator (.array (items.reverse ++ entries.map ManifestEntry.json))⟩ :
        Json.State).run limit rest := by
  -- The state after an entry is the one before the next, with the entry among the items.
  induction entries generalizing items b with
  | nil => exact absurd rfl hne
  | cons entry others ih =>
    cases others with
    | nil =>
      rw [entryTokens, entry.run_tokens hdepth]
      simp [Json.State.run, Json.State.step]
    | cons second others =>
      rw [entryTokens, List.append_assoc, entry.run_tokens hdepth]
      · have hstep := @ih (by simp) (entry.json :: items) false
        simp only [List.reverse_cons, List.append_assoc, List.singleton_append,
          ← List.map_cons] at hstep
        simpa only [List.cons_append, Json.State.run, Json.State.step, List.map_cons] using hstep
      · simp

theorem ofTokens_tokens (limit : Json.DepthLimit) (manifest : Manifest) :
    Json.ofTokens limit manifest.tokens = .ok manifest.json := by
  have hroom : 3 ≤ limit.count := limit.sufficient
  have hrun : Json.State.start.run limit manifest.tokens =
      .ok ⟨[], .separator manifest.json⟩ := by
    simp only [tokens, Json.State.start, List.cons_append, List.nil_append, Json.State.run,
      Json.State.step, Json.State.opened, List.length_nil, List.length_cons,
      show ¬ limit.count ≤ 0 by omega, show ¬ limit.count ≤ 0 + 1 by omega, if_false]
    by_cases hne : manifest.entries = []
    · simp [hne, entryTokens, Json.State.run, Json.State.step, json]
    · -- The list stands in one object, and an entry of it one deeper, for which there is room.
      rw [run_entryTokens _ hne (by rw [List.length_singleton]; omega)]
      simp [Json.State.run, Json.State.step, json]
  simp only [Json.ofTokens, hrun]

theorem each_check (entries : List ManifestEntry) (n : Nat) :
    Checked.each ManifestEntry.check n (entries.map ManifestEntry.json) = .ok entries := by
  induction entries generalizing n with
  | nil => rfl
  | cons entry others ih =>
    rw [List.map_cons, Checked.each, entry.check_json, ih]
    rfl

theorem check_json (manifest : Manifest) : check manifest.json = .ok manifest := by
  have hv : (Units.ofString "generatedViews" == Units.ofString "version") = false := by simp
  simp [check, json, Json.either?, Json.lookup, hv, Json.checkText, checkEntries, each_check,
    Checked.at', Checked.both]

theorem parse_render (limit : Json.DepthLimit) (manifest : Manifest) :
    Json.parse limit manifest.render = .ok manifest.json := by
  unfold Json.parse
  rw [manifest.scans_render.scan, ofTokens_tokens]

/-- Reading what a manifest is written as gives the manifest. -/
theorem ofText_render (limit : Json.DepthLimit) (manifest : Manifest) :
    ofText limit manifest.render = .usable manifest := by
  simp only [ofText, parse_render, check_json]

end Manifest

/-! ## Characters of the text -/

namespace Text

/-- Texts of the printable characters of ASCII. -/
def Inline (s : List Char) : Prop :=
  ∀ c ∈ s, 0x20 ≤ c.toNat ∧ c.toNat < 0x7F

instance (s : List Char) : Decidable (Inline s) :=
  List.decidableBAll _ s

theorem Inline.append {s t : List Char} (hs : Inline s) (ht : Inline t) : Inline (s ++ t) := by
  intro c hc
  obtain hc | hc := List.mem_append.mp hc
  · exact hs c hc
  · exact ht c hc

theorem inline_hexDigits (width n : Nat) : Inline (hexDigits width n) := by
  have hd : ∀ d < 16, Inline [Nat.digitChar d] := by decide
  induction width generalizing n with
  | zero => exact fun c hc => nomatch hc
  | succ width ih => exact (ih (n / 16)).append (hd _ (Nat.mod_lt _ (by decide)))

/-- Texts of line feeds and the printable characters of ASCII. -/
def Plain (s : List Char) : Prop :=
  ∀ c ∈ s, c = '\n' ∨ (0x20 ≤ c.toNat ∧ c.toNat < 0x7F)

instance (s : List Char) : Decidable (Plain s) :=
  List.decidableBAll _ s

theorem Inline.plain {s : List Char} (h : Inline s) : Plain s :=
  fun c hc => Or.inr (h c hc)

theorem Plain.append {s t : List Char} (hs : Plain s) (ht : Plain t) : Plain (s ++ t) := by
  intro c hc
  obtain hc | hc := List.mem_append.mp hc
  · exact hs c hc
  · exact ht c hc

theorem unifyBreaks_eq_self {s : List Char} (h : Plain s) : unifyBreaks s = s := by
  induction s with
  | nil => rfl
  | cons c rest ih =>
    have hc : c ≠ '\r' := by
      rintro rfl
      exact absurd (h '\r' List.mem_cons_self) (by decide)
    rw [unifyBreaks, if_neg hc, ih fun d hd => h d (List.mem_cons_of_mem c hd)]
    · rintro rest rfl
      exact absurd rfl hc

end Text

namespace Json

theorem inline_unitText (u : UInt16) : Text.Inline (unitText u) := by
  unfold unitText
  iterate 7 (split; · decide)
  split
  · rename_i hr
    rw [Bool.and_eq_true, decide_eq_true_eq, decide_eq_true_eq] at hr
    intro c hc
    rw [List.mem_singleton.mp hc, toNat_ofNat_ascii u.toNat hr.2]
    exact hr
  · exact Text.Inline.append (s := ['\\', 'u']) (by decide) (Text.inline_hexDigits 4 _)

theorem inline_textLiteral (t : Units) : Text.Inline (textLiteral t) := by
  have hbody : Text.Inline (t.values.flatMap unitText) := by
    intro c hc
    obtain ⟨u, -, hu⟩ := List.mem_flatMap.mp hc
    exact inline_unitText u c hu
  exact (Text.Inline.append (s := ['"']) (by decide) hbody).append (by decide)

end Json

theorem ManifestEntry.plain_lines (entry : ManifestEntry) : Text.Plain entry.lines := by
  have hmodel := (Json.inline_textLiteral entry.model).plain
  have hviewType := (Json.inline_textLiteral entry.viewType).plain
  have hhash := (Json.inline_textLiteral entry.hash).plain
  unfold lines
  refine .append (.append (.append (.append (.append (.append ?_ hmodel) ?_) hviewType) ?_) hhash) ?_
  all_goals decide

namespace Manifest

theorem plain_entryLines (entries : List ManifestEntry) : Text.Plain (entryLines entries) := by
  induction entries with
  | nil => exact fun c hc => nomatch hc
  | cons entry others ih =>
    cases others with
    | nil => exact entry.plain_lines
    | cons second others => exact (entry.plain_lines.append (by decide)).append ih

theorem plain_render (manifest : Manifest) : Text.Plain manifest.render.toList := by
  unfold render
  rw [String.toList_ofList]
  have hversion := (Json.inline_textLiteral manifest.version).plain
  refine .append (.append (.append (.append ?_ hversion) ?_) ?_) ?_
  · decide
  · decide
  · split
    · decide
    · exact .append (.append (by decide) (plain_entryLines _)) (by decide)
  · decide

theorem ascii_of_mem_render {manifest : Manifest} {c : Char}
    (hc : c ∈ manifest.render.toList) : c.toNat < 0x80 := by
  obtain rfl | ⟨-, hlt⟩ := manifest.plain_render c hc
  · decide
  · omega

/-- A manifest's text holds no carriage return, so reading it as a file's text changes nothing. -/
theorem withLineFeeds_render (manifest : Manifest) :
    Text.withLineFeeds manifest.render = manifest.render := by
  rw [Text.withLineFeeds, Text.unifyBreaks_eq_self manifest.plain_render, String.ofList_toList]

end Manifest

end ViewGen
