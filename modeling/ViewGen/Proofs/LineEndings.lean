import ViewGen.Proofs.Concatenation
import ViewGen.Proofs.Decisions
import ViewGen.Proofs.ManifestLoads

/-!
# Line endings of schema files

A file's carriage returns have become line feeds when its text is cut into lines, and a text falls into
the same lines without that.  A schema file is therefore read as the text that its bytes encode, and says
the same whichever ending its lines have.
-/

namespace ViewGen

/-! ## Lines -/

namespace Text

theorem unifyBreaks_alone {s : List Char} (h : s.head? ≠ some '\n') :
    unifyBreaks ('\r' :: s) = '\n' :: unifyBreaks s := by
  rw [unifyBreaks, if_pos rfl]
  rintro rest - rfl
  exact h rfl

theorem linesFrom_unifyBreaks (line s : List Char) :
    linesFrom line (unifyBreaks s) = linesFrom line s := by
  -- On the breaks of the text, of which a carriage return takes a line feed after it.
  induction line, s using linesFrom.induct with
  | case1 line => rfl
  | case2 line => rfl
  | case3 line rest ih =>
    rw [unifyBreaks, linesFrom_of_break (by decide) fun h => absurd h (by decide), ih, linesFrom]
  | case4 line c rest hpair hc ih =>
    have halone : c = '\r' → rest.head? ≠ some '\n' := by
      intro hreturn hhead
      obtain ⟨others, rfl⟩ := List.head?_eq_some_iff.mp hhead
      exact hpair others hreturn rfl
    rw [linesFrom_of_break hc halone, ← ih]
    by_cases hreturn : c = '\r'
    · subst hreturn
      rw [unifyBreaks_alone (halone rfl), linesFrom_of_break (by decide) fun h => absurd h (by decide)]
    · rw [unifyBreaks_cons hreturn, linesFrom_of_break hc fun h => absurd h hreturn]
  | case5 line c rest hpair hc ih =>
    have hc : isLineBreak c = false := by simpa using hc
    have hreturn : c ≠ '\r' := by
      rintro rfl
      exact absurd hc (by decide)
    rw [unifyBreaks_cons hreturn, linesFrom_of_not_break hc, linesFrom_of_not_break hc, ih]

/-- However its lines end, a text has the same lines. -/
theorem lines_withLineFeeds (s : String) : lines (withLineFeeds s) = lines s := by
  rw [lines, withLineFeeds, String.toList_ofList, linesFrom_unifyBreaks, lines]

end Text

/-- What can end the lines of a file. -/
inductive LineEnding where
  | lineFeed
  | carriageReturn
  /-- A carriage return and a line feed. -/
  | pair
deriving DecidableEq, Repr

namespace LineEnding

variable {ending : LineEnding} {s : List Char} {c : Char} {b : UInt8}

def chars : LineEnding → List Char
  | .lineFeed => ['\n']
  | .carriageReturn => ['\r']
  | .pair => ['\r', '\n']

def bytes : LineEnding → List UInt8
  | .lineFeed => [0x0A]
  | .carriageReturn => [0x0D]
  | .pair => [0x0D, 0x0A]

/-- A text with the ending in place of every line feed. -/
def respell (ending : LineEnding) (s : List Char) : List Char :=
  s.flatMap fun c => if c = '\n' then ending.chars else [c]

/-- The content of a file with the ending in place of every line feed. -/
def respellBytes (ending : LineEnding) (content : ByteArray) : ByteArray :=
  (content.data.toList.flatMap fun b => if b = 0x0A then ending.bytes else [b]).toByteArray

/-! ## Texts -/

theorem respell_lineFeed (ending : LineEnding) (s : List Char) :
    ending.respell ('\n' :: s) = ending.chars ++ ending.respell s := by
  rw [respell, List.flatMap_cons, if_pos rfl]
  rfl

theorem respell_cons (hc : c ≠ '\n') (s : List Char) :
    ending.respell (c :: s) = c :: ending.respell s := by
  rw [respell, List.flatMap_cons, if_neg hc]
  rfl

theorem head?_respell_carriageReturn (s : List Char) :
    (carriageReturn.respell s).head? ≠ some '\n' := by
  cases s with
  | nil => simp [respell]
  | cons c rest =>
    by_cases hc : c = '\n'
    · subst hc
      simp [respell_lineFeed, chars]
    · simpa [respell_cons hc] using hc

/-- A text without carriage returns is read back from it with any ending. -/
theorem unifyBreaks_respell (ending : LineEnding) (h : '\r' ∉ s) :
    Text.unifyBreaks (ending.respell s) = s := by
  induction s with
  | nil => rfl
  | cons c rest ih =>
    rw [List.mem_cons, not_or] at h
    have hrest := ih h.2
    by_cases hc : c = '\n'
    · subst hc
      rw [respell_lineFeed]
      cases ending with
      | lineFeed => exact (Text.unifyBreaks_cons (by decide) _).trans (congrArg _ hrest)
      | carriageReturn =>
        exact (Text.unifyBreaks_alone (head?_respell_carriageReturn rest)).trans (congrArg _ hrest)
      | pair => exact congrArg ('\n' :: ·) hrest
    · rw [respell_cons hc, Text.unifyBreaks_cons (Ne.symm h.1), hrest]

/-! ## Bytes -/

/-- A byte of ASCII only stands in the encoding of the character that has its number. -/
theorem mem_utf8EncodeChar (hb : b < 0x80) : b ∈ String.utf8EncodeChar c ↔ c.toNat = b.toNat := by
  have hbyte : b.toNat < 128 := hb
  have hcode : c.toNat = c.val.toNat := rfl
  unfold String.utf8EncodeChar
  dsimp only
  -- In the longer encodings every byte is beyond ASCII.
  split_ifs <;>
    simp only [List.mem_cons, List.not_mem_nil, or_false, ← UInt8.toNat_inj, UInt8.toNat_ofNat'] <;>
    omega

theorem mem_toUTF8 (hb : b < 0x80) {text : String} :
    b ∈ text.toUTF8.data.toList ↔ ∃ c ∈ text.toList, c.toNat = b.toNat := by
  rw [String.toUTF8_eq_toByteArray, ← String.utf8Encode_toList, List.utf8Encode,
    List.toList_data_toByteArray, List.mem_flatMap]
  simp only [mem_utf8EncodeChar hb]

theorem flatMap_utf8EncodeChar (ending : LineEnding) (c : Char) :
    ((String.utf8EncodeChar c).flatMap fun b => if b = 0x0A then ending.bytes else [b]) =
      (if c = '\n' then ending.chars else [c]).flatMap String.utf8EncodeChar := by
  by_cases hc : c = '\n'
  · subst hc
    cases ending <;> decide
  · have hbyte : ∀ b ∈ String.utf8EncodeChar c, (if b = 0x0A then ending.bytes else [b]) = [b] := by
      intro b hb
      refine if_neg ?_
      rintro rfl
      have hcode := (mem_utf8EncodeChar (by decide)).mp hb
      exact hc (Char.ext (UInt32.toNat_inj.mp hcode))
    rw [List.flatMap_congr hbyte, if_neg hc, List.flatMap_singleton, List.flatMap_singleton']

/-- Respelling the bytes of a file respells its text. -/
theorem respellBytes_toUTF8 (ending : LineEnding) (text : String) :
    ending.respellBytes text.toUTF8 = (String.ofList (ending.respell text.toList)).toUTF8 := by
  rw [String.toUTF8_eq_toByteArray, String.toUTF8_eq_toByteArray, String.toByteArray_ofList,
    ← String.utf8Encode_toList, respellBytes, List.utf8Encode, List.utf8Encode,
    List.toList_data_toByteArray, List.flatMap_assoc, respell, List.flatMap_assoc]
  simp only [flatMap_utf8EncodeChar]

end LineEnding

/-! ## Schema files -/

namespace Schema

variable {disk : Disk} {current : Location} {path : Path} {content : ByteArray} {text : String}

theorem parse_withLineFeeds (text : String) : parse (Text.withLineFeeds text) = parse text := by
  rw [parse, Text.lines_withLineFeeds, parse]

/-- A schema file is read as the text that its bytes encode. -/
theorem read_of_text (hfile : disk.fileContent current path = .ok content)
    (htext : Utf8.decode content = .ok text) :
    read disk current path = ((parse text).map models).mapError .malformed := by
  have hread : disk.readText current path = .ok (Text.withLineFeeds text) := by
    simp only [Disk.readText, hfile, htext]
  simp only [read, hread, Except.mapError, Except.bind, parse_withLineFeeds]
  cases parse text <;> rfl

/-- A schema file gives what its text gives, the models or the first faulty line with its number, and so
does every file with the same text but for the ending of its lines. -/
theorem ofFile_answers_text {w : World} (hfile : w.disk.fileContent w.current path = .ok content)
    (htext : Utf8.decode content = .ok text) :
    (ofFile path).Answers w (((parse text).map models).mapError .malformed) ∧
      (0x0D ∉ content.data.toList → ∀ (ending : LineEnding) (v : World) (other : Path),
        v.disk.fileContent v.current other = .ok (ending.respellBytes content) →
          (ofFile other).Answers v (((parse text).map models).mapError .malformed)) := by
  refine ⟨read_of_text hfile htext ▸ ofFile_answers path w, ?_⟩
  intro hreturn ending v other hother
  obtain rfl := Utf8.decode_eq_ok.mp htext
  have hplain : '\r' ∉ text.toList := fun hm =>
    hreturn ((LineEnding.mem_toUTF8 (by decide)).mpr ⟨'\r', hm, rfl⟩)
  rw [LineEnding.respellBytes_toUTF8] at hother
  have hread := read_of_text hother (Utf8.decode_toUTF8 _)
  have hunified : Text.withLineFeeds (String.ofList (ending.respell text.toList)) = text := by
    rw [Text.withLineFeeds, String.toList_ofList, LineEnding.unifyBreaks_respell ending hplain,
      String.ofList_toList]
  rw [← parse_withLineFeeds, hunified] at hread
  exact hread ▸ ofFile_answers other v

end Schema

/-- A schema text whose fourth line lacks a type. -/
def Schema.typeless : String := "model A \x7b\n\n  x Int\n  y\n\x7d\n"

/-- A world with that text under its own line feeds, with both other endings, and with a mixture of
endings. -/
def World.typeless : World :=
  { World.bare with disk := ⟨[(["s"], .file Schema.typeless.toUTF8 0),
      (["t"], .file (LineEnding.pair.respellBytes Schema.typeless.toUTF8) 0),
      (["u"], .file (LineEnding.carriageReturn.respellBytes Schema.typeless.toUTF8) 0),
      (["v"], .file "model A \x7b\r\r\n  x Int\u2028  y\r\x7d".toUTF8 0)]⟩ }

theorem Schema.ofFile_answers_text_typeless :
    (ofFile (Path.parse "s")).Answers .typeless (.error (.malformed ⟨"y", some 4⟩)) ∧
      (ofFile (Path.parse "t")).Answers .typeless (.error (.malformed ⟨"y", some 4⟩)) ∧
      (ofFile (Path.parse "u")).Answers .typeless (.error (.malformed ⟨"y", some 4⟩)) ∧
      (ofFile (Path.parse "v")).Answers .typeless (.error (.malformed ⟨"y", some 4⟩)) := by
  have hparse : parse typeless = .error ⟨"y", some 4⟩ := by decide
  have hmixed : parse "model A \x7b\r\r\n  x Int\u2028  y\r\x7d" = .error ⟨"y", some 4⟩ := by
    decide
  have hplain : 0x0D ∉ typeless.toUTF8.data.toList := by decide
  have hfile : World.typeless.disk.fileContent [] (Path.parse "s") = .ok typeless.toUTF8 := rfl
  obtain ⟨hs, hothers⟩ := ofFile_answers_text (w := .typeless) hfile (Utf8.decode_toUTF8 typeless)
  have ht := hothers hplain .pair .typeless (Path.parse "t") rfl
  have hu := hothers hplain .carriageReturn .typeless (Path.parse "u") rfl
  have hmixture : World.typeless.disk.fileContent [] (Path.parse "v") =
      .ok "model A \x7b\r\r\n  x Int\u2028  y\r\x7d".toUTF8 := rfl
  obtain ⟨hv, -⟩ := ofFile_answers_text (w := .typeless) hmixture (Utf8.decode_toUTF8 _)
  rw [hparse] at hs ht hu
  rw [hmixed] at hv
  exact ⟨hs, ht, hu, hv⟩

end ViewGen
