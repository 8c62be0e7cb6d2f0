import ViewGen.Lock.Owner
import ViewGen.Proofs.Blocks
import ViewGen.Proofs.JsonText

/-!
# The text of lock files

A lock file holds one line of printable characters that begins with a brace.  Read as JSON, it names the
process, the host and the time it was written with.  Read as a schema, it is a schema without models,
whoever owns the lock and since when.
-/

namespace ViewGen

namespace Text

variable {s : List Char}

/-! ## One line -/

theorem Inline.cons {c : Char} (hc : 0x20 ≤ c.toNat ∧ c.toNat < 0x7F) (hs : Inline s) :
    Inline (c :: s) := by
  intro d hd
  obtain rfl | hd := List.mem_cons.mp hd
  · exact hc
  · exact hs d hd

theorem Inline.subset {t : List Char} (h : Inline t) (hs : s ⊆ t) : Inline s :=
  fun c hc => h c (hs hc)

theorem inline_replicate (n : Nat) : Inline (List.replicate n '0') := by
  intro c hc
  rw [List.eq_of_mem_replicate hc]
  decide

theorem inline_toDigits (n : Nat) : Inline (Nat.toDigits 10 n) := by
  intro c hc
  have hdigit := Nat.isDigit_of_mem_toDigits (by decide) (by decide) hc
  rw [Char.isDigit, Bool.and_eq_true, decide_eq_true_eq, decide_eq_true_eq] at hdigit
  have hlow : (48 : UInt32).toNat ≤ c.val.toNat := hdigit.1
  have hhigh : c.val.toNat ≤ (57 : UInt32).toNat := hdigit.2
  have hcode : (48 : UInt32).toNat = 48 ∧ (57 : UInt32).toNat = 57 := by decide
  show 0x20 ≤ c.val.toNat ∧ c.val.toNat < 0x7F
  omega

theorem inline_int (n : Int) : Inline (toString n).toList := by
  cases n with
  | ofNat n =>
    show Inline n.repr.toList
    rw [Nat.toList_repr]
    exact inline_toDigits n
  | negSucc n =>
    show Inline ("-" ++ (n + 1).repr).toList
    rw [String.toList_append, Nat.toList_repr]
    exact .append (by decide) (inline_toDigits (n + 1))

theorem Inline.not_isLineBreak (h : Inline s) : ∀ c ∈ s, isLineBreak c = false := by
  intro c hc
  have hrange := h c hc
  refine Bool.eq_false_iff.mpr fun hbreak => ?_
  simp only [isLineBreak, Bool.or_eq_true, Bool.and_eq_true, decide_eq_true_eq, beq_iff_eq] at hbreak
  omega

theorem linesFrom_of_not_isLineBreak (line : List Char) (hs : ∀ c ∈ s, isLineBreak c = false)
    (hne : line.reverse ++ s ≠ []) : linesFrom line s = [line.reverse ++ s] := by
  induction s generalizing line with
  | nil =>
    rw [List.append_nil] at hne ⊢
    have hline : line ≠ [] := fun he => hne (by rw [he, List.reverse_nil])
    rw [linesFrom, if_neg (by simpa using hline)]
  | cons c rest ih =>
    have hc := hs c List.mem_cons_self
    have hrest := fun d hd => hs d (List.mem_cons_of_mem c hd)
    rw [linesFrom, if_neg (by simp [hc]), ih (c :: line) hrest (by simp)]
    · simp
    · -- A carriage return would be a line break.
      rintro others rfl
      exact absurd hc (by decide)

end Text

theorem Binary64.inline_decimalText (digits : Nat) (scale : Int) :
    Text.Inline (decimalText digits scale).toList := by
  unfold decimalText
  generalize dropZeros digits scale 20 = dropped
  obtain ⟨digits, scale⟩ := dropped
  have hdigits := Text.inline_toDigits digits
  have htake : ∀ n, Text.Inline ((Nat.toDigits 10 digits).take n) :=
    fun n => hdigits.subset (List.take_subset n _)
  have hdrop : ∀ n, Text.Inline ((Nat.toDigits 10 digits).drop n) :=
    fun n => hdigits.subset (List.drop_subset n _)
  dsimp only
  -- Without an exponent the point stands before, behind or among the digits.
  split
  · rw [String.toList_ofList]
    split
    · exact .cons (by decide) (.cons (by decide) ((Text.inline_replicate _).append hdigits))
    · split
      · exact (hdigits.append (Text.inline_replicate _)).append (by decide)
      · exact (htake _).append (.cons (by decide) (hdrop _))
  · rw [String.toList_ofList]
    refine .append (.append (.append (htake 1) ?_) ?_) ?_
    · split
      · decide
      · exact .cons (by decide) (hdrop 1)
    · split <;> decide
    · split
      · exact .cons (by decide) (Text.inline_toDigits _)
      · exact Text.inline_toDigits _

theorem Binary64.inline_text (x : Binary64) : Text.Inline x.text.toList := by
  cases x with
  | notANumber => decide
  | infinite negative => cases negative <;> decide
  | finite negative mantissa exponent =>
    have hunsigned : Text.Inline (if mantissa = 0 then "0.0" else
        decimalText (shortest mantissa exponent).1 (shortest mantissa exponent).2).toList := by
      split
      · decide
      · exact inline_decimalText _ _
    unfold text
    cases negative with
    | false => exact hunsigned
    | true =>
      have hsigned := Text.Inline.append (s := "-".toList) (by decide) hunsigned
      rw [← String.toList_append] at hsigned
      exact hsigned

theorem Json.inline_realText (x : Binary64) : Text.Inline (realText x).toList := by
  cases x with
  | notANumber => decide
  | infinite negative => cases negative <;> decide
  | finite negative mantissa exponent => exact Binary64.inline_text _

/-! ## The lock file -/

theorem Lock.Owner.content_eq (machine : Machine) (now : Moment) :
    ∃ rest, (content machine now).toList = '\x7b' :: rest ∧ Text.Inline ('\x7b' :: rest) := by
  have hpid := Text.inline_int machine.processId
  have hhost := Json.inline_textLiteral (.ofString machine.hostName)
  have htime := Json.inline_realText (Binary64.ofRatio (now < 0) now.natAbs 1000)
  have hall : Text.Inline (content machine now).toList := by
    unfold content
    simp only [String.toList_append, String.toList_ofList]
    refine .append (.append (.append (.append (.append (.append ?_ hpid) ?_) hhost) ?_) htime) ?_
    all_goals decide
  have hfirst : ∃ rest, (content machine now).toList = '\x7b' :: rest := by
    unfold content
    simp only [String.toList_append, List.append_assoc]
    exact ⟨_, rfl⟩
  obtain ⟨rest, hrest⟩ := hfirst
  exact ⟨rest, hrest, hrest ▸ hall⟩

/-! ## As the name of an owner -/

/-- The members of the object that a lock file holds. -/
def Lock.Owner.members (machine : Machine) (time : Binary64) : List (Units × Json) :=
  [(.ofString "pid", .integer machine.processId),
    (.ofString "hostname", .text (.ofString machine.hostName)),
    (.ofString "timestamp", .real time)]

def Lock.Owner.tokens (machine : Machine) (time : Binary64) : List Json.Token :=
  [.openObject, .scalar (.text (.ofString "pid")), .colon, .scalar (.integer machine.processId),
    .comma, .scalar (.text (.ofString "hostname")), .colon,
    .scalar (.text (.ofString machine.hostName)),
    .comma, .scalar (.text (.ofString "timestamp")), .colon, .scalar (.real time), .closeObject]

theorem Json.Token.follows_cons {c : Char} (rest : List Char)
    (hc : c.isDigit = false ∧ c ≠ '.' ∧ c ≠ 'e' ∧ c ≠ 'E') : Follows (c :: rest) := by
  intro d hd
  obtain rfl : c = d := by simpa using hd
  exact hc

theorem Lock.Owner.scans_content {machine : Machine} (now : Moment)
    (hfits : fitsProcessId machine.processId = true) :
    ∃ time, Json.Scans (content machine now).toList (tokens machine time) := by
  have hpid : (Nat.toDigits 10 machine.processId.natAbs).length ≤ Json.Token.digitLimit := by
    rw [fitsProcessId, Bool.and_eq_true, decide_eq_true_eq, decide_eq_true_eq] at hfits
    have hshort : (Nat.toDigits 10 machine.processId.natAbs).length ≤ 10 :=
      (Nat.length_toDigits_le_iff (by decide) (by decide)).mpr (by omega)
    exact hshort.trans (by decide)
  -- From the end of the text to its beginning, since a scan depends on what follows.
  have hend : Json.Scans ['\x7d'] [.closeObject] := .punctuation (by decide) rfl .nil
  obtain ⟨time, htime⟩ := Json.Scans.real (Binary64.ofRatio (now < 0) now.natAbs 1000)
    (Json.Token.follows_cons [] (by decide)) hend
  have htimestamp := Json.Scans.name [] [' '] (p := ',') (.ofString "timestamp")
    (by decide) (by decide) (by decide) rfl htime
  have hhost := Json.Scans.name [] [' '] (p := ',') (.ofString "hostname")
    (by decide) (by decide) (by decide) rfl
    (Json.Scans.literal (.ofString machine.hostName) htimestamp)
  have hprocess := Json.Scans.name [] [] (p := '\x7b') (.ofString "pid")
    (by decide) (by decide) (by decide) rfl
    (Json.Scans.integer machine.processId hpid (Json.Token.follows_cons _ (by decide)) hhost)
  refine ⟨time, ?_⟩
  unfold content
  simp only [String.toList_append, String.toList_ofList, List.append_assoc]
  exact hprocess

/-- What a process writes into a lock file reads back as its number and host, with some time. -/
theorem Lock.Owner.parse_content {machine : Machine} (now : Moment)
    (hfits : fitsProcessId machine.processId = true) :
    ∃ time, ∀ limit, Json.parse limit (content machine now) =
      .ok (.object (members machine time)) := by
  obtain ⟨time, hscans⟩ := scans_content now hfits
  refine ⟨time, fun limit => ?_⟩
  have hopen : ¬ limit.count ≤ Json.State.start.frames.length :=
    Nat.not_le.mpr (Nat.lt_of_lt_of_le (by decide) limit.sufficient)
  have hbegin : Json.State.start.step limit .openObject = .ok ⟨[], .name [] true⟩ :=
    (Json.State.step_openObject rfl).trans (if_neg hopen)
  rw [Json.parse, hscans.scan, Json.ofTokens, tokens, Json.State.run, hbegin]
  rfl

theorem Lock.Owner.ofText_withLineFeeds (limit : Json.DepthLimit) (text : String) :
    ofText limit (Text.withLineFeeds text) = ofText limit text := by
  rw [ofText, ofText, Json.parse_withLineFeeds]

/-! ## As a schema -/

namespace Schema

theorem trimChars_cons {p : Char → Bool} {c : Char} (hc : p c = false) (s : List Char) :
    ∃ rest, Text.trimChars p (c :: s) = c :: rest := by
  rw [Text.trimChars, List.dropWhile_cons_of_neg (by simp [hc]), List.reverse_cons,
    List.dropWhile_append]
  split
  · rw [List.dropWhile_cons_of_neg (by simp [hc])]
    exact ⟨[], rfl⟩
  · rw [List.reverse_append]
    exact ⟨_, rfl⟩

/-- A line that begins with a brace is no header. -/
theorem not_isHeader_of_brace (s : List Char) : ¬ IsHeader (String.ofList ('\x7b' :: s)) := by
  have hblank : Text.isBlank '\x7b' = false := by decide
  obtain ⟨more, others, he, -⟩ := Text.wordsFrom_cons (List.cons_ne_nil '\x7b' []) s
  unfold IsHeader Text.words
  rw [String.toList_ofList, Text.wordsFrom, if_neg (by simp [hblank]), he, List.map_cons,
    List.head?_cons, Option.some.injEq]
  intro hmodel
  have hfirst := congrArg (fun word : String => word.toList.head?) hmodel
  rw [String.toList_ofList] at hfirst
  exact absurd hfirst (by simp)

theorem ofLine_ne_header {line : String} (hline : Text.words line = [] → line = "")
    (h : ¬ IsHeader line) (name : Option String) : LineRole.ofLine line ≠ .header name := by
  intro he
  have hspec := role_spec hline
  rw [he] at hspec
  exact h hspec.1

/-- A text of one line that begins with a brace is a schema without models. -/
theorem parse_of_brace {s : List Char} (h : Text.Inline ('\x7b' :: s)) :
    parse (Text.withLineFeeds (String.ofList ('\x7b' :: s))) = .ok ⟨[], none⟩ := by
  obtain ⟨rest, hstrip⟩ := trimChars_cons (p := Text.isBlank) (c := '\x7b') (by decide) s
  have hlines := Text.linesFrom_of_not_isLineBreak [] h.not_isLineBreak (by simp)
  rw [parse, Text.withLineFeeds, String.toList_ofList, Text.unifyBreaks_eq_self h.plain, Text.lines,
    String.toList_ofList, hlines, List.reverse_nil, List.nil_append, List.map_singleton,
    List.map_singleton]
  have hheader : ¬ IsHeader (Text.strip (String.ofList ('\x7b' :: s))) := by
    rw [Text.strip, String.toList_ofList, hstrip]
    exact not_isHeader_of_brace rest
  have hrole := ofLine_ne_header Text.eq_empty_of_words_strip hheader
  rw [ofLines_outside hrole, ofLines]
  rfl

theorem parse_lock (machine : Machine) (now : Moment) :
    parse (Text.withLineFeeds (Lock.Owner.content machine now)) = .ok ⟨[], none⟩ := by
  obtain ⟨rest, hrest, hinline⟩ := Lock.Owner.content_eq machine now
  have hparse := parse_of_brace hinline
  rw [← hrest, String.ofList_toList] at hparse
  exact hparse

end Schema

end ViewGen
