import ViewGen.Proofs.Blocks

/-!
# Schema texts after one another

Reading lines goes from one open model to the next and commits models on the way, so lines are read in
parts, each from the model that the part before it leaves open.  Two texts of which the first leaves no
model open, or the second opens one before it says anything else, are therefore read as one text just as
each is by itself, with the faults of the second one further down.
-/

namespace ViewGen

/-! ## The seam -/

namespace Text

section

variable {c : Char} {line rest : List Char}

theorem linesFrom_of_break (hc : isLineBreak c = true)
    (hpair : c = '\r' → rest.head? ≠ some '\n') :
    linesFrom line (c :: rest) = line.reverse :: linesFrom [] rest := by
  rw [linesFrom, if_pos hc]
  rintro others hreturn rfl
  exact hpair hreturn rfl

theorem linesFrom_of_not_break (hc : isLineBreak c = false) :
    linesFrom line (c :: rest) = linesFrom (c :: line) rest := by
  rw [linesFrom, if_neg (by simp [hc])]
  rintro others rfl
  exact absurd hc (by decide)

end

/-- A line feed ends a line, whatever breaks stand before it. -/
theorem linesFrom_append_lineFeed (line s t : List Char) :
    linesFrom line (s ++ '\n' :: t) = linesFrom line (s ++ ['\n']) ++ linesFrom [] t := by
  -- On the breaks of the first text, of which a carriage return takes a line feed after it.
  induction line, s using linesFrom.induct with
  | case1 line => rfl
  | case2 line => rfl
  | case3 line rest ih => simp only [List.cons_append, linesFrom, ih]
  | case4 line c rest hpair hc ih =>
    by_cases hlast : c = '\r' ∧ rest = []
    · obtain ⟨rfl, rfl⟩ := hlast
      rfl
    · have hhead : ∀ others, c = '\r' → (rest ++ '\n' :: others).head? ≠ some '\n' := by
        intro others hreturn
        cases rest with
        | nil => exact absurd ⟨hreturn, rfl⟩ hlast
        | cons d rest =>
          rw [List.cons_append, List.head?_cons, ne_eq, Option.some.injEq]
          rintro rfl
          exact hpair rest hreturn rfl
      rw [List.cons_append, List.cons_append, linesFrom_of_break hc (hhead t),
        linesFrom_of_break hc (hhead []), ih, List.cons_append]
  | case5 line c rest hpair hc ih =>
    have hc : isLineBreak c = false := by simpa using hc
    rw [List.cons_append, List.cons_append, linesFrom_of_not_break hc, linesFrom_of_not_break hc, ih]

theorem lines_append {a : String} (ha : a = "" ∨ a.toList.getLast? = some '\n') (b : String) :
    lines (a ++ b) = lines a ++ lines b := by
  obtain rfl | hlast := ha
  · rw [String.empty_append]
    rfl
  · obtain ⟨s, hs⟩ := List.getLast?_eq_some_iff.mp hlast
    have hseam := linesFrom_append_lineFeed [] s b.toList
    unfold lines
    rw [String.toList_append, hs, List.append_assoc, List.singleton_append, hseam, List.map_append]

end Text

/-! ## Reading in parts -/

/-- The fault as it is with that many lines more above it. -/
def SyntaxFault.below (above : Nat) (fault : SyntaxFault) : SyntaxFault :=
  { fault with lineNumber := fault.lineNumber.map (· + above) }

theorem Field.parse_below (above : Nat) (line : String) (n : Nat) :
    Field.parse line (some ((n + above : Nat) : Int)) =
      (Field.parse line (some (n : Int))).mapError (·.below above) := by
  unfold Field.parse
  split
  · rfl
  · rw [Int.natCast_add]
    rfl

namespace Schema

/-- How far reading has got: the number of the line to come, the models committed so far, and the model
that is open. -/
structure Progress where
  next : Nat
  committed : List Model
  current : Option Model

namespace Progress

def start : Progress := ⟨1, [], none⟩

/-- Reads one line. -/
def read (progress : Progress) (line : String) : Except SyntaxFault Progress :=
  match LineRole.ofLine line, progress.current with
  | .header none, _ => .error { line, lineNumber := some progress.next }
  | .header (some name), current =>
    .ok ⟨progress.next + 1, progress.committed ++ current.toList, some { name, fields := [] }⟩
  | .closing, some model => .ok ⟨progress.next + 1, progress.committed ++ [model], none⟩
  | .field, some model =>
    (Field.parse line (some progress.next)).map fun field =>
      ⟨progress.next + 1, progress.committed, some { model with fields := model.fields ++ [field] }⟩
  | _, current => .ok ⟨progress.next + 1, progress.committed, current⟩

/-- Reads lines one after the other, up to the first faulty one. -/
def readAll (progress : Progress) (lines : List String) : Except SyntaxFault Progress :=
  lines.foldlM read progress

/-- The schema that there is if no line comes any more. -/
def schema (progress : Progress) : Schema where
  models := progress.committed ++ progress.current.toList
  unclosed := progress.current.map (·.name)

/-- The progress with that many lines more above it, and with those models committed there. -/
def below (above : Nat) (earlier : List Model) (progress : Progress) : Progress :=
  { progress with next := progress.next + above, committed := earlier ++ progress.committed }

/-- Whether progress is that of having read these lines: the next one is numbered after them, and a model
is open exactly inside a block. -/
def IsAt (before : List String) (progress : Progress) : Prop :=
  progress.next = before.length + 1 ∧ (progress.current.isSome ↔ Inside before)

theorem schema_readAll (progress : Progress) (lines : List String) :
    (progress.readAll lines).map schema =
      (ofLines progress.next progress.current lines).map fun later =>
        { later with models := progress.committed ++ later.models } := by
  -- Both readings take the same branch at each line; what has been committed by then stays in front.
  induction lines generalizing progress with
  | nil => rfl
  | cons line rest ih =>
    obtain ⟨n, committed, current⟩ := progress
    unfold readAll at ih ⊢
    rw [List.foldlM_cons, read]
    cases hrole : LineRole.ofLine line with
    | header name =>
      cases name with
      | none =>
        rw [ofLines_nameless hrole]
        rfl
      | some name =>
        rw [ofLines_header hrole]
        refine (ih _).trans ?_
        cases ofLines (n + 1) (some ⟨name, []⟩) rest <;> simp [Except.map, Schema.precededBy]
    | closing =>
      cases current with
      | none =>
        rw [ofLines_outside (by simp [hrole])]
        exact ih ⟨n + 1, committed, none⟩
      | some model =>
        rw [ofLines_closing hrole]
        refine (ih _).trans ?_
        cases ofLines (n + 1) none rest <;> simp [Except.map, Schema.precededBy]
    | field =>
      cases current with
      | none =>
        rw [ofLines_outside (by simp [hrole])]
        exact ih ⟨n + 1, committed, none⟩
      | some model =>
        cases hfield : Field.parse line (some (n : Int)) with
        | error fault =>
          rw [ofLines_typeless hrole hfield]
          rfl
        | ok field =>
          rw [ofLines_field hrole hfield]
          exact ih ⟨n + 1, committed, _⟩
    | skipped =>
      rw [ofLines_skipped hrole]
      exact ih ⟨n + 1, committed, current⟩

theorem schema_readAll_start (text : String) :
    parse text = (start.readAll (strippedLines text)).map schema := by
  rw [schema_readAll]
  show _ = (parse text).map _
  cases parse text <;> rfl

/-! ## What reading a line does -/

section

variable {progress later : Progress} {line : String} {lines before : List String}

/-- What stands above a line only shows in the number of a faulty one. -/
theorem read_below (above : Nat) (earlier : List Model) (progress : Progress) (line : String) :
    (progress.below above earlier).read line =
      ((progress.read line).mapError (·.below above)).map (·.below above earlier) := by
  obtain ⟨n, committed, current⟩ := progress
  have hnext : n + above + 1 = n + 1 + above := Nat.add_right_comm n above 1
  unfold read below
  cases LineRole.ofLine line with
  | header name =>
    cases name with
    | none => simp [Except.mapError, Except.map, SyntaxFault.below]
    | some name => simp [Except.mapError, Except.map, hnext]
  | closing => cases current <;> simp [Except.mapError, Except.map, hnext]
  | field =>
    cases current with
    | none => simp [Except.mapError, Except.map, hnext]
    | some model =>
      have hparse := Field.parse_below above line n
      simp only [hparse]
      cases Field.parse line (some (n : Int)) <;> simp [Except.mapError, Except.map, hnext]
  | skipped => simp [Except.mapError, Except.map, hnext]

theorem IsAt.read (h : progress.IsAt before) (hline : Text.words line = [] → line = "")
    (hread : progress.read line = .ok later) : later.IsAt (before ++ [line]) := by
  obtain ⟨n, committed, current⟩ := progress
  obtain ⟨rfl, hopen⟩ := h
  have hspec := role_spec hline
  unfold IsAt
  rw [List.length_append, List.length_singleton, inside_concat]
  unfold Progress.read at hread
  -- Headers and closing braces move the boundary of a block, and no other line does.
  cases hrole : LineRole.ofLine line with
  | header name =>
    rw [hrole] at hspec hread
    cases name with
    | none => cases hread
    | some name =>
      cases hread
      simp [hspec.1]
  | closing =>
    rw [hrole] at hspec hread
    obtain rfl : line = "\x7d" := hspec
    cases current <;> cases hread <;> simp [not_isHeader_closing]
  | field =>
    rw [hrole] at hspec hread
    have hsame : IsHeader line ∨ (Inside before ∧ line ≠ "\x7d") ↔ Inside before := by
      simp [hspec.2.1, hspec.2.2.2.1]
    rw [hsame]
    cases current with
    | none =>
      cases hread
      exact ⟨rfl, hopen⟩
    | some model =>
      cases hfield : Field.parse line (some ((before.length + 1 : Nat) : Int)) with
      | error fault =>
        simp only [hfield] at hread
        cases hread
      | ok field =>
        simp only [hfield] at hread
        cases hread
        exact ⟨rfl, hopen⟩
  | skipped =>
    rw [hrole] at hspec hread
    cases hread
    obtain ⟨hheader, hclosing⟩ := not_or.mp hspec.1
    simp [hopen, hheader, hclosing]

theorem number_of_read {fault : SyntaxFault} (h : progress.read line = .error fault) :
    fault.lineNumber = some (progress.next : Int) := by
  unfold read at h
  split at h
  · cases h
    rfl
  · cases h
  · cases h
  · cases hfield : Field.parse line (some (progress.next : Int)) with
    | error cause =>
      rw [hfield] at h
      cases h
      exact congrArg SyntaxFault.lineNumber (parse_field_error hfield).2
    | ok field =>
      rw [hfield] at h
      cases h
  · cases h

/-- The open model is committed, as a header does. -/
def closed (progress : Progress) : Progress :=
  ⟨progress.next, progress.committed ++ progress.current.toList, none⟩

theorem read_closed (h : IsHeader line) : progress.closed.read line = progress.read line := by
  have hrole : ∃ name, LineRole.ofLine line = .header name := by
    unfold LineRole.ofLine
    cases hwords : Text.words line with
    | nil =>
      rw [IsHeader, hwords] at h
      cases h
    | cons first others =>
      rw [IsHeader, hwords, List.head?_cons, Option.some.injEq] at h
      exact ⟨_, if_pos h⟩
  obtain ⟨name, hrole⟩ := hrole
  unfold read
  rw [hrole]
  cases name <;> simp [closed]

end

/-! ## What reading lines does -/

section

variable {progress later : Progress} {line : String} {lines before : List String}

theorem readAll_below (above : Nat) (earlier : List Model) (progress : Progress)
    (lines : List String) :
    (progress.below above earlier).readAll lines =
      ((progress.readAll lines).mapError (·.below above)).map (·.below above earlier) := by
  induction lines generalizing progress with
  | nil => rfl
  | cons line rest ih =>
    unfold readAll at ih ⊢
    rw [List.foldlM_cons, List.foldlM_cons, read_below]
    cases progress.read line with
    | error fault => rfl
    | ok next => exact ih next

/-- A first line that opens a model commits the one that is open before it. -/
theorem readAll_closed (hfirst : lines.find? (· ≠ "") = some line) (hline : IsHeader line) :
    progress.closed.readAll lines = progress.readAll lines := by
  induction lines generalizing progress with
  | nil => cases hfirst
  | cons other rest ih =>
    unfold readAll at ih ⊢
    rw [List.foldlM_cons, List.foldlM_cons]
    by_cases hother : other = ""
    · subst hother
      exact @ih { progress with next := progress.next + 1 } hfirst
    · rw [List.find?_cons_of_pos (by simpa using hother), Option.some.injEq] at hfirst
      rw [hfirst, read_closed hline]

/-- A faulty line is reported with its number. -/
theorem exists_number {fault : SyntaxFault} (h : progress.readAll lines = .error fault) :
    ∃ n, fault.lineNumber = some n := by
  induction lines generalizing progress with
  | nil => cases h
  | cons line rest ih =>
    unfold readAll at h ih
    rw [List.foldlM_cons] at h
    cases hline : progress.read line with
    | error cause =>
      rw [hline] at h
      cases h
      exact ⟨_, number_of_read hline⟩
    | ok next =>
      rw [hline] at h
      exact ih h

theorem IsAt.readAll (h : progress.IsAt before)
    (hlines : ∀ line ∈ lines, Text.words line = [] → line = "")
    (hread : progress.readAll lines = .ok later) : later.IsAt (before ++ lines) := by
  induction lines generalizing progress before with
  | nil =>
    cases hread
    rwa [List.append_nil]
  | cons line rest ih =>
    unfold Progress.readAll at hread ih
    rw [List.foldlM_cons] at hread
    cases hline : progress.read line with
    | error fault =>
      rw [hline] at hread
      cases hread
    | ok next =>
      rw [hline] at hread
      have hnext := h.read (hlines line List.mem_cons_self) hline
      have hlast := ih hnext (fun other hm => hlines other (List.mem_cons_of_mem line hm)) hread
      rwa [List.append_assoc, List.singleton_append] at hlast

end

end Progress

/-! ## Texts after one another -/

/-- Whether lines leave no model open: none of them is a header, or the latest boundary closes a block. -/
def LeaveNoneOpen (lines : List String) : Prop :=
  (∀ line ∈ lines, ¬ IsHeader line) ∨
    (lines.filter fun line => IsBoundary line).getLast? = some "\x7d"

/-- Whether lines open a model before they say anything else. -/
def OpenOneFirst (lines : List String) : Prop :=
  ∃ line, lines.find? (· ≠ "") = some line ∧ IsHeader line

theorem LeaveNoneOpen.not_inside {lines : List String} (h : LeaveNoneOpen lines) : ¬ Inside lines := by
  rintro ⟨line, hlast, hline⟩
  obtain hnone | hclosing := h
  · exact hnone line (List.mem_filter.mp (List.mem_of_getLast? hlast)).1 hline
  · rw [hclosing, Option.some.injEq] at hlast
    exact not_isHeader_closing (hlast ▸ hline)

section

variable {a b : String} {progress : Progress}

/-- Reading goes on after the first text as it starts, but further down and with the models of that text
committed. -/
theorem Progress.readAll_seam (hread : Progress.start.readAll (strippedLines a) = .ok progress)
    (hseam : LeaveNoneOpen (strippedLines a) ∨ OpenOneFirst (strippedLines b)) :
    progress.readAll (strippedLines b) =
      (Progress.start.below (Text.lines a).length progress.schema.models).readAll
        (strippedLines b) := by
  have hstart : Progress.start.IsAt [] := ⟨rfl, by simp [Progress.start, inside_nil]⟩
  obtain ⟨hnext, hopen⟩ := hstart.readAll (fun _ => eq_empty_of_mem_strippedLines) hread
  rw [List.nil_append] at hnext hopen
  have hclosed : Progress.start.below (Text.lines a).length progress.schema.models =
      progress.closed := by
    unfold Progress.below Progress.closed
    rw [hnext, strippedLines, List.length_map]
    simp [Progress.start, Progress.schema, Nat.add_comm]
  rw [hclosed]
  obtain hnone | ⟨line, hfirst, hline⟩ := hseam
  · have hcurrent : progress.current = none := by
      rw [← Option.not_isSome_iff_eq_none, hopen]
      exact hnone.not_inside
    have hnothing : progress.closed = progress := by
      obtain ⟨n, committed, current⟩ := progress
      obtain rfl : current = none := hcurrent
      simp [Progress.closed]
    rw [hnothing]
  · exact (Progress.readAll_closed hfirst hline).symm

/-- A text after which no model is open, or one that is followed by the header of another, is read as if
it stood alone, and so is what follows it: the first fault of both is reported, with its number in the
whole text, and otherwise there are the models of the one and then those of the other. -/
theorem parse_append_of_seam (hbreak : a = "" ∨ a.toList.getLast? = some '\n')
    (hseam : LeaveNoneOpen (strippedLines a) ∨ OpenOneFirst (strippedLines b)) :
    (∀ fault, parse a = .error fault → parse (a ++ b) = .error fault) ∧
    ∀ first, parse a = .ok first →
      (∀ fault, parse b = .error fault → ∃ n : Int, fault.lineNumber = some n ∧
        parse (a ++ b) = .error ⟨fault.line, some (n + (Text.lines a).length)⟩) ∧
      ∀ second, parse b = .ok second →
        parse (a ++ b) = .ok ⟨first.models ++ second.models, second.unclosed⟩ := by
  have hlines : strippedLines (a ++ b) = strippedLines a ++ strippedLines b := by
    rw [strippedLines, Text.lines_append hbreak, List.map_append]
    rfl
  have hwhole : parse (a ++ b) = (Progress.start.readAll (strippedLines a) >>= fun progress =>
      progress.readAll (strippedLines b)).map Progress.schema := by
    rw [Progress.schema_readAll_start, hlines, Progress.readAll, List.foldlM_append]
    rfl
  rw [Progress.schema_readAll_start a, Progress.schema_readAll_start b, hwhole]
  cases hfirst : Progress.start.readAll (strippedLines a) with
  | error cause => exact ⟨fun _ h => h, fun _ h => nomatch h⟩
  | ok progress =>
    -- Nothing is open at the seam that the second text could go on with, so it is read as from the start.
    have hsecond := Progress.readAll_seam hfirst hseam
    rw [Progress.readAll_below] at hsecond
    refine ⟨fun _ h => (nomatch h), fun first h => ?_⟩
    cases h
    rw [show (Except.ok progress >>= fun progress => progress.readAll (strippedLines b)) =
      progress.readAll (strippedLines b) from rfl, hsecond]
    cases hlast : Progress.start.readAll (strippedLines b) with
    | error cause =>
      obtain ⟨n, hn⟩ := Progress.exists_number hlast
      refine ⟨fun fault h => ?_, fun _ h => nomatch h⟩
      cases h
      refine ⟨n, hn, ?_⟩
      simp [Except.map, Except.mapError, SyntaxFault.below, hn]
    | ok last =>
      refine ⟨fun _ h => (nomatch h), fun second h => ?_⟩
      cases h
      simp [Except.map, Except.mapError, Progress.schema, Progress.below]

/-- The second text commits the model that the first one leaves open, and a field without a type is found
on the fifth line of both. -/
theorem parse_append_of_seam_small :
    let a := "model A \x7b\n  x Int\n"
    let b := "\nmodel B \x7b\n  y Int\n\x7d\n"
    let c := "\nmodel B \x7b\n  y\n\x7d\n"
    a.toList.getLast? = some '\n' ∧ OpenOneFirst (strippedLines b) ∧
      OpenOneFirst (strippedLines c) ∧
      parse (a ++ b) = .ok ⟨[⟨"A", [⟨"x", "Int", true, false, false, none, none⟩]⟩,
        ⟨"B", [⟨"y", "Int", true, false, false, none, none⟩]⟩], none⟩ ∧
      parse (a ++ c) = .error ⟨"y", some 5⟩ := by
  intro a b c
  have hbreak : a.toList.getLast? = some '\n' := by decide
  have hb : OpenOneFirst (strippedLines b) := ⟨"model B \x7b", by decide, by decide⟩
  have hc : OpenOneFirst (strippedLines c) := ⟨"model B \x7b", by decide, by decide⟩
  have hfirst : parse a = .ok ⟨[⟨"A", [⟨"x", "Int", true, false, false, none, none⟩]⟩], some "A"⟩ := by
    decide
  have hsecond : parse b = .ok ⟨[⟨"B", [⟨"y", "Int", true, false, false, none, none⟩]⟩], none⟩ := by
    decide
  have hfault : parse c = .error ⟨"y", some 3⟩ := by decide
  have hlength : (Text.lines a).length = 2 := by decide
  refine ⟨hbreak, hb, hc, ?_, ?_⟩
  · exact ((parse_append_of_seam (Or.inr hbreak) (Or.inr hb)).2 _ hfirst).2 _ hsecond
  · obtain ⟨n, hn, h⟩ := ((parse_append_of_seam (Or.inr hbreak) (Or.inr hc)).2 _ hfirst).1 _ hfault
    cases hn
    rw [hlength] at h
    exact h

end

end Schema

end ViewGen
