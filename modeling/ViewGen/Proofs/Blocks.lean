import Mathlib.Data.List.Forall2
import ViewGen.Proofs.Words
import ViewGen.Schema.Parser

/-!
# The blocks of a schema text

What the lines of a schema text mean is said here of the text as a whole: which of them are inside a
block, which declare a field, which are faulty.  Reading line by line, with one open model at a time,
reports the first faulty line and otherwise gives one model for each header, with the fields declared in
its block.
-/

namespace ViewGen.Schema

/-! ## The grammar -/

/-- The lines of a schema text without the blanks around them. -/
def strippedLines (text : String) : List String :=
  (Text.lines text).map Text.strip

theorem eq_empty_of_mem_strippedLines {text line : String} (h : line ∈ strippedLines text)
    (hwords : Text.words line = []) : line = "" := by
  obtain ⟨raw, -, rfl⟩ := List.mem_map.mp h
  exact Text.eq_empty_of_words_strip hwords

def IsHeader (line : String) : Prop :=
  (Text.words line).head? = some "model"

/-- Whether a line ends the block above it: by opening the next one or by closing it. -/
def IsBoundary (line : String) : Prop :=
  IsHeader line ∨ line = "\x7d"

instance (line : String) : Decidable (IsHeader line) :=
  inferInstanceAs (Decidable (_ = _))

instance (line : String) : Decidable (IsBoundary line) :=
  inferInstanceAs (Decidable (_ ∨ _))

/-- Whether a line that comes after these is inside a block: the latest of them that is a boundary is a
header. -/
def Inside (before : List String) : Prop :=
  ∃ line, (before.filter fun line => IsBoundary line).getLast? = some line ∧ IsHeader line

/-- Whether a line declares a field if it is inside a block. -/
def DeclaresField (line : String) : Prop :=
  line ≠ "" ∧ ¬ IsHeader line ∧ '\x7b' ∉ line.toList ∧ line ≠ "\x7d" ∧
    ¬ "//".toList <+: line.toList ∧ ¬ "@@".toList <+: line.toList

instance (line : String) : Decidable (DeclaresField line) :=
  inferInstanceAs (Decidable (_ ∧ _ ∧ _ ∧ _ ∧ _ ∧ _))

/-- Whether a word is missing in the line at a place: the name of the model that a header opens, or the
type of a field. -/
def IsFaultyAt (lines : List String) (i : Nat) : Prop :=
  ∃ line, lines[i]? = some line ∧
    ((IsHeader line ∧ (Text.words line).length = 1) ∨
      (Inside (lines.take i) ∧ DeclaresField line ∧ (Text.words line).length < 2))

/-- The headers, each with the lines that follow it up to the next boundary. -/
def blocks : List String → List (String × List String)
  | [] => []
  | line :: rest =>
    if IsHeader line then (line, rest.takeWhile fun other => ¬ IsBoundary other) :: blocks rest
    else blocks rest

/-- Whether lines that declare fields declare these. -/
def DeclareFields (lines : List String) (fields : List Field) : Prop :=
  List.Forall₂ (fun line field => ∀ n, Field.parse line n = .ok field)
    (lines.filter fun line => DeclaresField line) fields

/-- Whether a model has the name given by the header and the fields declared in the block. -/
def IsModelOf (block : String × List String) (model : Model) : Prop :=
  (Text.words block.1)[1]? = some model.name ∧ DeclareFields block.2 model.fields

/-! ## Boundaries -/

theorem not_isHeader_closing : ¬ IsHeader "\x7d" := by
  decide

theorem inside_nil : ¬ Inside [] := by
  rintro ⟨line, h, -⟩
  cases h

theorem inside_concat {before : List String} {line : String} :
    Inside (before ++ [line]) ↔ IsHeader line ∨ (Inside before ∧ line ≠ "\x7d") := by
  unfold Inside
  rw [List.filter_append]
  by_cases hb : IsBoundary line
  · -- The line itself is the latest boundary.
    rw [List.filter_cons_of_pos (by simpa using hb), List.filter_nil, List.getLast?_concat]
    constructor
    · rintro ⟨_, he, h⟩
      cases he
      exact Or.inl h
    · rintro (h | ⟨-, hne⟩)
      · exact ⟨line, rfl, h⟩
      · exact ⟨line, rfl, hb.resolve_right hne⟩
  · rw [List.filter_cons_of_neg (by simpa using hb), List.filter_nil, List.append_nil]
    rw [IsBoundary, not_or] at hb
    simp only [hb.1, false_or, ne_eq, hb.2, not_false_eq_true, and_true]

/-- What the role of a line says about it, where a line without words is empty. -/
theorem role_spec {line : String} (hline : Text.words line = [] → line = "") :
    match LineRole.ofLine line with
    | .header name => IsHeader line ∧ (Text.words line)[1]? = name
    | .closing => line = "\x7d"
    | .field => DeclaresField line
    | .skipped => ¬ IsBoundary line ∧ ¬ DeclaresField line := by
  -- The tests come in the order of `LineRole.ofLine`, so each one knows that those before it have failed.
  unfold LineRole.ofLine
  cases hwords : Text.words line with
  | nil =>
    rw [hline hwords]
    decide
  | cons first others =>
    have hhead : IsHeader line ↔ first = "model" := by
      rw [IsHeader, hwords, List.head?_cons, Option.some.injEq]
    have hne : line ≠ "" := by
      rintro rfl
      cases hwords
    by_cases hfirst : first = "model"
    · simp only [if_pos hfirst]
      exact ⟨hhead.mpr hfirst, by cases others <;> rfl⟩
    have hheader : ¬ IsHeader line := fun h => hfirst (hhead.mp h)
    simp only [if_neg hfirst]
    by_cases hbrace : '\x7b' ∈ line.toList
    · simp only [List.contains_eq_mem, hbrace, decide_true, if_true]
      refine ⟨?_, fun h => h.2.2.1 hbrace⟩
      rintro (h | rfl)
      · exact hheader h
      · exact absurd hbrace (by decide)
    simp only [List.contains_eq_mem, hbrace, decide_false, Bool.false_eq_true, if_false]
    by_cases hclosing : line = "\x7d"
    · rw [if_pos hclosing]
      exact hclosing
    simp only [if_neg hclosing]
    by_cases hnote : ("//".toList.isPrefixOf line.toList ||
        "@@".toList.isPrefixOf line.toList) = true
    · simp only [if_pos hnote]
      refine ⟨fun h => h.elim hheader hclosing, fun h => ?_⟩
      rw [Bool.or_eq_true, List.isPrefixOf_iff_prefix, List.isPrefixOf_iff_prefix] at hnote
      exact hnote.elim h.2.2.2.2.1 h.2.2.2.2.2
    · simp only [if_neg hnote]
      rw [Bool.or_eq_true, List.isPrefixOf_iff_prefix, List.isPrefixOf_iff_prefix, not_or] at hnote
      exact ⟨hne, hheader, hbrace, hclosing, hnote.1, hnote.2⟩

theorem ofLine_eq_field {line : String} (hwords : Text.words line ≠ []) (h : DeclaresField line) :
    LineRole.ofLine line = .field := by
  have hspec := role_spec fun he => absurd he hwords
  cases hrole : LineRole.ofLine line with
  | header name =>
    rw [hrole] at hspec
    exact absurd hspec.1 h.2.1
  | closing =>
    rw [hrole] at hspec
    exact absurd hspec h.2.2.2.1
  | field => rfl
  | skipped =>
    rw [hrole] at hspec
    exact absurd h hspec.2

theorem parse_field_error {line : String} {n : Option Int} {fault : SyntaxFault}
    (h : Field.parse line n = .error fault) :
    (Text.words line).length < 2 ∧ fault = ⟨line, n⟩ := by
  unfold Field.parse at h
  split at h
  · cases h
  · rename_i hwords
    cases h
    refine ⟨?_, rfl⟩
    match hw : Text.words line with
    | [] => exact Nat.zero_lt_two
    | [_] => exact Nat.one_lt_two
    | name :: typeWord :: modifiers => exact absurd hw (hwords name typeWord modifiers)

/-- A field does not depend on the number of its line. -/
theorem parse_field_ok {line : String} {n : Option Int} {field : Field}
    (h : Field.parse line n = .ok field) :
    2 ≤ (Text.words line).length ∧ ∀ k, Field.parse line k = .ok field := by
  unfold Field.parse at h ⊢
  split at h
  · rename_i hwords
    rw [hwords]
    exact ⟨by simp, fun k => h⟩
  · cases h

/-! ## One line -/

section

variable {line : String} {rest : List String} {n : Nat} {current : Option Model} {model : Model}

/-- The one equation of a line that is read, from which those of its roles follow. -/
theorem ofLines_cons : ofLines n current (line :: rest) =
    match LineRole.ofLine line, current with
    | .header none, _ => .error { line, lineNumber := some n }
    | .header (some name), _ =>
      match ofLines (n + 1) (some { name, fields := [] }) rest with
      | .error fault => .error fault
      | .ok later => .ok (later.precededBy current)
    | .closing, some model =>
      match ofLines (n + 1) none rest with
      | .error fault => .error fault
      | .ok later => .ok (later.precededBy (some model))
    | .field, some model =>
      match Field.parse line (some n) with
      | .error fault => .error fault
      | .ok field => ofLines (n + 1) (some { model with fields := model.fields ++ [field] }) rest
    | _, _ => ofLines (n + 1) current rest :=
  rfl

theorem ofLines_nameless (h : LineRole.ofLine line = .header none) :
    ofLines n current (line :: rest) = .error ⟨line, some n⟩ := by
  simp only [ofLines_cons, h]

theorem ofLines_header {name : String} (h : LineRole.ofLine line = .header (some name)) :
    ofLines n current (line :: rest) =
      (ofLines (n + 1) (some ⟨name, []⟩) rest).map (·.precededBy current) := by
  simp only [ofLines_cons, h]
  cases ofLines (n + 1) (some ⟨name, []⟩) rest <;> rfl

theorem ofLines_closing (h : LineRole.ofLine line = .closing) :
    ofLines n (some model) (line :: rest) =
      (ofLines (n + 1) none rest).map (·.precededBy (some model)) := by
  simp only [ofLines_cons, h]
  cases ofLines (n + 1) none rest <;> rfl

theorem ofLines_field {field : Field} (h : LineRole.ofLine line = .field)
    (hfield : Field.parse line (some n) = .ok field) :
    ofLines n (some model) (line :: rest) =
      ofLines (n + 1) (some { model with fields := model.fields ++ [field] }) rest := by
  simp only [ofLines_cons, h, hfield]

theorem ofLines_typeless {fault : SyntaxFault} (h : LineRole.ofLine line = .field)
    (hfield : Field.parse line (some n) = .error fault) :
    ofLines n (some model) (line :: rest) = .error fault := by
  simp only [ofLines_cons, h, hfield]

theorem ofLines_skipped (h : LineRole.ofLine line = .skipped) :
    ofLines n current (line :: rest) = ofLines (n + 1) current rest := by
  simp only [ofLines_cons, h]

/-- Outside of a block only a header counts. -/
theorem ofLines_outside (h : ∀ name, LineRole.ofLine line ≠ .header name) :
    ofLines n none (line :: rest) = ofLines (n + 1) none rest := by
  cases hrole : LineRole.ofLine line with
  | header name => exact absurd hrole (h name)
  | closing => simp only [ofLines_cons, hrole]
  | field => simp only [ofLines_cons, hrole]
  | skipped => simp only [ofLines_cons, hrole]

end

/-! ## All lines -/

/-- Whether a fault is that of the first faulty line from a place on. -/
def IsFirstFault (lines : List String) (start : Nat) (fault : SyntaxFault) : Prop :=
  ∃ i line, start ≤ i ∧ lines[i]? = some line ∧ fault = ⟨line, some ((i + 1 : Nat) : Int)⟩ ∧
    IsFaultyAt lines i ∧ ∀ j, start ≤ j → j < i → ¬ IsFaultyAt lines j

/-- Whether models are the open one, with what is left of its block, and those of the headers that
follow. -/
def Continue (current : Option Model) (lines : List String) (models : List Model) : Prop :=
  ∃ opened later, models = opened ++ later ∧ List.Forall₂ IsModelOf (blocks lines) later ∧
    match current with
    | none => opened = []
    | some model => ∃ fields, opened = [{ model with fields := model.fields ++ fields }] ∧
        DeclareFields (lines.takeWhile fun line => ¬ IsBoundary line) fields

/-- What reading the lines from a place on gives. -/
def Reads (all : List String) (start : Nat) (current : Option Model) (lines : List String) :
    Except SyntaxFault Schema → Prop
  | .error fault => IsFirstFault all start fault
  | .ok schema => (∀ i, start ≤ i → ¬ IsFaultyAt all i) ∧ Continue current lines schema.models

section

variable {all before rest : List String} {line : String} {current next : Option Model}
  {model : Model} {models : List Model}

theorem isFaultyAt_length (hall : all = before ++ line :: rest) :
    IsFaultyAt all before.length ↔ (IsHeader line ∧ (Text.words line).length = 1) ∨
      (Inside before ∧ DeclaresField line ∧ (Text.words line).length < 2) := by
  have hget : all[before.length]? = some line := by
    rw [hall, List.getElem?_append_right (Nat.le_refl _), Nat.sub_self, List.getElem?_cons_zero]
  have htake : all.take before.length = before := by rw [hall, List.take_left]
  unfold IsFaultyAt
  rw [htake]
  constructor
  · rintro ⟨found, hfound, h⟩
    rw [hget] at hfound
    cases hfound
    exact h
  · exact fun h => ⟨line, hget, h⟩

theorem blocks_of_not_isHeader (h : ¬ IsHeader line) : blocks (line :: rest) = blocks rest := by
  rw [blocks, if_neg h]

theorem takeWhile_of_isBoundary (h : IsBoundary line) :
    ((line :: rest).takeWhile fun line => ¬ IsBoundary line) = [] := by
  rw [List.takeWhile_cons_of_neg (by simpa using h)]

theorem takeWhile_of_not_isBoundary (h : ¬ IsBoundary line) :
    ((line :: rest).takeWhile fun line => ¬ IsBoundary line) =
      line :: rest.takeWhile fun line => ¬ IsBoundary line := by
  rw [List.takeWhile_cons_of_pos (by simpa using h)]

theorem DeclaresField.not_isBoundary (h : DeclaresField line) : ¬ IsBoundary line :=
  fun hb => hb.elim h.2.1 h.2.2.2.1

theorem continue_outside (hline : ¬ IsHeader line) (h : Continue none rest models) :
    Continue none (line :: rest) models := by
  obtain ⟨opened, later, rfl, hlater, rfl⟩ := h
  exact ⟨[], later, rfl, by rwa [blocks_of_not_isHeader hline], rfl⟩

theorem continue_skipped (hline : ¬ IsBoundary line) (hfield : ¬ DeclaresField line)
    (h : Continue current rest models) : Continue current (line :: rest) models := by
  have hheader : ¬ IsHeader line := fun h => hline (Or.inl h)
  cases current with
  | none => exact continue_outside hheader h
  | some model =>
    obtain ⟨opened, later, rfl, hlater, fields, rfl, hfields⟩ := h
    refine ⟨_, later, rfl, by rwa [blocks_of_not_isHeader hheader], fields, rfl, ?_⟩
    rw [takeWhile_of_not_isBoundary hline, DeclareFields, List.filter_cons_of_neg (by simpa using hfield)]
    exact hfields

theorem continue_field {field : Field} (hline : DeclaresField line)
    (hfield : ∀ n, Field.parse line n = .ok field)
    (h : Continue (some { model with fields := model.fields ++ [field] }) rest models) :
    Continue (some model) (line :: rest) models := by
  obtain ⟨opened, later, rfl, hlater, fields, rfl, hfields⟩ := h
  refine ⟨_, later, rfl, by rwa [blocks_of_not_isHeader hline.2.1], field :: fields, ?_, ?_⟩
  · rw [List.append_assoc, List.singleton_append]
  · rw [takeWhile_of_not_isBoundary hline.not_isBoundary, DeclareFields,
      List.filter_cons_of_pos (by simpa using hline)]
    exact .cons hfield hfields

theorem continue_header {name : String} (hline : IsHeader line)
    (hname : (Text.words line)[1]? = some name) (h : Continue (some ⟨name, []⟩) rest models) :
    Continue current (line :: rest) (current.toList ++ models) := by
  obtain ⟨opened, later, rfl, hlater, fields, rfl, hfields⟩ := h
  have hblocks : List.Forall₂ IsModelOf (blocks (line :: rest)) (⟨name, [] ++ fields⟩ :: later) := by
    rw [blocks, if_pos hline]
    exact .cons ⟨hname, hfields⟩ hlater
  refine ⟨current.toList, _, rfl, hblocks, ?_⟩
  cases current with
  | none => rfl
  | some model =>
    refine ⟨[], by simp, ?_⟩
    rw [takeWhile_of_isBoundary (Or.inl hline)]
    exact .nil

theorem continue_closing (hline : line = "\x7d") (h : Continue none rest models) :
    Continue (some model) (line :: rest) (model :: models) := by
  obtain ⟨opened, later, rfl, hlater, rfl⟩ := h
  refine ⟨[model], later, rfl, ?_, [], by simp, ?_⟩
  · rwa [blocks_of_not_isHeader (hline ▸ not_isHeader_closing)]
  · rw [takeWhile_of_isBoundary (Or.inr hline)]
    exact .nil

/-- A line without a fault hands on what reading the rest gives. -/
theorem Reads.step {n : Nat} {result : Except SyntaxFault Schema} {commit : Schema → Schema}
    (hline : ¬ IsFaultyAt all n) (h : Reads all (n + 1) next rest result)
    (hcommit : ∀ later : Schema, Continue next rest later.models →
      Continue current (line :: rest) (commit later).models) :
    Reads all n current (line :: rest) (result.map commit) := by
  -- The line itself comes before all the others, so they have to be faultless from it on.
  have hfrom : ∀ {j}, n ≤ j → j = n ∨ n + 1 ≤ j := by omega
  cases result with
  | error fault =>
    obtain ⟨i, found, hi, hget, hfault, hfaulty, hleast⟩ := h
    refine ⟨i, found, by omega, hget, hfault, hfaulty, fun j hj hlt => ?_⟩
    obtain rfl | hj := hfrom hj
    · exact hline
    · exact hleast j hj hlt
  | ok later =>
    obtain ⟨hnone, hlater⟩ := h
    refine ⟨fun i hi => ?_, hcommit later hlater⟩
    obtain rfl | hi := hfrom hi
    · exact hline
    · exact hnone i hi

theorem Reads.pass {n : Nat} {result : Except SyntaxFault Schema} (hline : ¬ IsFaultyAt all n)
    (h : Reads all (n + 1) next rest result)
    (hpass : ∀ models, Continue next rest models → Continue current (line :: rest) models) :
    Reads all n current (line :: rest) result := by
  have hstep : Reads all n current (line :: rest) (result.map id) :=
    h.step hline fun later => hpass later.models
  cases result <;> exact hstep

end

/-! ## One line by its role

Each role either ends the reading with a fault of the line or hands the line's effect on to the rest.
`hrest` is the reading of the rest with any model that may be open then. -/

section

variable {all before rest : List String} {line : String} {current : Option Model}
  (hall : all = before ++ line :: rest)
  (hrest : ∀ next : Option Model, (next.isSome ↔ Inside (before ++ [line])) →
    Reads all (before.length + 1) next rest (ofLines (before.length + 1 + 1) next rest))

include hall hrest

theorem reads_header {name : Option String} (hrole : LineRole.ofLine line = .header name)
    (hheader : IsHeader line) (hname : (Text.words line)[1]? = name) :
    Reads all before.length current (line :: rest)
      (ofLines (before.length + 1) current (line :: rest)) := by
  have hfaulty := isFaultyAt_length hall
  cases name with
  | none =>
    have hshort : (Text.words line).length = 1 := by
      have hmost := List.getElem?_eq_none_iff.mp hname
      have hleast := List.length_pos_of_mem (List.mem_of_head? hheader)
      omega
    rw [ofLines_nameless hrole]
    exact ⟨before.length, line, Nat.le_refl _, by simp [hall], rfl,
      hfaulty.mpr (Or.inl ⟨hheader, hshort⟩), fun j hj hlt => absurd hj (by omega)⟩
  | some name =>
    have hlong := (List.getElem?_eq_some_iff.mp hname).1
    have hfine : ¬ IsFaultyAt all before.length := by
      rw [hfaulty]
      rintro (⟨-, h⟩ | ⟨-, h, -⟩)
      · omega
      · exact h.2.1 hheader
    have hinside : Inside (before ++ [line]) := inside_concat.mpr (Or.inl hheader)
    have hnext := hrest (some ⟨name, []⟩) (by simp [hinside])
    rw [ofLines_header hrole]
    exact hnext.step hfine fun later => continue_header hheader hname

theorem reads_closing (hrole : LineRole.ofLine line = .closing) (hline : line = "\x7d") :
    Reads all before.length current (line :: rest)
      (ofLines (before.length + 1) current (line :: rest)) := by
  have hheader : ¬ IsHeader line := hline ▸ not_isHeader_closing
  have hfine : ¬ IsFaultyAt all before.length := by
    rw [isFaultyAt_length hall]
    rintro (⟨h, -⟩ | ⟨-, h, -⟩)
    · exact hheader h
    · exact h.2.2.2.1 hline
  have houtside : ¬ Inside (before ++ [line]) := by
    rw [inside_concat]
    rintro (h | ⟨-, h⟩)
    · exact hheader h
    · exact h hline
  have hnext := hrest none (by simp [houtside])
  cases current with
  | none =>
    rw [ofLines_outside (by simp [hrole])]
    exact hnext.pass hfine fun models => continue_outside hheader
  | some model =>
    rw [ofLines_closing hrole]
    exact hnext.step hfine fun later => continue_closing hline

theorem reads_field (hopen : current.isSome ↔ Inside before)
    (hrole : LineRole.ofLine line = .field) (hline : DeclaresField line) :
    Reads all before.length current (line :: rest)
      (ofLines (before.length + 1) current (line :: rest)) := by
  have hfaulty := isFaultyAt_length hall
  have hheader : ¬ IsHeader line := hline.2.1
  have hinside : Inside (before ++ [line]) ↔ Inside before := by
    rw [inside_concat]
    simp only [hheader, hline.2.2.2.1, false_or, ne_eq, not_false_eq_true, and_true]
  cases current with
  | none =>
    -- Outside of a block the line is passed, however few words it has.
    have houtside : ¬ Inside before := fun h => by simpa using hopen.mpr h
    have hfine : ¬ IsFaultyAt all before.length := by
      rw [hfaulty]
      rintro (⟨h, -⟩ | ⟨h, -, -⟩)
      · exact hheader h
      · exact houtside h
    have hnext := hrest none (by rw [hinside, hopen])
    rw [ofLines_outside (by simp [hrole])]
    exact hnext.pass hfine fun models => continue_outside hheader
  | some model =>
    have hin : Inside before := hopen.mp rfl
    cases hfield : Field.parse line (some ((before.length + 1 : Nat) : Int)) with
    | error fault =>
      obtain ⟨hshort, rfl⟩ := parse_field_error hfield
      rw [ofLines_typeless hrole hfield]
      exact ⟨before.length, line, Nat.le_refl _, by simp [hall], rfl,
        hfaulty.mpr (Or.inr ⟨hin, hline, hshort⟩), fun j hj hlt => absurd hj (by omega)⟩
    | ok field =>
      obtain ⟨hlong, hfield'⟩ := parse_field_ok hfield
      have hfine : ¬ IsFaultyAt all before.length := by
        rw [hfaulty]
        rintro (⟨h, -⟩ | ⟨-, -, h⟩)
        · exact hheader h
        · omega
      have hnext := hrest (some { model with fields := model.fields ++ [field] })
        (by simp [hinside, hin])
      rw [ofLines_field hrole hfield]
      exact hnext.pass hfine fun models => continue_field hline hfield'

theorem reads_skipped (hopen : current.isSome ↔ Inside before)
    (hrole : LineRole.ofLine line = .skipped) (hboundary : ¬ IsBoundary line)
    (hfield : ¬ DeclaresField line) :
    Reads all before.length current (line :: rest)
      (ofLines (before.length + 1) current (line :: rest)) := by
  obtain ⟨hheader, hclosing⟩ := not_or.mp hboundary
  have hfine : ¬ IsFaultyAt all before.length := by
    rw [isFaultyAt_length hall]
    rintro (⟨h, -⟩ | ⟨-, h, -⟩)
    · exact hheader h
    · exact hfield h
  have hinside : Inside (before ++ [line]) ↔ Inside before := by
    rw [inside_concat]
    simp only [hheader, hclosing, false_or, ne_eq, not_false_eq_true, and_true]
  have hnext := hrest current (by rw [hinside, hopen])
  rw [ofLines_skipped hrole]
  exact hnext.pass hfine fun models => continue_skipped hboundary hfield

end

/-- From any place on, with the model open there if the place is inside a block. -/
theorem ofLines_reads {all : List String} (hempty : ∀ line ∈ all, Text.words line = [] → line = "")
    {before lines : List String} (hall : all = before ++ lines) {current : Option Model}
    (hopen : current.isSome ↔ Inside before) :
    Reads all before.length current lines (ofLines (before.length + 1) current lines) := by
  -- On the lines that are left; the open model is the state, and it is open just inside a block.
  induction lines generalizing before current with
  | nil =>
    refine ⟨fun i hi hfaulty => ?_, current.toList, [], by simp, .nil, ?_⟩
    · obtain ⟨line, hget, -⟩ := hfaulty
      rw [hall, List.append_nil, List.getElem?_eq_none hi] at hget
      cases hget
    · cases current with
      | none => rfl
      | some model => exact ⟨[], by simp, .nil⟩
  | cons line rest ih =>
    have hrest : ∀ next : Option Model, (next.isSome ↔ Inside (before ++ [line])) →
        Reads all (before.length + 1) next rest (ofLines (before.length + 1 + 1) next rest) := by
      intro next hnext
      have hall' : all = (before ++ [line]) ++ rest := by simpa using hall
      have h := ih hall' hnext
      rwa [List.length_append, List.length_singleton] at h
    have hspec := role_spec (hempty line (by rw [hall]; simp))
    cases hrole : LineRole.ofLine line with
    | header name =>
      rw [hrole] at hspec
      exact reads_header hall hrest hrole hspec.1 hspec.2
    | closing =>
      rw [hrole] at hspec
      exact reads_closing hall hrest hrole hspec
    | field =>
      rw [hrole] at hspec
      exact reads_field hall hrest hopen hrole hspec
    | skipped =>
      rw [hrole] at hspec
      exact reads_skipped hall hrest hopen hrole hspec.1 hspec.2

theorem reads_parse (text : String) :
    Reads (strippedLines text) 0 none (strippedLines text) (parse text) :=
  ofLines_reads (fun _ => eq_empty_of_mem_strippedLines) (List.nil_append _).symm
    (by simp [inside_nil])

/-- Reading a schema text reports the first line in which a word is missing.  Without such a line it
gives one model for each header, with the fields of the header's block. -/
theorem parse_reads_blocks (text : String) :
    (∀ fault, parse text = .error fault ↔
      ∃ i line, (strippedLines text)[i]? = some line ∧
        fault = ⟨line, some ((i + 1 : Nat) : Int)⟩ ∧ IsFaultyAt (strippedLines text) i ∧
        ∀ j < i, ¬ IsFaultyAt (strippedLines text) j) ∧
    ((∃ schema, parse text = .ok schema ∧
        List.Forall₂ IsModelOf (blocks (strippedLines text)) schema.models) ↔
      ∀ i, ¬ IsFaultyAt (strippedLines text) i) := by
  have hreads := reads_parse text
  cases hparse : parse text with
  | error found =>
    rw [hparse] at hreads
    obtain ⟨i, line, -, hget, rfl, hfaulty, hleast⟩ := hreads
    have hleast' : ∀ j < i, ¬ IsFaultyAt (strippedLines text) j := fun j => hleast j (Nat.zero_le j)
    refine ⟨fun fault => ⟨fun h => ?_, fun h => ?_⟩, fun h => ?_, fun h => absurd hfaulty (h i)⟩
    · cases h
      exact ⟨i, line, hget, rfl, hfaulty, hleast'⟩
    · -- Two first faults are at one place.
      obtain ⟨j, other, hother, rfl, hj, hfirst⟩ := h
      obtain rfl : i = j := by
        obtain hlt | he | hlt := Nat.lt_trichotomy i j
        · exact absurd hfaulty (hfirst i hlt)
        · exact he
        · exact absurd hj (hleast' j hlt)
      rw [hget] at hother
      cases hother
      rfl
    · obtain ⟨schema, h, -⟩ := h
      cases h
  | ok schema =>
    rw [hparse] at hreads
    obtain ⟨hnone, opened, later, hmodels, hlater, rfl⟩ := hreads
    have hnone' : ∀ i, ¬ IsFaultyAt (strippedLines text) i := fun i => hnone i (Nat.zero_le i)
    refine ⟨fun fault => ⟨fun h => ?_, fun h => ?_⟩, fun _ => hnone', fun _ => ?_⟩
    · cases h
    · obtain ⟨i, -, -, -, hfaulty, -⟩ := h
      exact absurd hfaulty (hnone' i)
    · rw [List.nil_append] at hmodels
      exact ⟨schema, rfl, hmodels ▸ hlater⟩

end ViewGen.Schema
