import ViewGen.Disk.Walk
import ViewGen.Manifest.Basic
import ViewGen.Proofs.Words

/-!
# Names along paths

A text without slashes that is neither empty nor made of one or two dots is a name of a path, and
lower case keeps it one.  The place of a view is spelled by three such names, so views of different
models or kinds stand at different places.
-/

namespace ViewGen

/-! ## Lower case -/

namespace Text

/-- Whether a character means something in a path. -/
def IsMark (c : Char) : Prop := c = '/' ∨ c = '.'

instance (c : Char) : Decidable (IsMark c) :=
  inferInstanceAs (Decidable (_ ∨ _))

theorem toNat_le_of_isMark {c : Char} (h : IsMark c) : c.toNat ≤ 0x2F := by
  obtain rfl | rfl := h <;> decide

theorem not_isMark_ofNat {n : Nat} (hn : 0x2F < n) : ¬ IsMark (Char.ofNat n) := by
  intro h
  have hle := toNat_le_of_isMark h
  unfold Char.ofNat at h hle
  by_cases hv : n.isValidChar
  · rw [dif_pos hv] at hle
    change n ≤ 0x2F at hle
    omega
  · rw [dif_neg hv] at h
    obtain h | h := h <;> exact absurd h (by decide)

/-- No character becomes a mark by its lower case. -/
theorem eq_of_isMark_lowerChar {c d : Char} (hm : d ∈ lowerChar c) (hd : IsMark d) : d = c := by
  unfold lowerChar at hm
  split at hm
  · rename_i hascii
    have hc : IsMark c.toLower → c.toLower = c :=
      forall_ascii (p := fun c => IsMark c.toLower → c.toLower = c) (by decide) hascii
    rw [List.mem_singleton] at hm
    rw [hm] at hd
    rw [hm, hc hd]
  · split at hm
    · have hle := toNat_le_of_isMark hd
      simp only [List.mem_cons, List.not_mem_nil, or_false] at hm
      obtain rfl | rfl := hm <;> exact absurd hle (by decide)
    · rw [List.mem_singleton] at hm
      subst hm
      unfold mapThrough at hd ⊢
      split
      · rename_i n hn
        rw [hn] at hd
        -- Every run of the table leads beyond both marks.
        have hruns : ∀ run ∈ lowerRuns, 0x2F < (run.first + run.shift : Int) := by decide +kernel
        obtain ⟨run, hmem, hs⟩ := List.exists_of_findSome?_eq_some hn
        have hfirst := hruns run hmem
        unfold CaseRun.shifted at hs
        split at hs
        · cases hs
          exact absurd hd (not_isMark_ofNat (by omega))
        · cases hs
      · rfl

/-- The lower case form of a character, which for a capital sigma depends on what stands around. -/
theorem lowerAfter_cons (before rest : List Char) (c : Char) :
    ∃ form, lowerAfter before (c :: rest) = form ++ lowerAfter (c :: before) rest ∧ form ≠ [] ∧
      ∀ d ∈ form, IsMark d → form = [c] := by
  rw [lowerAfter]
  split
  · -- Both forms of a sigma are Greek letters.
    refine ⟨_, rfl, by simp, ?_⟩
    intro d hm hd
    have hle := toNat_le_of_isMark hd
    rw [List.mem_singleton] at hm
    split at hm <;> · subst hm; exact absurd hle (by decide)
  · refine ⟨_, rfl, ?_, ?_⟩
    · unfold lowerChar
      split
      · simp
      · split <;> simp
    · intro d hm hd
      have he := eq_of_isMark_lowerChar hm hd
      subst he
      obtain rfl | rfl := hd <;> rfl

theorem mem_of_mem_lowerAfter {before s : List Char} {d : Char} (hm : d ∈ lowerAfter before s)
    (hd : IsMark d) : d ∈ s := by
  induction s generalizing before with
  | nil => exact nomatch hm
  | cons c rest ih =>
    obtain ⟨form, he, -, hmark⟩ := lowerAfter_cons before rest c
    rw [he] at hm
    obtain hform | hrest := List.mem_append.mp hm
    · rw [hmark d hform hd, List.mem_singleton] at hform
      exact List.mem_cons.mpr (Or.inl hform)
    · exact List.mem_cons_of_mem c (ih hrest)

/-- A text whose lower case form consists of marks is in lower case. -/
theorem lowerAfter_eq_self {before s : List Char} (h : ∀ d ∈ lowerAfter before s, IsMark d) :
    lowerAfter before s = s := by
  induction s generalizing before with
  | nil => rfl
  | cons c rest ih =>
    obtain ⟨form, he, hne, hmark⟩ := lowerAfter_cons before rest c
    rw [he] at h ⊢
    obtain ⟨d, hd⟩ := List.exists_mem_of_ne_nil form hne
    rw [hmark d hd (h d (List.mem_append_left _ hd)),
      ih fun d hm => h d (List.mem_append_right _ hm)]
    rfl

end Text

namespace Path

/-! ## Names -/

/-- A text that a path takes as one of its parts. -/
def IsPart (s : String) : Prop :=
  s ≠ "" ∧ s ≠ "." ∧ '/' ∉ s.toList

/-- A part that leads down. -/
def IsName (s : String) : Prop :=
  IsPart s ∧ s ≠ ".."

instance (s : String) : Decidable (IsPart s) :=
  inferInstanceAs (Decidable (_ ∧ _ ∧ _))

instance (s : String) : Decidable (IsName s) :=
  inferInstanceAs (Decidable (_ ∧ _))

theorem IsName.lower {s : String} (h : IsName s) : IsName (Text.lower s) := by
  obtain ⟨⟨hne, hdot, hslash⟩, hup⟩ := h
  have hchars : (Text.lower s).toList = Text.lowerAfter [] s.toList := String.toList_ofList
  -- A lower case form of marks only would be the text itself.
  have hself : (∀ d ∈ (Text.lower s).toList, Text.IsMark d) → Text.lower s = s := by
    intro hmarks
    rw [hchars] at hmarks
    apply String.toList_inj.mp
    rw [hchars, Text.lowerAfter_eq_self hmarks]
  have hdots : ∀ other : String, other.toList.all (fun d => decide (Text.IsMark d)) = true →
      s ≠ other → Text.lower s ≠ other := by
    intro other hmarks hs he
    rw [List.all_eq_true] at hmarks
    refine hs ((hself fun d hd => ?_).symm.trans he)
    rw [he] at hd
    exact decide_eq_true_eq.mp (hmarks d hd)
  refine ⟨⟨?_, ?_, ?_⟩, ?_⟩
  · exact hdots "" (by decide) hne
  · exact hdots "." (by decide) hdot
  · rw [hchars]
    intro hm
    exact hslash (Text.mem_of_mem_lowerAfter hm (Or.inl rfl))
  · exact hdots ".." (by decide) hup

/-- Longer than two characters, a part leads down. -/
theorem IsPart.append {s t : String} (hs : IsPart s) (ht : '/' ∉ t.toList)
    (hl : 2 < (s ++ t).length) : IsName (s ++ t) := by
  refine ⟨⟨?_, ?_, ?_⟩, ?_⟩
  · intro he
    rw [he] at hl
    exact absurd hl (by decide)
  · intro he
    rw [he] at hl
    exact absurd hl (by decide)
  · rw [String.toList_append, List.mem_append]
    rintro (hm | hm)
    · exact hs.2.2 hm
    · exact ht hm
  · intro he
    rw [he] at hl
    exact absurd hl (by decide)

/-! ## Parsing -/

theorem anchorOf_of_not_mem {s : List Char} (h : '/' ∉ s) : anchorOf s = .relative := by
  cases s with
  | nil => rfl
  | cons c rest =>
    rw [List.mem_cons, not_or] at h
    simp [anchorOf, Ne.symm h.1]

theorem parse_of_isPart {s : String} (h : IsPart s) : parse s = ⟨.relative, [s]⟩ := by
  obtain ⟨hne, hdot, hslash⟩ := h
  unfold parse
  rw [anchorOf_of_not_mem hslash, Text.pieces_of_not_mem hslash]
  simp [hne, hdot]

theorem joinName_of_isPart {base : Path} {s : String} (h : IsPart s) :
    base.joinName s = ⟨base.anchor, base.parts ++ [s]⟩ := by
  rw [joinName, parse_of_isPart h]
  rfl

/-! ## Endings -/

theorem anchorOf_append (s : List Char) {ending : List Char} (h : '/' ∉ ending) :
    anchorOf (s ++ ending) = anchorOf s := by
  cases ending with
  | nil => rw [List.append_nil]
  | cons e others =>
    rw [List.mem_cons, not_or] at h
    have he : e ≠ '/' := Ne.symm h.1
    -- Only the first three characters count.
    match s with
    | [] => simp [anchorOf, he]
    | [c] => by_cases hc : c = '/' <;> simp [anchorOf, hc, he]
    | [c, d] => by_cases hc : c = '/' <;> by_cases hd : d = '/' <;> simp [anchorOf, hc, hd, he]
    | c :: d :: f :: rest =>
      by_cases hc : c = '/' <;> by_cases hd : d = '/' <;> by_cases hf : f = '/' <;>
        simp [anchorOf, hc, hd, hf]

/-- A text as a path, and the same text with an ending: the last name gets the ending, and there is
one even where the text alone has no last name. -/
theorem parse_append (s : String) :
    ∃ names last, (parse s = ⟨anchorOf s.toList, names⟩ ∨
        parse s = ⟨anchorOf s.toList, names ++ [last]⟩) ∧
      ∀ ending : String, '/' ∉ ending.toList → 1 < ending.length →
        parse (s ++ ending) = ⟨anchorOf s.toList, names ++ [last ++ ending]⟩ := by
  obtain ⟨init, last, hpieces, hending⟩ := Text.pieces_append_right '/' s.toList
  refine ⟨(init.map String.ofList).filter fun part => part != "" && part != ".",
    String.ofList last, ?_, ?_⟩
  · unfold parse
    rw [hpieces, List.map_append, List.filter_append]
    by_cases hlast : String.ofList last != "" && String.ofList last != "."
    · apply Or.inr
      simp only [List.map_cons, List.map_nil, List.filter_cons, hlast, if_true, List.filter_nil]
    · apply Or.inl
      rw [Bool.not_eq_true] at hlast
      simp [hlast]
  · intro ending hslash hlong
    have hlength : 1 < (String.ofList last ++ ending).length := by
      rw [String.length_append]
      omega
    -- With so long an ending the last name is neither empty nor a dot, so it is not dropped.
    have hne : ∀ other : String, other.length ≤ 1 → String.ofList last ++ ending ≠ other := by
      intro other hshort he
      rw [he] at hlength
      omega
    have hkept : (String.ofList last ++ ending != "" && String.ofList last ++ ending != ".") =
        true := by
      rw [Bool.and_eq_true, bne_iff_ne, bne_iff_ne]
      exact ⟨hne "" (by decide), hne "." (by decide)⟩
    have hofList : String.ofList (last ++ ending.toList) = String.ofList last ++ ending := by
      rw [String.ofList_append, String.ofList_toList]
    unfold parse
    rw [String.toList_append, anchorOf_append _ hslash, hending _ hslash, List.map_append,
      List.filter_append]
    simp only [List.map_cons, List.map_nil, hofList, List.filter_cons, hkept, if_true,
      List.filter_nil]

/-! ## Resolving -/

theorem resolve_append (base : Path) (names : List String) (current : Location) :
    (⟨base.anchor, base.parts ++ names⟩ : Path).resolve current =
      names.foldl (fun at' name => if name = ".." then at'.dropLast else at' ++ [name])
        (base.resolve current) := by
  unfold resolve
  rw [List.foldl_append]
  rfl

theorem foldl_enter {names : List String} (h : ∀ name ∈ names, name ≠ "..") (at' : Location) :
    names.foldl (fun at' name => if name = ".." then at'.dropLast else at' ++ [name]) at' =
      at' ++ names := by
  induction names generalizing at' with
  | nil => simp
  | cons name rest ih =>
    rw [List.foldl_cons, if_neg (h name List.mem_cons_self),
      ih (fun other hm => h other (List.mem_cons_of_mem _ hm)), List.append_assoc]
    rfl

/-- Names that lead down are entered one after the other. -/
theorem resolve_names (base : Path) {names : List String} (h : ∀ name ∈ names, name ≠ "..")
    (current : Location) :
    (⟨base.anchor, base.parts ++ names⟩ : Path).resolve current = base.resolve current ++ names := by
  rw [resolve_append, foldl_enter h]

/-- A last name that leads down is entered last. -/
theorem resolve_concat (anchor : Anchor) (parts : List String) {name : String} (h : name ≠ "..")
    (current : Location) :
    (⟨anchor, parts ++ [name]⟩ : Path).resolve current =
      (⟨anchor, parts⟩ : Path).resolve current ++ [name] :=
  resolve_names ⟨anchor, parts⟩ (by simpa using h) current

theorem join_eq (directory : Path) (anchor : Anchor) :
    ∃ base : Path, ∀ parts, directory.join ⟨anchor, parts⟩ = ⟨base.anchor, base.parts ++ parts⟩ := by
  cases anchor with
  | relative => exact ⟨directory, fun _ => rfl⟩
  | root => exact ⟨⟨.root, []⟩, fun _ => rfl⟩
  | doubleRoot => exact ⟨⟨.doubleRoot, []⟩, fun _ => rfl⟩

/-- A text joined to a directory, and the same text with an ending: both stand in one directory, unless
the shorter one names that directory itself. -/
theorem joinName_append (directory : Path) (file : String) :
    ∃ (base : Path) (last : String), (directory.joinName file = base ∨
        directory.joinName file = ⟨base.anchor, base.parts ++ [last]⟩) ∧
      ∀ ending : String, '/' ∉ ending.toList → 1 < ending.length →
        directory.joinName (file ++ ending) = ⟨base.anchor, base.parts ++ [last ++ ending]⟩ := by
  obtain ⟨names, last, hfile, hending⟩ := parse_append file
  obtain ⟨base, hbase⟩ := join_eq directory (anchorOf file.toList)
  refine ⟨⟨base.anchor, base.parts ++ names⟩, last, ?_, ?_⟩
  · unfold joinName
    obtain hnone | hlast := hfile
    · exact Or.inl (by rw [hnone, hbase])
    · exact Or.inr (by rw [hlast, hbase, List.append_assoc])
  · intro ending hslash hlong
    rw [joinName, hending ending hslash hlong, hbase, List.append_assoc]

theorem parent_joinName_append {directory : Path} {file ending : String}
    (hslash : '/' ∉ ending.toList) (hlong : 1 < ending.length)
    (hne : directory.joinName file ≠ (directory.joinName (file ++ ending)).parent) :
    (directory.joinName file).parent = (directory.joinName (file ++ ending)).parent := by
  obtain ⟨base, last, hfile, hending⟩ := joinName_append directory file
  have hparent : ∀ name, (⟨base.anchor, base.parts ++ [name]⟩ : Path).parent = base := by
    intro name
    rw [parent, List.dropLast_concat]
  rw [hending ending hslash hlong, hparent] at hne ⊢
  obtain hbase | hlast := hfile
  · exact absurd hbase hne
  · rw [hlast, hparent]

/-- Two texts that differ by an ending name different places beside each other, unless the shorter one
names the directory of the other or goes up. -/
theorem resolve_ending_ne {directory beside : Path} {file ending : String} (current : Location)
    (hdirectory : directory.joinName file ≠ (directory.joinName (file ++ ".lock")).parent)
    (hup : (directory.joinName file).parts.getLast? ≠ some "..") (hslash : '/' ∉ ending.toList)
    (hlong : 2 < ending.length) :
    (beside.joinName (file ++ ending)).resolve current ≠
      (directory.joinName file).resolve current := by
  obtain ⟨names, last, hfile, hending⟩ := parse_append file
  obtain ⟨base, hbase⟩ := join_eq directory (anchorOf file.toList)
  obtain ⟨other, hother⟩ := join_eq beside (anchorOf file.toList)
  unfold joinName at hdirectory hup ⊢
  obtain hnone | hlast := hfile
  · -- The text has no last name, so it names the directory that holds the lock file.
    refine absurd ?_ hdirectory
    rw [hnone, hending ".lock" (by decide) (by decide), hbase, hbase, parent,
      ← List.append_assoc, List.dropLast_concat]
  · -- Both places end in a name, and the names differ in length.
    rw [hlast, hbase, ← List.append_assoc] at hup ⊢
    rw [hending ending hslash (by omega), hother, ← List.append_assoc]
    have hdown : last ≠ ".." := by
      intro he
      exact hup (by rw [List.getLast?_concat, he])
    have hlength : (last ++ ending).length = last.length + ending.length :=
      String.length_append last ending
    have hdownEnding : last ++ ending ≠ ".." := by
      intro he
      rw [he] at hlength
      have htwo : "..".length = 2 := by decide
      omega
    rw [resolve_concat _ _ hdown, resolve_concat _ _ hdownEnding]
    intro he
    have hname := (List.cons.inj (List.append_inj_right' he rfl)).1
    rw [hname] at hlength
    omega

/-- Two endings of different lengths name different places. -/
theorem resolve_endings_ne {directory beside : Path} {file ending other : String}
    (current : Location) (hslash : '/' ∉ ending.toList) (hslash' : '/' ∉ other.toList)
    (hlong : 2 < ending.length) (hlong' : 2 < other.length) (hne : ending.length ≠ other.length) :
    (beside.joinName (file ++ ending)).resolve current ≠
      (directory.joinName (file ++ other)).resolve current := by
  obtain ⟨names, last, -, hending⟩ := parse_append file
  obtain ⟨base, hbase⟩ := join_eq directory (anchorOf file.toList)
  obtain ⟨base', hbase'⟩ := join_eq beside (anchorOf file.toList)
  have hdown : ∀ ending : String, 2 < ending.length → last ++ ending ≠ ".." := by
    intro ending hlong he
    have hlength := congrArg String.length he
    rw [String.length_append] at hlength
    have htwo : "..".length = 2 := by decide
    omega
  unfold joinName
  rw [hending ending hslash (by omega), hending other hslash' (by omega), hbase, hbase',
    ← List.append_assoc, ← List.append_assoc, resolve_concat _ _ (hdown ending hlong),
    resolve_concat _ _ (hdown other hlong')]
  intro he
  have hname := (List.cons.inj (List.append_inj_right' he rfl)).1
  have hlength := congrArg String.length hname
  rw [String.length_append, String.length_append] at hlength
  omega

end Path

/-! ## Views -/

theorem ViewKind.name_inj {kind kind' : ViewKind} (h : kind.name = kind'.name) : kind = kind' := by
  revert h
  cases kind <;> cases kind' <;> decide

/-- The names on the way to a view. -/
def viewNames (model : String) (kind : ViewKind) (extension : String) : List String :=
  ["routes", Text.lower model, Text.lower kind.name ++ "." ++ extension]

section

variable {model other extension : String} {kind kind' : ViewKind}

theorem isName_kind (kind : ViewKind) (hext : '/' ∉ extension.toList) :
    Path.IsName (Text.lower kind.name ++ "." ++ extension) := by
  have hkind : Path.IsName (Text.lower kind.name ++ ".") := by cases kind <;> decide
  have hlength : 2 < (Text.lower kind.name ++ ".").length := by cases kind <;> decide
  refine hkind.1.append hext ?_
  rw [String.length_append]
  omega

theorem viewPath_of_isName (hmodel : Path.IsName model) (hext : '/' ∉ extension.toList) :
    viewPath model kind extension = ⟨.relative, viewNames model kind extension⟩ := by
  have hroutes : Path.parse "routes" = ⟨.relative, ["routes"]⟩ := Path.parse_of_isPart (by decide)
  rw [viewPath, hroutes, Path.joinName_of_isPart hmodel.lower.1,
    Path.joinName_of_isPart (isName_kind kind hext).1]
  rfl

theorem viewNames_inj {extension' : String}
    (h : viewNames model kind extension = viewNames other kind' extension') :
    Text.lower model = Text.lower other ∧ kind = kind' := by
  simp only [viewNames, List.cons.injEq, true_and, and_true] at h
  refine ⟨h.1, ?_⟩
  -- The kind is what stands before the first dot.
  have hbefore : ∀ (kind : ViewKind) (extension : String),
      (Text.lower kind.name ++ "." ++ extension).toList.takeWhile (· ≠ '.') =
        (Text.lower kind.name).toList := by
    intro kind extension
    have hdot : (Text.lower kind.name).toList.all (· ≠ '.') = true := by
      cases kind <;> decide
    have hone : ".".toList = ['.'] := by decide
    rw [String.toList_append, String.toList_append, hone, List.append_assoc, List.singleton_append,
      List.takeWhile_append_of_pos (List.all_eq_true.mp hdot), List.takeWhile_cons_of_neg (by simp),
      List.append_nil]
  have hname := congrArg (fun name : String => name.toList.takeWhile (· ≠ '.')) h.2
  simp only [hbefore, String.toList_inj] at hname
  revert hname
  cases kind <;> cases kind' <;> decide

end

end ViewGen
