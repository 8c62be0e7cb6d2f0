import Mathlib.Data.Fintype.EquivFin
import Mathlib.Data.Fintype.List
import ViewGen.Proofs.Views
import ViewGen.Schema.Parser

/-!
# Views below the output root

The name of a model and the extension become parts of a path as they are, so they can lead anywhere.  A
view stays below the directory of all views, wherever the output root is, if and only if its path is
relative and its names never climb out of the root and end below that directory.  Plain names do.
-/

namespace ViewGen

namespace Path

/-! ## Names that do not climb out -/

/-- One name further, whatever stands there. -/
def enter (at' : Location) (name : String) : Location :=
  if name = ".." then at'.dropLast else at' ++ [name]

/-- Where names lead to from some place, spelled from there.  There is no such spelling where they climb
out of it. -/
def descend : Location → List String → Option Location
  | at', [] => some at'
  | at', name :: rest =>
    if name = ".." then if at' = [] then none else descend at'.dropLast rest
    else descend (at' ++ [name]) rest

variable {names : List String} {at' last : Location}

theorem foldl_enter_of_descend (h : descend at' names = some last) (base : Location) :
    names.foldl enter (base ++ at') = base ++ last := by
  induction names generalizing at' with
  | nil =>
    cases h
    rfl
  | cons name rest ih =>
    rw [descend] at h
    rw [List.foldl_cons, enter]
    split at h
    · rename_i hup
      split at h
      · cases h
      · rename_i hne
        rw [if_pos hup, List.dropLast_append_of_ne_nil hne]
        exact ih h
    · rename_i hdown
      rw [if_neg hdown, List.append_assoc]
      exact ih h

theorem descend_of_down (h : ∀ name ∈ names, name ≠ "..") (at' : Location) :
    descend at' names = some (at' ++ names) := by
  induction names generalizing at' with
  | nil => rw [descend, List.append_nil]
  | cons name rest ih =>
    rw [descend, if_neg (h name List.mem_cons_self),
      ih (fun other hm => h other (List.mem_cons_of_mem _ hm)), List.append_assoc]
    rfl

/-- A name along the way was there before or is entered. -/
theorem mem_of_mem_foldl_enter {found : String} (h : found ∈ names.foldl enter at') :
    found ∈ at' ∨ found ∈ names := by
  induction names generalizing at' with
  | nil => exact Or.inl h
  | cons name rest ih =>
    obtain hm | hm := ih h
    · rw [enter] at hm
      split at hm
      · exact Or.inl (List.mem_of_mem_dropLast hm)
      · obtain hm | hm := List.mem_append.mp hm
        · exact Or.inl hm
        · rw [List.mem_singleton] at hm
          exact Or.inr (hm ▸ List.mem_cons_self)
    · exact Or.inr (List.mem_cons_of_mem _ hm)

/-- Names that climb out of a place leave its name behind. -/
theorem not_mem_of_descend {root : String} (h : descend at' names = none) (hat : root ∉ at')
    (hroot : root ∉ names) : root ∉ names.foldl enter (root :: at') := by
  induction names generalizing at' with
  | nil => cases h
  | cons name rest ih =>
    rw [List.mem_cons, not_or] at hroot
    rw [descend] at h
    rw [List.foldl_cons, enter]
    split at h
    · rename_i hup
      rw [if_pos hup]
      split at h
      · rename_i hnil
        -- The place itself is left, and only names of the path are entered from here on.
        subst hnil
        intro hm
        obtain hm | hm := mem_of_mem_foldl_enter hm
        · exact nomatch hm
        · exact hroot.2 hm
      · rename_i hne
        rw [List.dropLast_cons_of_ne_nil hne]
        exact ih h (fun hm => hat (List.mem_of_mem_dropLast hm)) hroot.2
    · rename_i hdown
      rw [if_neg hdown, List.cons_append]
      refine ih h ?_ hroot.2
      rw [List.mem_append, List.mem_singleton, not_or]
      exact ⟨hat, hroot.1⟩

/-! ## Anchors -/

theorem anchorOf_eq_relative {s : List Char} : anchorOf s = .relative ↔ s.head? ≠ some '/' := by
  unfold anchorOf
  split
  · simp
  · simp
  · simp
  · rename_i hslash
    cases s with
    | nil => simp
    | cons c rest =>
      have hc : c ≠ '/' := by
        rintro rfl
        exact hslash rest rfl
      simp [hc]

theorem anchor_parse (s : String) : (parse s).anchor = .relative ↔ s.toList.head? ≠ some '/' := by
  unfold parse
  exact anchorOf_eq_relative

theorem anchor_join (base other : Path) :
    (base.join other).anchor = .relative ↔ base.anchor = .relative ∧ other.anchor = .relative := by
  obtain ⟨anchor, parts⟩ := other
  cases anchor <;> simp [join]

end Path

/-- Lower case neither makes nor moves a slash at the beginning. -/
theorem Text.head?_lower (s : String) :
    (Text.lower s).toList.head? = some '/' ↔ s.toList.head? = some '/' := by
  have hchars : (Text.lower s).toList = Text.lowerAfter [] s.toList := String.toList_ofList
  rw [hchars]
  cases s.toList with
  | nil => rfl
  | cons c rest =>
    obtain ⟨form, he, hne, hmark⟩ := Text.lowerAfter_cons [] rest c
    rw [he, List.head?_append_of_ne_nil _ hne, List.head?_cons, Option.some.injEq]
    constructor
    · intro hhead
      have hform := hmark '/' (List.mem_of_mem_head? hhead) (Or.inl rfl)
      rw [hform] at hhead
      exact Option.some.inj hhead
    · rintro rfl
      have hslash : Text.lowerAfter [] ('/' :: rest) = '/' :: Text.lowerAfter ['/'] rest := rfl
      rw [hslash] at he
      cases form with
      | nil => exact absurd rfl hne
      | cons d more =>
        rw [List.cons_append, List.cons.injEq] at he
        rw [← he.1]
        rfl

/-! ## Views -/

/-- The path of a view is relative unless the name of its model begins with a slash. -/
theorem anchor_viewPath (model : String) (kind : ViewKind) (extension : String) :
    (viewPath model kind extension).anchor = .relative ↔ model.toList.head? ≠ some '/' := by
  have hroutes : (Path.parse "routes").anchor = .relative := by decide
  have hkind : (Path.parse (Text.lower kind.name ++ "." ++ extension)).anchor = .relative := by
    have hhead : (Text.lower kind.name).toList ≠ [] ∧
        (Text.lower kind.name).toList.head? ≠ some '/' := by cases kind <;> decide
    rw [Path.anchor_parse, String.toList_append, String.toList_append, List.append_assoc,
      List.head?_append_of_ne_nil _ hhead.1]
    exact hhead.2
  have hmodel : (Path.parse (Text.lower model)).anchor = .relative ↔ model.toList.head? ≠ some '/' :=
    (Path.anchor_parse _).trans (not_congr (Text.head?_lower model))
  rw [viewPath, Path.joinName, Path.joinName, Path.anchor_join, Path.anchor_join, hmodel]
  simp only [hroutes, hkind, true_and, and_true]

/-- Whether a location is strictly below the directory of all views of an output root. -/
def BelowRoutes (output : Path) (current at' : Location) : Prop :=
  ∃ name rest, at' = output.resolve current ++ "routes" :: name :: rest

namespace RenderedView

variable {view : RenderedView}

/-- Wherever the output root is, the view stands below the directory of all views. -/
def Contained (view : RenderedView) : Prop :=
  ∀ output current, BelowRoutes output current (view.place output current)

theorem place_of_relative (h : view.path.anchor = .relative) (output : Path) (current : Location) :
    view.place output current = view.path.parts.foldl Path.enter (output.resolve current) := by
  have hjoin : output.join view.path = ⟨output.anchor, output.parts ++ view.path.parts⟩ := by
    rw [Path.join, h]
  rw [place, hjoin]
  exact Path.resolve_append output view.path.parts current

/-- A path that is not relative leads to the same place wherever the output root is. -/
theorem place_of_not_relative (h : view.path.anchor ≠ .relative) (output : Path)
    (current : Location) : view.place output current = view.path.parts.foldl Path.enter [] := by
  unfold place Path.join Path.resolve Path.origin
  cases ha : view.path.anchor with
  | relative => exact absurd ha h
  | root => simp only [ha]; rfl
  | doubleRoot => simp only [ha]; rfl

theorem contained_iff :
    view.Contained ↔ view.path.anchor = .relative ∧
      ∃ name rest, Path.descend [] view.path.parts = some ("routes" :: name :: rest) := by
  constructor
  · intro h
    -- An output root of a name that the path does not hold tells where the path leaves it.
    obtain ⟨root, hroot⟩ := Infinite.exists_notMem_finset (".." :: view.path.parts).toFinset
    rw [List.mem_toFinset, List.mem_cons, not_or] at hroot
    obtain ⟨name, rest, hplace⟩ := h ⟨.root, [root]⟩ []
    have hresolve : (⟨.root, [root]⟩ : Path).resolve [] = [root] := if_neg hroot.1
    rw [hresolve, List.singleton_append] at hplace
    have hin : root ∈ view.place ⟨.root, [root]⟩ [] := hplace ▸ List.mem_cons_self
    have hrelative : view.path.anchor = .relative := by
      by_contra hanchor
      rw [place_of_not_relative hanchor] at hin
      obtain hnil | hpart := Path.mem_of_mem_foldl_enter hin
      · exact nomatch hnil
      · exact hroot.2 hpart
    rw [place_of_relative hrelative, hresolve] at hplace hin
    cases hdescend : Path.descend [] view.path.parts with
    | none => exact absurd hin (Path.not_mem_of_descend hdescend List.not_mem_nil hroot.2)
    | some last =>
      have hlast := Path.foldl_enter_of_descend hdescend [root]
      rw [List.append_nil, hplace, List.singleton_append, List.cons.injEq] at hlast
      exact ⟨hrelative, name, rest, by rw [← hlast.2]⟩
  · rintro ⟨hrelative, name, rest, hdescend⟩ output current
    have hlast := Path.foldl_enter_of_descend hdescend (output.resolve current)
    rw [List.append_nil] at hlast
    exact ⟨name, rest, (place_of_relative hrelative output current).trans hlast⟩

end RenderedView

/-- The parts of the path of a view whose model has a plain name, be that a dot or nothing. -/
theorem parts_viewPath {model extension : String} (kind : ViewKind) (hslash : '/' ∉ model.toList)
    (hup : model ≠ "..") (hext : '/' ∉ extension.toList) :
    ∃ names, (viewPath model kind extension).parts =
        "routes" :: names ++ [Text.lower kind.name ++ "." ++ extension] ∧
      ∀ name ∈ names, name ≠ ".." := by
  by_cases hname : Path.IsName model
  · refine ⟨[Text.lower model], by rw [viewPath_of_isName hname hext]; rfl, ?_⟩
    intro name hm
    rw [List.mem_singleton.mp hm]
    exact hname.lower.2
  · -- What is no name is left out of the path.
    have hempty : model = "" ∨ model = "." := by
      by_contra hother
      rw [not_or] at hother
      exact hname ⟨⟨hother.1, hother.2, hslash⟩, hup⟩
    have hparse : (Path.parse "routes").joinName (Text.lower model) = ⟨.relative, ["routes"]⟩ := by
      obtain rfl | rfl := hempty <;> decide
    refine ⟨[], ?_, fun name hm => nomatch hm⟩
    rw [viewPath, hparse, Path.joinName_of_isPart (isName_kind kind hext).1]

/-! ## Writing -/

/-- However the writing of views ends, the files it has changed are at the places of those that were to be
written. -/
theorem writeViews_file?_eq {ε : Type} {result : Reconciliation} {output : Path} {w : World}
    {at' : Location} (hout : at' ∉ placesOf output result.changed w.current) :
    ((writeViews result output : Job ε _).after w).disk.file? at' = w.disk.file? at' := by
  obtain ⟨later, hn, hwrite⟩ := writeViews_eq result output w
  have hgrows := writeAll_grows w.current w.now output result.changed w.disk
  have hinitial := (writeAll_initial w.current w.now output result.changed w.disk).1
  rw [Job.after_of_ok (hwrite ε), hn.disk]
  refine hgrows.file?_eq fun hin => hout ?_
  obtain ⟨view, hm, hplace⟩ := hin
  exact ⟨view, hinitial.subset hm, hplace⟩

section

variable {ε : Type} {models : List Model} {previous : Manifest} {render : Renderer ε}
  {extension : String} {result : Reconciliation}

/-- The path of a view is relative if and only if the name of its model begins with no slash.  The view is
below the directory of all views, wherever the output root is, if and only if moreover the names along its
path never climb out of the root and end below that directory.  So it is where there are no slashes in the
name, which is not `..`, and in the extension.  If all changed views are, writing them changes no file
elsewhere. -/
theorem contained_of_reconcile (h : reconcile models previous render extension = .ok result) :
    (∀ view ∈ result.views,
      (view.path.anchor = .relative ↔ view.model.toList.head? ≠ some '/') ∧
      (view.Contained ↔ view.path.anchor = .relative ∧
        ∃ name rest, Path.descend [] view.path.parts = some ("routes" :: name :: rest)) ∧
      ('/' ∉ view.model.toList → view.model ≠ ".." → '/' ∉ extension.toList → view.Contained)) ∧
    ∀ output w, (∀ view ∈ result.changed, view.Contained) →
      ∀ at', ¬ BelowRoutes output w.current at' →
        ((writeViews result output : Job ε _).after w).disk.file? at' = w.disk.file? at' := by
  obtain ⟨views, hviews, rfl⟩ := reconcile_eq_ok.mp h
  refine ⟨?_, ?_⟩
  · intro view hm
    have hpath := (shown_of_mem hviews hm).1
    have hrelative : view.path.anchor = .relative ↔ view.model.toList.head? ≠ some '/' := by
      rw [hpath, anchor_viewPath]
    refine ⟨hrelative, RenderedView.contained_iff, ?_⟩
    intro hslash hup hext
    obtain ⟨names, hparts, hdown⟩ := parts_viewPath view.kind hslash hup hext
    refine RenderedView.contained_iff.mpr
      ⟨hrelative.mpr fun hhead => hslash (List.mem_of_mem_head? hhead), ?_⟩
    have hall : ∀ name ∈ "routes" :: names ++ [Text.lower view.kind.name ++ "." ++ extension],
        name ≠ ".." := by
      intro name hname
      obtain hname | hname := List.mem_append.mp hname
      · obtain rfl | hname := List.mem_cons.mp hname
        · decide
        · exact hdown name hname
      · rw [List.mem_singleton.mp hname]
        exact (isName_kind view.kind hext).2
    rw [hpath, hparts, Path.descend_of_down hall]
    -- Below the directory of all views there is at least the file of the kind.
    cases names with
    | nil => exact ⟨_, _, rfl⟩
    | cons name rest => exact ⟨_, _, rfl⟩
  · intro output w hcontained at' hout
    refine writeViews_file?_eq fun hin => hout ?_
    obtain ⟨view, hm, rfl⟩ := hin
    exact hcontained view hm output w.current

end

/-- Three models, of which only the first one has a plain name. -/
def Schema.climbing : String :=
  "model A \x7b\n  x Int\n\x7d\nmodel /x \x7b\n  x Int\n\x7d\nmodel ../../victim \x7b\n  x Int\n\x7d\n"

/-- The world in which a file stands beside the output root. -/
def World.beside : World :=
  { World.bare with disk := ⟨[(["victim"], .directory 0),
    (["victim", "list.tsx"], .file "mine".toUTF8 0)]⟩ }

/-- Of the three models the last two have views outside of the output root, one by a path from the root
and one by names that climb out, and writing them replaces the file beside it. -/
theorem contained_of_reconcile_climbing :
    ∃ schema result, Schema.parse Schema.climbing = .ok schema ∧
      reconcile schema.models .initial
        (fun _ model => .ok model.name : Renderer Unit) "tsx" = .ok result ∧
      (∃ view ∈ result.views, view.model = "A" ∧ view.Contained) ∧
      (∃ view ∈ result.views, view.model = "/x" ∧ view.path.anchor = .root ∧ ¬ view.Contained) ∧
      (∃ view ∈ result.views, view.model = "../../victim" ∧ view.path.anchor = .relative ∧
        ¬ view.Contained) ∧
      ((writeViews result ⟨.root, ["out"]⟩ : Job Unit _).after .beside).disk.file?
        ["victim", "list.tsx"] ≠ some "mine".toUTF8 := by
  -- Both results are found by computing, and so is what there is to say about the views.
  have hfacts : ((Schema.parse Schema.climbing).toOption.any fun schema =>
      (reconcile schema.models .initial
        (fun _ model => .ok model.name : Renderer Unit) "tsx").toOption.any fun result =>
        result.views.any (fun view => view.model == "A") &&
        result.views.any (fun view => view.model == "/x" && view.path.anchor == .root) &&
        result.views.any (fun view => view.model == "../../victim" &&
          view.path.anchor == .relative && (Path.descend [] view.path.parts).isNone) &&
        decide (((writeViews result ⟨.root, ["out"]⟩ : Job Unit _).after .beside).disk.file?
          ["victim", "list.tsx"] ≠ some "mine".toUTF8)) = true := by
    decide
  cases hparse : Schema.parse Schema.climbing with
  | error fault =>
    rw [hparse] at hfacts
    cases hfacts
  | ok schema =>
    rw [hparse] at hfacts
    dsimp only [Except.toOption, Option.any_some] at hfacts
    cases hr : reconcile schema.models .initial
        (fun _ model => .ok model.name : Renderer Unit) "tsx" with
    | error fault =>
      rw [hr] at hfacts
      cases hfacts
    | ok result =>
      rw [hr] at hfacts
      simp only [Option.any_some, Bool.and_eq_true, List.any_eq_true, beq_iff_eq,
        decide_eq_true_eq, Option.isNone_iff_eq_none] at hfacts
      obtain ⟨⟨⟨⟨plain, hplain, hname⟩, rooted, hrooted, hslash, hroot⟩, climbing, hclimbing,
        ⟨hup, hrelative⟩, hnone⟩, hwrote⟩ := hfacts
      have hviews := (contained_of_reconcile hr).1
      refine ⟨schema, result, rfl, hr, ⟨plain, hplain, hname, ?_⟩,
        ⟨rooted, hrooted, hslash, hroot, ?_⟩, ⟨climbing, hclimbing, hup, hrelative, ?_⟩, hwrote⟩
      · refine (hviews plain hplain).2.2 ?_ ?_ (by decide) <;> rw [hname] <;> decide
      · rw [(hviews rooted hrooted).2.1, hroot]
        rintro ⟨hrelative, -⟩
        cases hrelative
      · rw [(hviews climbing hclimbing).2.1, hnone]
        rintro ⟨-, name, rest, hsome⟩
        cases hsome

end ViewGen
