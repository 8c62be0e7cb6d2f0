import Mathlib.Data.Set.Insert
import ViewGen.Disk.File

/-!
# How disks change

What stands where after a change, and the frame of a change: a disk grows at some places when all that
is new are directories and the files at those places.  Paths that lead somewhere still lead there on a
disk that keeps its directories.
-/

namespace ViewGen

namespace Disk

/-- The bytes of the file at a location. -/
def file? (disk : Disk) (at' : Location) : Option ByteArray :=
  match disk.node? at' with
  | some (.file content _) => some content
  | _ => none

def IsDirectoryAt (disk : Disk) (at' : Location) : Prop :=
  ∃ changed, disk.node? at' = some (.directory changed)

theorem root_isDirectoryAt (disk : Disk) : disk.IsDirectoryAt [] := ⟨0, rfl⟩

theorem ne_nil_of_not_isDirectoryAt {disk : Disk} {at' : Location}
    (hd : ¬ disk.IsDirectoryAt at') : at' ≠ [] := by
  rintro rfl
  exact hd disk.root_isDirectoryAt

theorem not_isDirectoryAt_of_none {disk : Disk} {at' : Location}
    (hn : disk.node? at' = none) : ¬ disk.IsDirectoryAt at' := by
  rintro ⟨changed, hc⟩
  rw [hn] at hc
  cases hc

theorem not_isDirectoryAt_of_file {disk : Disk} {at' : Location} {content : ByteArray}
    {changed : Moment} (hf : disk.node? at' = some (.file content changed)) :
    ¬ disk.IsDirectoryAt at' := by
  rintro ⟨moment, hc⟩
  rw [hf] at hc
  cases hc

theorem file?_eq_some {disk : Disk} {at' : Location} {content : ByteArray} :
    disk.file? at' = some content ↔ ∃ changed, disk.node? at' = some (.file content changed) := by
  unfold file?
  constructor
  · intro h
    split at h
    · rename_i c changed hn
      cases h
      exact ⟨changed, hn⟩
    · cases h
  · rintro ⟨changed, hn⟩
    rw [hn]

/-! ## Nodes after a change -/

theorem node?_eq_lookup {disk : Disk} {at' : Location} (hne : at' ≠ []) :
    disk.node? at' = disk.nodes.lookup at' := by
  unfold node?
  split
  · exact absurd rfl hne
  · rfl

private theorem lookup_filter_of_ne {at' place : Location} (hne : at' ≠ place)
    (entries : List (Location × Node)) :
    (entries.filter (·.1 != place)).lookup at' = entries.lookup at' := by
  induction entries with
  | nil => rfl
  | cons entry rest ih =>
    obtain ⟨location, node⟩ := entry
    by_cases hp : location = place
    · have hl : (at' == location) = false := by
        rw [beq_eq_false_iff_ne, hp]
        exact hne
      simp only [List.filter_cons, hp, bne_self_eq_false, Bool.false_eq_true, if_false]
      rw [ih, List.lookup_cons, ← hp, hl]
    · have hb : (location != place) = true := by simpa using hp
      simp only [List.filter_cons, hb, if_true, List.lookup_cons, ih]

private theorem lookup_filter_self (place : Location) (entries : List (Location × Node)) :
    (entries.filter (·.1 != place)).lookup place = none := by
  rw [List.lookup_eq_none_iff]
  intro entry hm
  have hb := (List.mem_filter.mp hm).2
  rw [bne_iff_ne] at hb
  simpa using Ne.symm hb

theorem node?_put_self {disk : Disk} {place : Location} (node : Node) (hne : place ≠ []) :
    (disk.put place node).node? place = some node := by
  rw [node?_eq_lookup hne]
  simp [put]

theorem node?_put_of_ne {disk : Disk} {at' place : Location} (node : Node) (hne : at' ≠ place) :
    (disk.put place node).node? at' = disk.node? at' := by
  -- The root is no entry of the disk: it is always a directory.
  by_cases hr : at' = []
  · rw [hr]
    rfl
  · have hb : (at' == place) = false := by simpa using hne
    rw [node?_eq_lookup hr, node?_eq_lookup hr, put, List.lookup_cons, hb]
    exact lookup_filter_of_ne hne _

theorem node?_erase_self {disk : Disk} {place : Location} (hne : place ≠ []) :
    (disk.erase place).node? place = none := by
  rw [node?_eq_lookup hne]
  exact lookup_filter_self place _

theorem node?_erase_of_ne {disk : Disk} {at' place : Location} (hne : at' ≠ place) :
    (disk.erase place).node? at' = disk.node? at' := by
  by_cases hr : at' = []
  · rw [hr]
    rfl
  · rw [node?_eq_lookup hr, node?_eq_lookup hr]
    exact lookup_filter_of_ne hne _

theorem file?_put_self (disk : Disk) {place : Location} (content : ByteArray) (changed : Moment)
    (hne : place ≠ []) : (disk.put place (.file content changed)).file? place = some content :=
  file?_eq_some.mpr ⟨changed, node?_put_self _ hne⟩

theorem not_isDirectoryAt_erase {disk : Disk} {at' : Location} (place : Location)
    (hd : ¬ disk.IsDirectoryAt at') : ¬ (disk.erase place).IsDirectoryAt at' := by
  have hne := ne_nil_of_not_isDirectoryAt hd
  by_cases he : at' = place
  · subst he
    exact not_isDirectoryAt_of_none (node?_erase_self hne)
  · unfold IsDirectoryAt
    rw [node?_erase_of_ne he]
    exact hd

/-! ## Where paths lead -/

theorem step_eq {at' next : Location} {name : String} (h : step at' name = .ok next) :
    next = if name = ".." then at'.dropLast else at' ++ [name] := by
  unfold step at h
  split at h
  · cases h
    rw [if_pos ‹_›]
  · split at h
    · cases h
    · cases h
      rw [if_neg ‹_›]

theorem walk_cons {disk : Disk} {at' location : Location} {name : String} {rest : List String} :
    disk.walk at' (name :: rest) = .ok location ↔
      disk.IsDirectoryAt at' ∧ ∃ next, step at' name = .ok next ∧
        disk.walk next rest = .ok location := by
  rw [walk]
  constructor
  · intro h
    split at h
    · cases h
    · cases h
    · rename_i changed hn
      split at h
      · cases h
      · rename_i next hs
        exact ⟨⟨changed, hn⟩, next, hs, h⟩
  · rintro ⟨⟨changed, hn⟩, next, hs, hw⟩
    rw [hn]
    simp only [hs, hw]

/-- The last name is entered last. -/
theorem walk_concat {disk : Disk} {at' location : Location} {names : List String} {name : String} :
    disk.walk at' (names ++ [name]) = .ok location ↔
      ∃ above, disk.walk at' names = .ok above ∧ disk.IsDirectoryAt above ∧
        step above name = .ok location := by
  induction names generalizing at' with
  | nil =>
    rw [List.nil_append, walk_cons]
    constructor
    · rintro ⟨hd, next, hs, hw⟩
      cases hw
      exact ⟨at', rfl, hd, hs⟩
    · rintro ⟨above, hw, hd, hs⟩
      cases hw
      exact ⟨hd, location, hs, rfl⟩
  | cons first rest ih =>
    rw [List.cons_append, walk_cons]
    constructor
    · rintro ⟨hd, next, hs, hw⟩
      obtain ⟨above, hrest, hlast⟩ := ih.mp hw
      exact ⟨above, walk_cons.mpr ⟨hd, next, hs, hrest⟩, hlast⟩
    · rintro ⟨above, hw, hlast⟩
      obtain ⟨hd, next, hs, hrest⟩ := walk_cons.mp hw
      exact ⟨hd, next, hs, ih.mpr ⟨above, hrest, hlast⟩⟩

/-- A walk that arrives has entered one name after the other. -/
theorem walk_eq {disk : Disk} {at' location : Location} {names : List String}
    (h : disk.walk at' names = .ok location) :
    location = names.foldl (fun at' name => if name = ".." then at'.dropLast else at' ++ [name])
      at' := by
  -- On the names, from wherever the walk has got to.
  induction names generalizing at' with
  | nil =>
    cases h
    rfl
  | cons name rest ih =>
    obtain ⟨-, next, hs, hw⟩ := walk_cons.mp h
    rw [List.foldl_cons, ← step_eq hs]
    exact ih hw

/-- Nothing on the way to a place is refused because it exists. -/
theorem walk_ne_exists (disk : Disk) (at' : Location) (names : List String) :
    disk.walk at' names ≠ .error .exists := by
  induction names generalizing at' with
  | nil => simp [walk]
  | cons name rest ih =>
    rw [walk]
    split
    · simp
    · simp
    · split
      · rename_i cause hs
        unfold step at hs
        split at hs
        · cases hs
        · split at hs <;> cases hs
          simp
      · exact ih _

end Disk

namespace Path

/-- Whether a path can be asked for at all, whatever the disk holds. -/
def Askable (path : Path) : Prop :=
  path.hasNul = false ∧ path.render.utf8ByteSize ≤ Disk.pathLimit

theorem locate_eq_ok {path : Path} {disk : Disk} {current location : Location} :
    path.locate disk current = .ok location ↔
      path.Askable ∧ disk.walk (path.origin current) path.parts = .ok location := by
  unfold locate Askable
  constructor
  · intro h
    split at h
    · cases h
    · rename_i hnul
      split at h
      · cases h
      · rename_i hlen
        split at h
        · cases h
        · rename_i hw
          cases h
          exact ⟨⟨by simpa using hnul, by omega⟩, hw⟩
  · rintro ⟨⟨hnul, hlen⟩, hw⟩
    rw [if_neg (by simp [hnul]), if_neg (by omega), hw]

/-- A path leads nowhere but to the location that its names spell. -/
theorem locate_eq_resolve {path : Path} {disk : Disk} {current location : Location}
    (h : path.locate disk current = .ok location) : location = path.resolve current :=
  Disk.walk_eq (locate_eq_ok.mp h).2

theorem locate_ne_exists (path : Path) (disk : Disk) (current : Location) :
    path.locate disk current ≠ .error (.system .exists) := by
  unfold locate
  split
  · simp
  · split
    · simp
    · split
      · rename_i cause hw
        intro he
        cases he
        exact disk.walk_ne_exists _ _ hw
      · simp

/-- Whether a path leads somewhere on a disk. Its last name may be missing. -/
def Leads (path : Path) (disk : Disk) (current : Location) : Prop :=
  path.locate disk current = .ok (path.resolve current)

theorem leads_of_locate {path : Path} {disk : Disk} {current location : Location}
    (h : path.locate disk current = .ok location) : path.Leads disk current := by
  rw [Leads, h, locate_eq_resolve h]

/-! ### Last names -/

theorem render_concat {anchor : Anchor} {names : List String} (hne : names ≠ []) (name : String) :
    (⟨anchor, names ++ [name]⟩ : Path).render = (⟨anchor, names⟩ : Path).render ++ "/" ++ name := by
  have hjoined : "/".intercalate (names ++ [name]) = "/".intercalate names ++ "/" ++ name := by
    rw [String.intercalate_append_of_ne_nil hne (by simp), String.intercalate_singleton]
  unfold render
  cases anchor <;> simp [hjoined, String.append_assoc, hne]

/-- A path that can be asked for can be asked for without its last name. -/
theorem Askable.init {anchor : Anchor} {names : List String} {name : String}
    (h : Askable ⟨anchor, names ++ [name]⟩) : Askable ⟨anchor, names⟩ := by
  obtain ⟨hnul, hlength⟩ := h
  refine ⟨?_, ?_⟩
  · unfold hasNul at hnul ⊢
    rw [List.any_append, Bool.or_eq_false_iff] at hnul
    exact hnul.1
  · by_cases hne : names = []
    · -- Without names the path is a dot, a slash or two.
      subst hne
      cases anchor <;> decide
    · rw [render_concat hne] at hlength
      simp only [String.utf8ByteSize_append] at hlength
      omega

/-- Another last name of the same size can be asked for as well. -/
theorem Askable.of_sameSize {anchor : Anchor} {names : List String} {name other : String}
    (h : Askable ⟨anchor, names ++ [name]⟩) (hnul : '\x00' ∉ other.toList)
    (hsize : other.utf8ByteSize = name.utf8ByteSize) : Askable ⟨anchor, names ++ [other]⟩ := by
  obtain ⟨hfree, hlength⟩ := h
  refine ⟨?_, ?_⟩
  · unfold hasNul at hfree ⊢
    rw [List.any_append, Bool.or_eq_false_iff] at hfree ⊢
    refine ⟨hfree.1, ?_⟩
    simpa using hnul
  · by_cases hne : names = []
    · subst hne
      unfold render at hlength ⊢
      cases anchor <;> simp_all [String.utf8ByteSize_append]
    · rw [render_concat hne] at hlength ⊢
      simp only [String.utf8ByteSize_append] at hlength ⊢
      omega

/-- Of two last names of the same size that lead down, both lead somewhere or neither does. -/
theorem Leads.of_sameSize {anchor : Anchor} {names : List String} {name other : String} {disk : Disk}
    {current : Location} (h : Leads ⟨anchor, names ++ [name]⟩ disk current)
    (hnul : '\x00' ∉ other.toList) (hsize : other.utf8ByteSize = name.utf8ByteSize)
    (hname : name ≠ "..") (hother : other ≠ "..") :
    Leads ⟨anchor, names ++ [other]⟩ disk current := by
  obtain ⟨hask, hwalk⟩ := locate_eq_ok.mp h
  obtain ⟨above, habove, hd, hstep⟩ := Disk.walk_concat.mp hwalk
  have hshort : ¬ Disk.nameLimit < name.utf8ByteSize := by
    intro hlong
    rw [Disk.step, if_neg hname, if_pos hlong] at hstep
    cases hstep
  have hthere : Disk.step above other = .ok (above ++ [other]) := by
    rw [Disk.step, if_neg hother, if_neg (hsize ▸ hshort)]
  exact leads_of_locate (locate_eq_ok.mpr
    ⟨hask.of_sameSize hnul hsize, Disk.walk_concat.mpr ⟨above, habove, hd, hthere⟩⟩)

end Path

namespace Disk

variable {disk later last : Disk} {at' : Location}

/-! ## Keeping directories -/

/-- Every directory of `disk` is one of `later`. -/
def KeepsDirectories (disk later : Disk) : Prop :=
  ∀ at', disk.IsDirectoryAt at' → later.IsDirectoryAt at'

theorem keepsDirectories_put {place : Location} (node : Node) (hd : ¬ disk.IsDirectoryAt place) :
    KeepsDirectories disk (disk.put place node) := by
  intro at' hat
  have hne : at' ≠ place := fun he => hd (he ▸ hat)
  unfold IsDirectoryAt
  rw [node?_put_of_ne node hne]
  exact hat

theorem keepsDirectories_erase {place : Location} (hd : ¬ disk.IsDirectoryAt place) :
    KeepsDirectories disk (disk.erase place) := by
  intro at' hat
  have hne : at' ≠ place := fun he => hd (he ▸ hat)
  unfold IsDirectoryAt
  rw [node?_erase_of_ne hne]
  exact hat

namespace KeepsDirectories

protected theorem trans (h : KeepsDirectories disk later) (h' : KeepsDirectories later last) :
    KeepsDirectories disk last :=
  fun at' hat => h' at' (h at' hat)

theorem walk (h : KeepsDirectories disk later) {names : List String} {location : Location}
    (hw : disk.walk at' names = .ok location) : later.walk at' names = .ok location := by
  induction names generalizing at' with
  | nil => exact hw
  | cons name rest ih =>
    obtain ⟨hd, next, hs, hrest⟩ := walk_cons.mp hw
    exact walk_cons.mpr ⟨h at' hd, next, hs, ih hrest⟩

/-- Paths that lead somewhere still do so. -/
theorem leads (h : KeepsDirectories disk later) {path : Path} {current : Location}
    (hl : path.Leads disk current) : path.Leads later current := by
  obtain ⟨ha, hw⟩ := Path.locate_eq_ok.mp hl
  exact Path.locate_eq_ok.mpr ⟨ha, h.walk hw⟩

end KeepsDirectories

/-! ## Growing disks -/

/-- What differs between `disk` and `later` is a directory made where nothing stood, or a file
written at one of the places. -/
def Grows (places : Set Location) (disk later : Disk) : Prop :=
  ∀ at', later.node? at' = disk.node? at' ∨
    (disk.node? at' = none ∧ later.IsDirectoryAt at') ∨
    (at' ∈ places ∧ ¬ disk.IsDirectoryAt at' ∧ ∃ content, later.file? at' = some content)

namespace Grows

variable {places more : Set Location}

protected theorem refl (places : Set Location) (disk : Disk) : Grows places disk disk :=
  fun _ => Or.inl rfl

theorem mono (h : Grows places disk later) (hs : places ⊆ more) : Grows more disk later := by
  intro at'
  obtain he | hn | ⟨hp, hd, hf⟩ := h at'
  · exact Or.inl he
  · exact Or.inr (Or.inl hn)
  · exact Or.inr (Or.inr ⟨hs hp, hd, hf⟩)

theorem node?_of_directory (h : Grows places disk later) (hd : disk.IsDirectoryAt at') :
    later.node? at' = disk.node? at' := by
  obtain he | ⟨hn, -⟩ | ⟨-, hnot, -⟩ := h at'
  · exact he
  · exact absurd hd (not_isDirectoryAt_of_none hn)
  · exact absurd hd hnot

theorem keepsDirectories (h : Grows places disk later) : KeepsDirectories disk later := by
  intro at' hd
  obtain ⟨changed, hc⟩ := hd
  exact ⟨changed, (h.node?_of_directory ⟨changed, hc⟩).trans hc⟩

/-- A file is still one, though its content may be another. -/
theorem file (h : Grows places disk later) {content : ByteArray}
    (hf : disk.file? at' = some content) : ∃ other, later.file? at' = some other := by
  obtain ⟨changed, hn⟩ := file?_eq_some.mp hf
  obtain he | ⟨hnone, -⟩ | ⟨-, -, hfile⟩ := h at'
  · exact ⟨content, file?_eq_some.mpr ⟨changed, he.trans hn⟩⟩
  · rw [hnone] at hn
    cases hn
  · exact hfile

/-- Outside of the places every file stays, and none appears. -/
theorem file?_eq (h : Grows places disk later) (hout : at' ∉ places) :
    later.file? at' = disk.file? at' := by
  obtain he | ⟨hnone, changed, hd⟩ | ⟨hp, -, -⟩ := h at'
  · simp only [file?, he]
  · simp only [file?, hnone, hd]
  · exact absurd hp hout

protected theorem trans (h : Grows places disk later) (h' : Grows places later last) :
    Grows places disk last := by
  intro at'
  obtain he | ⟨hn, hd⟩ | ⟨hp, hd, content, hf⟩ := h at'
  · -- What the first change left alone is as the second one makes it.
    obtain he' | ⟨hn', hd'⟩ | ⟨hp', hd', hf'⟩ := h' at'
    · exact Or.inl (he'.trans he)
    · exact Or.inr (Or.inl ⟨he ▸ hn', hd'⟩)
    · refine Or.inr (Or.inr ⟨hp', ?_, hf'⟩)
      intro hat
      exact hd' (h.keepsDirectories at' hat)
  -- A directory that is made stays one, and so does a file that is written.
  · exact Or.inr (Or.inl ⟨hn, h'.keepsDirectories at' hd⟩)
  · exact Or.inr (Or.inr ⟨hp, hd, h'.file hf⟩)

/-- Writing a file where no directory stands. -/
theorem putFile {place : Location} (hd : ¬ disk.IsDirectoryAt place) (content : ByteArray)
    (changed : Moment) : Grows {place} disk (disk.put place (.file content changed)) := by
  intro at'
  by_cases he : at' = place
  · subst he
    exact Or.inr (Or.inr ⟨rfl, hd, content,
      disk.file?_put_self content changed (ne_nil_of_not_isDirectoryAt hd)⟩)
  · exact Or.inl (node?_put_of_ne _ he)

/-- Making a directory where nothing stands changes no file. -/
theorem putDirectory {place : Location} (hn : disk.node? place = none) (changed : Moment) :
    Grows ∅ disk (disk.put place (.directory changed)) := by
  intro at'
  by_cases he : at' = place
  · subst he
    have hne := ne_nil_of_not_isDirectoryAt (not_isDirectoryAt_of_none hn)
    exact Or.inr (Or.inl ⟨hn, changed, node?_put_self _ hne⟩)
  · exact Or.inl (node?_put_of_ne _ he)

end Grows

end Disk

end ViewGen
