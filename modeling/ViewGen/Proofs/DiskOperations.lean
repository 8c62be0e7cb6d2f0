import ViewGen.Proofs.Disks
import ViewGen.World

/-!
# Operations on disks

For every operation on a path: what it needs, what it leaves and which places it grows the disk at.
-/

namespace ViewGen

namespace Disk

variable {disk later : Disk} {current : Location} {now : Moment} {path source target : Path}
  {content : ByteArray}

/-! ## Looking -/

theorem stat_eq_ok {node : Node} :
    disk.stat current path = .ok node ↔
      path.Leads disk current ∧ disk.node? (path.resolve current) = some node := by
  unfold stat Path.Leads
  constructor
  · intro h
    split at h
    · cases h
    · rename_i location hl
      rw [← Path.locate_eq_resolve hl]
      split at h
      · cases h
      · rename_i found hn
        cases h
        exact ⟨hl, hn⟩
  · rintro ⟨hl, hn⟩
    simp only [hl, hn]

theorem stat_of_leads (hl : path.Leads disk current) :
    disk.stat current path = match disk.node? (path.resolve current) with
      | none => .error (.system .notFound)
      | some node => .ok node := by
  unfold Path.Leads at hl
  cases hn : disk.node? (path.resolve current) <;> simp only [stat, hl, hn]

theorem fileContent_eq_ok :
    disk.fileContent current path = .ok content ↔
      path.Leads disk current ∧ disk.file? (path.resolve current) = some content := by
  unfold fileContent
  constructor
  · intro h
    split at h
    · cases h
    · cases h
    · rename_i c changed hs
      cases h
      obtain ⟨hl, hn⟩ := stat_eq_ok.mp hs
      exact ⟨hl, file?_eq_some.mpr ⟨changed, hn⟩⟩
  · rintro ⟨hl, hf⟩
    obtain ⟨changed, hn⟩ := file?_eq_some.mp hf
    rw [stat_eq_ok.mpr ⟨hl, hn⟩]

/-- Asked for a kind of thing, a path tells one only where such a thing stands. -/
theorem probe_eq_true {kind : Node → Bool} :
    disk.probe current path kind = .ok true ↔
      ∃ node, disk.stat current path = .ok node ∧ kind node = true := by
  unfold probe
  constructor
  · intro h
    split at h
    · rename_i node hs
      exact ⟨node, hs, Except.ok.inj h⟩
    · cases h
    · cases h
    · cases h
    · cases h
  · rintro ⟨node, hs, hkind⟩
    simp only [hs, hkind]

theorem pathExists_of_stat {node : Node} (h : disk.stat current path = .ok node) :
    disk.pathExists current path = .ok true :=
  probe_eq_true.mpr ⟨node, h, rfl⟩

theorem isDirectory_eq_true :
    disk.isDirectory current path = .ok true ↔
      ∃ changed, disk.stat current path = .ok (.directory changed) := by
  refine probe_eq_true.trans ⟨?_, fun ⟨changed, hs⟩ => ⟨_, hs, rfl⟩⟩
  rintro ⟨node, hs, hkind⟩
  cases node with
  | directory changed => exact ⟨changed, hs⟩
  | file content changed => cases hkind

theorem isFile_eq_true :
    disk.isFile current path = .ok true ↔
      ∃ content changed, disk.stat current path = .ok (.file content changed) := by
  refine probe_eq_true.trans ⟨?_, fun ⟨content, changed, hs⟩ => ⟨_, hs, rfl⟩⟩
  rintro ⟨node, hs, hkind⟩
  cases node with
  | directory changed => cases hkind
  | file content changed => exact ⟨content, changed, hs⟩

/-- What can be read is a file that is there. -/
theorem stat_of_fileContent (h : disk.fileContent current path = .ok content) :
    ∃ changed, disk.stat current path = .ok (.file content changed) := by
  obtain ⟨hl, hf⟩ := fileContent_eq_ok.mp h
  obtain ⟨changed, hn⟩ := file?_eq_some.mp hf
  exact ⟨changed, stat_eq_ok.mpr ⟨hl, hn⟩⟩

theorem pathExists_of_fileContent (h : disk.fileContent current path = .ok content) :
    disk.pathExists current path = .ok true := by
  obtain ⟨changed, hs⟩ := stat_of_fileContent h
  exact pathExists_of_stat hs

theorem isFile_of_fileContent (h : disk.fileContent current path = .ok content) :
    disk.isFile current path = .ok true :=
  isFile_eq_true.mpr ⟨content, stat_of_fileContent h⟩

/-! ## Files -/

theorem writeFile_eq_ok :
    disk.writeFile current now path content = .ok later ↔
      path.Leads disk current ∧ ¬ disk.IsDirectoryAt (path.resolve current) ∧
        later = disk.put (path.resolve current) (.file content now) := by
  unfold writeFile Path.Leads
  constructor
  · intro h
    split at h
    · cases h
    · rename_i location hl
      rw [← Path.locate_eq_resolve hl]
      split at h
      · cases h
      · rename_i hd
        cases h
        refine ⟨hl, ?_, rfl⟩
        rintro ⟨changed, hc⟩
        exact hd changed hc
  · rintro ⟨hl, hd, rfl⟩
    simp only [hl]
    split
    · rename_i changed hc
      exact absurd ⟨changed, hc⟩ hd
    · rfl

theorem createNode_eq_ok {node : Node} :
    disk.createNode current path node = .ok later ↔
      path.Leads disk current ∧ disk.node? (path.resolve current) = none ∧
        later = disk.put (path.resolve current) node := by
  unfold createNode Path.Leads
  constructor
  · intro h
    split at h
    · cases h
    · rename_i location hl
      rw [← Path.locate_eq_resolve hl]
      split at h
      · cases h
      · rename_i hn
        cases h
        exact ⟨hl, hn, rfl⟩
  · rintro ⟨hl, hn, rfl⟩
    simp only [hl, hn]

theorem createNode_exists {node found : Node} (h : disk.stat current path = .ok found) :
    disk.createNode current path node = .error (.system .exists) := by
  obtain ⟨hl, hn⟩ := stat_eq_ok.mp h
  simp only [createNode, show path.locate disk current = _ from hl, hn]

/-- What already exists is led to. -/
theorem leads_of_createNode_exists {node : Node}
    (h : disk.createNode current path node = .error (.system .exists)) :
    path.Leads disk current := by
  unfold createNode at h
  split at h
  · rename_i fault hf
    cases h
    exact absurd hf (path.locate_ne_exists disk current)
  · rename_i location hl
    exact Path.leads_of_locate hl

theorem removeFile_eq_ok :
    disk.removeFile current path = .ok later ↔
      path.Leads disk current ∧ (∃ content, disk.file? (path.resolve current) = some content) ∧
        later = disk.erase (path.resolve current) := by
  unfold removeFile Path.Leads
  constructor
  · intro h
    split at h
    · cases h
    · rename_i location hl
      rw [← Path.locate_eq_resolve hl]
      split at h
      · cases h
      · cases h
      · rename_i c changed hn
        cases h
        exact ⟨hl, ⟨c, file?_eq_some.mpr ⟨changed, hn⟩⟩, rfl⟩
  · rintro ⟨hl, ⟨c, hf⟩, rfl⟩
    obtain ⟨changed, hn⟩ := file?_eq_some.mp hf
    simp only [hl, hn]

theorem removeIfPresent_of_file (hl : path.Leads disk current)
    (hf : disk.file? (path.resolve current) = some content) :
    disk.removeIfPresent current path = .ok (disk.erase (path.resolve current)) := by
  rw [removeIfPresent, removeFile_eq_ok.mpr ⟨hl, ⟨content, hf⟩, rfl⟩]

theorem removeIfPresent_of_directory {changed : Moment} (hl : path.Leads disk current)
    (hn : disk.node? (path.resolve current) = some (.directory changed)) :
    disk.removeIfPresent current path = .error (.system .isDirectory) := by
  unfold Path.Leads at hl
  simp only [removeIfPresent, removeFile, hl, hn]

/-- Removing a file erases it, unless it is missing already. -/
theorem removeIfPresent_eq_ok (h : disk.removeIfPresent current path = .ok later) :
    later = disk ∨ (path.Leads disk current ∧ ¬ disk.IsDirectoryAt (path.resolve current) ∧
      later = disk.erase (path.resolve current)) := by
  unfold removeIfPresent at h
  split at h
  · cases h
    exact Or.inl rfl
  · obtain ⟨hl, ⟨c, hf⟩, he⟩ := removeFile_eq_ok.mp h
    obtain ⟨changed, hn⟩ := file?_eq_some.mp hf
    exact Or.inr ⟨hl, not_isDirectoryAt_of_file hn, he⟩

theorem replaceFile_eq_ok (h : disk.replaceFile current source target = .ok later) :
    source.Leads disk current ∧ target.Leads disk current ∧ target.parts.getLast? ≠ some ".." ∧
      target.parts ≠ [] ∧
      ¬ disk.IsDirectoryAt (target.resolve current) ∧
      ∃ content changed, disk.node? (source.resolve current) = some (.file content changed) ∧
        later = (disk.erase (source.resolve current)).put (target.resolve current)
          (.file content changed) := by
  unfold replaceFile at h
  unfold Path.Leads
  split at h
  · cases h
  · cases h
  · rename_i here there hs ht
    rw [← Path.locate_eq_resolve hs, ← Path.locate_eq_resolve ht]
    split at h
    · cases h
    · rename_i hlast
      rw [Bool.or_eq_true, not_or, List.isEmpty_iff, decide_eq_true_eq] at hlast
      split at h
      · cases h
      · cases h
      · cases h
      · rename_i c changed hn hd
        cases h
        refine ⟨hs, ht, hlast.2, hlast.1, ?_, c, changed, hn, rfl⟩
        rintro ⟨moment, hm⟩
        exact hd moment hm

theorem replaceFile_of_file {changed : Moment}
    (hnamed : target.parts ≠ [] ∧ target.parts.getLast? ≠ some "..")
    (hs : source.Leads disk current) (ht : target.Leads disk current)
    (hd : ¬ disk.IsDirectoryAt (target.resolve current))
    (hn : disk.node? (source.resolve current) = some (.file content changed)) :
    disk.replaceFile current source target =
      .ok ((disk.erase (source.resolve current)).put (target.resolve current)
        (.file content changed)) := by
  unfold Path.Leads at hs ht
  have hlast : (target.parts.isEmpty || decide (target.parts.getLast? = some "..")) = false := by
    simp [hnamed.1, hnamed.2]
  simp only [replaceFile, hs, ht, hlast, hn, Bool.false_eq_true, if_false]
  cases hnode : disk.node? (target.resolve current) with
  | none => rfl
  | some node =>
    cases node with
    | directory moment => exact absurd ⟨moment, hnode⟩ hd
    | file c moment => rfl

/-! ## Directories -/

/-- Whether a path leads to a directory. -/
def DirectoryAlong (disk : Disk) (current : Location) (path : Path) : Prop :=
  path.Leads disk current ∧ disk.IsDirectoryAt (path.resolve current)

theorem directoryAlong_iff_stat :
    disk.DirectoryAlong current path ↔
      ∃ changed, disk.stat current path = .ok (.directory changed) := by
  simp only [DirectoryAlong, IsDirectoryAt, stat_eq_ok, exists_and_left]

theorem KeepsDirectories.directoryAlong (h : KeepsDirectories disk later)
    (hd : disk.DirectoryAlong current path) : later.DirectoryAlong current path :=
  ⟨h.leads hd.1, h _ hd.2⟩

theorem ensureDirectory_of_directory (h : disk.DirectoryAlong current path) :
    disk.ensureDirectory current now path = .ok disk := by
  obtain ⟨changed, hs⟩ := directoryAlong_iff_stat.mp h
  rw [ensureDirectory, createNode_exists hs]
  simp only [isDirectory_eq_true.mpr ⟨changed, hs⟩]

theorem ensureDirectory_eq_ok (h : disk.ensureDirectory current now path = .ok later) :
    Grows ∅ disk later ∧ later.DirectoryAlong current path := by
  unfold ensureDirectory at h
  split at h
  · rename_i made hm
    cases h
    obtain ⟨hl, hn, rfl⟩ := createNode_eq_ok.mp hm
    have hg := Grows.putDirectory hn now
    have hne := ne_nil_of_not_isDirectoryAt (not_isDirectoryAt_of_none hn)
    exact ⟨hg, hg.keepsDirectories.leads hl, now, node?_put_self _ hne⟩
  · cases h
  · cases h
  · -- It cannot be made, which is no fault where it stands already.
    split at h
    · cases h
    · rename_i hd
      cases h
      exact ⟨.refl _ _, directoryAlong_iff_stat.mpr (isDirectory_eq_true.mp hd)⟩
    · cases h

theorem ensureDirectoriesFrom_spec (current : Location) (now : Moment) (anchor : Anchor)
    (names : List String) (disk : Disk) :
    Grows ∅ disk (ensureDirectoriesFrom current now anchor names disk).1 ∧
      ((ensureDirectoriesFrom current now anchor names disk).2 = .ok () →
        (ensureDirectoriesFrom current now anchor names disk).1.DirectoryAlong current
          ⟨anchor, names.reverse⟩) := by
  -- The names are reversed, so the induction goes up towards the anchor.
  induction names generalizing disk with
  | nil =>
    rw [ensureDirectoriesFrom]
    split
    · rename_i made hm
      have hs := ensureDirectory_eq_ok hm
      exact ⟨hs.1, fun _ => hs.2⟩
    · exact ⟨.refl _ _, fun h => nomatch h⟩
  | cons name above ih =>
    simp only [ensureDirectoriesFrom]
    split
    · rename_i made hm
      have hs := ensureDirectory_eq_ok hm
      exact ⟨hs.1, fun _ => hs.2⟩
    · -- A directory above is missing: those are made first, and this one is tried again.
      obtain ⟨hg, -⟩ := ih disk
      split
      · rename_i made fault hm
        rw [hm] at hg
        exact ⟨hg, fun h => nomatch h⟩
      · rename_i made hm
        rw [hm] at hg
        split
        · rename_i last hl
          have hs := ensureDirectory_eq_ok hl
          exact ⟨hg.trans hs.1, fun _ => hs.2⟩
        · exact ⟨hg, fun h => nomatch h⟩
    · exact ⟨.refl _ _, fun h => nomatch h⟩

theorem ensureDirectories_grows (disk : Disk) (current : Location) (now : Moment) (path : Path) :
    Grows ∅ disk (disk.ensureDirectories current now path).1 :=
  (ensureDirectoriesFrom_spec _ _ _ _ _).1

theorem ensureDirectories_eq_ok (h : disk.ensureDirectories current now path = (later, .ok ())) :
    later.DirectoryAlong current path := by
  have hs := (ensureDirectoriesFrom_spec current now path.anchor path.parts.reverse disk).2
  unfold ensureDirectories at h
  rw [h, List.reverse_reverse] at hs
  exact hs rfl

theorem ensureDirectories_of_directory (h : disk.DirectoryAlong current path) :
    disk.ensureDirectories current now path = (disk, .ok ()) := by
  unfold ensureDirectories
  cases hr : path.parts.reverse with
  | nil =>
    have hp : (⟨path.anchor, []⟩ : Path) = path := by
      rw [← List.reverse_eq_nil_iff.mp hr]
    rw [ensureDirectoriesFrom, hp, ensureDirectory_of_directory h]
  | cons name above =>
    have hp : (⟨path.anchor, (name :: above).reverse⟩ : Path) = path := by
      rw [← hr, List.reverse_reverse]
    simp only [ensureDirectoriesFrom, hp, ensureDirectory_of_directory h]

/-! ## Reading text -/

theorem readText_congr {other : Disk}
    (h : other.fileContent current path = disk.fileContent current path) :
    other.readText current path = disk.readText current path := by
  unfold readText
  rw [h]

theorem readText_eq_ok {text : String} (h : disk.readText current path = .ok text) :
    ∃ content, disk.fileContent current path = .ok content := by
  unfold readText at h
  split at h
  · cases h
  · rename_i c hc
    exact ⟨c, hc⟩

/-- A file that stays can still be read. -/
theorem KeepsDirectories.fileContent (h : KeepsDirectories disk later)
    (hsame : later.file? (path.resolve current) = disk.file? (path.resolve current))
    (hc : disk.fileContent current path = .ok content) :
    later.fileContent current path = .ok content := by
  obtain ⟨hl, hf⟩ := fileContent_eq_ok.mp hc
  exact fileContent_eq_ok.mpr ⟨h.leads hl, hsame.trans hf⟩

theorem KeepsDirectories.readText (h : KeepsDirectories disk later) {text : String}
    (hsame : later.file? (path.resolve current) = disk.file? (path.resolve current))
    (ht : disk.readText current path = .ok text) : later.readText current path = .ok text := by
  obtain ⟨c, hc⟩ := readText_eq_ok ht
  rw [readText_congr ((h.fileContent hsame hc).trans hc.symm), ht]

end Disk

end ViewGen
