import ViewGen.Proofs.ManifestStore
import ViewGen.Proofs.Names

/-!
# Paths with NUL characters

A path never reaches the system if one of its parts holds a NUL character, and that is the only way in
which it does not.  A manifest beside a lock file that can be asked for is saved, or the system says why it
cannot be; and saving is all or nothing.
-/

namespace ViewGen

namespace Path

variable {path base other : Path}

theorem hasNul_eq_false : path.hasNul = false ↔ ∀ part ∈ path.parts, '\x00' ∉ part.toList := by
  simp [hasNul, List.any_eq_false]

theorem hasNul_of_parent (h : path.parent.hasNul = true) : path.hasNul = true := by
  by_contra hnone
  rw [Bool.not_eq_true, hasNul_eq_false] at hnone
  rw [hasNul_eq_false.mpr fun part hm => hnone part (List.mem_of_mem_dropLast hm)] at h
  cases h

theorem locate_eq_embeddedNul (disk : Disk) (current : Location) :
    path.locate disk current = .error .embeddedNul ↔ path.hasNul = true := by
  unfold locate
  split
  · rename_i hnul
    simp only [hnul]
  · rename_i hnul
    split
    · simp only [hnul, Except.error.injEq, reduceCtorEq]
    · cases disk.walk (path.origin current) path.parts <;>
        simp only [hnul, Except.error.injEq, reduceCtorEq]

end Path

namespace Disk

variable {disk later : Disk} {current : Location} {now : Moment} {path source target : Path}

/-! ## Operations -/

theorem createNode_embeddedNul {node : Node}
    (h : disk.createNode current path node = .error .embeddedNul) : path.hasNul = true := by
  unfold createNode at h
  split at h
  · rename_i hl
    cases h
    exact (Path.locate_eq_embeddedNul _ _).mp hl
  · split at h <;> cases h

theorem removeIfPresent_embeddedNul (h : disk.removeIfPresent current path = .error .embeddedNul) :
    path.hasNul = true := by
  unfold removeIfPresent removeFile at h
  cases hl : path.locate disk current with
  | error cause =>
    rw [hl] at h
    cases cause with
    | embeddedNul => exact (Path.locate_eq_embeddedNul _ _).mp hl
    | system cause => cases cause <;> cases h
  | ok location =>
    rw [hl] at h
    cases hn : disk.node? location with
    | none => simp only [hn] at h; cases h
    | some node => cases node <;> simp only [hn] at h <;> cases h

theorem replaceFile_embeddedNul
    (h : disk.replaceFile current source target = .error .embeddedNul) :
    source.hasNul = true ∨ target.hasNul = true := by
  unfold replaceFile at h
  split at h
  · rename_i hs
    cases h
    exact Or.inl ((Path.locate_eq_embeddedNul _ _).mp hs)
  · rename_i hs
    cases h
    exact Or.inr ((Path.locate_eq_embeddedNul _ _).mp hs)
  · split at h
    · cases h
    · split at h <;> cases h

theorem isDirectory_ne_embeddedNul (disk : Disk) (current : Location) (path : Path) :
    disk.isDirectory current path ≠ .error .embeddedNul := by
  unfold isDirectory probe
  split <;> simp_all

theorem ensureDirectory_embeddedNul
    (h : disk.ensureDirectory current now path = .error .embeddedNul) : path.hasNul = true := by
  unfold ensureDirectory at h
  split at h
  · cases h
  · rename_i hc
    exact createNode_embeddedNul hc
  · cases h
  · rename_i hnul _ hc
    split at h
    · rename_i hd
      cases h
      exact absurd hd (isDirectory_ne_embeddedNul disk current path)
    · cases h
    · cases h
      exact absurd rfl hnul

theorem ensureDirectoriesFrom_embeddedNul {anchor : Anchor} {names : List String}
    (h : ensureDirectoriesFrom current now anchor names disk = (later, .error .embeddedNul)) :
    (⟨anchor, names.reverse⟩ : Path).hasNul = true := by
  -- The names are reversed, so the induction goes up towards the anchor.
  induction names generalizing disk later with
  | nil =>
    rw [ensureDirectoriesFrom] at h
    split at h
    · cases h
    · rename_i hmake
      cases h
      exact ensureDirectory_embeddedNul hmake
  | cons name above ih =>
    simp only [ensureDirectoriesFrom] at h
    split at h
    · cases h
    · split at h
      · rename_i habove
        cases h
        have hnul := ih habove
        unfold Path.hasNul at hnul ⊢
        rw [List.reverse_cons, List.any_append, hnul, Bool.true_or]
      · split at h
        · cases h
        · rename_i hmake
          cases h
          exact ensureDirectory_embeddedNul hmake
    · rename_i hmake
      cases h
      exact ensureDirectory_embeddedNul hmake

theorem ensureDirectories_embeddedNul
    (h : disk.ensureDirectories current now path = (later, .error .embeddedNul)) :
    path.hasNul = true := by
  have hnul := ensureDirectoriesFrom_embeddedNul h
  rw [List.reverse_reverse] at hnul
  exact hnul

end Disk

/-! ## Saving a manifest -/

namespace Manifest

variable {w w' : World} {path directory : Path} {file : String} {manifest : Manifest}

theorem createTemporary_embeddedNul {content : String} {names : List RandomName}
    (h : createTemporary directory file content names w = .error .embeddedNul w') :
    ∃ random ∈ names, (temporaryPath directory file random).hasNul = true := by
  induction names with
  | nil => cases h
  | cons random rest ih =>
    rw [createTemporary_cons] at h
    split at h
    · cases h
    · obtain ⟨later, hm, hnul⟩ := ih h
      exact ⟨later, List.mem_cons_of_mem random hm, hnul⟩
    · rename_i hcreate
      cases h
      exact ⟨random, List.mem_cons_self, Disk.createNode_embeddedNul hcreate⟩

theorem write_embeddedNul (h : write path file manifest w = .error .embeddedNul w') :
    path.hasNul = true ∨ ∃ random ∈ w.libraries.randomNames,
      (temporaryPath path.parent file random).hasNul = true := by
  unfold write at h
  obtain hd | ⟨_, w1, hmade, h⟩ := Job.bind_eq_error.mp h
  · unfold Job.ensureDirectories at hd
    split at hd
    · cases hd
    · rename_i hmake
      cases hd
      exact Or.inl (Path.hasNul_of_parent (Disk.ensureDirectories_embeddedNul hmake))
  obtain hget | ⟨_, _, hget, h⟩ := Job.bind_eq_error.mp h
  · cases hget
  cases hget
  have hnames : w1.libraries = w.libraries :=
    ((Job.Confined.ensureDirectories path.parent).of_ok hmade).libraries
  rw [hnames] at h
  obtain hc | ⟨temporary, w2, hc, h⟩ := Job.bind_eq_error.mp h
  · exact Or.inr (createTemporary_embeddedNul hc)
  obtain ⟨-, ⟨random, hm, rfl⟩, hlead, -, -⟩ := createTemporary_eq_ok hc
  -- The temporary file has been created, so it is the manifest that cannot be asked for.
  have hnone : (temporaryPath path.parent file random).hasNul = false :=
    (Path.locate_eq_ok.mp hlead).1.1
  rw [Job.bind_outcome_change] at h
  split at h
  · cases h
  · rename_i cause hreplace
    obtain hremove | ⟨_, w3, -, hthrow⟩ := Job.bind_eq_error.mp h
    · have hnul := Disk.removeIfPresent_embeddedNul (Job.change_eq_error.mp hremove).1
      rw [hnone] at hnul
      cases hnul
    · cases hthrow
      obtain hnul | hnul := Disk.replaceFile_embeddedNul hreplace
      · rw [hnone] at hnul
        cases hnul
      · exact Or.inl hnul

theorem save_fault {fault : SaveFault} (h : save directory manifest file w = .error fault w') :
    (∃ cause, fault = .cannotWrite (Manifest.path directory file) cause) ∨
      fault = .embeddedNul ∧ ((Manifest.path directory file).hasNul = true ∨
        ∃ random ∈ w.libraries.randomNames,
          (temporaryPath (Manifest.path directory file).parent file random).hasNul = true) := by
  unfold save at h
  obtain hw | ⟨_, w1, -, hrest⟩ := Job.bind_eq_error.mp h
  · obtain ⟨cause, hwrite, rfl⟩ := Job.withFault_eq_error.mp hw
    cases cause with
    | system cause => exact Or.inl ⟨cause, rfl⟩
    | embeddedNul => exact Or.inr ⟨rfl, write_embeddedNul hwrite⟩
  · cases hrest

/-- Saving is all or nothing.  Where a manifest can be saved, its place then holds its text and every other
file is as before; where it cannot, all files are as before, the previous manifest among them.  Beyond that
there may be new directories. -/
theorem save_atomic (directory : Path) (file : String) (manifest : Manifest) (w : World) :
    match save directory manifest file w with
    | .ok place later =>
      place = Manifest.path directory file ∧ Savable place file w ∧
        later.disk.fileContent later.current place = .ok manifest.render.toUTF8 ∧
        (∀ at' ≠ place.resolve w.current, later.disk.file? at' = w.disk.file? at') ∧
        w.Follows {place.resolve w.current} later
    | .error fault later =>
      ¬ Savable (Manifest.path directory file) file w ∧
        ((∃ cause, fault = .cannotWrite (Manifest.path directory file) cause) ∨
          fault = .embeddedNul ∧ ((Manifest.path directory file).hasNul = true ∨
            ∃ random ∈ w.libraries.randomNames,
              (temporaryPath (Manifest.path directory file).parent file random).hasNul = true)) ∧
        (∀ at', later.disk.file? at' = w.disk.file? at') ∧ w.Follows ∅ later := by
  cases hsave : save directory manifest file w with
  | ok place later =>
    obtain ⟨rfl, hwritten⟩ := save_eq_ok hsave
    refine ⟨rfl, hwritten.savable, ?_, ?_, hwritten.follows⟩
    · exact Disk.fileContent_eq_ok.mpr ⟨hwritten.leads, hwritten.content⟩
    · exact fun at' hne => hwritten.follows.disk.file?_eq hne
  | error fault later =>
    have hfollows := save_error hsave
    refine ⟨fun hcan => ?_, save_fault hsave, ?_, hfollows⟩
    · obtain ⟨_, hwrite⟩ := write_of_savable hcan manifest
      obtain ⟨_, hok⟩ := save_of_write hwrite
      rw [hsave] at hok
      cases hok
    · exact fun at' => hfollows.disk.file?_eq (Set.notMem_empty at')

end Manifest

end ViewGen
