import ViewGen.Proofs.Views

/-!
# Doing again what was broken off

A disk lies within another one when all its directories and files are there on the other, too.  Where
directories have been made and files placed on a disk, the same can be done on any disk that lies within
it, and that stays within it.  So views that have all been written can be written again from wherever that
was broken off, and what stands at their places is the same.
-/

namespace ViewGen

namespace Disk

variable {disk later last : Disk} {at' : Location} {current : Location} {now : Moment} {path : Path}
  {content : ByteArray}

/-- Where a directory stands on `disk` one stands on `later`, and where a file stands another file
does. -/
structure Within (disk later : Disk) : Prop where
  directories : disk.KeepsDirectories later
  files : ∀ at' content, disk.file? at' = some content → ∃ other, later.file? at' = some other

namespace Within

protected theorem trans (h : disk.Within later) (h' : later.Within last) : disk.Within last := by
  refine ⟨h.directories.trans h'.directories, fun at' content hf => ?_⟩
  obtain ⟨other, hother⟩ := h.files at' content hf
  exact h'.files at' other hother

theorem not_file (h : disk.Within later) (hd : later.IsDirectoryAt at') {changed : Moment} :
    disk.node? at' ≠ some (.file content changed) := by
  intro hn
  obtain ⟨other, hother⟩ := h.files at' content (file?_eq_some.mpr ⟨changed, hn⟩)
  obtain ⟨moment, hm⟩ := file?_eq_some.mp hother
  exact not_isDirectoryAt_of_file hm hd

theorem not_isDirectoryAt (h : disk.Within later) (hf : later.file? at' = some content) :
    ¬ disk.IsDirectoryAt at' := by
  obtain ⟨changed, hn⟩ := file?_eq_some.mp hf
  exact fun hd => not_isDirectoryAt_of_file hn (h.directories at' hd)

/-- Where nothing stands on the larger disk nothing stands on the smaller one. -/
theorem node?_of_none (h : disk.Within later) (hn : later.node? at' = none) :
    disk.node? at' = none := by
  cases hnode : disk.node? at' with
  | none => rfl
  | some node =>
    cases node with
    | directory changed =>
      exact absurd (h.directories at' ⟨changed, hnode⟩) (not_isDirectoryAt_of_none hn)
    | file content changed =>
      obtain ⟨other, hother⟩ := h.files at' content (file?_eq_some.mpr ⟨changed, hnode⟩)
      obtain ⟨moment, hm⟩ := file?_eq_some.mp hother
      rw [hn] at hm
      cases hm

/-- A node put where the larger disk has one of its kind. -/
theorem put (h : disk.Within later) {place : Location} {node : Node} (hne : place ≠ [])
    (hdirectory : node.isDirectory = true → later.IsDirectoryAt place)
    (hfile : node.isDirectory = false → ∃ other, later.file? place = some other) :
    (disk.put place node).Within later := by
  refine ⟨fun at' hd => ?_, fun at' content hf => ?_⟩
  · obtain ⟨changed, hn⟩ := hd
    by_cases he : at' = place
    · rw [he, node?_put_self node hne, Option.some.injEq] at hn
      rw [he]
      exact hdirectory (by rw [hn]; rfl)
    · rw [node?_put_of_ne node he] at hn
      exact h.directories at' ⟨changed, hn⟩
  · obtain ⟨changed, hn⟩ := file?_eq_some.mp hf
    by_cases he : at' = place
    · rw [he, node?_put_self node hne, Option.some.injEq] at hn
      rw [he]
      exact hfile (by rw [hn]; rfl)
    · rw [node?_put_of_ne node he] at hn
      exact h.files at' content (file?_eq_some.mpr ⟨changed, hn⟩)

end Within

theorem Grows.within {places : Set Location} (h : Grows places disk later) : disk.Within later :=
  ⟨h.keepsDirectories, fun _ _ hf => h.file hf⟩

/-- A growing disk keeps what stands outside of the places, where it may not make a directory. -/
theorem Grows.node?_eq {places : Set Location} (h : Grows places disk later) (hout : at' ∉ places)
    (hd : ¬ later.IsDirectoryAt at') : later.node? at' = disk.node? at' := by
  obtain he | ⟨-, hmade⟩ | ⟨hin, -, -⟩ := h at'
  · exact he
  · exact absurd hmade hd
  · exact absurd hin hout

/-! ## Walking -/

/-- On a smaller disk the same names lead to the same place, unless a directory is missing. -/
theorem Within.walk (h : disk.Within later) {names : List String} {location : Location}
    (hw : later.walk at' names = .ok location) :
    disk.walk at' names = .ok location ∨ disk.walk at' names = .error .notFound := by
  induction names generalizing at' with
  | nil => exact Or.inl hw
  | cons name rest ih =>
    obtain ⟨hd, next, hs, hrest⟩ := walk_cons.mp hw
    cases hnode : disk.node? at' with
    | none =>
      apply Or.inr
      rw [Disk.walk, hnode]
    | some node =>
      cases node with
      | directory changed =>
        obtain hok | hmissing := ih hrest
        · exact Or.inl (walk_cons.mpr ⟨⟨changed, hnode⟩, next, hs, hok⟩)
        · apply Or.inr
          rw [Disk.walk, hnode]
          simp only [hs, hmissing]
      | file c changed => exact absurd hnode (h.not_file hd)

end Disk

namespace Path

variable {disk later : Disk} {current : Location}

theorem leads_concat {anchor : Anchor} {names : List String} {name : String}
    (h : Leads ⟨anchor, names ++ [name]⟩ disk current) :
    disk.DirectoryAlong current ⟨anchor, names⟩ := by
  obtain ⟨hask, hwalk⟩ := locate_eq_ok.mp h
  obtain ⟨above, habove, hd, -⟩ := Disk.walk_concat.mp hwalk
  have hleads := locate_eq_ok.mpr ⟨hask.init, habove⟩
  rw [locate_eq_resolve hleads] at hd
  exact ⟨leads_of_locate hleads, hd⟩

/-- A path that leads somewhere on one disk does so on any other that has its directory. -/
theorem Leads.of_directoryAlong {anchor : Anchor} {names : List String} {name : String}
    (h : Leads ⟨anchor, names ++ [name]⟩ disk current)
    (hd : later.DirectoryAlong current ⟨anchor, names⟩) :
    Leads ⟨anchor, names ++ [name]⟩ later current := by
  obtain ⟨hask, hwalk⟩ := locate_eq_ok.mp h
  obtain ⟨above, habove, -, hs⟩ := Disk.walk_concat.mp hwalk
  have hresolve := locate_eq_resolve (locate_eq_ok.mpr ⟨hask.init, habove⟩)
  subst hresolve
  obtain ⟨-, hlater⟩ := locate_eq_ok.mp hd.1
  exact leads_of_locate (locate_eq_ok.mpr ⟨hask, Disk.walk_concat.mpr ⟨_, hlater, hd.2, hs⟩⟩)

theorem Leads.of_parent {path : Path} (h : path.Leads disk current)
    (hd : later.DirectoryAlong current path.parent) : path.Leads later current := by
  obtain ⟨anchor, parts⟩ := path
  cases parts using List.reverseRecOn with
  | nil => exact locate_eq_ok.mpr ⟨(locate_eq_ok.mp h).1, rfl⟩
  | append_singleton names name =>
    rw [parent, List.dropLast_concat] at hd
    exact h.of_directoryAlong hd

end Path

namespace Disk

variable {disk later : Disk} {current : Location} {now : Moment} {path : Path} {content : ByteArray}

/-! ## Making directories again -/

theorem Within.leads_or_notFound (h : disk.Within later) (hl : path.Leads later current) :
    path.Leads disk current ∨ path.locate disk current = .error (.system .notFound) := by
  obtain ⟨hask, hwalk⟩ := Path.locate_eq_ok.mp hl
  obtain hok | hmissing := h.walk hwalk
  · exact Or.inl (Path.locate_eq_ok.mpr ⟨hask, hok⟩)
  · apply Or.inr
    unfold Path.locate
    rw [if_neg (by simp [hask.1]), if_neg (by have := hask.2; omega), hmissing]

theorem Within.ensureDirectory (h : disk.Within later) (hd : later.DirectoryAlong current path)
    (hl : path.Leads disk current) (now : Moment) :
    ∃ made, disk.ensureDirectory current now path = .ok made ∧ made.Within later := by
  cases hnode : disk.node? (path.resolve current) with
  | none =>
    have hne := ne_nil_of_not_isDirectoryAt (not_isDirectoryAt_of_none hnode)
    refine ⟨disk.put (path.resolve current) (.directory now), ?_, ?_⟩
    · rw [Disk.ensureDirectory, createNode_eq_ok.mpr ⟨hl, hnode, rfl⟩]
    · refine h.put hne (fun _ => hd.2) fun hfile => ?_
      cases hfile
  | some node =>
    cases node with
    | directory changed => exact ⟨disk, ensureDirectory_of_directory ⟨hl, changed, hnode⟩, h⟩
    | file c changed => exact absurd hnode (h.not_file hd.2)

theorem DirectoryAlong.above {anchor : Anchor} {name : String} {names : List String}
    (hd : disk.DirectoryAlong current ⟨anchor, (name :: names).reverse⟩) :
    disk.DirectoryAlong current ⟨anchor, names.reverse⟩ := by
  rw [List.reverse_cons] at hd
  exact Path.leads_concat hd.1

theorem Within.ensureDirectoriesFrom (h : disk.Within later) (now : Moment) {anchor : Anchor}
    {names : List String} (hd : later.DirectoryAlong current ⟨anchor, names.reverse⟩) :
    ∃ made, Disk.ensureDirectoriesFrom current now anchor names disk = (made, .ok ()) ∧
      made.Within later := by
  -- The names are reversed, so the induction goes up towards the anchor.
  induction names generalizing disk with
  | nil =>
    have hl : Path.Leads ⟨anchor, []⟩ disk current :=
      Path.locate_eq_ok.mpr ⟨(Path.locate_eq_ok.mp hd.1).1, rfl⟩
    obtain ⟨made, hmade, hwithin⟩ := h.ensureDirectory hd hl now
    rw [List.reverse_nil] at hmade
    exact ⟨made, by rw [Disk.ensureDirectoriesFrom, hmade], hwithin⟩
  | cons name above ih =>
    have habove := hd.above
    simp only [Disk.ensureDirectoriesFrom]
    obtain hl | hmissing := h.leads_or_notFound hd.1
    · obtain ⟨made, hmade, hwithin⟩ := h.ensureDirectory hd hl now
      exact ⟨made, by rw [hmade], hwithin⟩
    · -- A directory above is missing, so those are made first.
      have hnone : disk.ensureDirectory current now ⟨anchor, (name :: above).reverse⟩ =
          .error (.system .notFound) := by
        simp only [Disk.ensureDirectory, createNode, hmissing]
      obtain ⟨first, hfirst, hwithin⟩ := ih h habove
      have hdirectory := (ensureDirectoriesFrom_spec current now anchor above disk).2
      rw [hfirst] at hdirectory
      have hl : Path.Leads ⟨anchor, (name :: above).reverse⟩ first current := by
        rw [List.reverse_cons] at hd ⊢
        exact hd.1.of_directoryAlong (hdirectory rfl)
      obtain ⟨made, hmade, hwithin⟩ := hwithin.ensureDirectory hd hl now
      exact ⟨made, by rw [hnone, hfirst]; simp only [hmade], hwithin⟩

theorem Within.ensureDirectories (h : disk.Within later) (now : Moment)
    (hd : later.DirectoryAlong current path) :
    ∃ made, disk.ensureDirectories current now path = (made, .ok ()) ∧ made.Within later := by
  refine h.ensureDirectoriesFrom now ?_
  rw [List.reverse_reverse]
  exact hd

theorem KeepsDirectories.ensureDirectory {made : Disk} (h : disk.KeepsDirectories later)
    (hd : later.DirectoryAlong current path)
    (hmade : disk.ensureDirectory current now path = .ok made) : made.KeepsDirectories later := by
  unfold Disk.ensureDirectory at hmade
  split at hmade
  · rename_i put hput
    cases hmade
    obtain ⟨-, hn, rfl⟩ := createNode_eq_ok.mp hput
    intro at' hat
    by_cases he : at' = path.resolve current
    · exact he ▸ hd.2
    · unfold IsDirectoryAt at hat
      rw [node?_put_of_ne _ he] at hat
      exact h at' hat
  · cases hmade
  · cases hmade
  · split at hmade
    · cases hmade
    · cases hmade
      exact h
    · cases hmade

/-- No directory is made but those on the way. -/
theorem KeepsDirectories.ensureDirectoriesFrom {anchor : Anchor} {names : List String}
    (h : disk.KeepsDirectories later) (hd : later.DirectoryAlong current ⟨anchor, names.reverse⟩)
    (now : Moment) :
    (Disk.ensureDirectoriesFrom current now anchor names disk).1.KeepsDirectories later := by
  induction names generalizing disk with
  | nil =>
    rw [Disk.ensureDirectoriesFrom]
    split
    · rename_i made hmade
      exact h.ensureDirectory hd hmade
    · exact h
  | cons name above ih =>
    have habove := hd.above
    simp only [Disk.ensureDirectoriesFrom]
    split
    · rename_i made hmade
      exact h.ensureDirectory hd hmade
    · have hfirst := ih h habove
      split
      · rename_i made fault hmade
        rw [hmade] at hfirst
        exact hfirst
      · rename_i made hmade
        rw [hmade] at hfirst
        split
        · rename_i last hlast
          exact hfirst.ensureDirectory hd hlast
        · exact hfirst
    · exact h

theorem KeepsDirectories.ensureDirectories (h : disk.KeepsDirectories later)
    (hd : later.DirectoryAlong current path) (now : Moment) :
    (disk.ensureDirectories current now path).1.KeepsDirectories later := by
  refine h.ensureDirectoriesFrom ?_ now
  rw [List.reverse_reverse]
  exact hd

/-! ## Placing files again -/

/-- A file stands at a path, in a directory that the path without its last name leads to. -/
structure HoldsFile (disk : Disk) (current : Location) (path : Path) : Prop where
  parent : disk.DirectoryAlong current path.parent
  file : ∃ content, disk.fileContent current path = .ok content

theorem HoldsFile.grows {places : Set Location} (h : disk.HoldsFile current path)
    (hg : Grows places disk later) : later.HoldsFile current path := by
  obtain ⟨content, hc⟩ := h.file
  obtain ⟨hl, hf⟩ := fileContent_eq_ok.mp hc
  obtain ⟨other, hother⟩ := hg.file hf
  exact ⟨hg.keepsDirectories.directoryAlong h.parent, other,
    fileContent_eq_ok.mpr ⟨hg.keepsDirectories.leads hl, hother⟩⟩

theorem placeFile_holdsFile (h : disk.placeFile current now path content = (later, .ok ())) :
    later.HoldsFile current path := by
  refine ⟨?_, content, (placeFile_eq_ok h).2⟩
  unfold placeFile at h
  rcases hmake : disk.ensureDirectories current now path.parent with ⟨made, fault | u⟩
  · rw [hmake] at h
    cases h
  · rw [hmake] at h
    dsimp only at h
    split at h
    · cases h
    · rename_i written hwrite
      cases h
      obtain ⟨-, hd, rfl⟩ := writeFile_eq_ok.mp hwrite
      exact (keepsDirectories_put _ hd).directoryAlong (ensureDirectories_eq_ok hmake)

theorem Within.placeFile (h : disk.Within later) (hheld : later.HoldsFile current path)
    (now : Moment) (content : ByteArray) :
    ∃ made, disk.placeFile current now path content = (made, .ok ()) ∧ made.Within later := by
  obtain ⟨other, hc⟩ := hheld.file
  obtain ⟨hl, hf⟩ := fileContent_eq_ok.mp hc
  obtain ⟨first, hfirst, hwithin⟩ := h.ensureDirectories now hheld.parent
  have hd := hwithin.not_isDirectoryAt hf
  have hleads := hl.of_parent (ensureDirectories_eq_ok hfirst)
  refine ⟨first.put (path.resolve current) (.file content now), ?_, ?_⟩
  · rw [Disk.placeFile, hfirst]
    simp only [writeFile_eq_ok.mpr ⟨hleads, hd, rfl⟩]
  · exact hwithin.put (ne_nil_of_not_isDirectoryAt hd) (fun hdir => nomatch hdir)
      (fun _ => ⟨other, hf⟩)

end Disk

/-! ## Writing views again -/

section

variable {current : Location} {now moment : Moment} {output : Path} {view : RenderedView}
  {views rest : List RenderedView} {disk done begun again : Disk}

theorem writeAll_cons_eq_ok :
    writeAll current now output (view :: rest) disk = (done, view :: rest, .ok ()) ↔
      ∃ placed, disk.placeFile current now (output.join view.path) view.content.toUTF8 =
        (placed, .ok ()) ∧ writeAll current now output rest placed = (done, rest, .ok ()) := by
  rw [writeAll]
  rcases disk.placeFile current now (output.join view.path) view.content.toUTF8 with
    ⟨placed, fault | u⟩
  · simp
  · simp [Prod.ext_iff]

/-- Every view written is held in the end. -/
theorem writeAll_holdsFile (h : writeAll current now output views disk = (done, views, .ok ())) :
    ∀ view ∈ views, done.HoldsFile current (output.join view.path) := by
  induction views generalizing disk with
  | nil => exact fun view hm => nomatch hm
  | cons first rest ih =>
    obtain ⟨placed, hplaced, hrest⟩ := writeAll_cons_eq_ok.mp h
    intro view hm
    obtain rfl | hm := List.mem_cons.mp hm
    · have hgrows := writeAll_grows current now output rest placed
      rw [hrest] at hgrows
      exact (Disk.placeFile_holdsFile hplaced).grows hgrows
    · exact ih hrest view hm

/-- Views can be written on any disk that lies within one that holds them all. -/
theorem Disk.Within.writeAll (h : disk.Within done)
    (hheld : ∀ view ∈ views, done.HoldsFile current (output.join view.path)) (now : Moment) :
    ∃ made, ViewGen.writeAll current now output views disk = (made, views, .ok ()) ∧
      made.Within done := by
  induction views generalizing disk with
  | nil => exact ⟨disk, rfl, h⟩
  | cons first rest ih =>
    obtain ⟨placed, hplaced, hwithin⟩ := h.placeFile (hheld first List.mem_cons_self) now
      first.content.toUTF8
    obtain ⟨made, hmade, hmadeWithin⟩ :=
      ih hwithin fun view hm => hheld view (List.mem_cons_of_mem first hm)
    exact ⟨made, writeAll_cons_eq_ok.mpr ⟨placed, hplaced, hmade⟩, hmadeWithin⟩

/-- What stands at the places of views that have all been written does not depend on the disk before:
the last view at a place counts. -/
theorem writeAll_file?_eq (h : writeAll current now output views disk = (done, views, .ok ()))
    (h' : writeAll current moment output views begun = (again, views, .ok ()))
    {place : Location} (hplace : place ∈ placesOf output views current) :
    again.file? place = done.file? place := by
  induction views generalizing disk begun with
  | nil =>
    obtain ⟨view, hm, -⟩ := hplace
    exact nomatch hm
  | cons first rest ih =>
    obtain ⟨placed, hplaced, hrest⟩ := writeAll_cons_eq_ok.mp h
    obtain ⟨placed', hplaced', hrest'⟩ := writeAll_cons_eq_ok.mp h'
    by_cases hlater : place ∈ placesOf output rest current
    · exact ih hrest hrest' hlater
    · -- No later view has the place, so it holds the first one on both disks.
      obtain ⟨view, hm, rfl⟩ := hplace
      obtain rfl | hm := List.mem_cons.mp hm
      · have hgrows := writeAll_grows current now output rest placed
        have hgrows' := writeAll_grows current moment output rest placed'
        rw [hrest] at hgrows
        rw [hrest'] at hgrows'
        obtain ⟨-, hfile⟩ := Disk.fileContent_eq_ok.mp (Disk.placeFile_eq_ok hplaced).2
        obtain ⟨-, hfile'⟩ := Disk.fileContent_eq_ok.mp (Disk.placeFile_eq_ok hplaced').2
        exact (hgrows'.file?_eq hlater).trans
          (hfile'.trans (hfile.symm.trans (hgrows.file?_eq hlater).symm))
      · exact absurd ⟨view, hm, rfl⟩ hlater

/-- Views that have all been written can be written again from any disk between: the directories come
out the same, and so do the files at the places of the views. -/
theorem writeAll_again (h : writeAll current now output views disk = (done, views, .ok ()))
    (hbegun : disk.Within begun) (hwithin : begun.Within done) (moment : Moment) :
    ∃ again, writeAll current moment output views begun = (again, views, .ok ()) ∧
      again.Within done ∧ done.Within again ∧
      ∀ place ∈ placesOf output views current, again.file? place = done.file? place := by
  obtain ⟨again, hagain, hagainWithin⟩ := hwithin.writeAll (writeAll_holdsFile h) moment
  have hgrows := writeAll_grows current moment output views begun
  rw [hagain] at hgrows
  -- The first disk lies within the second result, so writing on it stays within that as well.
  obtain ⟨made, hmade, hmadeWithin⟩ :=
    (hbegun.trans hgrows.within).writeAll (writeAll_holdsFile hagain) now
  rw [h, Prod.mk.injEq] at hmade
  rw [← hmade.1] at hmadeWithin
  exact ⟨again, hagain, hagainWithin, hmadeWithin, fun place hp => writeAll_file?_eq h hagain hp⟩

end

end ViewGen
