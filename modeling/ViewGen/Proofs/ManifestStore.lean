import ViewGen.Proofs.Jobs
import ViewGen.Proofs.ManifestText
import ViewGen.Proofs.Names
import ViewGen.Proofs.Names

/-!
# Saving and loading manifests

Saving replaces the file at the manifest's place and nothing else but directories; a failed save
changes no file.  What a save has left is what the next load returns.
-/

namespace ViewGen

/-- The disks hold the same nodes outside of the places. -/
def Disk.SameOutside (places : Set Location) (disk later : Disk) : Prop :=
  ∀ at' ∉ places, later.node? at' = disk.node? at'

theorem Disk.SameOutside.grows {place : Location} {disk later : Disk} {content : ByteArray}
    (h : disk.SameOutside {place} later) (hd : ¬ disk.IsDirectoryAt place)
    (hf : later.file? place = some content) : Grows {place} disk later := by
  intro at'
  by_cases he : at' = place
  · subst he
    exact Or.inr (Or.inr ⟨rfl, hd, content, hf⟩)
  · exact Or.inl (h at' he)

theorem Disk.SameOutside.keepsDirectories {place : Location} {disk later : Disk}
    (h : disk.SameOutside {place} later) (hd : ¬ disk.IsDirectoryAt place) :
    disk.KeepsDirectories later := by
  intro at' hat
  have hne : at' ≠ place := fun he => hd (he ▸ hat)
  unfold IsDirectoryAt
  rw [h at' hne]
  exact hat

/-- A node put at a free place and erased again. -/
theorem Disk.node?_erase_put {disk : Disk} {place : Location} {node : Node}
    (hn : disk.node? place = none) (at' : Location) :
    ((disk.put place node).erase place).node? at' = disk.node? at' := by
  by_cases he : at' = place
  · subst he
    rw [node?_erase_self (ne_nil_of_not_isDirectoryAt (not_isDirectoryAt_of_none hn)), hn]
  · rw [node?_erase_of_ne he, node?_put_of_ne _ he]

/-- A file made at a free place and moved away changes nothing but the place it is moved to. -/
theorem Disk.sameOutside_moved {disk : Disk} {source : Location} (hn : disk.node? source = none)
    (target : Location) (node moved : Node) :
    disk.SameOutside {target} (((disk.put source node).erase source).put target moved) := by
  intro at' hout
  rw [Set.mem_singleton_iff] at hout
  rw [node?_put_of_ne _ hout, node?_erase_put hn]

theorem String.fromUTF8?_toUTF8 (s : String) : String.fromUTF8? s.toUTF8 = some s := by
  have hv : s.toUTF8.IsValidUTF8 := s.isValidUTF8
  rw [String.fromUTF8?, dif_pos hv]
  rfl

theorem Utf8.decode_toUTF8 (s : String) : Utf8.decode s.toUTF8 = .ok s := by
  simp only [Utf8.decode, String.fromUTF8?_toUTF8]

namespace Manifest

variable {w w' : World} {path : Path} {file : String} {manifest : Manifest} {current : Location}

/-! ## Temporary files -/

def temporaryPath (directory : Path) (file : String) (random : RandomName) : Path :=
  directory.joinName (file ++ temporaryEnding random)

theorem char_of_mem_ending {random : RandomName} {c : Char}
    (h : c ∈ (temporaryEnding random).toList) : c.isLower ∨ c.isDigit ∨ c ∈ "_.tmp".toList := by
  simp only [temporaryEnding, String.toList_append, List.mem_append] at h
  obtain (hdot | hname) | htmp := h
  · rw [show c = '.' by simpa using hdot]
    decide
  · obtain hlower | hdigit | rfl := random.plain.2 c hname
    · exact .inl hlower
    · exact .inr (.inl hdigit)
    · decide
  · exact .inr (.inr (List.mem_cons_of_mem _ htmp))

theorem length_temporaryEnding (random : RandomName) : (temporaryEnding random).length = 13 := by
  rw [temporaryEnding, String.length_append, String.length_append, random.plain.1]
  rfl

theorem slash_not_mem_ending (random : RandomName) : '/' ∉ (temporaryEnding random).toList := by
  intro hm
  obtain hlower | hdigit | htmp := char_of_mem_ending hm
  · exact absurd hlower (by decide)
  · exact absurd hdigit (by decide)
  · exact absurd htmp (by decide)

theorem toNat_of_mem_ending {random : RandomName} {c : Char}
    (h : c ∈ (temporaryEnding random).toList) : 0 < c.toNat ∧ c.toNat < 0x80 := by
  obtain hlower | hdigit | htmp := char_of_mem_ending h
  · change (decide ('a'.val ≤ c.val) && decide (c.val ≤ 'z'.val)) = true at hlower
    rw [Bool.and_eq_true, decide_eq_true_eq, decide_eq_true_eq] at hlower
    have hlow : 97 ≤ c.toNat := UInt32.le_iff_toNat_le.mp hlower.1
    have hhigh : c.toNat ≤ 122 := UInt32.le_iff_toNat_le.mp hlower.2
    omega
  · rw [Char.isDigit, Bool.and_eq_true, decide_eq_true_eq, decide_eq_true_eq] at hdigit
    have hlow : 48 ≤ c.toNat := UInt32.le_iff_toNat_le.mp hdigit.1
    have hhigh : c.toNat ≤ 57 := UInt32.le_iff_toNat_le.mp hdigit.2
    omega
  · have hall : ("_.tmp".toList.all fun d => 0 < d.toNat && d.toNat < 0x80) = true := by decide
    simpa using List.all_eq_true.mp hall c htmp

theorem utf8ByteSize_temporaryEnding (random : RandomName) :
    (temporaryEnding random).utf8ByteSize = 13 := by
  rw [Text.utf8ByteSize_of_ascii fun c hc => (toNat_of_mem_ending hc).2, length_temporaryEnding]

/-- All temporary names are of one size, so either all of them lead somewhere or none does. -/
theorem leads_temporaryPath {disk : Disk} {directory : Path} {random : RandomName}
    (h : (temporaryPath directory file random).Leads disk current) (other : RandomName) :
    (temporaryPath directory file other).Leads disk current := by
  obtain ⟨base, last, -, hending⟩ := Path.joinName_append directory file
  have hpath : ∀ name, temporaryPath directory file name =
      ⟨base.anchor, base.parts ++ [last ++ temporaryEnding name]⟩ := by
    intro name
    have hlength := length_temporaryEnding name
    exact hending _ (slash_not_mem_ending name) (by omega)
  have hdown : ∀ name, last ++ temporaryEnding name ≠ ".." := by
    intro name he
    have hlength := congrArg String.length he
    have htwo : "..".length = 2 := by decide
    rw [String.length_append, length_temporaryEnding] at hlength
    omega
  rw [hpath] at h ⊢
  refine h.of_sameSize ?_ ?_ (hdown random) (hdown other)
  · -- The path that leads somewhere has no NUL, and no ending has one.
    have hfree := (Path.locate_eq_ok.mp h).1.1
    rw [Path.hasNul, List.any_append, Bool.or_eq_false_iff] at hfree
    have hlast : '\x00' ∉ last.toList ++ (temporaryEnding random).toList := by
      simpa using hfree.2
    rw [String.toList_append, List.mem_append, not_or] at *
    exact ⟨hlast.1, fun hm => absurd (toNat_of_mem_ending hm).1 (by decide)⟩
  · simp only [String.utf8ByteSize_append, utf8ByteSize_temporaryEnding]

/-- One of the names is free, and all before it lead somewhere. -/
def HasTemporary (disk : Disk) (current : Location) (directory : Path) (file : String)
    (names : List RandomName) : Prop :=
  ∃ tried random rest, names = tried ++ random :: rest ∧
    (∀ name ∈ tried, (temporaryPath directory file name).Leads disk current) ∧
    (temporaryPath directory file random).Leads disk current ∧
    disk.node? ((temporaryPath directory file random).resolve current) = none

/-- Where one temporary name leads somewhere, it is enough that one of the names is free. -/
theorem hasTemporary_of_free {disk : Disk} {directory : Path} {names : List RandomName}
    {other random : RandomName} (hl : (temporaryPath directory file other).Leads disk current)
    (hm : random ∈ names)
    (hn : disk.node? ((temporaryPath directory file random).resolve current) = none) :
    HasTemporary disk current directory file names := by
  obtain ⟨tried, rest, rfl⟩ := List.append_of_mem hm
  exact ⟨tried, random, rest, rfl, fun name _ => leads_temporaryPath hl name,
    leads_temporaryPath hl random, hn⟩

theorem createTemporary_cons (directory : Path) (file content : String) (random : RandomName)
    (rest : List RandomName) (w : World) :
    createTemporary directory file content (random :: rest) w =
      match w.disk.createFile w.current w.now (temporaryPath directory file random)
          content.toUTF8 with
      | .ok later => .ok (temporaryPath directory file random) { w with disk := later }
      | .error (.system .exists) => createTemporary directory file content rest w
      | .error fault => .error fault w := by
  rw [createTemporary, Job.bind_outcome_change]
  simp only [temporaryPath]
  generalize w.disk.createFile w.current w.now _ _ = created
  match created with
  | .ok later => rfl
  | .error .embeddedNul => rfl
  | .error (.system cause) => cases cause <;> rfl

theorem createTemporary_eq_ok {directory temporary : Path} {content : String}
    {names : List RandomName}
    (h : createTemporary directory file content names w = .ok temporary w') :
    HasTemporary w.disk w.current directory file names ∧
      (∃ random ∈ names, temporary = temporaryPath directory file random) ∧
      temporary.Leads w.disk w.current ∧ w.disk.node? (temporary.resolve w.current) = none ∧
      w' = { w with
        disk := w.disk.put (temporary.resolve w.current) (.file content.toUTF8 w.now) } := by
  -- On the names: the first free one is taken, and the world is the same until then.
  induction names with
  | nil => cases h
  | cons random rest ih =>
    rw [createTemporary_cons] at h
    split at h
    · rename_i later hc
      cases h
      obtain ⟨hl, hn, rfl⟩ := Disk.createNode_eq_ok.mp hc
      have hfree : HasTemporary w.disk w.current directory file (random :: rest) :=
        ⟨[], random, rest, rfl, by simp, hl, hn⟩
      exact ⟨hfree, ⟨random, List.mem_cons_self, rfl⟩, hl, hn, rfl⟩
    · rename_i he
      obtain ⟨⟨tried, free, others, rfl, htried, hfree⟩, ⟨name, hm, rfl⟩, hl, hn, hw⟩ := ih h
      have hlead : (temporaryPath directory file random).Leads w.disk w.current :=
        Disk.leads_of_createNode_exists he
      refine ⟨⟨random :: tried, free, others, rfl, ?_, hfree⟩,
        ⟨name, List.mem_cons_of_mem _ hm, rfl⟩, hl, hn, hw⟩
      intro name he
      obtain rfl | he := List.mem_cons.mp he
      · exact hlead
      · exact htried name he
    · cases h

theorem createTemporary_error {directory : Path} {content : String} {names : List RandomName}
    {fault : DiskFault} (h : createTemporary directory file content names w = .error fault w') :
    w' = w := by
  induction names with
  | nil =>
    cases h
    rfl
  | cons random rest ih =>
    rw [createTemporary_cons] at h
    split at h
    · cases h
    · exact ih h
    · cases h
      rfl

theorem createTemporary_of_free {directory : Path} {names : List RandomName} (content : String)
    (hfree : HasTemporary w.disk w.current directory file names) :
    ∃ temporary w', createTemporary directory file content names w = .ok temporary w' := by
  obtain ⟨tried, random, rest, rfl, htried, hl, hn⟩ := hfree
  induction tried with
  | nil =>
    rw [List.nil_append, createTemporary_cons, Disk.createFile,
      Disk.createNode_eq_ok.mpr ⟨hl, hn, rfl⟩]
    exact ⟨_, _, rfl⟩
  | cons first tried ih =>
    have hfirst := htried first List.mem_cons_self
    rw [List.cons_append, createTemporary_cons, Disk.createFile]
    cases hnode : w.disk.node? ((temporaryPath directory file first).resolve w.current) with
    | none =>
      rw [Disk.createNode_eq_ok.mpr ⟨hfirst, hnode, rfl⟩]
      exact ⟨_, _, rfl⟩
    | some node =>
      rw [Disk.createNode_exists (Disk.stat_eq_ok.mpr ⟨hfirst, hnode⟩)]
      exact ih fun name hm => htried name (List.mem_cons_of_mem _ hm)

/-! ## Writing -/

/-- What a successful write of a manifest has done: it has made the directory, found a temporary
name, and put the manifest's text at its place. -/
structure Written (path : Path) (file : String) (manifest : Manifest) (w later : World) : Prop where
  named : path.parts ≠ [] ∧ path.parts.getLast? ≠ some ".."
  follows : w.Follows {path.resolve w.current} later
  replaced : ∃ made, w.disk.ensureDirectories w.current w.now path.parent = (made, .ok ()) ∧
    HasTemporary made w.current path.parent file w.libraries.randomNames ∧
    ¬ made.IsDirectoryAt (path.resolve w.current) ∧
    made.SameOutside {path.resolve w.current} later.disk
  leads : path.Leads later.disk later.current
  content : later.disk.file? (path.resolve later.current) = some manifest.render.toUTF8

theorem Written.noted {last : World} (h : Written path file manifest w w') (hn : w'.Noted last) :
    Written path file manifest w last := by
  obtain ⟨log, rfl⟩ := hn
  exact ⟨h.named, h.follows.trans ⟨rfl, .refl _ _⟩, h.replaced, h.leads, h.content⟩

theorem Written.of_noted {noted : World} (h : Written path file manifest noted w')
    (hn : w.Noted noted) : Written path file manifest w w' := by
  obtain ⟨log, rfl⟩ := hn
  exact ⟨h.named, ⟨h.follows.setting, h.follows.disk⟩, h.replaced, h.leads, h.content⟩

theorem write_eq_ok {u : Unit} (h : write path file manifest w = .ok u w') :
    Written path file manifest w w' := by
  unfold write at h
  obtain ⟨_, w1, hd, h⟩ := Job.bind_eq_ok.mp h
  obtain ⟨_, _, hget, h⟩ := Job.bind_eq_ok.mp h
  cases hget
  obtain ⟨temporary, w2, hc, h⟩ := Job.bind_eq_ok.mp h
  have hfollows := (Job.Confined.ensureDirectories path.parent).of_ok hd
  obtain ⟨made, hmade, rfl⟩ := Job.ensureDirectories_eq_ok.mp hd
  obtain ⟨hfree, -, hlead, hnone, rfl⟩ := createTemporary_eq_ok hc
  rw [Job.bind_outcome_change] at h
  split at h
  · rename_i later hr
    cases h
    obtain ⟨-, hpath, hup, hparts, hnot, content, changed, hn, hlater⟩ := Disk.replaceFile_eq_ok hr
    have hsource : temporary.resolve w.current ≠ [] :=
      Disk.ne_nil_of_not_isDirectoryAt (Disk.not_isDirectoryAt_of_none hnone)
    have htarget : path.resolve w.current ≠ [] := Disk.ne_nil_of_not_isDirectoryAt hnot
    -- What is moved is the temporary file just made.
    have hmoved : (made.put _ _).node? _ = some (.file manifest.render.toUTF8 w.now) :=
      Disk.node?_put_self _ hsource
    rw [hmoved] at hn
    cases hn
    subst hlater
    -- Neither of the three changes touches a directory, so all that led somewhere still does.
    have hput := Disk.keepsDirectories_put (.file manifest.render.toUTF8 w.now)
      (Disk.not_isDirectoryAt_of_none hnone)
    have herase := Disk.keepsDirectories_erase (Disk.not_isDirectoryAt_of_file hmoved)
    have hmove := Disk.keepsDirectories_put (.file manifest.render.toUTF8 w.now)
      (Disk.not_isDirectoryAt_erase (temporary.resolve w.current) hnot)
    have hM : ¬ made.IsDirectoryAt (path.resolve w.current) := fun hM => hnot (hput _ hM)
    have hsame := Disk.sameOutside_moved hnone (path.resolve w.current)
      (.file manifest.render.toUTF8 w.now) (.file manifest.render.toUTF8 w.now)
    have hcontent := Disk.file?_put_self ((made.put (temporary.resolve w.current)
      (.file manifest.render.toUTF8 w.now)).erase (temporary.resolve w.current))
      manifest.render.toUTF8 w.now htarget
    have hgrows := hfollows.disk.mono (Set.empty_subset {path.resolve w.current})
    exact
      { named := ⟨hparts, hup⟩
        follows := ⟨rfl, hgrows.trans (hsame.grows hM hcontent)⟩
        replaced := ⟨made, hmade, hfree, hM, hsame⟩
        leads := (herase.trans hmove).leads hpath
        content := hcontent }
  · obtain ⟨_, w3, hr, h⟩ := Job.bind_eq_ok.mp h
    cases h

/-- A failed write has changed no file. -/
theorem write_error {fault : DiskFault} (h : write path file manifest w = .error fault w') :
    w.Follows ∅ w' := by
  unfold write at h
  obtain hd | ⟨_, w1, hd, h⟩ := Job.bind_eq_error.mp h
  · exact (Job.Confined.ensureDirectories path.parent).of_error hd
  have hfollows := (Job.Confined.ensureDirectories path.parent).of_ok hd
  obtain hget | ⟨_, _, hget, h⟩ := Job.bind_eq_error.mp h
  · cases hget
  cases hget
  obtain hc | ⟨temporary, w2, hc, h⟩ := Job.bind_eq_error.mp h
  · rw [createTemporary_error hc]
    exact hfollows
  obtain ⟨-, -, hlead, hnone, rfl⟩ := createTemporary_eq_ok hc
  rw [Job.bind_outcome_change] at h
  split at h
  · cases h
  · -- The temporary file is still there, so it is removed again.
    have hput := Disk.keepsDirectories_put (.file manifest.render.toUTF8 w1.now)
      (Disk.not_isDirectoryAt_of_none hnone)
    have hfile : (w1.disk.put (temporary.resolve w1.current)
        (.file manifest.render.toUTF8 w1.now)).file? (temporary.resolve w1.current) =
          some manifest.render.toUTF8 :=
      Disk.file?_put_self _ _ _
        (Disk.ne_nil_of_not_isDirectoryAt (Disk.not_isDirectoryAt_of_none hnone))
    have hremove := Disk.removeIfPresent_of_file (hput.leads hlead) hfile
    obtain hf | ⟨_, w3, hok, hthrow⟩ := Job.bind_eq_error.mp h
    · obtain ⟨hf, -⟩ := Job.change_eq_error.mp hf
      rw [hremove] at hf
      cases hf
    · obtain ⟨later, hlater, rfl⟩ := Job.change_eq_ok.mp hok
      rw [hremove] at hlater
      cases hlater
      cases hthrow
      exact hfollows.trans ⟨rfl, fun at' => Or.inl (Disk.node?_erase_put hnone at')⟩

/-- What it takes to write a manifest: a name that a file can be given, and a directory that stands or can
be made, in which there is a free temporary name and no directory in the place of the manifest. -/
structure Savable (path : Path) (file : String) (w : World) : Prop where
  named : path.parts ≠ [] ∧ path.parts.getLast? ≠ some ".."
  room : ∃ made, w.disk.ensureDirectories w.current w.now path.parent = (made, .ok ()) ∧
    HasTemporary made w.current path.parent file w.libraries.randomNames ∧ path.Leads made w.current ∧
    ¬ made.IsDirectoryAt (path.resolve w.current)

theorem write_of_savable (h : Savable path file w) (manifest : Manifest) :
    ∃ w', write path file manifest w = .ok () w' := by
  obtain ⟨made, hmake, hfree, hlead, hM⟩ := h.room
  obtain ⟨temporary, w2, hc⟩ :=
    createTemporary_of_free (w := { w with disk := made }) manifest.render hfree
  obtain ⟨-, -, hsource, hnone, hw⟩ := createTemporary_eq_ok hc
  have hput := Disk.keepsDirectories_put (.file manifest.render.toUTF8 w.now)
    (Disk.not_isDirectoryAt_of_none hnone)
  have hmade : (made.put (temporary.resolve w.current) (.file manifest.render.toUTF8 w.now)).node?
      (temporary.resolve w.current) = some (.file manifest.render.toUTF8 w.now) :=
    Disk.node?_put_self _ (Disk.ne_nil_of_not_isDirectoryAt (Disk.not_isDirectoryAt_of_none hnone))
  -- The temporary file is there to be moved, and it is no directory if it has the manifest's own place.
  have hM2 : ¬ (made.put (temporary.resolve w.current)
      (.file manifest.render.toUTF8 w.now)).IsDirectoryAt (path.resolve w.current) := by
    by_cases he : path.resolve w.current = temporary.resolve w.current
    · rw [he]
      exact Disk.not_isDirectoryAt_of_file hmade
    · unfold Disk.IsDirectoryAt
      rw [Disk.node?_put_of_ne _ he]
      exact hM
  have hmove := Disk.replaceFile_of_file h.named (hput.leads hsource) (hput.leads hlead) hM2 hmade
  have hensure : Job.ensureDirectories path.parent w = .ok () { w with disk := made } :=
    Job.ensureDirectories_eq_ok.mpr ⟨made, hmake, rfl⟩
  have hget : (get : Job DiskFault World) { w with disk := made } = .ok _ _ := rfl
  unfold write
  rw [Job.bind_of_ok hensure, Job.bind_of_ok hget, Job.bind_of_ok hc, hw,
    Job.bind_outcome_change]
  simp only [hmove]
  exact ⟨_, rfl⟩

theorem Written.savable (h : Written path file manifest w w') : Savable path file w := by
  obtain ⟨made, hmake, hfree, hM, hsame⟩ := h.replaced
  refine ⟨h.named, made, hmake, hfree, ?_, hM⟩
  -- The path leads through directories, and only the manifest has changed since they were made.
  have hleads := h.leads
  have hfile := h.content
  rw [h.follows.current] at hleads hfile
  obtain ⟨changed, hn⟩ := Disk.file?_eq_some.mp hfile
  refine Disk.KeepsDirectories.leads (fun at' hat => ?_) hleads
  have hne : at' ≠ path.resolve w.current := by
    rintro rfl
    exact Disk.not_isDirectoryAt_of_file hn hat
  unfold Disk.IsDirectoryAt at hat ⊢
  rw [← hsame at' hne]
  exact hat

/-- A write succeeds where the directory stands, a temporary name is free and nothing forbids the
name of the manifest. -/
theorem write_of_free (hnamed : path.parts ≠ [] ∧ path.parts.getLast? ≠ some "..")
    (hparent : w.disk.DirectoryAlong w.current path.parent)
    (hfree : HasTemporary w.disk w.current path.parent file w.libraries.randomNames)
    (hlead : path.Leads w.disk w.current)
    (hM : ¬ w.disk.IsDirectoryAt (path.resolve w.current)) :
    ∃ w', write path file manifest w = .ok () w' :=
  write_of_savable
    ⟨hnamed, w.disk, Disk.ensureDirectories_of_directory hparent, hfree, hlead, hM⟩ manifest

/-! ## Saving -/

theorem save_eq_ok {directory place : Path} (h : save directory manifest file w = .ok place w') :
    place = Manifest.path directory file ∧
      Written (Manifest.path directory file) file manifest w w' := by
  unfold save at h
  obtain ⟨_, w1, hw, h⟩ := Job.bind_eq_ok.mp h
  have hwritten := write_eq_ok (Job.withFault_eq_ok.mp hw)
  obtain ⟨_, w2, hn, h⟩ := Job.bind_eq_ok.mp h
  cases hn
  obtain ⟨rfl, rfl⟩ := Job.pure_eq_ok.mp h
  exact ⟨rfl, hwritten.noted ⟨_, rfl⟩⟩

/-- A failed save has changed no file. -/
theorem save_error {directory : Path} {fault : SaveFault}
    (h : save directory manifest file w = .error fault w') : w.Follows ∅ w' := by
  unfold save at h
  obtain hw | ⟨_, w1, -, h⟩ := Job.bind_eq_error.mp h
  · obtain ⟨cause, hw, -⟩ := Job.withFault_eq_error.mp hw
    exact write_error hw
  · cases h

theorem save_of_write {directory : Path} {u : Unit}
    (h : write (Manifest.path directory file) file manifest w = .ok u w') :
    ∃ later, save directory manifest file w = .ok (Manifest.path directory file) later := by
  unfold save
  rw [Job.bind_of_ok (Job.withFault_eq_ok.mpr h)]
  exact ⟨_, rfl⟩

/-! ## Loading -/

/-- The manifest that a run starts from, unless the one on the disk nests too deeply. -/
def Loaded.result : Loaded → Except Json.Fault Manifest
  | .usable manifest => .ok manifest
  | .absent => .ok initial
  | .unusable => .ok initial
  | .tooDeep => .error .tooDeep

theorem load_answers (directory : Path) (file : String) (w : World) :
    (load directory file).Answers w
      (read w.machine.depths.manifest w.disk w.current
        (Manifest.path directory file)).result := by
  have hget : (get : Job Json.Fault World) w = .ok w w := rfl
  unfold load Job.Answers
  rw [Job.bind_of_ok hget]
  cases read w.machine.depths.manifest w.disk w.current (Manifest.path directory file) with
  | usable manifest => exact ⟨w, .refl w, rfl⟩
  | absent => exact ⟨_, ⟨_, rfl⟩, rfl⟩
  | unusable => exact ⟨_, ⟨_, rfl⟩, rfl⟩
  | tooDeep => exact ⟨w, .refl w, rfl⟩

theorem read_of_render {disk : Disk} (limit : Json.DepthLimit)
    (h : disk.fileContent current path = .ok manifest.render.toUTF8) :
    read limit disk current path = .usable manifest := by
  have hexists := Disk.pathExists_of_fileContent h
  simp only [read, hexists, Disk.readText, h, Utf8.decode_toUTF8, withLineFeeds_render,
    ofText_render]

theorem read_of_unreadable {disk : Disk} (limit : Json.DepthLimit)
    (h : ∀ content, disk.fileContent current path ≠ .ok content) :
    read limit disk current path = .absent ∨ read limit disk current path = .unusable := by
  unfold read
  split
  · exact Or.inr rfl
  · exact Or.inl rfl
  · split
    · exact Or.inr rfl
    · rename_i text ht
      obtain ⟨content, hc⟩ := Disk.readText_eq_ok ht
      exact absurd hc (h content)

/-- Where nothing but a written manifest may stand, that or the initial one is loaded. -/
theorem result_read_of_file {disk : Disk} (limit : Json.DepthLimit)
    (h : ∀ content, disk.file? (path.resolve current) = some content →
      content = manifest.render.toUTF8) :
    (read limit disk current path).result = .ok manifest ∨
      (read limit disk current path).result = .ok initial := by
  -- A file that no path leads to any more counts as missing, or as unusable.
  by_cases hc : disk.fileContent current path = .ok manifest.render.toUTF8
  · rw [read_of_render limit hc]
    exact Or.inl rfl
  · have hnone : ∀ content, disk.fileContent current path ≠ .ok content := by
      intro content hok
      obtain ⟨-, hf⟩ := Disk.fileContent_eq_ok.mp hok
      rw [h content hf] at hok
      exact hc hok
    obtain hr | hr := read_of_unreadable limit hnone
    · rw [hr]
      exact Or.inr rfl
    · rw [hr]
      exact Or.inr rfl

theorem load_of_read {directory : Path}
    (h : read w.machine.depths.manifest w.disk w.current (Manifest.path directory file) =
      .usable manifest) :
    load directory file w = .ok manifest w := by
  have hget : (get : Job Json.Fault World) w = .ok w w := rfl
  unfold load
  rw [Job.bind_of_ok hget]
  simp only [h]
  rfl

theorem load_of_render {directory : Path}
    (h : w.disk.fileContent w.current (Manifest.path directory file) =
      .ok manifest.render.toUTF8) : load directory file w = .ok manifest w :=
  load_of_read (read_of_render _ h)

/-- A manifest is written as ASCII text that reads back as the same manifest, whatever units stand in
its texts and however deep the stack is then; so what has been saved is what the next load gives. -/
theorem render_roundTrip (manifest : Manifest) :
    (∀ c ∈ manifest.render.toList, c.toNat < 0x80) ∧
      (∃ data, (∀ limit, Json.parse limit manifest.render = .ok data) ∧
        check data = .ok manifest) ∧
      ∀ directory file w place w', save directory manifest file w = .ok place w' →
        load directory file w' = .ok manifest w' := by
  refine ⟨fun c hc => ascii_of_mem_render hc, ⟨manifest.json,
    fun limit => manifest.parse_render limit, manifest.check_json⟩, ?_⟩
  intro directory file w place w' hs
  have hwritten := (save_eq_ok hs).2
  exact load_of_render (Disk.fileContent_eq_ok.mpr ⟨hwritten.leads, hwritten.content⟩)

/-- The manifest of one view, of a model named by a quote and a character of two units. -/
def quoted : Manifest :=
  ⟨.ofString "1\\", [⟨.ofString "\"\n😀", .ofString "List", ⟨[]⟩⟩]⟩

theorem render_roundTrip_quoted :
    ∃ place w', save ⟨.root, ["out"]⟩ quoted fileName .bare = .ok place w' ∧
      load ⟨.root, ["out"]⟩ fileName w' = .ok quoted w' := by
  have hsaves : (save ⟨.root, ["out"]⟩ quoted fileName).succeeds .bare = true := by decide
  obtain ⟨place, hs⟩ := Job.exists_of_succeeds hsaves
  exact ⟨place, _, hs, (render_roundTrip quoted).2.2 _ _ _ _ _ hs⟩

end Manifest

end ViewGen
