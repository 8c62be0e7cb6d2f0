import ViewGen.Proofs.Runs

/-!
# Running again

Where the places that a run writes to are neither its schema nor a file that its templates depend on, and
the templates render alike as long as those files stay, a second run decides from the manifest that the
first one saved, leaves every view alone and saves the same manifest.  Views edited by hand in between stay
as they are.
-/

namespace ViewGen

/-- Some of the files at the places have been changed or removed, and nothing else. -/
structure World.Edited (places : Set Location) (w later : World) : Prop where
  current : later.current = w.current
  nodes : ∀ at', later.disk.node? at' = w.disk.node? at' ∨
    (at' ∈ places ∧ (∃ content, w.disk.file? at' = some content) ∧ ¬ later.disk.IsDirectoryAt at')

/-- The disks hold the same directories, and the same files with the same bytes. -/
def Disk.SameTree (disk later : Disk) : Prop :=
  ∀ at', later.file? at' = disk.file? at' ∧ (later.IsDirectoryAt at' ↔ disk.IsDirectoryAt at')

namespace World.Edited

variable {places : Set Location} {w later : World}

theorem keeps (h : Edited places w later) : w.Keeps places later := by
  refine ⟨h.current, ?_, ?_⟩
  · intro at' hd
    obtain ⟨changed, hn⟩ := hd
    obtain he | ⟨-, ⟨content, hfile⟩, -⟩ := h.nodes at'
    · exact ⟨changed, he.trans hn⟩
    · obtain ⟨moment, hfile⟩ := Disk.file?_eq_some.mp hfile
      rw [hn] at hfile
      cases hfile
  · intro at' hout
    obtain he | ⟨hin, -, -⟩ := h.nodes at'
    · simp only [Disk.file?, he]
    · exact absurd hin hout

theorem node?_of_none (h : Edited places w later) {at' : Location}
    (hn : w.disk.node? at' = none) : later.disk.node? at' = none := by
  obtain he | ⟨-, ⟨content, hfile⟩, -⟩ := h.nodes at'
  · exact he.trans hn
  · obtain ⟨moment, hfile⟩ := Disk.file?_eq_some.mp hfile
    rw [hn] at hfile
    cases hfile

protected theorem refl (places : Set Location) (w : World) : Edited places w w :=
  ⟨rfl, fun _ => Or.inl rfl⟩

theorem put {place : Location} {content : ByteArray} (hp : place ∈ places)
    (hf : w.disk.file? place = some content) (edited : ByteArray) (changed : Moment)
    (libraries : Libraries) :
    Edited places w { w with libraries, disk := w.disk.put place (.file edited changed) } := by
  obtain ⟨moment, hn⟩ := Disk.file?_eq_some.mp hf
  have hne := Disk.ne_nil_of_not_isDirectoryAt (Disk.not_isDirectoryAt_of_file hn)
  refine ⟨rfl, fun at' => ?_⟩
  by_cases he : at' = place
  · rw [he]
    exact Or.inr ⟨hp, ⟨content, hf⟩,
      Disk.not_isDirectoryAt_of_file (Disk.node?_put_self (.file edited changed) hne)⟩
  · exact Or.inl (Disk.node?_put_of_ne _ he)

end World.Edited

/-! ## What a run reads -/

/-- From `disk` to `later` all directories stay, and the files at some places. -/
structure Disk.KeepsAt (files : Set Location) (disk later : Disk) : Prop where
  directories : disk.KeepsDirectories later
  files : ∀ place ∈ files, later.file? place = disk.file? place

theorem Disk.KeepsAt.trans {files : Set Location} {disk later last : Disk}
    (h : disk.KeepsAt files later) (h' : later.KeepsAt files last) : disk.KeepsAt files last :=
  ⟨h.directories.trans h'.directories,
    fun place hp => (h'.files place hp).trans (h.files place hp)⟩

theorem TemplateSource.render_eq_ok {source : TemplateSource} {engine : TemplateEngine}
    {disk : Disk} {current : Location} {number : Nat} {kind : ViewKind} {model : Model} {content : String} :
    source.render engine disk current number kind model = .ok content ↔ ∃ template,
      source.load engine disk current number kind = .ok template ∧ template model = .ok content := by
  unfold TemplateSource.render
  cases source.load engine disk current number kind with
  | error exception => simp
  | ok template => simp [except_mapError_eq_ok]

namespace World.Keeps

variable {places files : Set Location} {w later : World}

theorem keepsAt (h : Keeps places w later) (hout : ∀ place ∈ files, place ∉ places) :
    w.disk.KeepsAt files later.disk :=
  ⟨h.directories, fun place hp => h.files place (hout place hp)⟩

theorem schema (h : Keeps places w later) {path : Path} {models : List Model}
    (hout : path.resolve w.current ∉ places)
    (hm : Schema.read w.disk w.current path = .ok models) :
    Schema.read later.disk later.current path = .ok models := by
  obtain ⟨text, schema, htext, hparse⟩ := Schema.read_eq_ok.mp hm
  exact Schema.read_eq_ok.mpr ⟨text, schema, h.readText hout htext, hparse⟩

end World.Keeps

namespace RunOptions

variable {options : RunOptions} {w done first edited last : World} {result : Reconciliation}
  {models : List Model} {files : Set Location} {current : Location}

/-- The templates depend on nothing but the files at some places: what one of them has given with the
libraries of one world, it gives at any time with those of another, on every disk that keeps the directories
and these files. -/
def RendersAlike (options : RunOptions) (files : Set Location) (w later : World) : Prop :=
  ∀ disk disk', w.disk.KeepsAt files disk → w.disk.KeepsAt files disk' →
    Repeats (options.templates.render w.libraries.engine disk w.current)
      (options.templates.render later.libraries.engine disk' w.current)

/-- The bundled templates depend on no file and no library. -/
theorem rendersAlike_bundled (hbundled : options.templates = .bundled) (w later : World) :
    options.RendersAlike ∅ w later := by
  unfold RendersAlike
  rw [hbundled]
  exact fun _ _ _ _ _ _ _ _ _ hcontent => hcontent

/-- Templates that the embedded engine renders depend on nothing but their own files. -/
theorem rendersAlike_embedded {place : Path} (htemplates : options.templates = .directory place)
    (hengine : w.libraries.engine = TemplateEngine.embedded)
    (hengine' : edited.libraries.engine = TemplateEngine.embedded)
    (hfiles : ∀ kind : ViewKind, (place.joinName kind.templateName).Leads w.disk w.current ∧
      (place.joinName kind.templateName).resolve w.current ∈ files) :
    options.RendersAlike files w edited := by
  intro disk disk' hkeeps hkeeps' _ _ kind model content hcontent
  rw [htemplates, TemplateSource.render_eq_ok] at hcontent ⊢
  rw [hengine] at hcontent
  rw [hengine']
  obtain ⟨hleads, hmem⟩ := hfiles kind
  obtain ⟨template, hload, hcontent⟩ := hcontent
  refine ⟨template, ?_, hcontent⟩
  unfold TemplateSource.load TemplateEngine.embedded at hload ⊢
  dsimp only at hload ⊢
  split at hload
  · rename_i text hfile htext
    obtain ⟨bytes, hbytes⟩ := Disk.readText_eq_ok htext
    have hsame : disk'.file? _ = some bytes := (hkeeps'.files _ hmem).trans
      ((hkeeps.files _ hmem).symm.trans (Disk.fileContent_eq_ok.mp hbytes).2)
    have hbytes' := Disk.fileContent_eq_ok.mpr ⟨hkeeps'.directories.leads hleads, hsame⟩
    rw [Disk.readText_congr (hbytes'.trans hbytes.symm), htext, Disk.isFile_of_fileContent hbytes']
    exact hload
  · cases hload
  · cases hload

/-- One of the names for a temporary file beside the manifest is free. -/
def NameFree (options : RunOptions) (names : List RandomName) (w : World) : Prop :=
  ∃ random ∈ names, w.disk.node? ((Manifest.temporaryPath options.manifestPath.parent
    options.manifestFile random).resolve w.current) = none

theorem NameFree.mono {names more : List RandomName} (h : options.NameFree names w)
    (hsub : names ⊆ more) : options.NameFree more w := by
  obtain ⟨random, hm, hnone⟩ := h
  exact ⟨random, hsub hm, hnone⟩

theorem NameFree.of_edited {places : Set Location} {names : List RandomName}
    (h : options.NameFree names first) (hedited : first.Edited places edited) :
    options.NameFree names edited := by
  obtain ⟨random, hm, hnone⟩ := h
  refine ⟨random, hm, ?_⟩
  rw [hedited.current]
  exact hedited.node?_of_none hnone

/-- The names of temporary files are longer than that of the lock file. -/
theorem temporary_ne_lock (options : RunOptions) (random : RandomName) (current : Location) :
    (Manifest.temporaryPath options.manifestPath.parent options.manifestFile random).resolve current ≠
      options.lock.place current := by
  have hlength := Manifest.length_temporaryEnding random
  exact Path.resolve_endings_ne current (Manifest.slash_not_mem_ending random) (by decide)
    (by omega) (by decide) (by rw [hlength]; decide)

/-! ## Where a run writes -/

/-- The same run with another extension. -/
def withExtension (options : RunOptions) (extension : String) : RunOptions :=
  { options with extension }

/-- Where the views of models stand. -/
def viewPlaces (options : RunOptions) (models : List Model) (current : Location) : Set Location :=
  { place | ∃ pair ∈ viewsOf models,
    (options.output.join (viewPath pair.1.name pair.2 options.extension)).resolve current = place }

/-- Where a run writes: its views, its manifest and its lock file. -/
def ownPlaces (options : RunOptions) (models : List Model) (current : Location) : Set Location :=
  { place | place ∈ options.viewPlaces models current ∨
    place = options.manifestPath.resolve current ∨ place = options.lock.place current }

/-- No view stands at the place of the manifest, and the schema and the files that the templates depend on
stand where the run does not write. -/
structure PlacesApart (options : RunOptions) (files : Set Location) (models : List Model)
    (current : Location) : Prop where
  manifest : options.manifestPath.resolve current ∉ options.viewPlaces models current
  schema : options.schema.resolve current ∉ options.ownPlaces models current
  templates : ∀ place ∈ files, place ∉ options.ownPlaces models current

instance (options : RunOptions) (models : List Model) (current place : Location) :
    Decidable (place ∈ options.viewPlaces models current) :=
  inferInstanceAs (Decidable (∃ pair ∈ viewsOf models,
    (options.output.join (viewPath pair.1.name pair.2 options.extension)).resolve current = place))

instance (options : RunOptions) (models : List Model) (current place : Location) :
    Decidable (place ∈ options.ownPlaces models current) :=
  inferInstanceAs (Decidable (place ∈ options.viewPlaces models current ∨
    place = options.manifestPath.resolve current ∨ place = options.lock.place current))

theorem place_mem_viewPlaces {ε : Type} {previous : Manifest} {render : Renderings ε}
    {views : List RenderedView} {view : RenderedView}
    (h : List.Forall₂ (RenderedView.Shows previous render options.extension) (viewsOf models) views)
    (hm : view ∈ views) : view.place options.output current ∈ options.viewPlaces models current := by
  obtain ⟨pair, hpair, hname, hkind⟩ := exists_pair_of_mem h hm
  refine ⟨pair, hpair, ?_⟩
  rw [RenderedView.place, (shown_of_mem h hm).1, hname, hkind]

/-- Where a run finds under the lock what the templates of another run depend on, they render as they did
for that one. -/
theorem Locked.repeats {places : Set Location} (h : options.Locked w) (hagain : options.Locked edited)
    (halike : options.RendersAlike files w edited)
    (hkeeps : (options.working w).Keeps places (options.working edited))
    (hlock : options.lock.place w.current ∈ places) (hout : ∀ place ∈ files, place ∉ places) :
    Repeats (options.renderings (options.working w)) (options.renderings (options.working edited)) := by
  have hfirst : w.disk.KeepsAt files (options.working w).disk :=
    h.follows.keeps.keepsAt fun place hp hin =>
      hout place hp (by
        rw [Set.mem_singleton_iff] at hin
        rwa [hin])
  unfold renderings
  rw [h.follows.libraries, hagain.follows.libraries, hkeeps.current, h.follows.current]
  exact halike _ _ hfirst (hfirst.trans (hkeeps.keepsAt hout))

namespace Settled

section

variable (h : options.Settled w result done first)
  (hedited : first.Edited (options.viewPlaces (options.models w) w.current) edited)

include h in
theorem current_first : first.current = w.current :=
  h.releases.keeps.current.trans h.current_done

include h hedited in
theorem current_edited : edited.current = w.current :=
  hedited.current.trans h.current_first

include h hedited in
/-- From deciding on, only what stands at the places of the run itself has changed. -/
theorem keeps_edited :
    (options.working w).Keeps (options.ownPlaces (options.models w) w.current) edited := by
  have hwrote := (options.wrote_follows result (options.working w)).keeps
  have hmanifest := h.manifest.follows.keeps
  have hwhere := h.locked.current_wrote result
  rw [hwhere] at hmanifest
  rw [h.current_working] at hwrote
  have hviews : ∀ place ∈ placesOf options.output (writeAll w.current (options.working w).now
      options.output result.changed (options.working w).disk).2.1 w.current,
      place ∈ options.viewPlaces (options.models w) w.current := by
    intro place hplace
    obtain ⟨view, hview, rfl⟩ := hplace
    have hchanged := (writeAll_initial _ _ _ _ _).1.subset hview
    obtain ⟨previous, views, -, -, hshows, rfl⟩ := exists_decided h.decided
    exact place_mem_viewPlaces hshows (List.mem_filter.mp hchanged).1
  -- In this order: the views, the manifest, the lock file, and what was edited afterwards.
  refine (((hwrote.mono ?_).trans (hmanifest.mono ?_)).trans (h.releases.keeps.mono ?_)).trans
    (hedited.keeps.mono ?_)
  · exact fun place hp => Or.inl (hviews place hp)
  · exact fun place hp => Or.inr (Or.inl hp)
  · exact fun place hp => Or.inr (Or.inr hp)
  · exact fun place hp => Or.inl hp

include h in
theorem lock_free : first.disk.node? (options.lock.place w.current) = none := by
  obtain ⟨content, hfile⟩ := h.locked.held.isFile
  rw [h.current_working] at hfile
  obtain ⟨changed, hn⟩ := Disk.file?_eq_some.mp hfile
  rw [h.releases.disk]
  exact Disk.node?_erase_self
    (Disk.ne_nil_of_not_isDirectoryAt (Disk.not_isDirectoryAt_of_file hn))

/-! ### The manifest's directory -/

include h hedited in
/-- The directory of the manifest is still there, and temporary names in it lead somewhere. -/
theorem directory_edited :
    edited.disk.DirectoryAlong w.current options.manifestPath.parent ∧
      ∀ random, (Manifest.temporaryPath options.manifestPath.parent options.manifestFile
        random).Leads edited.disk w.current := by
  obtain ⟨hdirectory, htemporary, hnot, hsame⟩ := h.saved
  have hkeeps := (hsame.keepsDirectories hnot).trans
    (h.releases.keeps.directories.trans hedited.keeps.directories)
  obtain ⟨tried, random, rest, -, -, hlead, -⟩ := htemporary
  exact ⟨hkeeps.directoryAlong hdirectory,
    fun other => hkeeps.leads (Manifest.leads_temporaryPath hlead other)⟩

/-! ### The second decision -/

include h hedited in
/-- The lock is free again, and taking it puts nothing but the lock file on the disk. -/
theorem locked_again :
    options.Locked edited ∧ (options.lock.created edited).Noted (options.working edited) := by
  have hkeeps := h.keeps_edited hedited
  have hdirectory := hkeeps.directories.directoryAlong h.locked.directory
  have hleads := hkeeps.directories.leads h.locked.held.leads
  have hnone := hedited.node?_of_none h.lock_free
  rw [← h.current_edited hedited] at hdirectory hnone
  rw [h.current_working, ← h.current_edited hedited] at hleads
  obtain ⟨later, hacquire, hnoted⟩ := Lock.acquire_of_free rfl hdirectory hleads hnone
  have hworking : options.working edited = later := Job.after_of_ok hacquire
  rw [hworking]
  exact ⟨locked_of_acquire hacquire, hnoted⟩

include h hedited in
theorem keeps_lock : edited.Keeps {options.lock.place w.current} (options.working edited) := by
  have hkeeps := (h.locked_again hedited).1.follows.keeps
  rw [h.current_edited hedited] at hkeeps
  exact hkeeps

include h hedited in
theorem keeps_again :
    (options.working w).Keeps (options.ownPlaces (options.models w) w.current)
      (options.working edited) :=
  (h.keeps_edited hedited).trans
    ((h.keeps_lock hedited).mono fun _ hp => Or.inr (Or.inr hp))

variable (hapart : options.PlacesApart files (options.models w) w.current)

include h hedited hapart in
theorem fileContent_again :
    (options.working edited).disk.fileContent (options.working edited).current
      options.manifestPath = .ok result.manifest.render.toUTF8 := by
  have hmanifest : options.manifestPath.resolve first.current ∉
      options.viewPlaces (options.models w) w.current := by
    rw [h.current_first]
    exact hapart.manifest
  have hlock : options.manifestPath.resolve edited.current ∉
      ({options.lock.place w.current} : Set Location) := by
    rw [h.current_edited hedited]
    exact Ne.symm (h.lock_ne w.current)
  have hcontent := hedited.keeps.fileContent hmanifest h.fileContent_manifest
  exact (h.keeps_lock hedited).fileContent hlock hcontent

include h hedited hapart in
theorem schema_again :
    Schema.read (options.working edited).disk (options.working edited).current options.schema =
      .ok (options.models w) := by
  obtain ⟨previous, views, -, hmodels, -, rfl⟩ := exists_decided h.decided
  refine (h.keeps_again hedited).schema ?_ hmodels
  rw [h.current_working]
  exact hapart.schema

variable (halike : options.RendersAlike files w edited)

include h hedited hapart halike in
theorem repeats_again :
    Repeats (options.renderings (options.working w)) (options.renderings (options.working edited)) :=
  h.locked.repeats (h.locked_again hedited).1 halike (h.keeps_again hedited)
    (Or.inr (Or.inr rfl)) hapart.templates

include h hedited hapart halike in
/-- The second run finds the manifest of the first and leaves every view alone, also where it has
another extension. -/
theorem decided_moved (hnames : ((options.models w).map (·.name)).Nodup) (extension : String) :
    (options.withExtension extension).decision edited =
      .ok (.ofViews result.manifest (result.views.map (·.moved extension))) := by
  have hread := Manifest.read_of_render (options.working edited).machine.depths.manifest
    (h.fileContent_again hedited hapart)
  have hschema := h.schema_again hedited hapart
  have hrepeats := h.repeats_again hedited hapart halike
  obtain ⟨previous, views, -, -, hshows, rfl⟩ := exists_decided h.decided
  have hagain := shows_moved hshows (fun view hm =>
    decide_of_entries hshows hnames previous.version hm) extension
  refine decided_eq_ok.mpr ⟨_, _, ?_, hschema, reconcileAll_of_shows hrepeats hagain⟩
  show (Manifest.read (options.working edited).machine.depths.manifest
    (options.working edited).disk (options.working edited).current options.manifestPath).result = _
  rw [hread]
  rfl

include h hedited hapart halike in
theorem decided_again (hnames : ((options.models w).map (·.name)).Nodup) :
    options.decision edited = .ok (.ofViews result.manifest (result.views.map (·.left))) := by
  have hmoved := h.decided_moved hedited hapart halike hnames options.extension
  obtain ⟨previous, views, -, -, hshows, rfl⟩ := exists_decided h.decided
  rw [show (Reconciliation.ofViews previous views).views = views from rfl] at hmoved ⊢
  rw [map_moved_of_shows hshows] at hmoved
  exact hmoved

/-! ### The second save -/

include h hedited in
/-- A name that is free beside the manifest is still free under the lock. -/
theorem temporary_again (hfree : options.NameFree edited.libraries.randomNames edited) :
    Manifest.HasTemporary (options.working edited).disk w.current options.manifestPath.parent
      options.manifestFile edited.libraries.randomNames := by
  obtain ⟨random, hm, hnone⟩ := hfree
  have hlead := (h.directory_edited hedited).2 random
  -- The lock file is all that is new.
  have hne := options.temporary_ne_lock random edited.current
  refine Manifest.hasTemporary_of_free ((h.keeps_lock hedited).directories.leads hlead) hm ?_
  rw [(h.locked_again hedited).2.disk, Lock.created, ← h.current_edited hedited,
    Disk.node?_put_of_ne _ hne]
  exact hnone

include h hedited hapart in
/-- The manifest can be saved again. -/
theorem write_again (hfree : options.NameFree edited.libraries.randomNames edited)
    (manifest : Manifest) {start : World} (hstart : (options.working edited).Noted start) :
    ∃ saved, Manifest.write options.manifestPath options.manifestFile manifest start =
      .ok () saved := by
  have hwhere : edited.current = w.current := h.current_edited hedited
  have hcurrent : start.current = w.current :=
    ((h.locked_again hedited).2.trans hstart).current.trans hwhere
  have hparent := (h.keeps_lock hedited).directories.directoryAlong (h.directory_edited hedited).1
  obtain ⟨hleads, hfile⟩ := Disk.fileContent_eq_ok.mp (h.fileContent_again hedited hapart)
  apply Manifest.write_of_free h.manifest.named
  · rw [hcurrent, hstart.disk]
    exact hparent
  · have hlibraries : start.libraries = edited.libraries :=
      hstart.libraries.trans (h.locked_again hedited).2.libraries
    rw [hcurrent, hstart.disk, hlibraries]
    exact h.temporary_again hedited hfree
  · rw [hstart.disk, hstart.current]
    exact hleads
  · obtain ⟨changed, hn⟩ := Disk.file?_eq_some.mp hfile
    rw [hstart.disk, hstart.current]
    exact Disk.not_isDirectoryAt_of_file hn

end

/-- A run that finds the lock free, no view changed, and everything in place leaves the tree as it is. -/
theorem sameTree {later : World} (h : options.Settled w result done later)
    (hnone : result.changed = [])
    (hcreated : (options.lock.created w).Noted (options.working w))
    (hfree : w.disk.node? (options.lock.place w.current) = none)
    (hparent : w.disk.DirectoryAlong w.current options.manifestPath.parent)
    (hmanifest : w.disk.file? (options.manifestPath.resolve w.current) =
      some result.manifest.render.toUTF8) : w.disk.SameTree later.disk := by
  have hwrote : (options.wrote result (options.working w)) = options.working w := by
    unfold wrote
    rw [hnone, writeAll]
  have hdirectory := h.locked.follows.disk.keepsDirectories.directoryAlong hparent
  obtain ⟨made, hmade, -, -, hsame⟩ := h.manifest.replaced
  rw [hwrote, h.current_working, Disk.ensureDirectories_of_directory hdirectory] at hmade
  rw [hwrote, h.current_working] at hsame
  cases hmade
  -- The lock file comes and goes, and besides it only the manifest is written.
  have hnodes : ∀ at' ≠ options.manifestPath.resolve w.current,
      later.disk.node? at' = w.disk.node? at' := by
    intro at' hne
    rw [h.releases.disk]
    by_cases he : at' = options.lock.place w.current
    · subst he
      rw [hfree]
      exact Disk.node?_erase_self
        (Disk.ne_nil_of_not_isDirectoryAt (Disk.not_isDirectoryAt_of_none hfree))
    · rw [Disk.node?_erase_of_ne he, hsame at' hne, hcreated.disk]
      exact Disk.node?_put_of_ne _ he
  obtain ⟨-, hsaved⟩ := Disk.fileContent_eq_ok.mp h.fileContent_manifest
  rw [h.current_first] at hsaved
  intro at'
  by_cases he : at' = options.manifestPath.resolve w.current
  · subst he
    obtain ⟨changed, hn⟩ := Disk.file?_eq_some.mp hmanifest
    obtain ⟨moment, hm⟩ := Disk.file?_eq_some.mp hsaved
    exact ⟨hsaved.trans hmanifest.symm, fun hd => absurd hd (Disk.not_isDirectoryAt_of_file hm),
      fun hd => absurd hd (Disk.not_isDirectoryAt_of_file hn)⟩
  · unfold Disk.file? Disk.IsDirectoryAt
    rw [hnodes at' he]
    exact ⟨rfl, Iff.rfl⟩

end Settled

/-- Where no view has changed, all is placed if the manifest can be saved. -/
theorem place_of_write (hreal : options.dryRun = false) (hnone : result.changed = [])
    {start : World} (hwrite : ∀ later, start.Noted later →
      ∃ saved, Manifest.write options.manifestPath options.manifestFile result.manifest later =
        .ok () saved) : ∃ r done, options.place result start = .ok r done := by
  refine place_of_writeAll hreal ?_ hwrite
  rw [hnone]
  rfl

/-- After a real run has succeeded, a second one with the same options succeeds too, whatever has been
done by hand to the files of the views, and on whatever machine, with whatever libraries, as long as they
render alike and the temporary file can be named.  It finds every view unchanged, writes none, has the same
manifest, and leaves the tree as it found it. -/
theorem run_again {r : Reconciliation} (hreal : options.dryRun = false)
    (hrun : run options w = .ok r first) (hnames : ((options.models w).map (·.name)).Nodup)
    (hapart : options.PlacesApart files (options.models w) w.current)
    (hedited : first.Edited (options.viewPlaces (options.models w) w.current) edited)
    (halike : options.RendersAlike files w edited)
    (hfree : options.NameFree edited.libraries.randomNames edited) :
    ∃ again last, run options edited = .ok again last ∧
      again.views = r.views.map (·.left) ∧ again.written = [] ∧ again.manifest = r.manifest ∧
      edited.disk.SameTree last.disk := by
  obtain ⟨result, done, h, rfl⟩ := run_settled hreal hrun
  have hdecided := h.decided_again hedited hapart halike hnames
  have hmanifest : (Reconciliation.ofViews result.manifest (result.views.map (·.left))).manifest =
      result.manifest := by
    obtain ⟨previous, views, -, -, -, rfl⟩ := exists_decided h.decided
    simp only [Reconciliation.ofViews, List.map_map]
    rfl
  have hnone := Reconciliation.changed_map_eq_nil (fun view => view.isChanged_left)
    result.manifest result.views
  -- The second run comes to its end, and what it has done then is what a settled run does.
  obtain ⟨hlocked, hcreated⟩ := h.locked_again hedited
  obtain ⟨again, last, hagain⟩ := run_of_place hlocked hdecided fun start hstart =>
    place_of_write hreal hnone fun later hlater =>
      h.write_again hedited hapart hfree _ (hstart.trans hlater)
  obtain ⟨result', done', h', rfl⟩ := run_settled hreal hagain
  have hsame := h'.decided
  rw [hdecided] at hsame
  cases hsame
  refine ⟨_, last, hagain, rfl, ?_, hmanifest, ?_⟩
  · rw [hnone]
    rfl
  · have hnone' := hedited.node?_of_none h.lock_free
    have hparent := (h.directory_edited hedited).1
    obtain ⟨-, hfile⟩ := Disk.fileContent_eq_ok.mp (hedited.keeps.fileContent (by
      rw [h.current_first]
      exact hapart.manifest) h.fileContent_manifest)
    rw [← h.current_edited hedited] at hnone' hparent
    rw [← hmanifest] at hfile
    exact h'.sameTree hnone hcreated hnone' hparent hfile

/-- Where the views of the small run stand. -/
def smallPlaces : List Location :=
  ["list.tsx", "create.tsx", "update.tsx", "delete.tsx", "search.tsx"].map fun name =>
    ["out", "routes", "a", name]

theorem mem_viewPlaces_small {place : Location} :
    place ∈ small.viewPlaces (small.models .small) World.small.current ↔ place ∈ smallPlaces := by
  have hplaces : ((viewsOf [.small]).map fun pair => (small.output.join
      (viewPath pair.1.name pair.2 small.extension)).resolve World.small.current) = smallPlaces := by
    decide
  rw [models_small, ← hplaces]
  exact List.mem_map.symm

theorem mem_ownPlaces_small {place : Location} :
    place ∈ small.ownPlaces (small.models .small) World.small.current ↔
      place ∈ smallPlaces ++ [["out", ".ramp-manifest.json"], ["out", ".ramp-manifest.json.lock"]] := by
  have hmanifest : small.manifestPath.resolve World.small.current =
      ["out", ".ramp-manifest.json"] := by
    decide
  have hlock : small.lock.place World.small.current = ["out", ".ramp-manifest.json.lock"] := by
    decide
  rw [List.mem_append, ← mem_viewPlaces_small, List.mem_pair, ← hmanifest, ← hlock]
  exact Iff.rfl

/-- Where the templates of the small run stand. -/
def smallTemplates : List Location :=
  ViewKind.all.map fun kind => ["templates", kind.templateName]

theorem placesApart_small : small.PlacesApart { place | place ∈ smallTemplates }
    (small.models .small) World.small.current := by
  refine ⟨?_, ?_, ?_⟩
  · rw [mem_viewPlaces_small]
    decide
  · rw [mem_ownPlaces_small]
    decide
  · intro place hp
    rw [mem_ownPlaces_small]
    have hapart : ∀ place ∈ smallTemplates, place ∉ smallPlaces ++
        [["out", ".ramp-manifest.json"], ["out", ".ramp-manifest.json.lock"]] := by decide
    exact hapart place hp

theorem rendersAlike_small {later : World}
    (hengine : later.libraries.engine = TemplateEngine.embedded) :
    small.RendersAlike { place | place ∈ smallTemplates } .small later := by
  refine rendersAlike_embedded rfl rfl hengine fun kind => ⟨?_, ?_⟩
  · unfold Path.Leads
    cases kind <;> decide
  · show _ ∈ smallTemplates
    cases kind <;> decide

theorem nameFree_small : small.NameFree [.ofNat 99] ((run .small).after .small) := by
  have hnone : (((run .small).after .small).disk.node?
      ["out", ".ramp-manifest.json.00000063.tmp"]).isNone = true := by
    decide +kernel
  have htemporary : (Manifest.temporaryPath small.manifestPath.parent small.manifestFile
      (.ofNat 99)).resolve World.small.current =
        ["out", ".ramp-manifest.json.00000063.tmp"] := by
    decide
  obtain ⟨r, hrun⟩ := exists_run_small
  obtain ⟨_, _, hsettled, -⟩ := run_settled rfl hrun
  -- Nothing else counts of what the run leaves.
  generalize (run small).after .small = first at *
  refine ⟨.ofNat 99, List.mem_singleton_self _, ?_⟩
  rw [hsettled.current_first, htemporary]
  exact Option.isNone_iff_eq_none.mp hnone

/-- The list view of the small run is edited by hand, and the edit outlives the second run, whose temporary
file has another name. -/
theorem run_again_small :
    ∃ r edited again last, run .small .small = .ok r ((run .small).after .small) ∧
      run .small edited = .ok again last ∧ again.views = r.views.map (·.left) ∧
      again.written = [] ∧ again.manifest = r.manifest ∧ edited.disk.SameTree last.disk ∧
      last.disk.file? RenderedView.smallPlace = some "edited".toUTF8 := by
  obtain ⟨r, hrun⟩ := exists_run_small
  have hnames : ((small.models .small).map (·.name)).Nodup := by
    rw [models_small]
    decide
  have hplace : RenderedView.smallPlace ∈
      small.viewPlaces (small.models .small) World.small.current := by
    rw [mem_viewPlaces_small]
    decide
  have hfile := run_small
  rw [Bool.and_eq_true, Option.isSome_iff_exists] at hfile
  obtain ⟨-, content, hfile⟩ := hfile
  have hfree := nameFree_small
  generalize (run small).after .small = first at *
  have hedited := World.Edited.put hplace hfile "edited".toUTF8 0
    { Libraries.embedded with randomNames := [.ofNat 99] }
  obtain ⟨again, last, hagain, hviews, hwritten, hmanifest, hsame⟩ := run_again rfl hrun hnames
    placesApart_small hedited (rendersAlike_small rfl) (NameFree.of_edited hfree hedited)
  refine ⟨r, _, again, last, hrun, hagain, hviews, hwritten, hmanifest, hsame, ?_⟩
  rw [(hsame RenderedView.smallPlace).1]
  exact Disk.file?_put_self _ _ _ (by decide)

end RunOptions

end ViewGen
