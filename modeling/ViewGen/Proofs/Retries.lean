import ViewGen.Proofs.Readings

/-!
# Runs after a crash

A real run may stop anywhere between two of the views it writes.  The manifest is still the old one then,
so the next run decides as the first one did, whatever views have already been written; and writing them
all again ends in the tree that the first run would have ended in.
-/

namespace ViewGen

namespace Disk.Within

variable {disk middle changed later : Disk} {place : Location} {content other : ByteArray}

theorem of_sameOutside (h : disk.Within later) (hs : disk.SameOutside {place} changed)
    (hd : ¬ changed.IsDirectoryAt place) (hf : later.file? place = some content) :
    changed.Within later := by
  refine ⟨fun at' hat => ?_, fun at' found hfound => ?_⟩
  · have hne : at' ≠ place := fun he => hd (he ▸ hat)
    unfold IsDirectoryAt at hat
    rw [hs at' hne] at hat
    exact h.directories at' hat
  · by_cases he : at' = place
    · exact ⟨content, he ▸ hf⟩
    · unfold file? at hfound
      rw [hs at' he] at hfound
      exact h.files at' found hfound

/-- One place may change on the way, if a file stands there before and after. -/
theorem trans_outside (h : disk.Within middle) (hs : middle.SameOutside {place} changed)
    (h' : changed.Within later) (hf : disk.file? place = some content)
    (hf' : later.file? place = some other) : disk.Within later := by
  obtain ⟨moment, hn⟩ := file?_eq_some.mp hf
  refine ⟨fun at' hat => ?_, fun at' found hfound => ?_⟩
  · have hne : at' ≠ place := fun he => not_isDirectoryAt_of_file hn (he ▸ hat)
    have hmiddle := h.directories at' hat
    unfold IsDirectoryAt at hmiddle
    rw [← hs at' hne] at hmiddle
    exact h'.directories at' hmiddle
  · by_cases he : at' = place
    · exact ⟨other, he ▸ hf'⟩
    · obtain ⟨same, hsame⟩ := h.files at' found hfound
      unfold file? at hsame
      rw [← hs at' he] at hsame
      exact h'.files at' same hsame

end Disk.Within

namespace RunOptions

variable {options : RunOptions} {w crashed done first : World} {result : Reconciliation} {k : Nat}

/-- A run under the lock works on a disk that lies within any other that has the lock file and its
directory. -/
theorem Locked.within (h : options.Locked w) {later : Disk} {content : ByteArray}
    (hw : w.disk.Within later) (hd : later.DirectoryAlong w.current options.lock.file.parent)
    (hf : later.file? (options.lock.place w.current) = some content) :
    (options.working w).disk.Within later := by
  obtain ⟨made, hmade, htaken⟩ := h.taken
  obtain ⟨made', hmade', hwithin⟩ := hw.ensureDirectories w.now hd
  rw [hmade, Prod.mk.injEq] at hmade'
  obtain ⟨rfl, -⟩ := hmade'
  obtain ⟨machine, moment, howned⟩ := htaken.owned
  obtain ⟨changed, hn⟩ := Disk.file?_eq_some.mp howned
  exact hwithin.of_sameOutside htaken.outside (Disk.not_isDirectoryAt_of_file hn) hf

/-! ## Where a run may have stopped -/

/-- The disk after the first `k` changed views have been written on it, directories included. -/
def begun (options : RunOptions) (result : Reconciliation) (k : Nat) (w : World) : Disk :=
  (writeAll w.current w.now options.output (result.changed.take k) w.disk).1

/-- The worlds that a run may be taken up from after it has written its first `k` changed views. -/
inductive Stopped (options : RunOptions) (w : World) (result : Reconciliation) (k : Nat) :
    World → Prop
  /-- Nothing has been done but to write these views. -/
  | beside (libraries : Libraries) (log : List LogRecord) (printed : List String) :
      Stopped options w result k
        { w with libraries, disk := options.begun result k w, log, printed }
  /-- The run has died while it held the lock. Whatever has become of the lock file and however much
  later it is, the lock can be had again. -/
  | killed {crashed : World} : crashed.current = w.current →
      crashed.machine.depths = w.machine.depths →
      (options.begun result k (options.working w)).SameOutside {options.lock.place w.current}
        crashed.disk →
      (∃ held later, options.lock.acquire crashed = .ok held later) →
      Stopped options w result k crashed

/-- No view stands at the place of the schema, of a file that the templates depend on, of the manifest or of
the lock file, and the templates do not depend on the lock file either. -/
structure ViewsApart (options : RunOptions) (files : Set Location) (models : List Model)
    (current : Location) : Prop where
  schema : options.schema.resolve current ∉ options.viewPlaces models current
  templates : ∀ place ∈ files, place ∉ options.viewPlaces models current ∧
    place ≠ options.lock.place current
  manifest : options.manifestPath.resolve current ∉ options.viewPlaces models current
  lock : options.lock.place current ∉ options.viewPlaces models current

/-! ## Taking a run up again -/

/-- Another run holds the lock, on a disk between those on which the first one began and ended to write
its views. -/
structure Resumed (options : RunOptions) (w : World) (result : Reconciliation) (crashed : World) :
    Prop where
  locked : options.Locked crashed
  current : crashed.current = w.current
  depths : crashed.machine.depths = w.machine.depths
  before : (options.working w).disk.Within (options.working crashed).disk
  after : (options.working crashed).disk.Within (options.wrote result (options.working w)).disk
  files : ∀ at' ∉ placesOf options.output result.changed w.current,
    at' ≠ options.lock.place w.current →
      (options.working crashed).disk.file? at' = (options.working w).disk.file? at'

section

variable (h : options.Settled w result done first)

include h in
theorem Settled.lock_wrote :
    (options.wrote result (options.working w)).disk.DirectoryAlong w.current
        options.lock.file.parent ∧
      ∃ content, (options.wrote result (options.working w)).disk.file?
        (options.lock.place w.current) = some content := by
  have hfollows := options.wrote_follows result (options.working w)
  obtain ⟨content, hfile⟩ := (h.locked.held.follows hfollows).isFile
  rw [hfollows.current, h.current_working] at hfile
  exact ⟨hfollows.disk.keepsDirectories.directoryAlong h.locked.directory, content, hfile⟩

include h in
/-- The first views can be written on every disk on which the run could have begun to. -/
theorem Settled.begun_within {disk : Disk}
    (hd : disk.Within (options.wrote result (options.working w)).disk) (k : Nat) (now : Moment) :
    ∃ made, writeAll w.current now options.output (result.changed.take k) disk =
        (made, result.changed.take k, .ok ()) ∧
      made.Within (options.wrote result (options.working w)).disk := by
  have hheld := writeAll_holdsFile h.writeAll_eq
  rw [h.current_working] at hheld
  exact hd.writeAll (fun view hm => hheld view (List.mem_of_mem_take hm)) now

theorem file?_writeAll_take {views : List RenderedView} {disk made : Disk} {current : Location}
    {now : Moment} {output : Path}
    (h : writeAll current now output (views.take k) disk = (made, views.take k, .ok ())) {at' : Location}
    (hout : at' ∉ placesOf output views current) : made.file? at' = disk.file? at' := by
  have hgrows := writeAll_grows current now output (views.take k) disk
  rw [h] at hgrows
  refine hgrows.file?_eq ?_
  intro hplace
  obtain ⟨view, hview, he⟩ := hplace
  exact hout ⟨view, List.mem_of_mem_take hview, he⟩

include h in
/-- From beside the run the lock can be had, as it could before. -/
theorem Settled.resumed_beside {files : Set Location}
    (hapart : options.ViewsApart files (options.models w) w.current) (k : Nat)
    (libraries : Libraries) (log : List LogRecord) (printed : List String) :
    options.Resumed w result
      { w with libraries, disk := options.begun result k w, log, printed } := by
  have hworking := h.locked.follows.disk.within
  have hwrote := (options.wrote_follows result (options.working w)).disk.within
  obtain ⟨hdirectory, content, hlockFile⟩ := h.lock_wrote
  obtain ⟨begun, hbegun, hwithin⟩ := h.begun_within (hworking.trans hwrote) k w.now
  have hdisk : options.begun result k w = begun := by
    rw [RunOptions.begun, hbegun]
  rw [hdisk]
  -- The same stands at the place of the lock file before and after the views are written.
  obtain ⟨made, hmade, htaken⟩ := h.locked.taken
  obtain ⟨again, hagain, hagainWithin⟩ := hwithin.ensureDirectories w.now hdirectory
  have hgrows := writeAll_grows w.current w.now options.output (result.changed.take k) w.disk
  rw [hbegun] at hgrows
  have hlockNode : again.node? (options.lock.place w.current) =
      made.node? (options.lock.place w.current) := by
    have hmadeGrows := w.disk.ensureDirectories_grows w.current w.now options.lock.file.parent
    have hagainGrows := begun.ensureDirectories_grows w.current w.now options.lock.file.parent
    rw [hmade] at hmadeGrows
    rw [hagain] at hagainGrows
    rw [hmadeGrows.node?_eq (Set.notMem_empty _) htaken.free,
      hagainGrows.node?_eq (Set.notMem_empty _) (hagainWithin.not_isDirectoryAt hlockFile)]
    refine hgrows.node?_eq ?_ (hwithin.not_isDirectoryAt hlockFile)
    intro hplace
    obtain ⟨view, hview, he⟩ := hplace
    exact hapart.lock (h.placesOf_changed_subset ⟨view, List.mem_of_mem_take hview, he⟩)
  have hlike : options.lock.Alike { w with disk := made }
      { w with libraries, disk := again, log, printed } :=
    ⟨rfl, rfl, htaken.leads.of_parent (Disk.ensureDirectories_eq_ok hagain), hlockNode⟩
  obtain ⟨held, hacquire⟩ := h.locked.acquired
  obtain ⟨_, later, hlater⟩ := Lock.acquire_of_alike 
    (v := { w with libraries, disk := begun, log, printed })
    rfl hacquire hmade hagain hlike
  have hlocked := locked_of_acquire hlater
  obtain ⟨own, hown⟩ := hlocked.held.isFile
  have hfollows := hlocked.follows
  rw [hfollows.current] at hown
  refine ⟨hlocked, rfl, rfl, ?_, hlocked.within hwithin hdirectory hlockFile, ?_⟩
  · exact h.locked.within (hgrows.within.trans hfollows.disk.within) hlocked.directory hown
  · intro at' hout hne
    rw [hfollows.disk.file?_eq hne, h.locked.follows.disk.file?_eq hne]
    exact file?_writeAll_take hbegun hout

include h in
theorem Settled.resumed_killed (hcurrent : crashed.current = w.current)
    (hdepths : crashed.machine.depths = w.machine.depths)
    (hsame : (options.begun result k (options.working w)).SameOutside
      {options.lock.place w.current} crashed.disk)
    (hlocked : options.Locked crashed) : options.Resumed w result crashed := by
  have hwrote := (options.wrote_follows result (options.working w)).disk.within
  obtain ⟨hdirectory, content, hlockFile⟩ := h.lock_wrote
  obtain ⟨begun, hbegun, hwithin⟩ := h.begun_within hwrote k (options.working w).now
  have hdisk : options.begun result k (options.working w) = begun := by
    rw [RunOptions.begun, h.current_working, hbegun]
  rw [hdisk] at hsame
  have hfollows := hlocked.follows
  obtain ⟨own, hown⟩ := hlocked.held.isFile
  obtain ⟨old, hold⟩ := h.locked.held.isFile
  rw [hfollows.current, hcurrent] at hown
  rw [h.current_working] at hold
  -- No directory can have come to stand where the lock file is created again.
  obtain ⟨moment, hn⟩ := Disk.file?_eq_some.mp hown
  have hnot : ¬ crashed.disk.IsDirectoryAt (options.lock.place w.current) := fun hd =>
    Disk.not_isDirectoryAt_of_file hn (hfollows.disk.keepsDirectories _ hd)
  have hcrashed := hwithin.of_sameOutside hsame hnot hlockFile
  have hgrows := writeAll_grows w.current (options.working w).now options.output
    (result.changed.take k) (options.working w).disk
  rw [hbegun] at hgrows
  rw [← hcurrent] at hdirectory hlockFile
  refine ⟨hlocked, hcurrent, hdepths, ?_, hlocked.within hcrashed hdirectory hlockFile, ?_⟩
  · exact hgrows.within.trans_outside hsame hfollows.disk.within hold hown
  · intro at' hout hne
    have hlock : at' ∉ ({options.lock.place crashed.current} : Set Location) := by
      rw [hcurrent]
      exact hne
    rw [hfollows.disk.file?_eq hlock]
    unfold Disk.file?
    rw [hsame at' hne]
    exact file?_writeAll_take hbegun hout

end

namespace Resumed

variable {files : Set Location} (hresumed : options.Resumed w result crashed)
  (h : options.Settled w result done first)
  (hapart : options.ViewsApart files (options.models w) w.current)

include hresumed in
theorem current_working : (options.working crashed).current = w.current :=
  hresumed.locked.follows.current.trans hresumed.current

include hresumed h in
theorem keeps :
    (options.working w).Keeps
      (options.viewPlaces (options.models w) w.current ∪ {options.lock.place w.current})
      (options.working crashed) := by
  refine ⟨?_, hresumed.before.directories, fun at' hout => ?_⟩
  · rw [hresumed.current_working, h.current_working]
  · exact hresumed.files at' (fun hin => hout (Or.inl (h.placesOf_changed_subset hin)))
      fun he => hout (Or.inr he)

include hresumed h hapart in
theorem manifest_eq :
    options.manifestIn (options.working crashed) = options.manifestIn (options.working w) := by
  have hleads := h.manifest.leads
  rw [h.current_done] at hleads
  have hdirectory := h.locked.directory
  rw [← h.parent_eq] at hdirectory
  have hnot := h.saved.2.2.1
  have hbefore := options.wrote_follows result (options.working w)
  have hfile := hresumed.files (options.manifestPath.resolve w.current)
    (fun hin => hapart.manifest (h.placesOf_changed_subset hin)) (Ne.symm (h.lock_ne w.current))
  unfold manifestIn
  rw [hresumed.current_working, h.current_working, hresumed.locked.follows.machine,
    h.locked.follows.machine, hresumed.depths, Manifest.read_of_leads (hleads.of_parent hdirectory)
      fun hd => hnot (hbefore.disk.keepsDirectories _ hd),
    Manifest.read_of_leads (hleads.of_parent
      (hresumed.before.directories.directoryAlong hdirectory))
      fun hd => hnot (hresumed.after.directories _ hd), hfile]

include hresumed h hapart in
/-- The old manifest and the same renderings lead to the same decisions. -/
theorem decided (halike : options.RendersAlike files w crashed) :
    options.decision crashed = .ok result := by
  have hkeeps := hresumed.keeps h
  obtain ⟨previous, views, hprevious, hmodels, hshows, rfl⟩ := exists_decided h.decided
  refine decided_eq_ok.mpr ⟨previous, _, ?_,
    h.locked.schema_again hresumed.locked hkeeps hapart.schema hmodels,
    reconcileAll_of_shows
      (h.locked.repeats_again hresumed.locked hkeeps halike hapart.templates) hshows⟩
  rw [hresumed.manifest_eq h hapart, hprevious]

include hresumed h in
/-- Writing all views again gives the disk that the first run had written, but for the lock file. -/
theorem wrote_again :
    ∃ again, writeAll (options.working crashed).current (options.working crashed).now
        options.output result.changed (options.working crashed).disk =
          (again, result.changed, .ok ()) ∧
      again.Within (options.wrote result (options.working w)).disk ∧
      (options.wrote result (options.working w)).disk.Within again ∧
      ∀ at' ≠ options.lock.place w.current,
        again.file? at' = (options.wrote result (options.working w)).disk.file? at' := by
  obtain ⟨again, hagain, hwithin, hwithin', hfiles⟩ := writeAll_again h.writeAll_eq
    hresumed.before hresumed.after (options.working crashed).now
  have hgrows := writeAll_grows w.current (options.working crashed).now options.output
    result.changed (options.working crashed).disk
  have hfirst := writeAll_grows w.current (options.working w).now options.output
    result.changed (options.working w).disk
  have hall := h.writeAll_eq
  rw [h.current_working] at hagain hfiles hall
  rw [hagain] at hgrows
  rw [hall] at hfirst
  refine ⟨again, ?_, hwithin, hwithin', fun at' hne => ?_⟩
  · rw [hresumed.current_working]
    exact hagain
  · by_cases hin : at' ∈ placesOf options.output result.changed w.current
    · exact hfiles at' hin
    · rw [hgrows.file?_eq hin, hresumed.files at' hin hne, hfirst.file?_eq hin]

include h in
/-- A name that is free where the first run has ended is free once the views have been written again. -/
theorem temporary_again {again : Disk}
    (hwithin : again.Within (options.wrote result (options.working w)).disk)
    (hwithin' : (options.wrote result (options.working w)).disk.Within again)
    (hfree : options.NameFree crashed.libraries.randomNames first) :
    Manifest.HasTemporary again w.current options.manifestPath.parent options.manifestFile
      crashed.libraries.randomNames := by
  obtain ⟨-, ⟨_, other, _, -, -, hlead, -⟩, -, -⟩ := h.saved
  obtain ⟨random, hm, hnone⟩ := hfree
  have hlength := Manifest.length_temporaryEnding random
  rw [h.current_first] at hnone
  refine Manifest.hasTemporary_of_free (hwithin'.directories.leads hlead) hm
    (hwithin.node?_of_none ?_)
  rw [← h.node?_later ?_ (options.temporary_ne_lock random w.current)]
  · exact hnone
  · exact h.ending_ne options.manifestPath.parent w.current (Manifest.slash_not_mem_ending random)
      (by omega)

include hresumed h in
theorem place_again (hreal : options.dryRun = false)
    (hfree : options.NameFree crashed.libraries.randomNames first) {start : World}
    (hstart : (options.working crashed).Noted start) :
    ∃ r later, options.place result start = .ok r later := by
  obtain ⟨again, hagain, hwithin, hwithin', -⟩ := hresumed.wrote_again h
  obtain ⟨hdirectory, -, hnot, -⟩ := h.saved
  have hleads := h.manifest.leads
  rw [h.current_done] at hleads
  have hagainDirectory := hwithin'.directories.directoryAlong hdirectory
  have hwhere := hresumed.current_working
  have hlibraries := hstart.libraries.trans hresumed.locked.follows.libraries
  obtain ⟨log, rfl⟩ := hstart
  refine place_of_writeAll hreal hagain fun later hlater => ?_
  have hcurrent : later.current = w.current := hlater.current.trans hwhere
  apply Manifest.write_of_free h.manifest.named
  · rw [hcurrent, hlater.disk]
    exact hagainDirectory
  · rw [hcurrent, hlater.disk, hlater.libraries, hlibraries]
    exact temporary_again h hwithin hwithin' hfree
  · rw [hcurrent, hlater.disk]
    exact hleads.of_parent hagainDirectory
  · rw [hcurrent, hlater.disk]
    exact fun hd => hnot (hwithin.directories _ hd)

include hresumed h in
/-- Two runs that have decided alike, one of which was a retry of the other, end in the same tree. -/
theorem sameTree {done' last : World} (h' : options.Settled crashed result done' last) :
    first.disk.SameTree last.disk := by
  obtain ⟨again, hagain, hwithin, hwithin', hfiles⟩ := hresumed.wrote_again h
  have hwrote : (options.wrote result (options.working crashed)).disk = again := by
    rw [RunOptions.wrote, hagain]
  have hcontent := (Disk.fileContent_eq_ok.mp h.fileContent_manifest).2
  have hcontent' := (Disk.fileContent_eq_ok.mp h'.fileContent_manifest).2
  have hfree := h.lock_free
  have hfree' := h'.lock_free
  rw [h.current_first] at hcontent
  rw [h'.current_first, hresumed.current] at hcontent'
  rw [hresumed.current] at hfree'
  intro at'
  -- Both have saved the same manifest, no lock file is left, and elsewhere stands what they wrote.
  by_cases hmanifest : at' = options.manifestPath.resolve w.current
  · rw [hmanifest, hcontent, hcontent']
    obtain ⟨changed, hn⟩ := Disk.file?_eq_some.mp hcontent
    obtain ⟨changed', hn'⟩ := Disk.file?_eq_some.mp hcontent'
    exact ⟨rfl, fun hd => absurd hd (Disk.not_isDirectoryAt_of_file hn'),
      fun hd => absurd hd (Disk.not_isDirectoryAt_of_file hn)⟩
  by_cases hlock : at' = options.lock.place w.current
  · rw [hlock]
    unfold Disk.file? Disk.IsDirectoryAt
    rw [hfree, hfree']
    exact ⟨rfl, Iff.rfl⟩
  · have hnode := h.node?_later hmanifest hlock
    rw [← hresumed.current] at hmanifest hlock
    have hnode' := h'.node?_later hmanifest hlock
    rw [hwrote] at hnode'
    rw [hresumed.current] at hlock
    have hfile := hfiles at' hlock
    unfold Disk.file? at hfile ⊢
    unfold Disk.IsDirectoryAt
    rw [hnode, hnode']
    exact ⟨hfile, fun hd => hwithin.directories at' hd, fun hd => hwithin'.directories at' hd⟩

end Resumed

/-- A real run that succeeds can be stopped after any number of the views it writes: a run with the same
options from there succeeds, with the same decision for every view, the same paths written and the same
manifest, and ends in the same tree, as long as its libraries render alike and its temporary file can be
named. -/
theorem run_retried {files : Set Location} {r : Reconciliation} (hreal : options.dryRun = false)
    (hrun : run options w = .ok r first)
    (hapart : options.ViewsApart files (options.models w) w.current)
    (hstopped : options.Stopped w r k crashed) (halike : options.RendersAlike files w crashed)
    (hfree : options.NameFree crashed.libraries.randomNames first) :
    ∃ last, run options crashed = .ok r last ∧ first.disk.SameTree last.disk := by
  obtain ⟨result, done, h, rfl⟩ := run_settled hreal hrun
  have hresumed : options.Resumed w result crashed := by
    cases hstopped with
    | beside libraries log printed => exact h.resumed_beside hapart k libraries log printed
    | killed hcurrent hdepths hsame hacquire =>
      obtain ⟨held, later, hacquire⟩ := hacquire
      exact h.resumed_killed hcurrent hdepths hsame (locked_of_acquire hacquire)
  have hdecided := hresumed.decided h hapart halike
  obtain ⟨r', last, hlast⟩ := run_of_place hresumed.locked hdecided
    fun start hstart => hresumed.place_again h hreal hfree hstart
  obtain ⟨result', done', h', rfl⟩ := run_settled hreal hlast
  have hsame := h'.decided
  rw [hdecided] at hsame
  cases hsame
  exact ⟨last, hlast, hresumed.sameTree h h'⟩

theorem viewsApart_small : small.ViewsApart { place | place ∈ smallTemplates }
    (small.models .small) World.small.current := by
  refine ⟨?_, ?_, ?_, ?_⟩
  · rw [mem_viewPlaces_small]
    decide
  · intro place hp
    rw [mem_viewPlaces_small]
    have hapart : ∀ place ∈ smallTemplates, place ∉ smallPlaces ∧
        place ≠ ["out", ".ramp-manifest.json.lock"] := by decide
    have hlock : small.lock.place World.small.current = ["out", ".ramp-manifest.json.lock"] := by
      decide
    rw [hlock]
    exact hapart place hp
  · rw [mem_viewPlaces_small]
    decide
  · rw [mem_viewPlaces_small]
    decide

/-- The small run is stopped between its first view and its second, and taken up with another name for its
temporary file. -/
theorem run_retried_small :
    ∃ r crashed last, run .small .small = .ok r ((run .small).after .small) ∧
      (crashed.disk.file? RenderedView.smallPlace).isSome = true ∧
      crashed.disk.file? ["out", "routes", "a", "create.tsx"] = none ∧
      run .small crashed = .ok r last ∧ ((run .small).after .small).disk.SameTree last.disk := by
  have hbetween : ((run .small).result? .small).any (fun r =>
      ((small.begun r 1 .small).file? RenderedView.smallPlace).isSome &&
        ((small.begun r 1 .small).file? ["out", "routes", "a", "create.tsx"]).isNone) = true := by
    decide +kernel
  obtain ⟨r, hrun⟩ := exists_run_small
  rw [Job.result?_of_ok hrun, Option.any_some, Bool.and_eq_true, Option.isNone_iff_eq_none] at hbetween
  have hfree := nameFree_small
  generalize (run small).after .small = first at *
  have hstopped : small.Stopped .small r 1 _ :=
    .beside { Libraries.embedded with randomNames := [.ofNat 99] } [] []
  obtain ⟨last, hlast, hsame⟩ :=
    run_retried rfl hrun viewsApart_small hstopped (rendersAlike_small rfl) hfree
  exact ⟨r, _, last, hrun, hbetween.1, hbetween.2, hlast, hsame⟩

end RunOptions

end ViewGen
