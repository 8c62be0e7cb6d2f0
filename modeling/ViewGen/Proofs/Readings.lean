import ViewGen.Proofs.Attempts
import ViewGen.Proofs.LockContents
import ViewGen.Proofs.Reruns
import ViewGen.Proofs.Resuming

/-!
# What runs read

What a run reads under the lock depends on the files at the places it reads from.  Two runs that find the
same files there read the same, even where the schema stands at the place of the lock file: as a schema that
has no models, whoever holds the lock.
-/

namespace ViewGen

/-! ## The manifest -/

namespace Manifest

variable {limit : Json.DepthLimit} {disk : Disk} {current : Location} {path : Path}
  {content : ByteArray}

/-- What the bytes of a manifest file stand for. -/
def ofContent (limit : Json.DepthLimit) (content : ByteArray) : Loaded :=
  match Utf8.decode content with
  | .error _ => .unusable
  | .ok text => ofText limit (Text.withLineFeeds text)

/-- However its lines end, a text stands for the same. -/
theorem ofText_withLineFeeds (text : String) :
    ofText limit (Text.withLineFeeds text) = ofText limit text := by
  rw [ofText, ofText, Json.parse_withLineFeeds]

/-- The bytes of a text stand for what the text stands for. -/
theorem ofContent_toUTF8 (text : String) :
    ofContent limit text.toUTF8 = ofText limit text := by
  rw [ofContent, Utf8.decode_toUTF8]
  exact ofText_withLineFeeds text

theorem read_of_fileContent (h : disk.fileContent current path = .ok content) :
    read limit disk current path = ofContent limit content := by
  have hexists := Disk.pathExists_of_fileContent h
  simp only [read, hexists, Disk.readText, h, ofContent]
  cases Utf8.decode content <;> rfl

theorem read_of_leads (hl : path.Leads disk current)
    (hd : ¬ disk.IsDirectoryAt (path.resolve current)) :
    read limit disk current path =
      match disk.file? (path.resolve current) with
      | none => .absent
      | some content => ofContent limit content := by
  cases hf : disk.file? (path.resolve current) with
  | some content => exact read_of_fileContent (Disk.fileContent_eq_ok.mpr ⟨hl, hf⟩)
  | none =>
    have hn : disk.node? (path.resolve current) = none := by
      cases hnode : disk.node? (path.resolve current) with
      | none => rfl
      | some node =>
        cases node with
        | directory changed => exact absurd ⟨changed, hnode⟩ hd
        | file content changed =>
          rw [Disk.file?_eq_some.mpr ⟨changed, hnode⟩] at hf
          cases hf
    have hstat : disk.stat current path = .error (.system .notFound) := by
      rw [Disk.stat_of_leads hl, hn]
    simp only [read, Disk.pathExists, Disk.probe, hstat]

/-- Where nothing usable may stand, the initial manifest is loaded. -/
theorem result_read_of_unusable
    (h : ∀ content, disk.file? (path.resolve current) = some content →
      ofContent limit content = .unusable) : (read limit disk current path).result = .ok initial := by
  by_cases hc : ∃ content, disk.fileContent current path = .ok content
  · obtain ⟨content, hc⟩ := hc
    rw [read_of_fileContent hc, h content (Disk.fileContent_eq_ok.mp hc).2]
    rfl
  · rw [not_exists] at hc
    obtain hr | hr := read_of_unreadable limit hc
    · rw [hr]
      rfl
    · rw [hr]
      rfl

/-- A manifest with an entry has been read from a file. -/
theorem exists_content_of_entry {manifest : Manifest} {entry : ManifestEntry}
    (h : (read limit disk current path).result = .ok manifest) (hm : entry ∈ manifest.entries) :
    ∃ content, disk.file? (path.resolve current) = some content ∧
      ofContent limit content = .usable manifest := by
  -- The manifest that stands for a missing or damaged file has no entry.
  by_cases hc : ∃ content, disk.fileContent current path = .ok content
  · obtain ⟨content, hc⟩ := hc
    rw [read_of_fileContent hc] at h
    refine ⟨content, (Disk.fileContent_eq_ok.mp hc).2, ?_⟩
    cases hofContent : ofContent limit content with
    | usable found =>
      rw [hofContent] at h
      cases h
      rfl
    | absent =>
      rw [hofContent] at h
      cases h
      cases hm
    | unusable =>
      rw [hofContent] at h
      cases h
      cases hm
    | tooDeep =>
      rw [hofContent] at h
      cases h
  · rw [not_exists] at hc
    obtain hr | hr := read_of_unreadable limit hc
    · rw [hr] at h
      cases h
      cases hm
    · rw [hr] at h
      cases h
      cases hm

end Manifest

/-! ## The lock file as a schema -/

theorem Schema.read_lock {disk : Disk} {current : Location} {path : Path} {machine : Machine}
    {now : Moment} (hl : path.Leads disk current)
    (hf : disk.file? (path.resolve current) = some (Lock.Owner.content machine now).toUTF8) :
    read disk current path = .ok [] := by
  have hc := Disk.fileContent_eq_ok.mpr ⟨hl, hf⟩
  have ht : disk.readText current path =
      .ok (Text.withLineFeeds (Lock.Owner.content machine now)) := by
    simp only [Disk.readText, hc, Utf8.decode_toUTF8]
  exact read_eq_ok.mpr ⟨_, _, ht, parse_lock machine now, rfl⟩

namespace RunOptions

variable {options : RunOptions} {w v : World} {result : Reconciliation} {places : Set Location}

/-! ## Reading again -/

theorem Settled.placesOf_changed_subset {done later : World}
    (h : options.Settled w result done later) :
    placesOf options.output result.changed w.current ⊆
      options.viewPlaces (options.models w) w.current := by
  intro place hplace
  obtain ⟨view, hview, rfl⟩ := hplace
  obtain ⟨previous, views, -, -, hshows, rfl⟩ := exists_decided h.decided
  exact place_mem_viewPlaces hshows (List.mem_filter.mp hview).1

/-- What taking the lock has done. -/
theorem Locked.taken (h : options.Locked w) :
    ∃ made, w.disk.ensureDirectories w.current w.now options.lock.file.parent = (made, .ok ()) ∧
      options.lock.Taken { w with disk := made } (options.working w) := by
  obtain ⟨held, hacquire⟩ := h.acquired
  exact Lock.acquire_taken rfl hacquire

section

variable (hlocked : options.Locked w) (hagain : options.Locked v)
  (hkeeps : (options.working w).Keeps (places ∪ {options.lock.place w.current}) (options.working v))

include hlocked hagain hkeeps in
theorem Locked.schema_again {models : List Model} (hout : options.schema.resolve w.current ∉ places)
    (h : Schema.read (options.working w).disk (options.working w).current options.schema =
      .ok models) :
    Schema.read (options.working v).disk (options.working v).current options.schema =
      .ok models := by
  by_cases hplace : options.schema.resolve w.current = options.lock.place w.current
  · -- The schema is the lock file, which both runs have written.
    obtain ⟨text, schema, htext, -⟩ := Schema.read_eq_ok.mp h
    obtain ⟨content, hc⟩ := Disk.readText_eq_ok htext
    have hleads := (Disk.fileContent_eq_ok.mp hc).1
    obtain ⟨made, -, htaken⟩ := hlocked.taken
    obtain ⟨made', -, htaken'⟩ := hagain.taken
    obtain ⟨machine, now, howned⟩ := htaken.owned
    obtain ⟨machine', now', howned'⟩ := htaken'.owned
    have hcurrent : v.current = w.current := by
      rw [← hagain.follows.current, hkeeps.current, hlocked.follows.current]
    rw [hkeeps.current]
    have hleads' := hkeeps.directories.leads hleads
    rw [hlocked.follows.current] at hleads hleads' h ⊢
    dsimp only at howned howned'
    rw [← hplace] at howned
    rw [hcurrent, ← hplace] at howned'
    rw [Schema.read_lock hleads howned] at h
    rw [Schema.read_lock hleads' howned', h]
  · refine hkeeps.schema ?_ h
    rw [hlocked.follows.current]
    exact fun hin => hin.elim hout hplace

include hlocked hagain hkeeps in
theorem Locked.repeats_again {files : Set Location} (halike : options.RendersAlike files w v)
    (hout : ∀ place ∈ files, place ∉ places ∧ place ≠ options.lock.place w.current) :
    Repeats (options.renderings (options.working w)) (options.renderings (options.working v)) :=
  hlocked.repeats hagain halike hkeeps (Or.inr rfl)
    fun place hp hin => hin.elim (hout place hp).1 (hout place hp).2

end

end RunOptions

end ViewGen
