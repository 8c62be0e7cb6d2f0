import ViewGen.Proofs.JsonText
import ViewGen.Proofs.Readings

/-!
# Loading a manifest

What data must be to describe a manifest is said member by member.  A manifest is loaded from a file that
holds such data as JSON in UTF-8, and whatever else stands at its path counts for nothing; but for a text
that nests too deeply there is no manifest at all.
-/

namespace ViewGen

theorem Utf8.decode_eq_ok {bytes : ByteArray} {text : String} :
    decode bytes = .ok text ↔ bytes = text.toUTF8 := by
  constructor
  · intro h
    unfold decode String.fromUTF8? at h
    split at h
    · rename_i found hfound
      cases h
      split at hfound
      · cases hfound
        rfl
      · cases hfound
    · cases h
  · rintro rfl
    exact decode_toUTF8 text

/-! ## Checked data -/

namespace Checked

variable {α β γ : Type} {a : α} {c : γ}

theorem at'_eq_ok {name : String} {checked : Checked α} : checked.at' name = .ok a ↔ checked = .ok a := by
  cases checked with
  | ok b => exact Iff.rfl
  | error found => exact iff_of_false (fun h => nomatch h) fun h => nomatch h

theorem both_eq_ok {f : α → β → γ} {first : Checked α} {second : Checked β} :
    both f first second = .ok c ↔ ∃ a b, first = .ok a ∧ second = .ok b ∧ f a b = c := by
  cases first with
  | ok a =>
    cases second with
    | ok b => simp [both]
    | error found => simp [both]
  | error found => simp [both]

theorem each_eq_ok {check : α → Checked β} {n : Nat} {items : List α} {values : List β} :
    each check n items = .ok values ↔
      List.Forall₂ (fun value item => check item = .ok value) values items := by
  induction items generalizing n values with
  | nil =>
    cases values with
    | nil => exact iff_of_true rfl .nil
    | cons value values => exact iff_of_false (fun h => nomatch h) fun h => nomatch h
  | cons item items ih =>
    rw [each, both_eq_ok]
    constructor
    · rintro ⟨value, rest, hvalue, hrest, rfl⟩
      exact .cons (at'_eq_ok.mp hvalue) (ih.mp hrest)
    · intro h
      cases h with
      | cons hvalue hrest => exact ⟨_, _, at'_eq_ok.mpr hvalue, ih.mpr hrest, rfl⟩

end Checked

namespace Json

variable {members : List (Units × Json)} {value : Json} {first second : String}

theorem checkText_eq_ok {text : Units} : checkText value = .ok text ↔ value = .text text := by
  cases value <;> simp [checkText, Checked.fail]

/-- An object has a value under the first of two names or, if it has none there, under the second. -/
def Has (data : Json) (first second : String) (value : Json) : Prop :=
  data.member? first = some value ∨ data.member? first = none ∧ data.member? second = some value

theorem has_self {data : Json} {name : String} :
    data.Has name name value ↔ data.member? name = some value := by
  unfold Has
  cases data.member? name <;> simp

theorem either?_eq_some :
    (∃ name, either? members first second = some (name, value)) ↔
      (object members).Has first second value := by
  cases h : lookup (.ofString first) members with
  | some found => simp [either?, Has, member?, h]
  | none => simp [either?, Has, member?, h]

theorem either?_eq_none :
    either? members first second = none ↔
      (object members).member? first = none ∧ (object members).member? second = none := by
  cases h : lookup (.ofString first) members with
  | some found => simp [either?, member?, h]
  | none => simp [either?, member?, h]

/-- A member that is checked if it is there. -/
theorem either?_checked {α : Type} {check : Json → Checked α} {absent : Checked α} {a : α} :
    (match either? members first second with
      | some (name, value) => (check value).at' name
      | none => absent) = .ok a ↔
      (∃ value, (object members).Has first second value ∧ check value = .ok a) ∨
        ((object members).member? first = none ∧ (object members).member? second = none) ∧
          absent = .ok a := by
  simp only [← either?_eq_some, ← either?_eq_none]
  cases either? members first second with
  | some found => simp [Checked.at'_eq_ok, Prod.ext_iff]
  | none => simp

end Json

/-! ## Data that describes a manifest -/

/-- The members of an object tell an entry. -/
structure ManifestEntry.DescribedBy (entry : ManifestEntry) (data : Json) : Prop where
  model : data.member? "model" = some (.text entry.model)
  viewType : data.Has "viewType" "view_type" (.text entry.viewType)
  hash : data.member? "hash" = some (.text entry.hash)

/-- The members of an object tell a manifest: its version, unless that is the current one, and its entries,
unless there are none.  Other members may be there, and of several with one name the last counts. -/
structure Manifest.DescribedBy (manifest : Manifest) (data : Json) : Prop where
  isObject : ∃ members, data = .object members
  version : data.member? "version" = some (.text manifest.version) ∨
    data.member? "version" = none ∧ manifest.version = Manifest.currentVersion
  entries : (∃ items, data.Has "generatedViews" "generated_views" (.array items) ∧
      List.Forall₂ ManifestEntry.DescribedBy manifest.entries items) ∨
    data.member? "generatedViews" = none ∧ data.member? "generated_views" = none ∧
      manifest.entries = []

namespace ManifestEntry

theorem requiredText_eq_ok {members : List (Units × Json)} {first second : String} {text : Units} :
    requiredText members first second = .ok text ↔
      (Json.object members).Has first second (.text text) := by
  refine Json.either?_checked.trans ?_
  simp [Json.checkText_eq_ok, Checked.at', Checked.fail]

theorem check_eq_ok {data : Json} {entry : ManifestEntry} :
    check data = .ok entry ↔ entry.DescribedBy data := by
  cases data with
  | object members =>
    rw [check, Checked.both_eq_ok]
    constructor
    · rintro ⟨⟨model, viewType⟩, hash, hboth, hhash, rfl⟩
      obtain ⟨_, _, hmodel, hviewType, he⟩ := Checked.both_eq_ok.mp hboth
      cases he
      exact ⟨Json.has_self.mp (requiredText_eq_ok.mp hmodel), requiredText_eq_ok.mp hviewType,
        Json.has_self.mp (requiredText_eq_ok.mp hhash)⟩
    · intro h
      have hmodel := requiredText_eq_ok.mpr (Json.has_self.mpr h.model)
      have hviewType := requiredText_eq_ok.mpr h.viewType
      have hhash := requiredText_eq_ok.mpr (Json.has_self.mpr h.hash)
      exact ⟨_, _, Checked.both_eq_ok.mpr ⟨_, _, hmodel, hviewType, rfl⟩, hhash, rfl⟩
  -- What is no object has no members.
  | _ =>
    constructor
    · intro h
      cases h
    · intro h
      have hmodel := h.model
      cases hmodel

end ManifestEntry

namespace Manifest

theorem checkEntries_eq_ok {value : Json} {entries : List ManifestEntry} :
    checkEntries value = .ok entries ↔ ∃ items, value = .array items ∧
      List.Forall₂ ManifestEntry.DescribedBy entries items := by
  cases value with
  | array items =>
    rw [checkEntries, Checked.each_eq_ok]
    simp only [ManifestEntry.check_eq_ok, Json.array.injEq, exists_eq_left']
  | _ =>
    constructor
    · intro h
      cases h
    · rintro ⟨items, hitems, -⟩
      cases hitems

theorem check_eq_ok {data : Json} {manifest : Manifest} :
    check data = .ok manifest ↔ manifest.DescribedBy data := by
  cases data with
  | object members =>
    -- The version has one name and the entries have two, and each of them has a default where it is missing.
    rw [check, Checked.both_eq_ok]
    constructor
    · rintro ⟨version, entries, hversion, hentries, rfl⟩
      refine ⟨⟨members, rfl⟩, ?_, ?_⟩
      · obtain ⟨value, hvalue, htext⟩ | ⟨⟨hnone, -⟩, he⟩ := Json.either?_checked.mp hversion
        · rw [Json.checkText_eq_ok.mp htext] at hvalue
          exact Or.inl (Json.has_self.mp hvalue)
        · cases he
          exact Or.inr ⟨hnone, rfl⟩
      · obtain ⟨value, hvalue, hlist⟩ | ⟨⟨hnone, hnone'⟩, he⟩ := Json.either?_checked.mp hentries
        · obtain ⟨items, rfl, hitems⟩ := checkEntries_eq_ok.mp hlist
          exact Or.inl ⟨items, hvalue, hitems⟩
        · cases he
          exact Or.inr ⟨hnone, hnone', rfl⟩
    · intro h
      refine ⟨manifest.version, manifest.entries, Json.either?_checked.mpr ?_,
        Json.either?_checked.mpr ?_, rfl⟩
      · obtain hversion | ⟨hnone, hcurrent⟩ := h.version
        · exact Or.inl ⟨_, Json.has_self.mpr hversion, Json.checkText_eq_ok.mpr rfl⟩
        · exact Or.inr ⟨⟨hnone, hnone⟩, by rw [hcurrent]⟩
      · obtain ⟨items, hhas, hitems⟩ | ⟨hnone, hnone', hempty⟩ := h.entries
        · exact Or.inl ⟨_, hhas, checkEntries_eq_ok.mpr ⟨items, rfl, hitems⟩⟩
        · exact Or.inr ⟨⟨hnone, hnone'⟩, by rw [hempty]⟩
  | _ =>
    constructor
    · intro h
      cases h
    · intro h
      obtain ⟨members, hmembers⟩ := h.isObject
      cases hmembers

/-! ## What is loaded -/

variable {limit : Json.DepthLimit} {disk : Disk} {current : Location} {path : Path} {text : String}

/-- The file that a path leads to describes the manifest, as JSON in UTF-8 that is not too deep to read. -/
def StandsAt (manifest : Manifest) (limit : Json.DepthLimit) (disk : Disk) (current : Location)
    (path : Path) : Prop :=
  ∃ (text : String) (data : Json), disk.fileContent current path = .ok text.toUTF8 ∧
    Json.parse limit text = .ok data ∧ manifest.DescribedBy data

/-- What loading a manifest ends with: the one that stands at the path, or else the initial one; unless a
text stands there that nests too deeply. -/
inductive LoadEnding (limit : Json.DepthLimit) (disk : Disk) (current : Location) (path : Path) :
    Except Json.Fault Manifest → Prop
  | stored {manifest : Manifest} : manifest.StandsAt limit disk current path →
    LoadEnding limit disk current path (.ok manifest)
  | afresh : (∀ manifest : Manifest, ¬ manifest.StandsAt limit disk current path) →
    (∀ text : String, disk.fileContent current path = .ok text.toUTF8 →
      ¬ Json.NestsTooDeeply limit text) →
    LoadEnding limit disk current path (.ok initial)
  | tooDeep {text : String} : disk.fileContent current path = .ok text.toUTF8 →
    Json.NestsTooDeeply limit text → LoadEnding limit disk current path (.error .tooDeep)

theorem ofText_eq_usable {manifest : Manifest} :
    ofText limit text = .usable manifest ↔
      ∃ data, Json.parse limit text = .ok data ∧ manifest.DescribedBy data := by
  simp only [← check_eq_ok]
  unfold ofText
  cases Json.parse limit text with
  | error fault => cases fault <;> simp
  | ok data => cases hcheck : check data <;> simp [hcheck]

theorem ofText_eq_tooDeep : ofText limit text = .tooDeep ↔ Json.NestsTooDeeply limit text := by
  rw [← Json.parse_eq_tooDeep]
  unfold ofText
  cases Json.parse limit text with
  | error fault => cases fault <;> simp
  | ok data => cases hcheck : check data <;> simp [hcheck]

/-- What counts for something is what a text stands for. -/
theorem read_eq_iff {loaded : Loaded} (habsent : loaded ≠ .absent) (hunusable : loaded ≠ .unusable) :
    read limit disk current path = loaded ↔
      ∃ text : String, disk.fileContent current path = .ok text.toUTF8 ∧ ofText limit text = loaded := by
  constructor
  · intro h
    -- What cannot be read or decoded counts as absent or unusable.
    cases hcontent : disk.fileContent current path with
    | error fault =>
      have hnone : ∀ content, disk.fileContent current path ≠ .ok content := by simp [hcontent]
      obtain hread | hread := read_of_unreadable limit hnone
      · exact absurd (h.symm.trans hread) habsent
      · exact absurd (h.symm.trans hread) hunusable
    | ok content =>
      rw [read_of_fileContent hcontent, ofContent] at h
      cases hdecode : Utf8.decode content with
      | error fault =>
        rw [hdecode] at h
        exact absurd h.symm hunusable
      | ok text =>
        rw [hdecode] at h
        exact ⟨text, by rw [Utf8.decode_eq_ok.mp hdecode], (ofText_withLineFeeds text).symm.trans h⟩
  · rintro ⟨text, hcontent, rfl⟩
    rw [read_of_fileContent hcontent, ofContent_toUTF8]

theorem read_eq_usable {manifest : Manifest} :
    read limit disk current path = .usable manifest ↔ manifest.StandsAt limit disk current path := by
  refine (read_eq_iff (by simp) (by simp)).trans ?_
  simp only [ofText_eq_usable, StandsAt, exists_and_left]

theorem read_eq_tooDeep :
    read limit disk current path = .tooDeep ↔ ∃ text : String,
      disk.fileContent current path = .ok text.toUTF8 ∧ Json.NestsTooDeeply limit text := by
  refine (read_eq_iff (by simp) (by simp)).trans ?_
  simp only [ofText_eq_tooDeep]

theorem loadEnding_result (limit : Json.DepthLimit) (disk : Disk) (current : Location)
    (path : Path) : LoadEnding limit disk current path (read limit disk current path).result := by
  -- Absent and unusable files end alike: neither holds a manifest, and neither nests too deeply.
  have hafresh (habsent : ∀ manifest, read limit disk current path ≠ .usable manifest)
      (hdeep : read limit disk current path ≠ .tooDeep) :
      LoadEnding limit disk current path (.ok initial) :=
    .afresh (fun manifest h => habsent manifest (read_eq_usable.mpr h))
      fun text htext h => hdeep (read_eq_tooDeep.mpr ⟨text, htext, h⟩)
  cases hread : read limit disk current path with
  | usable manifest => exact .stored (read_eq_usable.mp hread)
  | absent => exact hafresh (by simp [hread]) (by simp [hread])
  | unusable => exact hafresh (by simp [hread]) (by simp [hread])
  | tooDeep =>
    obtain ⟨text, htext, h⟩ := read_eq_tooDeep.mp hread
    exact .tooDeep htext h

/-- Loading always ends with a manifest, the one that stands at its path or the initial one, and leaves
everything but the log as it is; unless a text stands there that nests too deeply. -/
theorem load_ends (directory : Path) (file : String) (w : World) :
    ∃ answer, LoadEnding w.machine.depths.manifest w.disk w.current (Manifest.path directory file)
        answer ∧ (load directory file).Answers w answer :=
  ⟨_, loadEnding_result _ _ _ _, load_answers directory file w⟩

/-- There is no manifest where a file opens more arrays than can be open, whatever else it holds. -/
theorem load_brackets {directory : Path} {file : String} {w : World} {n : Nat} {s : List Char}
    (hn : w.machine.depths.manifest.count < n)
    (h : w.disk.fileContent w.current (Manifest.path directory file) =
      .ok (String.ofList (List.replicate n '[' ++ s)).toUTF8) :
    (load directory file).Answers w (.error .tooDeep) := by
  have hread := read_eq_tooDeep.mpr ⟨_, h, Json.nestsTooDeeply_brackets hn s⟩
  have hload := load_answers directory file w
  rw [hread] at hload
  exact hload

end Manifest

end ViewGen
