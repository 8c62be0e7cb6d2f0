import ViewGen.Discovery
import ViewGen.Proofs.ManifestLoads
import ViewGen.Proofs.Nuls

/-!
# Nearest projects

A search goes from its start to the root and ends at the first place that is marked, so it finds the deepest
one.  A file that is missing, that cannot be read or that says something else marks nothing and ends nothing;
what does end a search early is a path that is too long to be asked for, and a package file that nests too
deeply.
-/

namespace ViewGen

/-! ## Paths that are too long -/

namespace Location

/-- The bytes that a location takes up in a path, with a slash for every name. -/
def byteSize : Location → Nat
  | [] => 0
  | name :: rest => name.utf8ByteSize + 1 + byteSize rest

theorem byteSize_append (location names : Location) :
    byteSize (location ++ names) = byteSize location + byteSize names := by
  induction location with
  | nil => exact (Nat.zero_add _).symm
  | cons name rest ih => simp only [List.cons_append, byteSize, ih, Nat.add_assoc]

end Location

namespace Path

theorem utf8ByteSize_ofLocation {location : Location} (h : location ≠ []) :
    (ofLocation location).render.utf8ByteSize = location.byteSize := by
  have hslash : "/".utf8ByteSize = 1 := by decide
  -- Joined, the names have one slash fewer than there are names; the one in front makes up for it.
  have hnames : ∀ names : List String, names ≠ [] →
      ("/".intercalate names).utf8ByteSize + 1 = Location.byteSize names := by
    intro names hne
    induction names with
    | nil => exact absurd rfl hne
    | cons name rest ih =>
      cases rest with
      | nil => rw [String.intercalate_singleton]; rfl
      | cons next others =>
        rw [String.intercalate_cons_of_ne_nil (List.cons_ne_nil _ _), Location.byteSize,
          ← ih (List.cons_ne_nil _ _)]
        simp only [String.utf8ByteSize_append, hslash]
        omega
  rw [← hnames location h]
  show ("/" ++ "/".intercalate location).utf8ByteSize = _
  rw [String.utf8ByteSize_append, hslash, Nat.add_comm]

end Path

namespace Disk

/-- The ways in which a walk ends before its last name: a directory is missing, a file stands in its place,
or a name is too long. -/
theorem walk_error {disk : Disk} {at' : Location} {names : List String} {cause : Errno}
    (h : disk.walk at' names = .error cause) :
    cause = .notFound ∨ cause = .notDirectory ∨
      cause = .nameTooLong ∧ ∃ name ∈ names, nameLimit < name.utf8ByteSize := by
  induction names generalizing at' with
  | nil => cases h
  | cons name rest ih =>
    rw [walk] at h
    split at h
    · cases h
      exact Or.inl rfl
    · cases h
      exact Or.inr (Or.inl rfl)
    · split at h
      · rename_i hstep
        cases h
        -- A step fails only for the length of its name.
        unfold step at hstep
        split at hstep
        · cases hstep
        · split at hstep
          · rename_i hlong
            cases hstep
            exact Or.inr (Or.inr ⟨rfl, name, List.mem_cons_self, hlong⟩)
          · cases hstep
      · obtain hcause | hcause | ⟨hcause, long, hm, hlong⟩ := ih h
        · exact Or.inl hcause
        · exact Or.inr (Or.inl hcause)
        · exact Or.inr (Or.inr ⟨hcause, long, List.mem_cons_of_mem name hm, hlong⟩)

theorem stat_error {disk : Disk} {current : Location} {path : Path} {fault : DiskFault}
    (h : disk.stat current path = .error fault) :
    fault = .embeddedNul ∨ fault = .system .notFound ∨ fault = .system .notDirectory ∨
      fault = .system .nameTooLong ∧
        (pathLimit < path.render.utf8ByteSize ∨ ∃ name ∈ path.parts, nameLimit < name.utf8ByteSize) := by
  -- In the order of the checks: a NUL, the length of the path, the walk, and what stands at its end.
  unfold stat Path.locate at h
  split at h
  · rename_i hlocate
    cases h
    split at hlocate
    · cases hlocate
      exact Or.inl rfl
    · split at hlocate
      · rename_i hlong
        cases hlocate
        exact Or.inr (Or.inr (Or.inr ⟨rfl, Or.inl hlong⟩))
      · split at hlocate
        · rename_i hwalk
          cases hlocate
          obtain rfl | rfl | ⟨rfl, hlong⟩ := walk_error hwalk
          · exact Or.inr (Or.inl rfl)
          · exact Or.inr (Or.inr (Or.inl rfl))
          · exact Or.inr (Or.inr (Or.inr ⟨rfl, Or.inr hlong⟩))
        · cases hlocate
  · split at h
    · cases h
      exact Or.inr (Or.inl rfl)
    · cases h

/-- The system refuses a path because it, or a name in it, is too long. -/
def Refuses (disk : Disk) (current : Location) (path : Path) : Prop :=
  disk.stat current path = .error (.system .nameTooLong)

/-- A path from the root is refused where its first name is too long, if it can be asked for at all. -/
theorem refuses_ofLocation {disk : Disk} {name : String} {rest : List String}
    (h : nameLimit < name.utf8ByteSize) (hname : name ≠ "..")
    (hnul : (Path.ofLocation (name :: rest)).hasNul = false)
    (hpath : Location.byteSize (name :: rest) ≤ pathLimit) :
    disk.Refuses [] (.ofLocation (name :: rest)) := by
  have hstep : step [] name = .error .nameTooLong := by rw [step, if_neg hname, if_pos h]
  have hwalk : disk.walk ((Path.ofLocation (name :: rest)).origin [])
      (Path.ofLocation (name :: rest)).parts = .error .nameTooLong := by
    show disk.walk [] (name :: rest) = _
    rw [walk, hstep]
    rfl
  have hlocate : (Path.ofLocation (name :: rest)).locate disk [] = .error (.system .nameTooLong) := by
    have hsize := Path.utf8ByteSize_ofLocation (List.cons_ne_nil name rest)
    rw [Path.locate, hnul, if_neg (by decide), if_neg (by omega), hwalk]
  rw [Refuses, stat, hlocate]

/-- A path is refused, or has no file, or one with some content; and asking for a file tells which. -/
theorem isFile_cases (disk : Disk) (current : Location) (path : Path) :
    (disk.Refuses current path ∧ (∀ content, disk.fileContent current path ≠ .ok content) ∧
        disk.isFile current path = .error (.system .nameTooLong)) ∨
      (¬ disk.Refuses current path ∧ (∀ content, disk.fileContent current path ≠ .ok content) ∧
        disk.isFile current path = .ok false) ∨
      ∃ content, ¬ disk.Refuses current path ∧ disk.fileContent current path = .ok content ∧
        disk.isFile current path = .ok true := by
  unfold Refuses isFile probe fileContent
  cases hstat : disk.stat current path with
  | ok node =>
    cases node with
    | directory changed => simp [Node.isDirectory]
    | file content changed => simp [Node.isDirectory]
  | error fault =>
    obtain rfl | rfl | rfl | ⟨rfl, -⟩ := stat_error hstat <;> simp

end Disk

namespace Discovery

/-- The names below a start, and those below every directory above it, can be asked for. -/
structure Reaches (start : Location) (names : List String) : Prop where
  whole : (Path.ofLocation (start ++ names)).render.utf8ByteSize ≤ Disk.pathLimit
  parts : ∀ name ∈ start ++ names, name.utf8ByteSize ≤ Disk.nameLimit

theorem Reaches.not_refuses {start place : Location} {names : List String} (h : Reaches start names)
    (hnames : names ≠ []) (hplace : place <+: start) (disk : Disk) :
    ¬ disk.Refuses [] (.ofLocation (place ++ names)) := by
  intro hrefuses
  obtain ⟨below, rfl⟩ := hplace
  obtain hfault | hfault | hfault | ⟨-, hlong | ⟨name, hm, hlong⟩⟩ := Disk.stat_error hrefuses
  · cases hfault
  · cases hfault
  · cases hfault
  -- Above the start a path is no longer, and its names are among those from the start.
  · have hwhole := h.whole
    rw [Path.utf8ByteSize_ofLocation (by simp [hnames])] at hlong hwhole
    rw [Location.byteSize_append] at hlong
    rw [Location.byteSize_append, Location.byteSize_append] at hwhole
    omega
  · have hpart := h.parts name (by
      obtain hm | hm := List.mem_append.mp hm
      · exact List.mem_append_left _ (List.mem_append_left _ hm)
      · exact List.mem_append_right _ hm)
    omega

/-- The name of a package file is no longer than that of a schema. -/
theorem Reaches.package {start : Location} (h : Reaches start ["prisma", "schema.prisma"]) :
    Reaches start ["package.json"] := by
  have hpackage : "package.json".utf8ByteSize = 12 := by decide
  have hprisma : "prisma".utf8ByteSize = 6 := by decide
  have hschema : "schema.prisma".utf8ByteSize = 13 := by decide
  refine ⟨?_, ?_⟩
  · have hwhole := h.whole
    rw [Path.utf8ByteSize_ofLocation (by simp)] at hwhole ⊢
    simp only [Location.byteSize_append, Location.byteSize, hpackage, hprisma, hschema] at hwhole ⊢
    omega
  · intro name hm
    obtain hm | hm := List.mem_append.mp hm
    · exact h.parts name (List.mem_append_left _ hm)
    · rw [List.mem_singleton.mp hm, hpackage]
      decide

/-! ## Searching upwards -/

/-- The deepest of the marked places at or above a start. -/
structure Nearest (Marked : Location → Prop) (start place : Location) : Prop where
  above : place <+: start
  marked : Marked place
  deepest : ∀ other, other <+: start → Marked other → other <+: place

theorem Nearest.unique {Marked : Location → Prop} {start place other : Location}
    (h : Nearest Marked start place) (h' : Nearest Marked start other) : other = place :=
  (h.deepest other h'.above h'.marked).eq_of_length_le
    (h'.deepest place h.above h.marked).length_le

/-- How a search from a start upwards ends, where some places are marked and others stop it. -/
inductive SearchEnding (Marked : Location → Prop) (Stops : Location → Fault → Prop)
    (start : Location) : Except Fault (Option Location) → Prop
  | found {place : Location} : Nearest Marked start place →
    (∀ other, other <+: start → ¬ other <+: place → ∀ fault, ¬ Stops other fault) →
    SearchEnding Marked Stops start (.ok (some place))
  | nowhere : (∀ place, place <+: start → ¬ Marked place) →
    (∀ place, place <+: start → ∀ fault, ¬ Stops place fault) →
    SearchEnding Marked Stops start (.ok none)
  | stopped {place : Location} {fault : Fault} : place <+: start → Stops place fault →
    (∀ other, other <+: start → ¬ other <+: place → ¬ Marked other ∧ ∀ cause, ¬ Stops other cause) →
    SearchEnding Marked Stops start (.error fault)

/-- What a question says about places: which are marked, and which stop a search. -/
structure Tells (holds : Location → Except Fault Bool) (Marked : Location → Prop)
    (Stops : Location → Fault → Prop) : Prop where
  marked : ∀ place, holds place = .ok true ↔ Marked place
  stops : ∀ place fault, holds place = .error fault ↔ Stops place fault

section

variable {holds : Location → Except Fault Bool} {Marked : Location → Prop}
  {Stops : Location → Fault → Prop} {start : Location} {fault : Fault}

theorem upwards_concat (start : Location) (name : String) :
    upwards (start ++ [name]) = (start ++ [name]) :: upwards start := by
  have hall : (start ++ [name]).take (start.length + 1) = start ++ [name] :=
    List.take_of_length_le (by rw [List.length_append, List.length_singleton])
  have habove : ∀ n ∈ (List.range (start.length + 1)).reverse,
      (start ++ [name]).take n = start.take n := by
    intro n hn
    rw [List.mem_reverse, List.mem_range] at hn
    exact List.take_append_of_le_length (by omega)
  rw [upwards, List.length_append, List.length_singleton, List.range_succ, List.reverse_append,
    List.reverse_singleton, List.singleton_append, List.map_cons, hall, List.map_congr_left habove]
  rfl

theorem SearchEnding.here (hstart : Marked start) :
    SearchEnding Marked Stops start (.ok (some start)) :=
  .found ⟨List.prefix_rfl, hstart, fun _ habove _ => habove⟩
    fun _ habove hout => absurd habove hout

theorem SearchEnding.refused (hstart : Stops start fault) :
    SearchEnding Marked Stops start (.error fault) :=
  .stopped List.prefix_rfl hstart fun _ habove hout => absurd habove hout

/-- A search that its start stops does not go on. -/
theorem SearchEnding.stopped_here {ending : Except Fault (Option Location)}
    (h : SearchEnding Marked Stops start ending) (hstop : Stops start fault)
    (hunmarked : ¬ Marked start) : ∃ cause, ending = .error cause ∧ Stops start cause := by
  cases h with
  | @found place hnearest hfree =>
    refine absurd hstop (hfree start List.prefix_rfl ?_ fault)
    intro hbelow
    -- What is at or above the start and also at or below it is the start.
    rw [hnearest.above.eq_of_length_le hbelow.length_le] at hnearest
    exact hunmarked hnearest.marked
  | nowhere _ hfree => exact absurd hstop (hfree start List.prefix_rfl fault)
  | @stopped place cause hplace hcause hfree =>
    by_cases hbelow : start <+: place
    · rw [hplace.eq_of_length_le hbelow.length_le] at hcause
      exact ⟨cause, rfl, hcause⟩
    · exact absurd hstop ((hfree start List.prefix_rfl hbelow).2 fault)

/-- A search that neither ends nor stops at its start ends as one from the directory above. -/
theorem SearchEnding.higher {name : String} {ending : Except Fault (Option Location)}
    (hmarked : ¬ Marked (start ++ [name])) (hstops : ∀ fault, ¬ Stops (start ++ [name]) fault)
    (h : SearchEnding Marked Stops start ending) :
    SearchEnding Marked Stops (start ++ [name]) ending := by
  have hbelow {place : Location} (hplace : place <+: start) : place <+: start ++ [name] :=
    hplace.trans (List.prefix_append _ _)
  -- Of the places at or above the start only that itself is new, and it neither ends nor stops the search.
  cases h with
  | found hnearest hfree =>
    refine .found ⟨hbelow hnearest.above, hnearest.marked, ?_⟩ ?_
    · intro other habove hother
      obtain rfl | habove := List.prefix_concat_iff.mp habove
      · exact absurd hother hmarked
      · exact hnearest.deepest other habove hother
    · intro other habove hout
      obtain rfl | habove := List.prefix_concat_iff.mp habove
      · exact hstops
      · exact hfree other habove hout
  | nowhere hnone hfree =>
    refine .nowhere ?_ ?_
    · intro place habove
      obtain rfl | habove := List.prefix_concat_iff.mp habove
      · exact hmarked
      · exact hnone place habove
    · intro place habove
      obtain rfl | habove := List.prefix_concat_iff.mp habove
      · exact hstops
      · exact hfree place habove
  | stopped hplace hstop hfree =>
    refine .stopped (hbelow hplace) hstop ?_
    intro other habove hout
    obtain rfl | habove := List.prefix_concat_iff.mp habove
    · exact ⟨hmarked, hstops⟩
    · exact hfree other habove hout

/-- A search ends at the nearest place that is marked, unless one nearer stops it. -/
theorem Tells.first?_upwards (h : Tells holds Marked Stops) (start : Location) :
    SearchEnding Marked Stops start (first? holds (upwards start)) := by
  have hunmarked {place : Location} (hholds : holds place = .ok false) : ¬ Marked place := by
    rw [← h.marked, hholds]
    simp
  have hfree {place : Location} (hholds : holds place = .ok false) (fault : Fault) :
      ¬ Stops place fault := by
    rw [← h.stops, hholds]
    simp
  -- On the start, from the root down: with one name more there is one question before the others.
  induction start using List.reverseRecOn with
  | nil =>
    have hroot : upwards [] = [[]] := rfl
    rw [hroot, first?]
    cases hholds : holds [] with
    | error fault => exact .refused ((h.stops _ _).mp hholds)
    | ok answer =>
      cases answer with
      | true => exact .here ((h.marked _).mp hholds)
      | false =>
        refine .nowhere ?_ ?_ <;> intro place habove <;> rw [List.prefix_nil.mp habove]
        · exact hunmarked hholds
        · exact hfree hholds
  | append_singleton start name ih =>
    rw [upwards_concat, first?]
    cases hholds : holds (start ++ [name]) with
    | error fault => exact .refused ((h.stops _ _).mp hholds)
    | ok answer =>
      cases answer with
      | true => exact .here ((h.marked _).mp hholds)
      | false => exact ih.higher (hunmarked hholds) (hfree hholds)

/-- Whether a search that comes to a place goes no further. -/
def Ends (Marked : Location → Prop) (Stops : Location → Fault → Prop) (place : Location) : Prop :=
  Marked place ∨ ∃ fault, Stops place fault

theorem Nearest.ends {place : Location} (h : Nearest Marked start place)
    (hfree : ∀ other, other <+: start → ¬ other <+: place → ∀ fault, ¬ Stops other fault) :
    Nearest (Ends Marked Stops) start place := by
  refine ⟨h.above, Or.inl h.marked, ?_⟩
  rintro other habove (hmarked | ⟨fault, hstop⟩)
  · exact h.deepest other habove hmarked
  · by_contra hout
    exact hfree other habove hout fault hstop

end

/-! ## Projects with a schema -/

/-- The schema of a project is a file. -/
def HasSchema (disk : Disk) (place : Location) : Prop :=
  ∃ content, disk.fileContent [] (schemaIn place) = .ok content

/-- Whether a place has a schema cannot be asked. -/
def HidesSchema (disk : Disk) (place : Location) (fault : Fault) : Prop :=
  disk.Refuses [] (schemaIn place) ∧ fault = .disk (.system .nameTooLong)

theorem tells_hasSchema (disk : Disk) :
    Tells (hasSchema disk) (HasSchema disk) (HidesSchema disk) := by
  have htells (place : Location) : (hasSchema disk place = .ok true ↔ HasSchema disk place) ∧
      ∀ fault, hasSchema disk place = .error fault ↔ HidesSchema disk place fault := by
    unfold hasSchema HasSchema HidesSchema
    obtain ⟨hrefuses, hnone, hfile⟩ | ⟨hasked, hnone, hfile⟩ | ⟨content, hasked, hcontent, hfile⟩ :=
      disk.isFile_cases [] (schemaIn place)
    · simp [hrefuses, hnone, hfile, Except.mapError, eq_comm]
    · simp [hasked, hnone, hfile, Except.mapError]
    · simp [hasked, hcontent, hfile, Except.mapError]
  exact ⟨fun place => (htells place).1, fun place => (htells place).2⟩

/-! ## Projects with an app directory -/

/-- Where the package file stands in a project. -/
def packageIn (place : Location) : Path :=
  .ofLocation (place ++ ["package.json"])

/-- Where the app directory stands in a project. -/
def appIn (place : Location) : Path :=
  .ofLocation (place ++ ["app"])

/-- The data of a package file is an object with an object of dependencies, and that has the one that
tells projects with an app directory apart. -/
def ListsApp (data : Json) : Prop :=
  ∃ members dependencies value, data = .object members ∧
    Json.lookup (.ofString "dependencies") members = some (.object dependencies) ∧
    Json.lookup (.ofString appDependency) dependencies = some value

/-- The package file of a project holds such data as JSON in UTF-8. -/
def HasApp (limit : Json.DepthLimit) (disk : Disk) (place : Location) : Prop :=
  ∃ (text : String) (data : Json), disk.fileContent [] (packageIn place) = .ok text.toUTF8 ∧
    Json.parse limit text = .ok data ∧ ListsApp data

/-- The package file of a place holds a text that nests too deeply. -/
def PackageTooDeep (limit : Json.DepthLimit) (disk : Disk) (place : Location) : Prop :=
  ∃ text : String, disk.fileContent [] (packageIn place) = .ok text.toUTF8 ∧
    Json.NestsTooDeeply limit text

/-- Whether the package file of a place lists the dependency cannot be asked, or cannot be found out. -/
inductive HidesApp (limit : Json.DepthLimit) (disk : Disk) (place : Location) : Fault → Prop
  | refused : disk.Refuses [] (packageIn place) →
    HidesApp limit disk place (.disk (.system .nameTooLong))
  | tooDeep : PackageTooDeep limit disk place → HidesApp limit disk place .tooDeep

section

variable {limit : Json.DepthLimit}

theorem listsDependency_iff {data : Json} : listsDependency data = true ↔ ListsApp data := by
  have hmember {value : Json} {name : String} {found : Json} : value.member? name = some found ↔
      ∃ members, value = .object members ∧ Json.lookup (.ofString name) members = some found := by
    cases value <;> simp [Json.member?]
  unfold listsDependency ListsApp
  constructor
  · intro h
    split at h
    · rename_i dependencies hdependencies
      obtain ⟨members, rfl, hlookup⟩ := hmember.mp hdependencies
      obtain ⟨value, hvalue⟩ := Option.isSome_iff_exists.mp h
      obtain ⟨inner, rfl, hinner⟩ := hmember.mp hvalue
      exact ⟨members, inner, value, rfl, hlookup, hinner⟩
    · cases h
  · rintro ⟨members, inner, value, rfl, hlookup, hinner⟩
    rw [hmember.mpr ⟨members, rfl, hlookup⟩]
    exact Option.isSome_iff_exists.mpr ⟨value, hmember.mpr ⟨inner, rfl, hinner⟩⟩

theorem isAppPackage_eq_true {text : String} :
    isAppPackage limit text = .ok true ↔ ∃ data, Json.parse limit text = .ok data ∧ ListsApp data := by
  simp only [← listsDependency_iff]
  unfold isAppPackage
  cases Json.parse limit text with
  | ok data => simp
  | error fault => cases fault <;> simp

theorem isAppPackage_eq_error {text : String} {fault : Fault} :
    isAppPackage limit text = .error fault ↔ Json.NestsTooDeeply limit text ∧ fault = .tooDeep := by
  rw [← Json.parse_eq_tooDeep]
  unfold isAppPackage
  cases Json.parse limit text with
  | ok data => simp
  | error cause => cases cause <;> simp [eq_comm]

/-- However its lines end, a package file says the same. -/
theorem isAppPackage_withLineFeeds (text : String) :
    isAppPackage limit (Text.withLineFeeds text) = isAppPackage limit text := by
  rw [isAppPackage, isAppPackage, Json.parse_withLineFeeds]

theorem tells_hasApp (limit : Json.DepthLimit) (disk : Disk) :
    Tells (hasApp limit disk) (HasApp limit disk) (HidesApp limit disk) := by
  have hhides {place : Location} {fault : Fault} : HidesApp limit disk place fault ↔
      (disk.Refuses [] (packageIn place) ∧ fault = .disk (.system .nameTooLong)) ∨
        PackageTooDeep limit disk place ∧ fault = .tooDeep := by
    constructor
    · intro h
      cases h with
      | refused hrefuses => exact Or.inl ⟨hrefuses, rfl⟩
      | tooDeep hdeep => exact Or.inr ⟨hdeep, rfl⟩
    · rintro (⟨hrefuses, rfl⟩ | ⟨hdeep, rfl⟩)
      · exact .refused hrefuses
      · exact .tooDeep hdeep
  have htells (place : Location) : (hasApp limit disk place = .ok true ↔ HasApp limit disk place) ∧
      ∀ fault, hasApp limit disk place = .error fault ↔ HidesApp limit disk place fault := by
    have hpackage : Path.ofLocation (place ++ ["package.json"]) = packageIn place := rfl
    simp only [hhides]
    unfold hasApp HasApp PackageTooDeep Disk.readText
    simp only [hpackage]
    obtain ⟨hrefuses, hnone, hfile⟩ | ⟨hasked, hnone, hfile⟩ | ⟨content, hasked, hcontent, hfile⟩ :=
      disk.isFile_cases [] (packageIn place)
    · simp [hrefuses, hnone, hfile, eq_comm]
    · simp [hasked, hnone, hfile]
    · simp only [hasked, hcontent, hfile, ← Utf8.decode_eq_ok, Except.ok.injEq]
      cases hdecode : Utf8.decode content with
      -- Bytes that are no text are no package, and stop nothing.
      | error fault => simp
      | ok text =>
        simp [isAppPackage_withLineFeeds, isAppPackage_eq_true, isAppPackage_eq_error]
  exact ⟨fun place => (htells place).1, fun place => (htells place).2⟩

end

/-! ## What is found -/

/-- How looking for something from a start ends, in the nearest marked place; a start with a NUL character
is no place to look from. -/
inductive Finding (Marked : Location → Prop) (Stops : Location → Fault → Prop) (found : Location → Path)
    (start : Path) (current : Location) : Except Fault (Option Path) → Prop
  | noStart : start.hasNul = true →
    Finding Marked Stops found start current (.error (.disk .embeddedNul))
  | searched {ending : Except Fault (Option Location)} : start.hasNul = false →
    SearchEnding Marked Stops (start.resolve current) ending →
    Finding Marked Stops found start current (ending.map (Option.map found))

section

variable {Marked : Location → Prop} {Stops : Location → Fault → Prop} {found : Location → Path}
  {start : Path}

/-- What looking for something from a start comes to. -/
def located (holds : Location → Except Fault Bool) (found : Location → Path) (start : Path)
    (current : Location) : Except Fault (Option Path) :=
  if start.hasNul then .error (.disk .embeddedNul)
  else (first? holds (upwards (start.resolve current))).map (Option.map found)

theorem Tells.finding_located {holds : Location → Except Fault Bool} (h : Tells holds Marked Stops)
    (found : Location → Path) (start : Path) (current : Location) :
    Finding Marked Stops found start current (located holds found start current) := by
  unfold located
  cases hnul : start.hasNul with
  | true => exact .noStart hnul
  | false => exact .searched hnul (h.first?_upwards _)

theorem nearest_answers (holds : Disk → Location → Except Fault Bool)
    {next : Option Location → Job Fault (Option Path)} (found : Location → Path) (start : Path) (w : World)
    (hnext : ∀ place? later, (next place?).Answers later (.ok (place?.map found))) :
    (nearest holds start >>= next).Answers w (located (holds w.disk) found start w.current) := by
  have hget : (get : Job Fault World) w = .ok w w := rfl
  unfold located
  cases hnul : start.hasNul with
  | true =>
    have hnearest : nearest holds start w = .error (.disk .embeddedNul) w := by
      unfold nearest
      rw [Job.bind_of_ok hget, hnul]
      rfl
    exact ⟨w, .refl w, Job.bind_of_error hnearest⟩
  | false =>
    have hnearest : (nearest holds start).Answers w
        (first? (holds w.disk) (upwards (start.resolve w.current))) := by
      refine ⟨w, .refl w, ?_⟩
      unfold nearest
      rw [Job.bind_of_ok hget, hnul]
      show Job.ofExcept (first? (holds w.disk) (upwards (start.resolve w.current))) w = _
      unfold Job.ofExcept
      cases first? (holds w.disk) (upwards (start.resolve w.current)) <;> rfl
    have hall := hnearest.bind fun place? later _ => hnext place? later
    cases hended : first? (holds w.disk) (upwards (start.resolve w.current)) with
    | error fault =>
      rw [hended] at hall
      exact hall
    | ok place? =>
      rw [hended] at hall
      exact hall

/-- Where nothing stops it, looking ends with what belongs to the nearest marked place, or with nothing
where no place is marked. -/
theorem Finding.nearest {answer : Except Fault (Option Path)} {current : Location}
    (h : Finding Marked Stops found start current answer) (hnul : start.hasNul = false)
    (hfree : ∀ place, place <+: start.resolve current → ∀ fault, ¬ Stops place fault) :
    ∃ path?, answer = .ok path? ∧
      (∀ path, path? = some path ↔
        ∃ place, Nearest Marked (start.resolve current) place ∧ found place = path) ∧
      (path? = none ↔ ∀ place, place <+: start.resolve current → ¬ Marked place) := by
  cases h with
  | noStart hhas =>
    rw [hhas] at hnul
    cases hnul
  | searched _ hending =>
    cases hending with
    | stopped hplace hstop _ => exact absurd hstop (hfree _ hplace _)
    | nowhere hnone _ =>
      refine ⟨none, rfl, ?_, iff_of_true rfl hnone⟩
      intro path
      refine iff_of_false (fun h => nomatch h) ?_
      rintro ⟨place, hnearest, -⟩
      exact hnone place hnearest.above hnearest.marked
    | @found place hnearest _ =>
      refine ⟨some (found place), rfl, ?_, ?_⟩
      · intro path
        constructor
        · rintro ⟨⟩
          exact ⟨place, hnearest, rfl⟩
        · rintro ⟨other, hother, rfl⟩
          rw [hnearest.unique hother]
      · exact iff_of_false (fun h => nomatch h) fun h => h place hnearest.above hnearest.marked

end

theorem findSchema_answers (start : Path) (w : World) :
    (findSchema start).Answers w (located (hasSchema w.disk) schemaIn start w.current) := by
  refine nearest_answers hasSchema schemaIn start w ?_
  intro place? later
  cases place? with
  | none => exact ⟨later, .refl later, rfl⟩
  | some place => exact ⟨_, ⟨_, rfl⟩, rfl⟩

theorem findApp_answers (start : Path) (w : World) :
    (findApp start).Answers w
      (located (hasApp w.machine.depths.package w.disk) appIn start w.current) := by
  -- Nothing but the depth to which package files are read is taken from the world before.
  refine nearest_answers (hasApp w.machine.depths.package) appIn start w ?_
  intro place? later
  cases place? with
  | none => exact ⟨later, .refl later, rfl⟩
  | some place => exact ⟨_, ⟨_, rfl⟩, rfl⟩

/-- Looking for a schema or an app directory ends, with nothing but the log changed, in the nearest place
that has one; unless a place below that hides what it has, or the start holds a NUL.  So it finds the nearest
one, if there is one, from every start that is not too long, where no package file above it nests too
deeply. -/
theorem finds_nearest (start : Path) (w : World) :
    ∃ schema app, (findSchema start).Answers w schema ∧ (findApp start).Answers w app ∧
      Finding (HasSchema w.disk) (HidesSchema w.disk) schemaIn start w.current schema ∧
      Finding (HasApp w.machine.depths.package w.disk) (HidesApp w.machine.depths.package w.disk) appIn
        start w.current app ∧
      (start.hasNul = false → Reaches (start.resolve w.current) ["prisma", "schema.prisma"] →
        (∃ schema?, schema = .ok schema? ∧
          (∀ path, schema? = some path ↔ ∃ place,
            Nearest (HasSchema w.disk) (start.resolve w.current) place ∧ schemaIn place = path) ∧
          (schema? = none ↔
            ∀ place, place <+: start.resolve w.current → ¬ HasSchema w.disk place)) ∧
        ((∀ place, place <+: start.resolve w.current →
            ¬ PackageTooDeep w.machine.depths.package w.disk place) →
          ∃ app?, app = .ok app? ∧
            (∀ path, app? = some path ↔ ∃ place,
              Nearest (HasApp w.machine.depths.package w.disk) (start.resolve w.current) place ∧
                appIn place = path) ∧
            (app? = none ↔ ∀ place, place <+: start.resolve w.current →
              ¬ HasApp w.machine.depths.package w.disk place))) := by
  have hschema := (tells_hasSchema w.disk).finding_located schemaIn start w.current
  have happ := (tells_hasApp w.machine.depths.package w.disk).finding_located appIn start w.current
  refine ⟨_, _, findSchema_answers start w, findApp_answers start w, hschema, happ, ?_⟩
  -- A start that is short enough leaves only the depth of package files to stop a search.
  intro hnul hreaches
  have hpackage : Reaches (start.resolve w.current) ["package.json"] := hreaches.package
  constructor
  · refine hschema.nearest hnul ?_
    rintro place habove fault ⟨hrefuses, -⟩
    exact hreaches.not_refuses (by simp) habove w.disk hrefuses
  · intro hdeep
    refine happ.nearest hnul ?_
    intro place habove fault hhides
    cases hhides with
    | refused hrefuses => exact hpackage.not_refuses (by simp) habove w.disk hrefuses
    | tooDeep htooDeep => exact hdeep place habove htooDeep

end Discovery

/-- A world with a project in the root, and a directory whose package file lists nothing. -/
def World.rooted : World :=
  { machine := ⟨"host", 1, [], .usual⟩
    libraries := .embedded
    current := []
    disk := ⟨[(["prisma"], .directory 0), (["prisma", "schema.prisma"], .file "".toUTF8 0),
      (["package.json"], .file "\x7b\"dependencies\":\x7b\"@remix-run/react\":0\x7d\x7d".toUTF8 0),
      (["a"], .directory 0), (["a", "package.json"], .file "[]".toUTF8 0)]⟩
    now := 0
    log := []
    printed := [] }

/-- A name of so many bytes. -/
def nameOfSize (n : Nat) : String :=
  String.ofList (List.replicate n 'x')

theorem utf8ByteSize_nameOfSize (n : Nat) : (nameOfSize n).utf8ByteSize = n := by
  induction n with
  | zero => rfl
  | succ n ih =>
    have hletter : (String.singleton 'x').utf8ByteSize = 1 := by decide
    rw [nameOfSize] at ih ⊢
    rw [List.replicate_succ, String.ofList_cons, String.utf8ByteSize_append, ih, hletter, Nat.add_comm]

theorem hasNul_nameOfSize {n : Nat} {rest : List String} (h : (Path.ofLocation rest).hasNul = false) :
    (Path.ofLocation (nameOfSize n :: rest)).hasNul = false := by
  rw [Path.hasNul_eq_false] at h ⊢
  intro part hm
  obtain rfl | hm := List.mem_cons.mp hm
  · rw [nameOfSize, String.toList_ofList]
    exact fun h => absurd (List.eq_of_mem_replicate h) (by decide)
  · exact h part hm

namespace Discovery

theorem packages_rooted {place : Location} {text : String} (h : place <+: ["a", "b"])
    (htext : World.rooted.disk.fileContent [] (packageIn place) = .ok text.toUTF8) :
    (place = [] ∧ Json.parse World.rooted.machine.depths.package text =
        .ok (.object [(.ofString "dependencies", .object [(.ofString appDependency, .integer 0)])])) ∨
      Json.parse World.rooted.machine.depths.package text = .ok (.array []) := by
  have hplace : place ∈ [[], ["a"], ["a", "b"]] := (List.mem_inits place ["a", "b"]).mpr h
  obtain rfl | rfl | rfl : place = [] ∨ place = ["a"] ∨ place = ["a", "b"] := by
    simpa using hplace
  · cases String.toByteArray_inj.mp (Except.ok.inj htext)
    exact Or.inl ⟨rfl, rfl⟩
  · cases String.toByteArray_inj.mp (Except.ok.inj htext)
    exact Or.inr rfl
  · cases htext

theorem nearest_schema_rooted : Nearest (HasSchema World.rooted.disk) ["a", "b"] [] := by
  refine ⟨List.nil_prefix, ⟨_, rfl⟩, ?_⟩
  intro other habove hother
  have hother' : other ∈ [[], ["a"], ["a", "b"]] := (List.mem_inits other ["a", "b"]).mpr habove
  obtain rfl | rfl | rfl : other = [] ∨ other = ["a"] ∨ other = ["a", "b"] := by
    simpa using hother'
  · exact List.prefix_rfl
  · obtain ⟨content, hcontent⟩ := hother
    cases hcontent
  · obtain ⟨content, hcontent⟩ := hother
    cases hcontent

theorem nearest_app_rooted :
    Nearest (HasApp World.rooted.machine.depths.package World.rooted.disk) ["a", "b"] [] := by
  refine ⟨List.nil_prefix, ⟨_, _, rfl, rfl, ⟨_, _, _, rfl, rfl, rfl⟩⟩, ?_⟩
  rintro other habove ⟨text, data, htext, hparse, members, inner, value, rfl, -, -⟩
  obtain ⟨rfl, -⟩ | hempty := packages_rooted habove htext
  · exact List.prefix_rfl
  · rw [hempty] at hparse
    cases hparse

theorem not_packageTooDeep_rooted {place : Location} (habove : place <+: ["a", "b"]) :
    ¬ PackageTooDeep World.rooted.machine.depths.package World.rooted.disk place := by
  rintro ⟨text, htext, hdeep⟩
  rw [← Json.parse_eq_tooDeep] at hdeep
  obtain ⟨-, hparse⟩ | hparse := packages_rooted habove htext
  · rw [hparse] at hdeep
    cases hdeep
  · rw [hparse] at hdeep
    cases hdeep

/-- From a directory that is not there the project above it is found, past the package file between them,
unless the name of the directory is too long. -/
theorem finds_nearest_rooted :
    (findSchema (.ofLocation ["a", "b"])).Answers .rooted (.ok (some (schemaIn []))) ∧
      (findApp (.ofLocation ["a", "b"])).Answers .rooted (.ok (some (appIn []))) ∧
      (findSchema (.ofLocation [nameOfSize 256])).Answers .rooted
        (.error (.disk (.system .nameTooLong))) := by
  obtain ⟨schema, app, hanswers, hanswers', -, -, hfinds⟩ :=
    finds_nearest (.ofLocation ["a", "b"]) .rooted
  obtain ⟨⟨schema?, rfl, hfound, -⟩, hfinds'⟩ := hfinds (by decide) ⟨by decide, by decide⟩
  obtain ⟨app?, rfl, hfound', -⟩ := hfinds' fun _ => not_packageTooDeep_rooted
  rw [(hfound _).mpr ⟨[], nearest_schema_rooted, rfl⟩] at hanswers
  rw [(hfound' _).mpr ⟨[], nearest_app_rooted, rfl⟩] at hanswers'
  -- Now from a name that is a byte too long: the first question is refused.
  refine ⟨hanswers, hanswers', ?_⟩
  obtain ⟨schema, app, hanswers, -, hfinding, -, -⟩ :=
    finds_nearest (.ofLocation [nameOfSize 256]) .rooted
  have hname : nameOfSize 256 ≠ ".." := fun h =>
    absurd (congrArg String.utf8ByteSize h) (by rw [utf8ByteSize_nameOfSize]; decide)
  have hresolve : (Path.ofLocation [nameOfSize 256]).resolve World.rooted.current = [nameOfSize 256] := by
    rw [Path.resolve, Path.ofLocation, List.foldl_cons, if_neg hname]
    rfl
  have hrefuses : World.rooted.disk.Refuses [] (schemaIn [nameOfSize 256]) :=
    Disk.refuses_ofLocation (by rw [utf8ByteSize_nameOfSize]; decide)
      hname (hasNul_nameOfSize (by decide)) (by rw [Location.byteSize, utf8ByteSize_nameOfSize]; decide)
  have hunmarked : ¬ HasSchema World.rooted.disk [nameOfSize 256] := by
    rintro ⟨content, hcontent⟩
    rw [Disk.fileContent, hrefuses] at hcontent
    cases hcontent
  cases hfinding with
  | noStart hnul =>
    have hnone : (Path.ofLocation [nameOfSize 256]).hasNul = false := hasNul_nameOfSize (by decide)
    exact absurd (hnone.symm.trans hnul) (by decide)
  | searched _ hending =>
    rw [hresolve] at hending
    obtain ⟨fault, hended, -, hfault⟩ := hending.stopped_here ⟨hrefuses, rfl⟩ hunmarked
    rw [hended, hfault] at hanswers
    exact hanswers

end Discovery

end ViewGen
