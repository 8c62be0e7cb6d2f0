import ViewGen.Embedded
import ViewGen.Proofs.DiskOperations

/-!
# How jobs run

A job that is a sequence of jobs ends where its first failing part ends, or with its last part.  A job
is confined to places when, however it ends, it has only grown the disk there.
-/

namespace ViewGen

section

variable {ε δ α β : Type} {first : Except ε α} {next : α → Except ε β} {a : α} {b : β} {fault : ε}
  {wrap : ε → δ} {wrapped : δ}

theorem except_bind_eq_ok : first.bind next = .ok b ↔ ∃ a, first = .ok a ∧ next a = .ok b := by
  cases first <;> simp [Except.bind]

theorem except_bind_eq_error :
    first.bind next = .error fault ↔
      first = .error fault ∨ ∃ a, first = .ok a ∧ next a = .error fault := by
  cases first <;> simp [Except.bind]

theorem except_mapError_eq_ok : first.mapError wrap = .ok a ↔ first = .ok a := by
  cases first <;> simp [Except.mapError]

theorem except_mapError_eq_error :
    first.mapError wrap = .error wrapped ↔ ∃ fault, first = .error fault ∧ wrap fault = wrapped := by
  cases first <;> simp [Except.mapError]

end

namespace Job

variable {ε δ α β : Type} {job : Job ε α} {next : α → Job ε β} {w w' : World} {a : α} {b : β}
  {fault : ε}

/-! ## Endings of sequences -/

theorem bind_of_ok (h : job w = .ok a w') : (job >>= next) w = next a w' := by
  simp only [bind, EStateM.bind, h]

theorem bind_of_error (h : job w = .error fault w') : (job >>= next) w = .error fault w' := by
  simp only [bind, EStateM.bind, h]

theorem bind_eq_ok :
    (job >>= next) w = .ok b w' ↔ ∃ a middle, job w = .ok a middle ∧ next a middle = .ok b w' := by
  constructor
  · intro h
    cases hj : job w with
    | ok a middle =>
      rw [bind_of_ok hj] at h
      exact ⟨a, middle, rfl, h⟩
    | error fault middle =>
      rw [bind_of_error hj] at h
      cases h
  · rintro ⟨a, middle, hj, hn⟩
    rw [bind_of_ok hj, hn]

theorem bind_eq_error :
    (job >>= next) w = .error fault w' ↔ job w = .error fault w' ∨
      ∃ a middle, job w = .ok a middle ∧ next a middle = .error fault w' := by
  constructor
  · intro h
    cases hj : job w with
    | ok a middle =>
      rw [bind_of_ok hj] at h
      exact Or.inr ⟨a, middle, rfl, h⟩
    | error cause middle =>
      rw [bind_of_error hj] at h
      cases h
      exact Or.inl rfl
  · rintro (hj | ⟨a, middle, hj, hn⟩)
    · rw [bind_of_error hj]
    · rw [bind_of_ok hj, hn]

theorem pure_eq_ok {result : α} :
    (pure a : Job ε α) w = .ok result w' ↔ a = result ∧ w = w' := by
  show EStateM.Result.ok a w = .ok result w' ↔ _
  rw [EStateM.Result.ok.injEq]

theorem withFault_eq_ok {f : ε → δ} : job.withFault f w = .ok a w' ↔ job w = .ok a w' := by
  unfold withFault
  constructor
  · intro h
    split at h
    · cases h
      assumption
    · cases h
  · intro h
    rw [h]

theorem withFault_eq_error {f : ε → δ} {seen : δ} :
    job.withFault f w = .error seen w' ↔ ∃ fault, job w = .error fault w' ∧ f fault = seen := by
  unfold withFault
  constructor
  · intro h
    split at h
    · cases h
    · rename_i fault later hj
      cases h
      exact ⟨fault, hj, rfl⟩
  · rintro ⟨fault, hj, rfl⟩
    rw [hj]

theorem change_eq_ok {f : Disk → Location → Moment → Except DiskFault Disk} {u : Unit} :
    change f w = .ok u w' ↔ ∃ later, f w.disk w.current w.now = .ok later ∧
      w' = { w with disk := later } := by
  unfold change
  constructor
  · intro h
    split at h
    · rename_i later hf
      cases h
      exact ⟨later, hf, rfl⟩
    · cases h
  · rintro ⟨later, hf, rfl⟩
    rw [hf]

theorem change_eq_error {f : Disk → Location → Moment → Except DiskFault Disk}
    {cause : DiskFault} :
    change f w = .error cause w' ↔ f w.disk w.current w.now = .error cause ∧ w' = w := by
  unfold change
  constructor
  · intro h
    split at h
    · cases h
    · rename_i hf
      cases h
      exact ⟨hf, rfl⟩
  · rintro ⟨hf, rfl⟩
    rw [hf]

theorem outcome_of_ok (h : job w = .ok a w') :
    (job.outcome : Job δ (Except ε α)) w = .ok (.ok a) w' := by
  unfold outcome
  rw [h]

theorem outcome_of_error (h : job w = .error fault w') :
    (job.outcome : Job δ (Except ε α)) w = .ok (.error fault) w' := by
  unfold outcome
  rw [h]

/-- A change whose fault is looked at before anything else happens. -/
theorem bind_outcome_change {f : Disk → Location → Moment → Except DiskFault Disk}
    {next : Except DiskFault Unit → Job δ β} :
    ((change f).outcome >>= next) w =
      match f w.disk w.current w.now with
      | .ok later => next (.ok ()) { w with disk := later }
      | .error cause => next (.error cause) w := by
  cases hf : f w.disk w.current w.now with
  | ok later => exact bind_of_ok (outcome_of_ok (change_eq_ok.mpr ⟨later, hf, rfl⟩))
  | error cause => exact bind_of_ok (outcome_of_error (change_eq_error.mpr ⟨hf, rfl⟩))

/-- The world that a job ends in, with whatever result. -/
def after (job : Job ε α) (w : World) : World :=
  match job w with
  | .ok _ later => later
  | .error _ later => later

theorem after_of_ok (h : job w = .ok a w') : job.after w = w' := by
  rw [after, h]

theorem after_of_error (h : job w = .error fault w') : job.after w = w' := by
  rw [after, h]

theorem after_congr {other : Job ε α} {last : World} (h : job w = other last) :
    job.after w = other.after last := by
  rw [after, after, h]

/-- To name a fault otherwise changes nothing in the world. -/
theorem after_withFault (f : ε → δ) (w : World) : (job.withFault f).after w = job.after w := by
  unfold after withFault
  cases job w <;> rfl

def succeeds (job : Job ε α) (w : World) : Bool :=
  match job w with
  | .ok _ _ => true
  | .error _ _ => false

theorem exists_of_succeeds (h : job.succeeds w = true) : ∃ a, job w = .ok a (job.after w) := by
  cases hj : job w with
  | ok a later => exact ⟨a, by rw [after_of_ok hj]⟩
  | error fault later =>
    rw [succeeds, hj] at h
    cases h

/-- What a job ends with, unless it fails. -/
def result? (job : Job ε α) (w : World) : Option α :=
  match job w with
  | .ok a _ => some a
  | .error _ _ => none

theorem result?_of_ok (h : job w = .ok a w') : job.result? w = some a := by
  rw [result?, h]

theorem eq_ok_of_result? (h : job.result? w = some a) : job w = .ok a (job.after w) := by
  cases hj : job w with
  | ok b later =>
    rw [result?, hj, Option.some.injEq] at h
    rw [after_of_ok hj, h]
  | error fault later =>
    rw [result?, hj] at h
    cases h

/-- What a job fails with, if it does. -/
def fault? (job : Job ε α) (w : World) : Option ε :=
  match job w with
  | .ok _ _ => none
  | .error fault _ => some fault

theorem eq_error_of_fault? (h : job.fault? w = some fault) : job w = .error fault (job.after w) := by
  cases hj : job w with
  | ok a later =>
    rw [fault?, hj] at h
    cases h
  | error cause later =>
    rw [fault?, hj, Option.some.injEq] at h
    rw [after_of_error hj, h]

end Job

/-- The world of a machine with an empty disk. -/
def World.bare : World :=
  { machine := ⟨"host", 1, [1], .usual⟩, libraries := .embedded, current := [], disk := .empty
    now := 0, log := [], printed := [] }

/-- What no job changes: the machine, the libraries and the current directory. -/
structure Setting where
  machine : Machine
  libraries : Libraries
  current : Location

def World.setting (w : World) : Setting :=
  ⟨w.machine, w.libraries, w.current⟩

/-- The worlds differ in nothing but their logs. -/
def World.Noted (w later : World) : Prop :=
  ∃ log, later = { w with log }

namespace World.Noted

variable {w later last : World}

protected theorem refl (w : World) : Noted w w := ⟨w.log, rfl⟩

protected theorem trans (h : Noted w later) (h' : Noted later last) : Noted w last := by
  obtain ⟨log, rfl⟩ := h
  obtain ⟨log', rfl⟩ := h'
  exact ⟨log', rfl⟩

theorem disk (h : Noted w later) : later.disk = w.disk := by
  obtain ⟨log, rfl⟩ := h
  rfl

theorem setting (h : Noted w later) : later.setting = w.setting := by
  obtain ⟨log, rfl⟩ := h
  rfl

theorem machine (h : Noted w later) : later.machine = w.machine :=
  congrArg Setting.machine h.setting

theorem libraries (h : Noted w later) : later.libraries = w.libraries :=
  congrArg Setting.libraries h.setting

theorem current (h : Noted w later) : later.current = w.current :=
  congrArg Setting.current h.setting

end World.Noted

namespace Job

variable {ε δ α : Type} {job : Job ε α} {w w' : World} {answer : Except ε α} {a : α} {fault : ε}

/-- A job that changes nothing but the log, and how it ends. -/
def Answers (job : Job ε α) (w : World) (answer : Except ε α) : Prop :=
  ∃ later, w.Noted later ∧ job w = match answer with
    | .ok a => .ok a later
    | .error fault => .error fault later

namespace Answers

theorem withFault (h : job.Answers w answer) (f : ε → δ) :
    (job.withFault f).Answers w (answer.mapError f) := by
  obtain ⟨later, hn, hj⟩ := h
  refine ⟨later, hn, ?_⟩
  unfold Job.withFault
  rw [hj]
  cases answer <;> rfl

theorem bind_ok {β : Type} {next : α → Job ε β} (h : job.Answers w (.ok a)) :
    ∃ later, w.Noted later ∧ (job >>= next) w = next a later := by
  obtain ⟨later, hn, hj⟩ := h
  exact ⟨later, hn, bind_of_ok hj⟩

theorem bind_error {β : Type} {next : α → Job ε β} (h : job.Answers w (.error fault)) :
    ∃ later, w.Noted later ∧ (job >>= next) w = .error fault later := by
  obtain ⟨later, hn, hj⟩ := h
  exact ⟨later, hn, bind_of_error hj⟩

/-- A job that answers, and another that answers with the first answer at hand. -/
theorem bind {β : Type} {next : α → Job ε β} {f : α → Except ε β} (h : job.Answers w answer)
    (hnext : ∀ a later, w.Noted later → (next a).Answers later (f a)) :
    (job >>= next).Answers w (answer.bind f) := by
  cases answer with
  | error fault => exact h.bind_error
  | ok a =>
    obtain ⟨middle, hm, hj⟩ := h
    obtain ⟨later, hl, hlater⟩ := hnext a middle hm
    exact ⟨later, hm.trans hl, (bind_of_ok hj).trans hlater⟩

theorem of_ok (h : job.Answers w answer) (hj : job w = .ok a w') :
    answer = .ok a ∧ w.Noted w' := by
  obtain ⟨later, hn, he⟩ := h
  rw [hj] at he
  cases answer with
  | ok b =>
    cases he
    exact ⟨rfl, hn⟩
  | error fault => cases he

end Answers

end Job

/-- From `w` to `later` the setting stays, and the disk grows at places. -/
structure World.Follows (places : Set Location) (w later : World) : Prop where
  setting : later.setting = w.setting
  disk : w.disk.Grows places later.disk

namespace World.Follows

variable {places more : Set Location} {w later last : World}

protected theorem refl (places : Set Location) (w : World) : Follows places w w :=
  ⟨rfl, .refl _ _⟩

theorem machine (h : Follows places w later) : later.machine = w.machine :=
  congrArg Setting.machine h.setting

theorem libraries (h : Follows places w later) : later.libraries = w.libraries :=
  congrArg Setting.libraries h.setting

theorem current (h : Follows places w later) : later.current = w.current :=
  congrArg Setting.current h.setting

theorem mono (h : Follows places w later) (hs : places ⊆ more) : Follows more w later :=
  ⟨h.setting, h.disk.mono hs⟩

protected theorem trans (h : Follows places w later) (h' : Follows places later last) :
    Follows places w last :=
  ⟨h'.setting.trans h.setting, h.disk.trans h'.disk⟩

end World.Follows

theorem World.Noted.follows {w later : World} (h : w.Noted later) (places : Set Location) :
    w.Follows places later := by
  obtain ⟨log, rfl⟩ := h
  exact ⟨rfl, .refl _ _⟩

/-- From `w` to `later` the current directory and all directories stay, and every file outside of the
places does; there it may change, go away or appear. -/
structure World.Keeps (places : Set Location) (w later : World) : Prop where
  current : later.current = w.current
  directories : w.disk.KeepsDirectories later.disk
  files : ∀ place ∉ places, later.disk.file? place = w.disk.file? place

theorem World.Follows.keeps {places : Set Location} {w later : World} (h : w.Follows places later) :
    w.Keeps places later :=
  ⟨h.current, h.disk.keepsDirectories, fun _ hout => h.disk.file?_eq hout⟩

namespace World.Keeps

variable {places more : Set Location} {w later last : World}

theorem mono (h : Keeps places w later) (hs : places ⊆ more) : Keeps more w later :=
  ⟨h.current, h.directories, fun place hout => h.files place fun hp => hout (hs hp)⟩

protected theorem trans (h : Keeps places w later) (h' : Keeps places later last) :
    Keeps places w last :=
  ⟨h'.current.trans h.current, h.directories.trans h'.directories,
    fun place hout => (h'.files place hout).trans (h.files place hout)⟩

theorem erase {place : Location} (hcurrent : later.current = w.current)
    (hdisk : later.disk = w.disk.erase place) (hd : ¬ w.disk.IsDirectoryAt place) :
    Keeps {place} w later := by
  refine ⟨hcurrent, hdisk ▸ Disk.keepsDirectories_erase hd, ?_⟩
  intro other hout
  have hne : other ≠ place := hout
  unfold Disk.file?
  rw [hdisk, Disk.node?_erase_of_ne hne]

theorem fileContent (h : Keeps places w later) {path : Path} {content : ByteArray}
    (hout : path.resolve w.current ∉ places)
    (hc : w.disk.fileContent w.current path = .ok content) :
    later.disk.fileContent later.current path = .ok content := by
  rw [h.current]
  exact h.directories.fileContent (h.files _ hout) hc

theorem readText (h : Keeps places w later) {path : Path} {text : String}
    (hout : path.resolve w.current ∉ places)
    (ht : w.disk.readText w.current path = .ok text) :
    later.disk.readText later.current path = .ok text := by
  rw [h.current]
  exact h.directories.readText (h.files _ hout) ht

end World.Keeps

namespace Job

variable {ε δ α : Type} {places : Location → Set Location}

/-- However a job ends, it has kept the setting and grown the disk at places that depend on the current
directory. -/
def Confined (places : Location → Set Location) (job : Job ε α) : Prop :=
  ∀ w : World, w.Follows (places w.current) (job.after w)

namespace Confined

theorem of_ok {job : Job ε α} (hc : Confined places job) {w w' : World} {a : α}
    (h : job w = .ok a w') : w.Follows (places w.current) w' :=
  after_of_ok h ▸ hc w

theorem of_error {job : Job ε α} (hc : Confined places job) {w w' : World} {fault : ε}
    (h : job w = .error fault w') : w.Follows (places w.current) w' :=
  after_of_error h ▸ hc w

theorem withFault {job : Job ε α} (hj : Confined places job) (f : ε → δ) :
    Confined places (job.withFault f) := by
  intro w
  rw [after_withFault]
  exact hj w

theorem ensureDirectories (path : Path) :
    Confined (fun _ => ∅) (Job.ensureDirectories path) := by
  intro w
  have hg := w.disk.ensureDirectories_grows w.current w.now path
  unfold after Job.ensureDirectories
  rcases hr : w.disk.ensureDirectories w.current w.now path with ⟨later, _ | _⟩ <;>
    rw [hr] at hg <;> exact ⟨rfl, hg⟩

end Confined

theorem ensureDirectories_eq_ok {path : Path} {w w' : World} {u : Unit} :
    ensureDirectories path w = .ok u w' ↔
      ∃ made, w.disk.ensureDirectories w.current w.now path = (made, .ok ()) ∧
        w' = { w with disk := made } := by
  unfold ensureDirectories
  constructor
  · intro h
    split at h
    · rename_i made hr
      cases h
      exact ⟨made, hr, rfl⟩
    · cases h
  · intro ⟨made, hr, hw⟩
    rw [hr, hw]

theorem ensureDirectories_directoryAlong {path : Path} {w w' : World} {u : Unit}
    (h : ensureDirectories path w = .ok u w') : w'.disk.DirectoryAlong w.current path := by
  obtain ⟨made, hr, rfl⟩ := ensureDirectories_eq_ok.mp h
  exact Disk.ensureDirectories_eq_ok hr

theorem ensureDirectories_of_directory {path : Path} {w : World}
    (h : w.disk.DirectoryAlong w.current path) : ensureDirectories path w = .ok () w := by
  unfold ensureDirectories
  rw [Disk.ensureDirectories_of_directory h]

end Job

end ViewGen
