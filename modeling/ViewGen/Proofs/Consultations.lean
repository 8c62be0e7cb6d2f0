import ViewGen.Proofs.Markups
import ViewGen.Proofs.Reports

/-!
# Commands that only look

The commands that show models and the manifest change nothing but the log and what is printed.  They end with
a status, unless something stands in the way that no line explains: a path that cannot be asked for, settings
that are a directory, a file that nests too deeply, or a text to be shown with a tag that closes nothing.
-/

namespace ViewGen

/-! ## Settings that cannot be read -/

namespace Settings

variable {depth : Nat} {disk : Disk} {current : Location} {path : Path} {fault : SettingsFault}

end Settings

namespace CommandLine

variable {w : World} {fault : Fault}

/-! ## What no line explains -/

/-- Something comes to a fault that no line explains on a console. -/
def Unexplained {α : Type} (console : Console) (answer : Except Fault α) (fault : Fault) : Prop :=
  answer = .error fault ∧ fault.explanation? console = none

section

variable {α β : Type} {console : Console}

theorem unexplained_ok {a : α} : ¬ Unexplained console (.ok a) fault :=
  fun h => nomatch h.1

theorem unexplained_bind {first : Except Fault α} {next : α → Except Fault β} :
    Unexplained console (first.bind next) fault ↔ Unexplained console first fault ∨
      ∃ a, first = .ok a ∧ Unexplained console (next a) fault := by
  unfold Unexplained
  rw [except_bind_eq_error]
  constructor
  · rintro ⟨hfirst | ⟨a, hfirst, hnext⟩, hnone⟩
    · exact Or.inl ⟨hfirst, hnone⟩
    · exact Or.inr ⟨a, hfirst, hnext, hnone⟩
  · rintro (⟨hfirst, hnone⟩ | ⟨a, hfirst, hnext, hnone⟩)
    · exact ⟨Or.inl hfirst, hnone⟩
    · exact ⟨Or.inr ⟨a, hfirst, hnext⟩, hnone⟩

theorem unexplained_shown {text : Option α} :
    Unexplained console (shown text) fault ↔ text = none ∧ fault = .markup := by
  cases text with
  | some s => exact iff_of_false unexplained_ok (by simp)
  | none =>
    constructor
    · rintro ⟨⟨⟩, -⟩
      exact ⟨rfl, rfl⟩
    · rintro ⟨-, rfl⟩
      exact ⟨rfl, rfl⟩

theorem unexplained_forM_shown {text : α → Option β} {items : List α} :
    Unexplained console (items.forM fun a => shown (text a)) fault ↔
      (∃ a ∈ items, text a = none) ∧ fault = .markup := by
  induction items with
  | nil => exact iff_of_false unexplained_ok (by simp)
  | cons a rest ih =>
    have hcons : (a :: rest).forM (fun a => shown (text a)) =
        (shown (text a)).bind fun _ => rest.forM fun a => shown (text a) := rfl
    rw [hcons, unexplained_bind, unexplained_shown]
    simp only [ih, exists_and_right]
    cases ha : text a <;> simp [shown, ha]

end

namespace Invocation

/-- Where a command that shows models looks for the schema. -/
def SchemaAt (invocation : Invocation) (w : World) (schema : Path) : Prop :=
  ∃ settings, invocation.settled w = .ok settings ∧ invocation.schemaPlace settings w = .ok schema

end Invocation

theorem unexplained_modelsShown {schema : Path} {models : List Model} :
    Unexplained w.libraries.console (modelsShown schema models w) fault ↔
      ((models = [] ∧ w.libraries.console.read (noModelsLine schema) = none) ∨
        ∃ model ∈ models, ∃ text ∈ (modelTable model).texts, w.libraries.console.read text = none) ∧
      fault = .markup := by
  unfold modelsShown
  cases models with
  | nil => simp [unexplained_shown]
  | cons model rest =>
    simp only [List.isEmpty_cons, Bool.false_eq_true, if_false, unexplained_forM_shown,
      Table.mapM?_eq_none, List.cons_ne_nil, false_and, false_or]

namespace Invocation

variable {invocation : Invocation}

end Invocation

/-! ## Statuses -/

/-- The status of a command by what it comes to. -/
def explained (console : Console) : Except Fault Unit → Except Fault ExitStatus
  | .ok () => .ok 0
  | .error fault =>
    match fault.explanation? console with
    | some _ => .ok 1
    | none => .error fault

section

variable {console : Console}

theorem explained_error_of_some {line : String} (h : fault.explanation? console = some line) :
    explained console (.error fault) = .ok 1 := by
  simp only [explained, h]

theorem explained_error_of_none (h : fault.explanation? console = none) :
    explained console (.error fault) = .error fault := by
  simp only [explained, h]

end

/-- Something fails only with certain faults. -/
def FailsWith {α : Type} (P : Fault → Prop) (answer : Except Fault α) : Prop :=
  ∀ fault, answer = .error fault → P fault

namespace FailsWith

variable {α β : Type} {P : Fault → Prop}

theorem bind {first : Except Fault α} {next : α → Except Fault β} (h : FailsWith P first)
    (hnext : ∀ a, FailsWith P (next a)) : FailsWith P (first.bind next) := by
  intro fault he
  obtain hfirst | ⟨a, -, hfault⟩ := except_bind_eq_error.mp he
  · exact h fault hfirst
  · exact hnext a fault hfault

theorem mapError {ε : Type} {answer : Except ε α} {f : ε → Fault} (h : ∀ cause, P (f cause)) :
    FailsWith P (answer.mapError f) := by
  intro fault he
  cases answer with
  | ok a => cases he
  | error cause =>
    cases he
    exact h cause

theorem shown (h : P .markup) (text : Option α) : FailsWith P (shown text) := by
  intro fault he
  cases text with
  | some s => cases he
  | none =>
    cases he
    exact h

theorem forM {f : α → Except Fault Unit} (h : ∀ a, FailsWith P (f a)) (items : List α) :
    FailsWith P (items.forM f) := by
  induction items with
  | nil => exact fun fault he => nomatch he
  | cons a rest ih => exact (h a).bind fun _ => ih

theorem placed {choice : Option Path} {search : Except Discovery.Fault (Option Path)} {missing : Fault}
    (h : P missing) (hsearch : ∀ cause, P (.discovery cause)) :
    FailsWith P (placed choice search missing) := by
  intro fault he
  unfold CommandLine.placed at he
  split at he
  · cases he
  · cases he
    exact hsearch _
  · cases he
  · cases he
    exact h

theorem modelsShown (h : P .markup) (schema : Path) (models : List Model) (w : World) :
    FailsWith P (modelsShown schema models w) := by
  unfold CommandLine.modelsShown
  split
  · exact .shown h _
  · exact .forM (fun _ => .shown h _) models

theorem manifestShown (h : P .markup) (hdeep : P .manifestTooDeep) (hdisk : ∀ cause, P (.disk cause))
    (path : Path) (w : World) : FailsWith P (manifestShown path w) := by
  refine (FailsWith.mapError hdisk).bind fun present => ?_
  split
  · refine (FailsWith.mapError fun _ => hdeep).bind fun manifest => ?_
    exact (FailsWith.shown h _).bind fun _ => .shown h _
  · exact (FailsWith.shown h _).bind fun _ => .shown h _

end FailsWith

/-- The line that explains a fault, if there is one, can be read. -/
def Fault.Readable (fault : Fault) (console : Console) : Prop :=
  ∀ line, fault.explanation? console = some line → console.read line ≠ none

theorem explaining_of_ok {task : Job Fault Unit} {w w' : World} (h : task w = .ok () w') :
    explaining task w = .ok 0 w' := by
  unfold explaining
  rw [Job.bind_of_ok (Job.outcome_of_ok h)]
  rfl

/-- A job with its faults explained ends with a status, unless it fails with a fault that no line explains. -/
theorem explaining_reports {task : Job Fault Unit} {answer : Except Fault Unit}
    (hreads : FailsWith (·.Readable w.libraries.console) answer) (h : task.Reports w answer) :
    (explaining task).Reports w (explained w.libraries.console answer) := by
  obtain ⟨later, ht, hj⟩ := h
  rw [← ht.libraries] at hreads ⊢
  cases answer with
  | ok u => exact ⟨later, ht, explaining_of_ok hj⟩
  | error fault =>
    unfold explaining
    have houtcome : (task.outcome : Job Fault _) w = .ok (.error fault) later := Job.outcome_of_error hj
    have hget : (get : Job Fault World) later = .ok later later := rfl
    cases hline : fault.explanation? later.libraries.console with
    | none =>
      rw [explained_error_of_none hline]
      refine ⟨later, ht, ?_⟩
      rw [Job.bind_of_ok houtcome]
      simp only
      rw [Job.bind_of_ok hget]
      simp only [hline]
      rfl
    | some line =>
      rw [explained_error_of_some hline]
      -- The line of the explanation is printed in its turn, and that must not fail.
      obtain ⟨text, htext⟩ := Option.ne_none_iff_exists'.mp (hreads fault rfl line hline)
      obtain ⟨last, hlast, hsaid⟩ := say_reports line later
      rw [htext] at hsaid
      refine ⟨last, ht.trans hlast, ?_⟩
      rw [Job.bind_of_ok houtcome]
      simp only
      rw [Job.bind_of_ok hget]
      simp only [hline]
      rw [Job.bind_of_ok hsaid]
      rfl

namespace Invocation

variable {invocation : Invocation}

end Invocation

theorem execute_reports {words : List String} {invocation : Invocation} (w : World)
    (hwords : Invocation.ofWords words = .ok invocation) (hcommand : invocation.command ≠ .generate)
    (hreads : FailsWith (·.Readable w.libraries.console) (invocation.consulted w)) :
    (execute words).Reports w (explained w.libraries.console (invocation.consulted w)) := by
  have htask : invocation.task.Reports { w with log := [] } (invocation.consulted w) := by
    unfold Invocation.task
    cases h : invocation.command with
    | generate => exact absurd h hcommand
    | models => exact invocation.showModels_reports h _
    | status => exact invocation.showStatus_reports h _
  have hexplaining : (explaining invocation.task).Reports { w with log := [] } _ :=
    explaining_reports hreads htask
  unfold execute
  rw [hwords]
  exact hexplaining.notingOnly

/-- A command that shows the manifest in an output root. -/
def Invocation.status (output : String) : Invocation :=
  { command := .status, verbose := false, dryRun := false, config := none, schema := none
    output := some output, templates := none, extension := none }

end CommandLine

end ViewGen
