import ViewGen.CommandLine.Execute
import ViewGen.Proofs.Discoveries
import ViewGen.Proofs.ManifestLoads

/-!
# Jobs that report

A job that reports changes nothing but the log and what is printed, and ends with an answer that is a
function of the world but for these.  The commands that show models and the manifest are such jobs: what they
come to is what loading the settings, looking for a project, reading and printing come to, one after the other.
-/

namespace ViewGen

/-- From `w` to `later` only the log and what is printed may change. -/
def World.Told (w later : World) : Prop :=
  ∃ log printed, later = { w with log, printed }

namespace World.Told

variable {w later last : World}

protected theorem refl (w : World) : Told w w := ⟨w.log, w.printed, rfl⟩

protected theorem trans (h : Told w later) (h' : Told later last) : Told w last := by
  obtain ⟨log, printed, rfl⟩ := h
  obtain ⟨log', printed', rfl⟩ := h'
  exact ⟨log', printed', rfl⟩

theorem libraries (h : Told w later) : later.libraries = w.libraries := by
  obtain ⟨log, printed, rfl⟩ := h
  rfl

end World.Told

theorem World.Noted.told {w later : World} (h : w.Noted later) : w.Told later := by
  obtain ⟨log, rfl⟩ := h
  exact ⟨log, w.printed, rfl⟩

namespace Job

variable {ε α β : Type} {job : Job ε α} {w : World} {answer : Except ε α}

/-- A job that changes nothing but the log and what is printed, and how it ends. -/
def Reports (job : Job ε α) (w : World) (answer : Except ε α) : Prop :=
  ∃ later, w.Told later ∧ job w = match answer with
    | .ok a => .ok a later
    | .error fault => .error fault later

theorem ask_answers (f : Disk → Location → Except DiskFault α) (w : World) :
    (ask f).Answers w (f w.disk w.current) := by
  refine ⟨w, .refl w, ?_⟩
  unfold ask
  cases f w.disk w.current <;> rfl

theorem Answers.reports (h : job.Answers w answer) : job.Reports w answer := by
  obtain ⟨later, hn, hj⟩ := h
  exact ⟨later, hn.told, hj⟩

namespace Reports

/-- A job that reports, and another that reports with the first answer at hand. -/
theorem bind {next : α → Job ε β} {f : α → Except ε β} (h : job.Reports w answer)
    (hnext : ∀ a later, w.Told later → (next a).Reports later (f a)) :
    (job >>= next).Reports w (answer.bind f) := by
  obtain ⟨middle, hm, hj⟩ := h
  cases answer with
  | error fault => exact ⟨middle, hm, bind_of_error hj⟩
  | ok a =>
    obtain ⟨later, hl, hlater⟩ := hnext a middle hm
    exact ⟨later, hm.trans hl, (bind_of_ok hj).trans hlater⟩

theorem pure (a : α) (w : World) : (Pure.pure a : Job ε α).Reports w (.ok a) :=
  ⟨w, .refl w, rfl⟩

/-- Which notes are kept makes no difference to what a job reports. -/
theorem notingOnly {keeps : Level → Bool} (h : job.Reports { w with log := [] } answer) :
    (job.notingOnly keeps).Reports w answer := by
  obtain ⟨later, ⟨log, printed, rfl⟩, hj⟩ := h
  refine ⟨_, ⟨w.log ++ log.filter fun record => keeps record.level, printed, rfl⟩, ?_⟩
  unfold Job.notingOnly
  simp only [hj]
  cases answer <;> rfl

end Reports

end Job

/-! ## Settings -/

namespace Disk

end Disk

namespace Settings

/-- Where a file of settings is looked for. -/
def place (current : Location) (file : Option Path) : Path :=
  file.getD ((Path.ofLocation current).joinName fileName)

/-- What loading settings comes to. -/
def loaded (depth : Nat) (disk : Disk) (current : Location) (file : Option Path) :
    Except SettingsFault Settings :=
  match disk.pathExists current (place current file), file with
  | .error fault, _ => .error (.disk fault)
  | .ok false, none => .ok default
  | .ok false, some path => .error (.notFound path)
  | .ok true, _ => ofFile depth disk current (place current file)

theorem load_answers (file : Option Path) (w : World) :
    (load file).Answers w (loaded w.machine.depths.settings w.disk w.current file) := by
  have hget : (get : Job SettingsFault World) w = .ok w w := rfl
  refine ⟨w, .refl w, ?_⟩
  have hplace : file.getD ((Path.ofLocation w.current).joinName fileName) = place w.current file := rfl
  unfold load loaded
  rw [Job.bind_of_ok hget]
  simp only [hplace]
  -- Only the usual place of the settings may have no file.
  cases w.disk.pathExists w.current (place w.current file) with
  | error fault => rfl
  | ok there =>
    cases there with
    | false => cases file <;> rfl
    | true =>
      show Job.ofExcept
        (ofFile w.machine.depths.settings w.disk w.current (place w.current file)) w = _
      unfold Job.ofExcept
      cases ofFile w.machine.depths.settings w.disk w.current (place w.current file) <;> rfl

end Settings

/-! ## Tables -/

theorem mapM_eq_none {α β : Type} {f : α → Option β} {items : List α} :
    items.mapM f = none ↔ ∃ a ∈ items, f a = none := by
  induction items with
  | nil => simp
  | cons a rest ih =>
    cases ha : f a with
    | none => simp [ha]
    | some b =>
      cases hrest : rest.mapM f with
      | none => simp [List.mapM_cons, ha, hrest, ih.mp hrest]
      | some found => simp [List.mapM_cons, ha, hrest, ← ih]

namespace Table

variable {α β : Type} {f : α → Option β} {table : Table α}

theorem mapM?_eq (f : α → Option β) (table : Table α) :
    table.mapM? f = (table.title.mapM f).bind fun title =>
      (table.headings.mapM f).bind fun headings =>
        (table.rows.mapM (List.mapM f)).bind fun rows => some ⟨title, headings, rows⟩ := by
  obtain ⟨title, headings, rows⟩ := table
  cases title with
  | none => rfl
  | some text => cases htext : f text <;> simp [mapM?, htext]

/-- A table is not read just where one of its texts is not. -/
theorem mapM?_eq_none : table.mapM? f = none ↔ ∃ text ∈ table.texts, f text = none := by
  have htitle : table.title.mapM f = none ↔ ∃ text ∈ table.title.toList, f text = none := by
    cases table.title <;> simp
  have hheadings := @mapM_eq_none _ _ f table.headings
  have hrows : table.rows.mapM (List.mapM f) = none ↔ ∃ text ∈ table.rows.flatten, f text = none := by
    simp only [mapM_eq_none, List.mem_flatten]
    constructor
    · rintro ⟨row, hrow, text, htext, hnone⟩
      exact ⟨text, ⟨row, hrow, htext⟩, hnone⟩
    · rintro ⟨text, ⟨row, hrow, htext⟩, hnone⟩
      exact ⟨row, hrow, text, htext, hnone⟩
  simp only [texts, List.mem_append, or_and_right, exists_or, ← htitle, ← hheadings, ← hrows, mapM?_eq,
    Option.bind_eq_none_iff]
  cases table.title.mapM f with
  | none => simp
  | some title =>
    cases table.headings.mapM f with
    | none => simp
    | some headings => cases table.rows.mapM (List.mapM f) <;> simp

end Table

namespace CommandLine

/-! ## What commands come to -/

/-- What showing something comes to, by the text that it has. -/
def shown {α : Type} : Option α → Except Fault Unit
  | some _ => .ok ()
  | none => .error .markup

theorem say_reports (markup : String) (w : World) :
    (say markup).Reports w (shown (w.libraries.console.read markup)) := by
  have hget : (get : Job Fault World) w = .ok w w := rfl
  unfold say Job.Reports
  rw [Job.bind_of_ok hget]
  cases w.libraries.console.read markup with
  | none => exact ⟨w, .refl w, rfl⟩
  | some text => exact ⟨_, ⟨w.log, _, rfl⟩, rfl⟩

/-- A table is printed as its texts are read. -/
theorem sayTable_eq (table : Table String) (w : World) :
    sayTable table w = match table.mapM? w.libraries.console.read with
      | some read => .ok () { w with printed := w.printed ++ [w.libraries.console.table read] }
      | none => .error .markup w := by
  have hget : (get : Job Fault World) w = .ok w w := rfl
  unfold sayTable
  rw [Job.bind_of_ok hget]
  cases table.mapM? w.libraries.console.read <;> rfl

theorem sayTable_reports (table : Table String) (w : World) :
    (sayTable table).Reports w (shown (table.mapM? w.libraries.console.read)) := by
  unfold Job.Reports
  rw [sayTable_eq]
  cases table.mapM? w.libraries.console.read with
  | none => exact ⟨w, .refl w, rfl⟩
  | some read => exact ⟨_, ⟨w.log, _, rfl⟩, rfl⟩

/-- The place that is chosen, or else the one that a search ends with. -/
def placed (choice : Option Path) (search : Except Discovery.Fault (Option Path)) (missing : Fault) :
    Except Fault Path :=
  match choice, search with
  | some path, _ => .ok path
  | none, .error fault => .error (.discovery fault)
  | none, .ok (some path) => .ok path
  | none, .ok none => .error missing

theorem found_answers {search : Path → Job Discovery.Fault (Option Path)} {w : World}
    {answer : Except Discovery.Fault (Option Path)} (missing : Fault)
    (h : (search (.ofLocation w.current)).Answers w answer) :
    (found search missing).Answers w (placed none answer missing) := by
  have hget : (get : Job Fault World) w = .ok w w := rfl
  obtain ⟨later, hn, hj⟩ := h.withFault Fault.discovery
  refine ⟨later, hn, ?_⟩
  unfold found
  rw [Job.bind_of_ok hget]
  cases answer with
  | error fault => exact Job.bind_of_error hj
  | ok path? =>
    rw [Job.bind_of_ok hj]
    cases path? <;> rfl

namespace Invocation

variable (invocation : Invocation)

/-- The settings that a command goes by. -/
def settled (w : World) : Except Fault Settings :=
  (Settings.loaded w.machine.depths.settings w.disk w.current
    (invocation.config.map Path.parse)).mapError .settings

def schemaPlace (settings : Settings) (w : World) : Except Fault Path :=
  placed (chosen invocation.schema settings.schema)
    (Discovery.located (Discovery.hasSchema w.disk) Discovery.schemaIn (.ofLocation w.current) w.current)
    .schemaNotFound

def outputPlace (settings : Settings) (w : World) : Except Fault Path :=
  placed (chosen invocation.output settings.output)
    (Discovery.located (Discovery.hasApp w.machine.depths.package w.disk) Discovery.appIn
      (.ofLocation w.current) w.current) .appNotFound

theorem settings_answers (w : World) : invocation.settings.Answers w (invocation.settled w) :=
  (Settings.load_answers _ w).withFault _

theorem schemaPath_answers (settings : Settings) (w : World) :
    (invocation.schemaPath settings).Answers w (invocation.schemaPlace settings w) := by
  unfold schemaPath schemaPlace
  cases chosen invocation.schema settings.schema with
  | some path => exact ⟨w, .refl w, rfl⟩
  | none => exact found_answers _ (Discovery.findSchema_answers _ w)

theorem outputPath_answers (settings : Settings) (w : World) :
    (invocation.outputPath settings).Answers w (invocation.outputPlace settings w) := by
  unfold outputPath outputPlace
  cases chosen invocation.output settings.output with
  | some path => exact ⟨w, .refl w, rfl⟩
  | none => exact found_answers _ (Discovery.findApp_answers _ w)

end Invocation

/-- What showing the models of a schema comes to. -/
def modelsShown (schema : Path) (models : List Model) (w : World) : Except Fault Unit :=
  if models.isEmpty then shown (w.libraries.console.read (noModelsLine schema))
  else models.forM fun model => shown ((modelTable model).mapM? w.libraries.console.read)

/-- What showing the manifest that stands at a path comes to. -/
def storedShown (path : Path) (w : World) : Except Fault Unit :=
  ((Manifest.read w.machine.depths.manifest w.disk w.current path).result.mapError
    fun _ => .manifestTooDeep).bind fun manifest =>
      (shown ((manifestTable manifest).mapM? w.libraries.console.read)).bind
        fun _ => shown (w.libraries.console.read (countLine manifest path))

/-- What showing the manifest at a path comes to. -/
def manifestShown (path : Path) (w : World) : Except Fault Unit :=
  ((w.disk.pathExists w.current path).mapError .disk).bind fun present =>
    if present then storedShown path w
    else
      (shown (w.libraries.console.read (noManifestLine path))).bind
        fun _ => shown (w.libraries.console.read adviceLine)

/-- The tables of several models are read by the console that the first one is read by. -/
theorem sayTables_reports (models : List Model) (w : World) :
    (models.forM fun model => sayTable (modelTable model)).Reports w
      (models.forM fun model => shown ((modelTable model).mapM? w.libraries.console.read)) := by
  induction models generalizing w with
  | nil => exact .pure () w
  | cons model rest ih =>
    refine (sayTable_reports _ w).bind fun _ later htold => ?_
    rw [← htold.libraries]
    exact ih later

namespace Invocation

variable (invocation : Invocation)

/-- What a command that shows models or the manifest comes to. -/
def consulted (w : World) : Except Fault Unit :=
  (invocation.settled w).bind fun settings =>
    match invocation.command with
    | .models =>
      (invocation.schemaPlace settings w).bind fun schema =>
        ((Schema.read w.disk w.current schema).mapError .schema).bind
          fun models => modelsShown schema models w
    | _ =>
      (invocation.outputPlace settings w).bind fun output =>
        manifestShown (Manifest.path output settings.manifestFile) w

theorem showModels_reports (h : invocation.command = .models) (w : World) :
    (showModels invocation).Reports w (invocation.consulted w) := by
  unfold consulted
  rw [h]
  -- Each step finds all but the log and the output as the first one found it.
  refine (invocation.settings_answers w).reports.bind fun settings later hsettings => ?_
  obtain ⟨log, printed, rfl⟩ := hsettings
  refine (invocation.schemaPath_answers settings _).reports.bind fun schema later hschema => ?_
  obtain ⟨log, printed, rfl⟩ := hschema
  refine ((Schema.ofFile_answers schema _).withFault Fault.schema).reports.bind fun models later hread => ?_
  obtain ⟨log, printed, rfl⟩ := hread
  unfold modelsShown
  split
  · exact say_reports _ _
  · exact sayTables_reports models _

theorem showStatus_reports (h : invocation.command = .status) (w : World) :
    (showStatus invocation).Reports w (invocation.consulted w) := by
  unfold consulted
  rw [h]
  refine (invocation.settings_answers w).reports.bind fun settings later hsettings => ?_
  obtain ⟨log, printed, rfl⟩ := hsettings
  refine (invocation.outputPath_answers settings _).reports.bind fun output later houtput => ?_
  obtain ⟨log, printed, rfl⟩ := houtput
  refine ((Job.ask_answers _ _).withFault Fault.disk).reports.bind fun present later hasked => ?_
  obtain ⟨log, printed, rfl⟩ := hasked
  cases present with
  | false =>
    refine (say_reports _ _).bind fun _ later hsaid => ?_
    obtain ⟨log, printed, rfl⟩ := hsaid
    exact say_reports _ _
  | true =>
    refine ((Manifest.load_answers output settings.manifestFile _).withFault
      fun _ => Fault.manifestTooDeep).reports.bind fun manifest later hloaded => ?_
    obtain ⟨log, printed, rfl⟩ := hloaded
    refine (sayTable_reports _ _).bind fun _ later hsaid => ?_
    obtain ⟨log, printed, rfl⟩ := hsaid
    exact say_reports _ _

end Invocation

end CommandLine

end ViewGen
