import ViewGen.Proofs.ManifestStore
import ViewGen.Proofs.Views
import ViewGen.Run

/-!
# Deciding and placing

Under the lock a run first decides, which is a function of the world and changes nothing, and then places
what it has decided: it writes the changed views and saves the manifest.
-/

namespace ViewGen

/-! ## Reading the schema -/

namespace Schema

/-- The models of the schema file on a disk. -/
def read (disk : Disk) (current : Location) (path : Path) : Except SchemaFault (List Model) :=
  ((disk.readText current path).mapError (.ofRead path)).bind fun text =>
    ((parse text).mapError .malformed).bind fun schema => .ok schema.models

theorem read_eq_ok {disk : Disk} {current : Location} {path : Path} {models : List Model} :
    read disk current path = .ok models ↔ ∃ text schema, disk.readText current path = .ok text ∧
      parse text = .ok schema ∧ schema.models = models := by
  simp only [read, except_bind_eq_ok, except_mapError_eq_ok, Except.ok.injEq, exists_and_left]

theorem parseNoting_answers (text : String) (w : World) :
    (parseNoting text).Answers w ((parse text).bind fun schema => .ok schema.models) := by
  have hparse : (Job.ofExcept (parse text)).Answers w (parse text) := by
    refine ⟨w, .refl w, ?_⟩
    cases parse text <;> rfl
  refine hparse.bind fun schema later _ => ?_
  cases schema.unclosed with
  | none => exact ⟨later, .refl later, rfl⟩
  | some name => exact ⟨_, ⟨_, rfl⟩, rfl⟩

theorem ofFile_answers (path : Path) (w : World) :
    (ofFile path).Answers w (read w.disk w.current path) := by
  have hread : (Job.readText path).Answers w (w.disk.readText w.current path) := by
    refine ⟨w, .refl w, ?_⟩
    unfold Job.readText
    cases w.disk.readText w.current path <;> rfl
  refine (hread.withFault _).bind fun text later _ => ?_
  have hparse := (parseNoting_answers text later).withFault SchemaFault.malformed
  cases hp : parse text with
  | error cause =>
    rw [hp] at hparse
    exact hparse.bind_error
  | ok schema =>
    rw [hp] at hparse
    change Job.Answers _ later (.ok schema.models) at hparse
    show Job.Answers _ later ((Except.ok schema.models).bind Except.ok)
    exact hparse.bind fun models last _ => ⟨_, ⟨_, rfl⟩, rfl⟩

end Schema

/-- Whether a run can fail so only before it writes a view. -/
def RunFault.BeforeWriting : RunFault → Prop
  | .write _ => False
  | .save _ => False
  | _ => True

namespace RunOptions

variable {options : RunOptions} {w w' : World} {result : Reconciliation} {fault : RunFault}

def lock (options : RunOptions) : Lock :=
  .ofManifest options.output options.manifestFile options.timeout

def manifestPath (options : RunOptions) : Path :=
  Manifest.path options.output options.manifestFile

/-! ## Deciding -/

/-- What stands for the manifest in a world. -/
def manifestIn (options : RunOptions) (w : World) : Manifest.Loaded :=
  Manifest.read w.machine.depths.manifest w.disk w.current options.manifestPath

/-- The renderings of a run that finds this world. -/
def renderings (options : RunOptions) (w : World) : Renderings TemplateFault :=
  options.templates.render w.libraries.engine w.disk w.current

/-- What a run that finds this world decides before it writes anything. -/
def decided (options : RunOptions) (w : World) : Except RunFault Reconciliation :=
  ((options.manifestIn w).result.mapError fun _ => RunFault.manifestTooDeep).bind fun previous =>
    ((Schema.read w.disk w.current options.schema).mapError .schema).bind fun models =>
      (reconcileAll models previous (options.renderings w) options.extension).mapError .template

theorem decided_eq_ok :
    options.decided w = .ok result ↔ ∃ previous models,
      (options.manifestIn w).result = .ok previous ∧
      Schema.read w.disk w.current options.schema = .ok models ∧
      reconcileAll models previous (options.renderings w) options.extension = .ok result := by
  simp only [decided, except_bind_eq_ok, except_mapError_eq_ok, exists_and_left]

/-- Deciding fails in the first of its steps that fails. -/
theorem decided_eq_error :
    options.decided w = .error fault ↔
      (∃ cause, (options.manifestIn w).result = .error cause ∧ .manifestTooDeep = fault) ∨
      ∃ previous, (options.manifestIn w).result = .ok previous ∧
        ((∃ cause, Schema.read w.disk w.current options.schema = .error cause ∧
            .schema cause = fault) ∨
          ∃ models, Schema.read w.disk w.current options.schema = .ok models ∧
            ∃ cause, reconcileAll models previous (options.renderings w) options.extension =
              .error cause ∧ .template cause = fault) := by
  simp only [decided, except_bind_eq_error, except_mapError_eq_ok, except_mapError_eq_error]

/-- A run that cannot decide has not written anything. -/
theorem decided_beforeWriting (h : options.decided w = .error fault) :
    fault.BeforeWriting := by
  obtain ⟨-, -, rfl⟩ | ⟨-, -, ⟨cause, -, rfl⟩ | ⟨-, -, cause, -, rfl⟩⟩ := decided_eq_error.mp h
  · trivial
  · trivial
  · trivial

/-- What a run does with its decisions. -/
def place (options : RunOptions) (result : Reconciliation) : Job RunFault Reconciliation := do
  if options.dryRun then
    Job.note .info "Dry run: manifest not saved"
    pure result
  else
    match ← writeViews result options.output with
    | (_, .error fault) => throw (.write fault)
    | (result, .ok _) =>
      let _ ← (Manifest.save options.output result.manifest options.manifestFile).withFault .save
      pure result

section

variable {ε : Type} {models : List Model} {previous : Manifest} {render : Renderings ε}
  {extension : String}

/-- Generating views is deciding, which only notes, and then writing. -/
theorem generateViews_of_ok (output : Path) (dryRun : Bool)
    (h : reconcileAll models previous render extension = .ok result) (w : World) :
    ∃ start, w.Noted start ∧
      generateViews models output render previous extension dryRun w =
        (if dryRun then pure result
          else do
            match ← writeViews result output with
            | (result, .ok _) => pure result
            | (_, .error fault) => throw (.write fault) : Job (GenerateFault ε) _) start := by
  have hdecide := (reconcileNoting_answers models previous render extension w).withFault
    GenerateFault.render
  rw [h] at hdecide
  exact hdecide.bind_ok

theorem generateViews_of_error (output : Path) (dryRun : Bool) {cause : ε}
    (h : reconcileAll models previous render extension = .error cause) (w : World) :
    (generateViews models output render previous extension dryRun).Answers w
      (.error (.render cause)) := by
  have hdecide := (reconcileNoting_answers models previous render extension w).withFault
    GenerateFault.render
  rw [h] at hdecide
  exact hdecide.bind_error

/-- What a real run writes is what writing the views writes, and so is its fault. -/
theorem generateViews_real (output : Path)
    (h : reconcileAll models previous render extension = .ok result) (w : World) :
    ∃ start later wrote ended, w.Noted start ∧
      (∀ δ : Type, (writeViews result output : Job δ _) start = .ok (wrote, ended) later) ∧
      generateViews models output render previous extension false w =
        match ended with
        | .ok _ => .ok wrote later
        | .error fault => .error (.write fault) later := by
  obtain ⟨start, hn, hgenerate⟩ := generateViews_of_ok output false h w
  obtain ⟨later, -, hwrite⟩ := writeViews_eq result output start
  refine ⟨start, later, _, _, hn, hwrite, ?_⟩
  rw [hgenerate, if_neg (by decide), Job.bind_of_ok (hwrite _)]
  cases (writeAll start.current start.now output result.changed start.disk).2.2 with
  | error fault => rfl
  | ok u => rfl

end

/-- What a run does once it has read the manifest and the schema. -/
def generate (options : RunOptions) (models : List Model) (previous : Manifest)
    (render : Renderings TemplateFault) : Job RunFault Reconciliation := do
  let result ← (generateViews models options.output render previous options.extension
    options.dryRun).withFault .ofGenerate
  if options.dryRun then
    Job.note .info "Dry run: manifest not saved"
  else
    let _ ← (Manifest.save options.output result.manifest options.manifestFile).withFault .save
  pure result

section

variable {models : List Model} {previous : Manifest} {render : Renderings TemplateFault}

theorem generate_of_error {cause : TemplateFault}
    (h : reconcileAll models previous render options.extension = .error cause) (w : World) :
    (options.generate models previous render).Answers w (.error (.template cause)) :=
  ((generateViews_of_error options.output options.dryRun h w).withFault RunFault.ofGenerate).bind_error

theorem generate_of_ok (h : reconcileAll models previous render options.extension = .ok result)
    (w : World) : ∃ start, w.Noted start ∧
      options.generate models previous render w = options.place result start := by
  unfold generate place
  cases options.dryRun with
  | true =>
    obtain ⟨start, hn, hgenerate⟩ := generateViews_of_ok options.output true h w
    refine ⟨start, hn, ?_⟩
    rw [Job.bind_of_ok (Job.withFault_eq_ok.mpr hgenerate)]
    rfl
  | false =>
    obtain ⟨start, later, wrote, ended, hn, hwrite, hgenerate⟩ :=
      generateViews_real options.output h w
    refine ⟨start, hn, ?_⟩
    -- Both write the same views, and the fault of a view is that of the run.
    rw [if_neg (by decide), Job.bind_of_ok (hwrite RunFault)]
    cases ended with
    | error fault => exact Job.bind_of_error (Job.withFault_eq_error.mpr ⟨_, hgenerate, rfl⟩)
    | ok paths => exact Job.bind_of_ok (Job.withFault_eq_ok.mpr hgenerate)

end

theorem runLocked_eq_generate (options : RunOptions) :
    runLocked options = (do
      let previous ← (Manifest.load options.output options.manifestFile).withFault
        fun _ => .manifestTooDeep
      let models ← (Schema.ofFile options.schema).withFault .schema
      let world ← get
      options.generate models previous (options.renderings world)) :=
  rfl

theorem runLocked_eq (options : RunOptions) (w : World) :
    ∃ later, w.Noted later ∧ runLocked options w =
      match options.decided w with
      | .error fault => .error fault later
      | .ok result => options.place result later := by
  rw [runLocked_eq_generate]
  -- Each of the three readings is either the fault that ends the run or handed on.
  have hload : Job.Answers _ w (Except.mapError _ (options.manifestIn w).result) :=
    (Manifest.load_answers options.output options.manifestFile w).withFault
      fun _ => RunFault.manifestTooDeep
  cases hprevious : (options.manifestIn w).result with
  | error cause =>
    rw [hprevious] at hload
    rw [decided_eq_error.mpr (Or.inl ⟨cause, hprevious, rfl⟩)]
    exact hload.bind_error
  | ok previous =>
    rw [hprevious] at hload
    obtain ⟨w1, h1, hload⟩ := hload.bind_ok
    rw [hload]
    have hschema := (Schema.ofFile_answers options.schema w1).withFault RunFault.schema
    rw [h1.disk, h1.current] at hschema
    cases hmodels : Schema.read w.disk w.current options.schema with
    | error cause =>
      rw [hmodels] at hschema
      obtain ⟨w2, h2, hschema⟩ := hschema.bind_error
      rw [decided_eq_error.mpr (Or.inr ⟨previous, hprevious, Or.inl ⟨cause, hmodels, rfl⟩⟩)]
      exact ⟨w2, h1.trans h2, hschema⟩
    | ok models =>
      rw [hmodels] at hschema
      obtain ⟨w2, h2, hschema⟩ := hschema.bind_ok
      have hnoted := h1.trans h2
      have hget : (get : Job RunFault World) w2 = .ok w2 w2 := rfl
      have hrender : options.renderings w2 = options.renderings w := by
        rw [renderings, hnoted.libraries, hnoted.disk, hnoted.current]
        rfl
      rw [hschema, Job.bind_of_ok hget, hrender]
      cases hr : reconcileAll models previous (options.renderings w) options.extension with
      | error cause =>
        obtain ⟨w3, h3, hgenerate⟩ := generate_of_error hr w2
        rw [decided_eq_error.mpr
          (Or.inr ⟨previous, hprevious, Or.inr ⟨models, hmodels, cause, hr, rfl⟩⟩)]
        exact ⟨w3, hnoted.trans h3, hgenerate⟩
      | ok result =>
        obtain ⟨w3, h3, hgenerate⟩ := generate_of_ok hr w2
        rw [decided_eq_ok.mpr ⟨previous, models, hprevious, hmodels, hr⟩]
        exact ⟨w3, hnoted.trans h3, hgenerate⟩

/-! ## Placing -/

theorem place_dryRun (hdry : options.dryRun = true) (result : Reconciliation) (w : World) :
    (options.place result).Answers w (.ok result) := by
  unfold place
  rw [hdry]
  exact ⟨_, ⟨_, rfl⟩, rfl⟩

/-- The world after the changed views have been written, as far as that went. -/
def wrote (options : RunOptions) (result : Reconciliation) (w : World) : World :=
  { w with disk := (writeAll w.current w.now options.output result.changed w.disk).1 }

@[simp] theorem wrote_current (options : RunOptions) (result : Reconciliation) (w : World) :
    (options.wrote result w).current = w.current := rfl

theorem wrote_noted {noted : World} (options : RunOptions) (result : Reconciliation)
    (hn : w.Noted noted) :
    (options.wrote result w).Noted (options.wrote result noted) := by
  obtain ⟨log, rfl⟩ := hn
  exact ⟨log, rfl⟩

theorem place_eq_ok {r : Reconciliation} (hreal : options.dryRun = false)
    (h : options.place result w = .ok r w') :
    (writeAll w.current w.now options.output result.changed w.disk).2.1 = result.changed ∧
      Manifest.Written options.manifestPath options.manifestFile result.manifest
        (options.wrote result w) w' ∧
      r = { result with written := result.written ++ result.changed.map (·.path) } := by
  unfold place at h
  obtain ⟨later, hn, hwrite⟩ := writeViews_eq result options.output w
  rw [hreal, if_neg (by decide), Job.bind_of_ok (hwrite RunFault)] at h
  have hinitial := writeAll_initial w.current w.now options.output result.changed w.disk
  cases hended : (writeAll w.current w.now options.output result.changed w.disk).2.2 with
  | error fault =>
    rw [hended] at h
    cases h
  | ok u =>
    have hall := hinitial.2 hended
    rw [hended, hall] at h
    obtain ⟨_, w2, hsave, h⟩ := Job.bind_eq_ok.mp h
    obtain ⟨rfl, rfl⟩ := Job.pure_eq_ok.mp h
    have hwritten := (Manifest.save_eq_ok (Job.withFault_eq_ok.mp hsave)).2
    exact ⟨hall, hwritten.of_noted hn, rfl⟩

/-- All is placed if the changed views can be written and the manifest can be saved after that. -/
theorem place_of_writeAll (hreal : options.dryRun = false) {done : Disk}
    (hall : writeAll w.current w.now options.output result.changed w.disk =
      (done, result.changed, .ok ()))
    (hwrite : ∀ later, World.Noted { w with disk := done } later →
      ∃ saved, Manifest.write options.manifestPath options.manifestFile result.manifest later =
        .ok () saved) : ∃ r later, options.place result w = .ok r later := by
  obtain ⟨middle, hn, hviews⟩ := writeViews_eq result options.output w
  rw [hall] at hn hviews
  obtain ⟨saved, hsaved⟩ := hwrite middle hn
  obtain ⟨last, hlast⟩ := Manifest.save_of_write hsaved
  unfold place
  rw [hreal, if_neg (by decide), Job.bind_of_ok (hviews RunFault)]
  exact ⟨_, _, Job.bind_of_ok (Job.withFault_eq_ok.mpr hlast)⟩

/-- A run that fails while it writes has written the first views and no manifest. -/
theorem place_error (h : options.place result w = .error fault w') :
    options.dryRun = false ∧ ((∃ cause, fault = .write cause) ∨ ∃ cause, fault = .save cause) ∧
      (options.wrote result w).Follows ∅ w' := by
  cases hdry : options.dryRun with
  | true =>
    obtain ⟨later, -, hplace⟩ := place_dryRun hdry result w
    rw [hplace] at h
    cases h
  | false =>
    unfold place at h
    obtain ⟨later, hn, hwrite⟩ := writeViews_eq result options.output w
    have hnoted : (options.wrote result w).Follows ∅ later := hn.follows ∅
    rw [hdry, if_neg (by decide), Job.bind_of_ok (hwrite RunFault)] at h
    cases hended : (writeAll w.current w.now options.output result.changed w.disk).2.2 with
    | error cause =>
      rw [hended] at h
      cases h
      exact ⟨rfl, Or.inl ⟨cause, rfl⟩, hnoted⟩
    | ok u =>
      rw [hended] at h
      -- All views are written, so it is the manifest that cannot be saved.
      obtain hsave | ⟨_, w2, -, h⟩ := Job.bind_eq_error.mp h
      · obtain ⟨cause, hfault, rfl⟩ := Job.withFault_eq_error.mp hsave
        exact ⟨rfl, Or.inr ⟨cause, rfl⟩, hnoted.trans (Manifest.save_error hfault)⟩
      · cases h

theorem wrote_follows (options : RunOptions) (result : Reconciliation) (w : World) :
    w.Follows (placesOf options.output
      (writeAll w.current w.now options.output result.changed w.disk).2.1 w.current)
      (options.wrote result w) :=
  ⟨rfl, writeAll_grows w.current w.now options.output result.changed w.disk⟩

/-- Placing makes directories and writes files, and removes none. -/
theorem place_confined (options : RunOptions) (result : Reconciliation) :
    (options.place result).Confined fun _ => Set.univ := by
  intro w
  have hwrote := (options.wrote_follows result w).mono (Set.subset_univ _)
  cases hplace : options.place result w with
  | error fault last =>
    obtain ⟨-, -, hlast⟩ := place_error hplace
    rw [Job.after_of_error hplace]
    exact hwrote.trans (hlast.mono (Set.subset_univ _))
  | ok r last =>
    rw [Job.after_of_ok hplace]
    cases hdry : options.dryRun with
    | true =>
      exact ((place_dryRun hdry result w).of_ok hplace).2.follows _
    | false =>
      obtain ⟨-, hwritten, -⟩ := place_eq_ok hdry hplace
      exact hwrote.trans (hwritten.follows.mono (Set.subset_univ _))

end RunOptions

end ViewGen
