import ViewGen.Proofs.Blocks
import ViewGen.Proofs.Consultations

/-!
# Tables of models

What is shown of a schema is one table for each of its models, with whatever the console reads the texts of
the model as.  So a schema is shown as it is just where the console reads each of these texts as it is, and
not at all where it refuses one of them.
-/

namespace ViewGen

/-! ## Names of models -/

namespace Text

theorem isWord_of_mem_wordsFrom {a w s : List Char} (hw : ∀ c ∈ w, isBlank c = false)
    (h : a ∈ wordsFrom w s) : IsWord a := by
  -- On the text, with the letters of the word that has been begun.
  induction s generalizing w with
  | nil =>
    rw [wordsFrom] at h
    split at h
    · cases h
    · rename_i hne
      rw [List.mem_singleton.mp h]
      exact ⟨by simpa using hne, fun c hc => hw c (List.mem_reverse.mp hc)⟩
  | cons c rest ih =>
    rw [wordsFrom] at h
    split at h
    · split at h
      · exact ih (List.forall_mem_nil _) h
      · rename_i hne
        obtain rfl | h := List.mem_cons.mp h
        · exact ⟨by simpa using hne, fun d hd => hw d (List.mem_reverse.mp hd)⟩
        · exact ih (List.forall_mem_nil _) h
    · rename_i hblank
      exact ih (List.forall_mem_cons.mpr ⟨by simpa using hblank, hw⟩) h

theorem isWord_of_mem_words {line word : String} (h : word ∈ words line) : IsWord word.toList := by
  obtain ⟨chars, hchars, rfl⟩ := List.mem_map.mp h
  rw [String.toList_ofList]
  exact isWord_of_mem_wordsFrom (List.forall_mem_nil _) hchars

end Text

/-- The name of a model is a word. -/
theorem Schema.isWord_of_mem_models {text : String} {schema : Schema} {model : Model}
    (h : parse text = .ok schema) (hmodel : model ∈ schema.models) : Text.IsWord model.name.toList := by
  -- Reading by blocks names the line that each model comes from.
  have hreads := reads_parse text
  rw [h] at hreads
  obtain ⟨-, opened, later, hmodels, hlater, rfl⟩ := hreads
  rw [List.nil_append] at hmodels
  rw [hmodels] at hmodel
  obtain ⟨block, -, hname, -⟩ := exists_of_mem_right hlater hmodel
  exact Text.isWord_of_mem_words (List.mem_of_getElem? hname)

/-! ## Tables that are read as they are -/

section

variable {α β : Type} {f : α → Option β} {g : α → β}

theorem mapM_eq_map_iff {items : List α} :
    items.mapM f = some (items.map g) ↔ ∀ a ∈ items, f a = some (g a) := by
  induction items with
  | nil => simp
  | cons a rest ih =>
    cases ha : f a with
    | none => simp [ha]
    | some b => simp [List.mapM_cons, ha, ← ih, Option.bind_eq_some_iff, and_comm]

/-- The table with each text as `g` gives it. -/
def Table.map (g : α → β) (table : Table α) : Table β :=
  ⟨table.title.map g, table.headings.map g, table.rows.map (List.map g)⟩

theorem Table.mapM?_eq_map_iff {table : Table α} :
    table.mapM? f = some (table.map g) ↔ ∀ text ∈ table.texts, f text = some (g text) := by
  have hrows : table.rows.mapM (List.mapM f) = some (table.rows.map (List.map g)) ↔
      ∀ text ∈ table.rows.flatten, f text = some (g text) := by
    simp only [mapM_eq_map_iff, List.mem_flatten, forall_exists_index, and_imp]
    exact ⟨fun h text row hrow htext => h row hrow text htext,
      fun h row hrow text htext => h text row hrow htext⟩
  have hheadings := @mapM_eq_map_iff _ _ f g table.headings
  have htitle : table.title.mapM f = some (table.title.map g) ↔
      ∀ text ∈ table.title.toList, f text = some (g text) := by
    cases table.title with
    | none => simp
    | some text => cases htext : f text <;> simp [htext]
  simp only [texts, List.forall_mem_append, ← hrows, ← htitle, ← hheadings, mapM?_eq,
    Option.bind_eq_some_iff, map, Option.some.injEq, Table.mk.injEq]
  constructor
  · rintro ⟨title, hreadTitle, headings, hreadHeadings, rows, hreadRows, rfl, rfl, rfl⟩
    exact ⟨⟨hreadTitle, hreadHeadings⟩, hreadRows⟩
  · rintro ⟨⟨hreadTitle, hreadHeadings⟩, hreadRows⟩
    exact ⟨_, hreadTitle, _, hreadHeadings, _, hreadRows, rfl, rfl, rfl⟩

end

namespace CommandLine

/-- The table of a model with all its texts as they are. -/
def verbatim (model : Model) : Table (List Char) where
  title := some model.name.toList
  headings := (modelTable model).headings.map String.toList
  rows := model.fields.map fun field => (fieldRow field).map String.toList

/-- The table of a model is read as it is just where all its texts are. -/
theorem mapM?_eq_verbatim_iff {model : Model} (hname : Text.IsWord model.name.toList)
    {read : String → Option (List Char)} : (modelTable model).mapM? read = some (verbatim model) ↔
      ∀ text ∈ (modelTable model).texts, read text = some text.toList := by
  have htitle : titleOf model.name = some model.name := by
    refine if_neg fun hempty => hname.1 ?_
    rw [String.isEmpty_iff.mp hempty]
    rfl
  have hverbatim : verbatim model = (modelTable model).map String.toList := by
    simp only [verbatim, Table.map, modelTable, htitle, Option.map_some, List.map_map]
    rfl
  rw [hverbatim, Table.mapM?_eq_map_iff]

/-- A text without anything that markup could be made of: brackets, colons and control characters. -/
def IsPlain (text : String) : Prop :=
  ∀ c ∈ text.toList, c ≠ '[' ∧ c ≠ ':' ∧ 32 ≤ c.toNat

instance (text : String) : Decidable (IsPlain text) :=
  List.decidableBAll _ text.toList

/-- What is relied on of a console where texts are shown: plain ones are read as they are. -/
def ReadsPlainTexts (console : Console) : Prop :=
  ∀ text, IsPlain text → console.read text = some text.toList

theorem readsPlainTexts_uncoloured : ReadsPlainTexts .uncoloured := by
  intro text hplain
  refine Markup.read_eq_toList fun c hc => ?_
  obtain ⟨hbracket, hcolon, hprinted⟩ := hplain c hc
  have hsuppressed : Markup.isSuppressed c = false := by
    unfold Markup.isSuppressed
    simp
    omega
  exact ⟨hbracket, hcolon, hsuppressed⟩

/-! ## Showing models -/

theorem forM_sayTable {console : Console} {models : List Model} {tables : List (Table (List Char))}
    (h : List.Forall₂ (fun model table => (modelTable model).mapM? console.read = some table) models tables)
    (w : World) (hconsole : w.libraries.console = console) :
    (models.forM fun model => sayTable (modelTable model)) w =
      .ok () { w with printed := w.printed ++ tables.map console.table } := by
  induction h generalizing w with
  | nil =>
    rw [List.map_nil, List.append_nil]
    rfl
  | @cons model table models tables hread _ ih =>
    have hsay := sayTable_eq (modelTable model) w
    rw [hconsole, hread] at hsay
    have hrest := ih { w with printed := w.printed ++ [console.table table] } hconsole
    rw [List.append_assoc] at hrest
    exact (Job.bind_of_ok hsay).trans hrest

namespace Invocation

variable {invocation : Invocation} {w : World} {schema : Path} {models : List Model}

/-- The tables of all models are printed, if each of them is read. -/
theorem showModels_tables {tables : List (Table (List Char))} (hat : invocation.SchemaAt w schema)
    (hread : Schema.read w.disk w.current schema = .ok models) (hmodels : models ≠ [])
    (h : List.Forall₂ (fun model table =>
      (modelTable model).mapM? w.libraries.console.read = some table) models tables) :
    ∃ log, showModels invocation w =
      .ok () { w with log, printed := w.printed ++ tables.map w.libraries.console.table } := by
  obtain ⟨settings, hsettled, hplace⟩ := hat
  have hsettings : invocation.settings.Answers w (.ok settings) :=
    hsettled ▸ invocation.settings_answers w
  -- What the steps note differs from step to step; all else stays.
  obtain ⟨_, ⟨log, rfl⟩, hsettings⟩ := hsettings
  have hschema : (invocation.schemaPath settings).Answers { w with log } (.ok schema) :=
    hplace ▸ invocation.schemaPath_answers settings { w with log }
  obtain ⟨_, ⟨log', rfl⟩, hschema⟩ := hschema
  have hofFile : ((Schema.ofFile schema).withFault Fault.schema).Answers { w with log := log' }
      (.ok models) := by
    have hanswers := (Schema.ofFile_answers schema { w with log := log' }).withFault Fault.schema
    rw [hread] at hanswers
    exact hanswers
  obtain ⟨_, ⟨log'', rfl⟩, hofFile⟩ := hofFile
  refine ⟨log'', ?_⟩
  unfold showModels
  rw [Job.bind_of_ok hsettings, Job.bind_of_ok hschema, Job.bind_of_ok hofFile,
    if_neg (by simpa using hmodels)]
  exact forM_sayTable h { w with log := log'' } rfl

theorem consulted_models (hcommand : invocation.command = .models) (hat : invocation.SchemaAt w schema)
    (hread : Schema.read w.disk w.current schema = .ok models) :
    invocation.consulted w = modelsShown schema models w := by
  obtain ⟨settings, hsettled, hplace⟩ := hat
  unfold consulted
  rw [hcommand, hsettled]
  simp only [Except.bind, hplace, hread, Except.mapError]

end Invocation

section

variable {read : String → Option (List Char)} {models : List Model}

/-- Where no text is refused, each model has its table, and that is the model's own where each text is read
as it is. -/
theorem exists_tables (hnames : ∀ model ∈ models, Text.IsWord model.name.toList)
    (hall : ∀ model ∈ models, ∀ text ∈ (modelTable model).texts, read text ≠ none) :
    ∃ tables, List.Forall₂ (fun model table => (modelTable model).mapM? read = some table ∧
      (table = verbatim model ↔
        ∀ text ∈ (modelTable model).texts, read text = some text.toList)) models tables := by
  induction models with
  | nil => exact ⟨[], .nil⟩
  | cons model rest ih =>
    obtain ⟨hname, hnames⟩ := List.forall_mem_cons.mp hnames
    obtain ⟨hread, hall⟩ := List.forall_mem_cons.mp hall
    obtain ⟨tables, htables⟩ := ih hnames hall
    obtain ⟨table, htable⟩ := Option.ne_none_iff_exists'.mp fun hnone => by
      obtain ⟨text, htext, hrefused⟩ := Table.mapM?_eq_none.mp hnone
      exact hread text htext hrefused
    refine ⟨table :: tables, .cons ⟨htable, ?_⟩ htables⟩
    rw [← mapM?_eq_verbatim_iff hname, htable, Option.some.injEq]

theorem forall₂_verbatim (hnames : ∀ model ∈ models, Text.IsWord model.name.toList)
    (h : ∀ model ∈ models, ∀ text ∈ (modelTable model).texts, read text = some text.toList) :
    List.Forall₂ (fun model table => (modelTable model).mapM? read = some table)
      models (models.map verbatim) := by
  rw [List.forall₂_map_right_iff, List.forall₂_same]
  intro model hmodel
  exact (mapM?_eq_verbatim_iff (hnames model hmodel)).mpr (h model hmodel)

end

/-- Showing the models of a schema that has some ends well, or with a text that is refused. -/
theorem modelsShown_cases {schema : Path} {models : List Model} (h : models ≠ []) (w : World) :
    (modelsShown schema models w = .ok () ∧
        ∀ model ∈ models, ∀ text ∈ (modelTable model).texts, w.libraries.console.read text ≠ none) ∨
      (modelsShown schema models w = .error .markup ∧
        ∃ model ∈ models, ∃ text ∈ (modelTable model).texts, w.libraries.console.read text = none) := by
  have hrefused {fault : Fault} := @unexplained_modelsShown w fault schema models
  simp only [h, false_and, false_or] at hrefused
  cases hshown : modelsShown schema models w with
  | ok u =>
    refine Or.inl ⟨rfl, fun model hmodel text htext hnone => ?_⟩
    have hun := hrefused.mpr ⟨⟨model, hmodel, text, htext, hnone⟩, rfl⟩
    rw [hshown] at hun
    exact unexplained_ok hun
  | error fault =>
    obtain rfl := @FailsWith.modelsShown (· = .markup) rfl schema models w fault hshown
    exact Or.inr ⟨rfl, (hrefused.mp ⟨hshown, rfl⟩).1⟩

/-- A command line that asks for models prints the tables that showing them prints. -/
theorem execute_tables {words : List String} {invocation : Invocation} {w : World} {schema : Path}
    {models : List Model} {tables : List (Table (List Char))}
    (hwords : Invocation.ofWords words = .ok invocation) (hcommand : invocation.command = .models)
    (hat : invocation.SchemaAt w schema) (hread : Schema.read w.disk w.current schema = .ok models)
    (hmodels : models ≠ [])
    (h : List.Forall₂ (fun model table =>
      (modelTable model).mapM? w.libraries.console.read = some table) models tables) :
    ∃ log, execute words w =
      .ok 0 { w with log, printed := w.printed ++ tables.map w.libraries.console.table } := by
  obtain ⟨log, hshow⟩ := @Invocation.showModels_tables invocation { w with log := [] } schema models tables
    hat hread hmodels h
  have htask : invocation.task = showModels invocation := by
    rw [Invocation.task, hcommand]
  refine ⟨w.log ++ log.filter fun record => invocation.keeps record.level, ?_⟩
  unfold execute
  rw [hwords]
  unfold Job.notingOnly
  simp only [htask, explaining_of_ok hshow]

/-- Whatever a console makes of markup, a command line that asks for the models of a schema that has some ends
with 0 just where the console reads every text of their tables, and then has printed one table for each model
in order, with the texts that it has read.  This is the table of the model as it is just where each of its texts
is read as it is.  So where plain texts are, a schema of plain texts is shown verbatim. -/
theorem execute_models {words : List String} {invocation : Invocation} {w : World} {schema : Path}
    {models : List Model} (hwords : Invocation.ofWords words = .ok invocation)
    (hcommand : invocation.command = .models) (hat : invocation.SchemaAt w schema)
    (hread : Schema.read w.disk w.current schema = .ok models) (hmodels : models ≠ []) :
    ∃ answer, (execute words).Reports w answer ∧ (answer = .ok 0 ∨ answer = .error .markup) ∧
      (answer = .ok 0 ↔
        ∀ model ∈ models, ∀ text ∈ (modelTable model).texts, w.libraries.console.read text ≠ none) ∧
      (answer = .ok 0 → ∃ log tables, List.Forall₂ (fun model table =>
          (modelTable model).mapM? w.libraries.console.read = some table ∧
          (table = verbatim model ↔
            ∀ text ∈ (modelTable model).texts, w.libraries.console.read text = some text.toList))
          models tables ∧
        execute words w =
          .ok 0 { w with log, printed := w.printed ++ tables.map w.libraries.console.table }) ∧
      (ReadsPlainTexts w.libraries.console →
        (∀ model ∈ models, ∀ text ∈ (modelTable model).texts, IsPlain text) →
        ∃ log, execute words w = .ok 0 { w with
          log
          printed := w.printed ++
            models.map fun model => w.libraries.console.table (verbatim model) }) := by
  obtain ⟨text, parsed, -, hparse, rfl⟩ := Schema.read_eq_ok.mp hread
  have hnames : ∀ model ∈ parsed.models, Text.IsWord model.name.toList :=
    fun _ hmodel => Schema.isWord_of_mem_models hparse hmodel
  have hconsulted := Invocation.consulted_models hcommand hat hread
  have hcases := @modelsShown_cases schema parsed.models hmodels w
  have hreadable : FailsWith (·.Readable w.libraries.console) (invocation.consulted w) := by
    rw [hconsulted]
    exact .modelsShown (fun line hline => nomatch hline) schema parsed.models w
  have hreports := execute_reports w hwords (by simp [hcommand]) hreadable
  rw [hconsulted] at hreports
  refine ⟨_, hreports, ?_, ?_, ?_, ?_⟩
  · obtain ⟨hshown, -⟩ | ⟨hshown, -⟩ := hcases
    · exact Or.inl (by rw [hshown]; rfl)
    · exact Or.inr (by rw [hshown]; rfl)
  · obtain ⟨hshown, hall⟩ | ⟨hshown, model, hmodel, text, htext, hnone⟩ := hcases
    · rw [hshown]
      exact iff_of_true rfl hall
    · rw [hshown]
      exact iff_of_false (fun h => nomatch h) fun hall => hall model hmodel text htext hnone
  · intro hanswer
    obtain ⟨hshown, hall⟩ | ⟨hshown, -⟩ := hcases
    · obtain ⟨tables, htables⟩ := exists_tables hnames hall
      obtain ⟨log, hexecute⟩ := execute_tables hwords hcommand hat hread hmodels
        (htables.imp fun _ _ h => h.1)
      exact ⟨log, tables, htables, hexecute⟩
    · rw [hshown] at hanswer
      cases hanswer
  · intro hplain hall
    have htables := forall₂_verbatim hnames fun model hmodel text htext =>
      hplain text (hall model hmodel text htext)
    obtain ⟨log, hexecute⟩ := execute_tables hwords hcommand hat hread hmodels htables
    rw [List.map_map] at hexecute
    exact ⟨log, hexecute⟩

end CommandLine

/-- A model of one field, with that default text. -/
def Model.defaulting (text : String) : Model :=
  ⟨"A", [⟨"x", "String", true, false, false, some text, none⟩]⟩

/-- A world with the schema of such a model. -/
def World.defaulting (text : String) : World :=
  { World.bare with disk :=
      ⟨[(["s"], .file ("model A \x7b\n  x String @default(" ++ text ++ ")\n\x7d\n").toUTF8 0)]⟩ }

namespace CommandLine

/-- A command that shows the models of a schema. -/
def Invocation.models (schema : String) : Invocation :=
  { command := .models, verbose := false, dryRun := false, config := none, schema := some schema
    output := none, templates := none, extension := none }

/-- A plain default text is shown as it is, one in brackets can be shown as nothing, and one that is a closing
tag keeps the models from being shown. -/
theorem execute_models_defaulting :
    (∃ log, execute ["models", "-s", "s"] (.defaulting "1") =
        .ok 0 { World.defaulting "1" with
          log, printed := [Console.uncoloured.table (verbatim (.defaulting "1"))] }) ∧
      (∃ log table, execute ["models", "-s", "s"] (.defaulting "[red]") =
          .ok 0 { World.defaulting "[red]" with log, printed := [Console.uncoloured.table table] } ∧
        table.rows = [["x".toList, "String".toList, "yes".toList, [], [], []]]) ∧
      (execute ["models", "-s", "s"]).Reports (.defaulting "[/x]") (.error .markup) := by
  have hwords : Invocation.ofWords ["models", "-s", "s"] = .ok (.models "s") := by decide +kernel
  have hat (text : String) : (Invocation.models "s").SchemaAt (World.defaulting text) (Path.parse "s") :=
    ⟨.default, rfl, rfl⟩
  have hmodels (text : String) : [Model.defaulting text] ≠ [] := List.cons_ne_nil _ _
  refine ⟨?_, ?_, ?_⟩
  · have hread : Schema.read (World.defaulting "1").disk [] (Path.parse "s") = .ok [.defaulting "1"] := rfl
    obtain ⟨answer, -, -, -, -, hshown⟩ := execute_models hwords rfl (hat "1") hread (hmodels "1")
    refine hshown readsPlainTexts_uncoloured ?_
    decide
  · have hread : Schema.read (World.defaulting "[red]").disk [] (Path.parse "s") =
        .ok [.defaulting "[red]"] := rfl
    obtain ⟨answer, -, -, hzero, hshown, -⟩ :=
      execute_models hwords rfl (hat "[red]") hread (hmodels "[red]")
    obtain ⟨log, tables, htables, hexecute⟩ := hshown (hzero.mpr (by decide))
    cases htables with
    | cons htable hnone =>
      cases hnone
      refine ⟨log, _, hexecute, ?_⟩
      have hrows : ((modelTable (.defaulting "[red]")).mapM? Console.uncoloured.read).map (·.rows) =
          some [["x".toList, "String".toList, "yes".toList, [], [], []]] := by
        decide
      have hmapped := congrArg (Option.map (·.rows)) htable.1
      exact Option.some.inj (hmapped.symm.trans hrows)
  · have hread : Schema.read (World.defaulting "[/x]").disk [] (Path.parse "s") =
        .ok [.defaulting "[/x]"] := rfl
    obtain ⟨answer, hreports, hcases, hzero, -, -⟩ :=
      execute_models hwords rfl (hat "[/x]") hread (hmodels "[/x]")
    obtain hanswer | hanswer := hcases
    · refine absurd (hzero.mp hanswer) ?_
      decide
    · rw [hanswer] at hreports
      exact hreports

end CommandLine

end ViewGen
