import ViewGen.CommandLine.Fault
import ViewGen.CommandLine.Invocation

/-!
# Commands

An option counts more than the settings, and these count more than what is found from the current
directory upwards.
-/

namespace ViewGen.CommandLine

/-- Prints what markup is read as. Nothing of it is printed if it is refused. -/
def say (markup : String) : Job Fault Unit := do
  let console := (← get).libraries.console
  match console.read markup with
  | some text => Job.print (console.line text)
  | none => throw .markup

/-- Prints a table, unless one of its texts is refused. -/
def sayTable (table : Table String) : Job Fault Unit := do
  let console := (← get).libraries.console
  match table.mapM? console.read with
  | some table => Job.print (console.table table)
  | none => throw .markup

/-- The path that an option names, or else the settings. -/
def chosen (option : Option String) (setting : Option Path) : Option Path :=
  match option with
  | some text => some (Path.parse text)
  | none => setting

/-- What is found from the current directory upwards. -/
def found (search : Path → Job Discovery.Fault (Option Path)) (missing : Fault) :
    Job Fault Path := do
  let world ← get
  match ← (search (.ofLocation world.current)).withFault .discovery with
  | some path => pure path
  | none => throw missing

namespace Invocation

def settings (invocation : Invocation) : Job Fault Settings :=
  (Settings.load (invocation.config.map Path.parse)).withFault .settings

def schemaPath (invocation : Invocation) (settings : Settings) : Job Fault Path :=
  match chosen invocation.schema settings.schema with
  | some path => pure path
  | none => found Discovery.findSchema .schemaNotFound

def outputPath (invocation : Invocation) (settings : Settings) : Job Fault Path :=
  match chosen invocation.output settings.output with
  | some path => pure path
  | none => found Discovery.findApp .appNotFound

def templateSource (invocation : Invocation) (settings : Settings) : TemplateSource :=
  match chosen invocation.templates settings.templates with
  | some path => .directory path
  | none => .bundled

def runOptions (invocation : Invocation) (settings : Settings) (schema output : Path) :
    RunOptions :=
  { schema, output
    templates := invocation.templateSource settings
    extension := invocation.extension.getD settings.extension
    manifestFile := settings.manifestFile
    timeout := .real settings.lockTimeout
    dryRun := invocation.dryRun }

end Invocation

/-! ### Generating -/

/-- The line about a view after a run. -/
def viewLine (dryRun : Bool) (view : RenderedView) : String :=
  let name := view.model ++ view.kind.name
  match view.decision with
  | .changed =>
    "  [green]" ++ (if dryRun then "would update" else "updated") ++ "[/green]  " ++ name ++
      " [dim]" ++ view.path.render ++ "[/dim]"
  | .unchanged => "  [dim]unchanged  " ++ name ++ "[/dim]"

/-- The line that counts the views of a run. -/
def summaryLine (dryRun : Bool) (result : Reconciliation) : String :=
  let changed := toString result.changed.length
  let unchanged := toString result.unchanged.length
  if dryRun then
    "[yellow]Dry run:[/yellow] " ++ changed ++ " to write, " ++ unchanged ++ " unchanged"
  else
    "[bold green]v[/bold green] Generation complete: " ++ changed ++ " written, " ++ unchanged ++
      " unchanged"

def generate (invocation : Invocation) : Job Fault Unit := do
  let settings ← invocation.settings
  let schema ← invocation.schemaPath settings
  let output ← invocation.outputPath settings
  say ("Schema: [cyan]" ++ schema.render ++ "[/cyan]")
  say ("Output: [cyan]" ++ output.render ++ "[/cyan]")
  let result ← (run (invocation.runOptions settings schema output)).withFault .run
  result.views.forM fun view => say (viewLine invocation.dryRun view)
  say ""
  say (summaryLine invocation.dryRun result)

/-! ### Showing models -/

def yesOrBlank (answer : Bool) : String :=
  if answer then "yes" else ""

def typeLabel (field : Field) : String :=
  if field.isList then field.baseType ++ "[]" else field.baseType

def relationLabel (relation : Relation) : String :=
  relation.cardinality.name ++ " -> " ++ relation.relatedModel

def fieldRow (field : Field) : List String :=
  [field.name, typeLabel field, yesOrBlank field.isRequired, yesOrBlank field.isUnique,
    field.defaultText.getD "", (field.relation.map relationLabel).getD ""]

/-- An empty title is none. -/
def titleOf (text : String) : Option String :=
  if text.isEmpty then none else some text

def modelTable (model : Model) : Table String :=
  { title := titleOf model.name
    headings := ["Field", "Type", "Required", "Unique", "Default", "Relation"]
    rows := model.fields.map fieldRow }

/-- The line about a schema without models. -/
def noModelsLine (schema : Path) : String :=
  "[yellow]No models found in " ++ schema.render ++ "[/yellow]"

def showModels (invocation : Invocation) : Job Fault Unit := do
  let settings ← invocation.settings
  let schema ← invocation.schemaPath settings
  let models ← (Schema.ofFile schema).withFault .schema
  if models.isEmpty then say (noModelsLine schema)
  else models.forM fun model => sayTable (modelTable model)

/-! ### Showing the manifest -/

/-- Characters of a fingerprint that are shown. -/
def shownDigits : Nat := 12

def entryRow (entry : ManifestEntry) : List String :=
  [entry.model.shown, entry.viewType.shown, (entry.hash.take shownDigits).shown]

def manifestTable (manifest : Manifest) : Table String :=
  { title := some ("Manifest v" ++ manifest.version.shown)
    headings := ["Model", "View", "Hash"]
    rows := manifest.entries.map entryRow }

/-- The line that counts the views of a manifest. -/
def countLine (manifest : Manifest) (path : Path) : String :=
  "\n" ++ toString manifest.entries.length ++ " views tracked in " ++ path.render

/-- The line about a manifest that is missing. -/
def noManifestLine (path : Path) : String :=
  "[yellow]No manifest at " ++ path.render ++ ".[/yellow]"

/-- What to do about a manifest that is missing. -/
def adviceLine : String :=
  "[dim]Run[/dim] [cyan]ramp generate[/cyan] [dim]first.[/dim]"

def showStatus (invocation : Invocation) : Job Fault Unit := do
  let settings ← invocation.settings
  let output ← invocation.outputPath settings
  let path := Manifest.path output settings.manifestFile
  let present ← (Job.ask fun disk current => disk.pathExists current path).withFault .disk
  if present then
    let manifest ←
      (Manifest.load output settings.manifestFile).withFault fun _ => .manifestTooDeep
    sayTable (manifestTable manifest)
    say (countLine manifest path)
  else
    say (noManifestLine path)
    say adviceLine

end ViewGen.CommandLine
