import ViewGen.Lock.Hold
import ViewGen.Manifest.Store
import ViewGen.Reconcile
import ViewGen.Schema.File
import ViewGen.Template.Source

/-!
# Generation runs

A run takes the lock, loads the manifest, reads the schema, writes the changed views, saves the next
manifest and releases the lock. The manifest is saved only after every view is written.
-/

namespace ViewGen

structure RunOptions where
  schema : Path
  output : Path
  templates : TemplateSource
  extension : String
  manifestFile : String
  timeout : Timeout
  dryRun : Bool
deriving DecidableEq, Repr

/-- Why a run fails. -/
inductive RunFault where
  | lock (fault : LockFault)
  /-- The manifest nests too deeply to be read at all. -/
  | manifestTooDeep
  | schema (fault : SchemaFault)
  | template (fault : TemplateFault)
  | write (fault : WriteFault)
  | save (fault : Manifest.SaveFault)
deriving DecidableEq, Repr

namespace RunFault

def message : RunFault → String
  | .lock fault => fault.message
  | .manifestTooDeep => "manifest nested too deeply"
  | .schema fault => fault.message
  | .template fault => fault.message
  | .write fault => fault.message
  | .save fault => fault.message

def ofGenerate : GenerateFault TemplateFault → RunFault
  | .render fault => .template fault
  | .write fault => .write fault

end RunFault

/-- What a run does while it holds the lock. -/
def runLocked (options : RunOptions) : Job RunFault Reconciliation := do
  let previous ←
    (Manifest.load options.output options.manifestFile).withFault fun _ => .manifestTooDeep
  let models ← (Schema.ofFile options.schema).withFault .schema
  let world ← get
  let render := options.templates.render world.libraries.engine world.disk world.current
  let result ← (generateViews models options.output render previous options.extension
    options.dryRun).withFault .ofGenerate
  if options.dryRun then
    Job.note .info "Dry run: manifest not saved"
  else
    let _ ← (Manifest.save options.output result.manifest options.manifestFile).withFault .save
  pure result

/-- Generates the views of all models of a schema. -/
def run (options : RunOptions) : Job RunFault Reconciliation := do
  let lock := Lock.ofManifest options.output options.manifestFile options.timeout
  let result ← (lock.during (runLocked options)).withFault .lock
  Job.ofExcept result

end ViewGen
