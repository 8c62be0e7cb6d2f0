import ViewGen.Discovery
import ViewGen.Run
import ViewGen.Settings

/-!
# Faults of commands

Most faults are explained in a line and end the command with a status of failure. The others are left
to whoever runs the command.
-/

namespace ViewGen.CommandLine

inductive Fault where
  | settings (fault : SettingsFault)
  | discovery (fault : Discovery.Fault)
  | schemaNotFound
  | appNotFound
  | schema (fault : SchemaFault)
  | run (fault : RunFault)
  | disk (fault : DiskFault)
  | manifestTooDeep
  | markup
deriving DecidableEq, Repr

namespace Fault

/-- The text of a fault, explained or not. -/
def message : Fault → String
  | .settings fault => fault.message
  | .discovery (.disk fault) => fault.message
  | .discovery .tooDeep => "package file nested too deeply"
  | .schemaNotFound =>
    "Could not find prisma/schema.prisma. Run inside a Prisma project or pass --schema."
  | .appNotFound =>
    "Could not find the Remix app directory. Run inside a Remix project or pass --output."
  | .schema fault => fault.message
  | .run fault => fault.message
  | .disk fault => fault.message
  | .manifestTooDeep => RunFault.manifestTooDeep.message
  | .markup => "a closing tag closes nothing"

/-- Of the faults of the disk, only a missing file and an impossible name are explained. -/
def explainDisk? : DiskFault → Option String
  | .system .notFound => some (Errno.message .notFound)
  | .embeddedNul => some (DiskFault.message .embeddedNul)
  | .system _ => none

def explainSettings? : SettingsFault → Option String
  | .disk fault => explainDisk? fault
  | .tooDeep => none
  | fault => some fault.message

def explainDiscovery? : Discovery.Fault → Option String
  | .disk fault => explainDisk? fault
  | .tooDeep => none

def explainTemplate? : TemplateFault → Option String
  | .raised _ => none
  | fault => some fault.message

def explainLock? : LockFault → Option String
  | .timeout file waited => some (LockFault.message (.timeout file waited))
  | .cannotCreate file cause => some (LockFault.message (.cannotCreate file cause))
  | _ => none

def explainSchema? : SchemaFault → Option String
  | .embeddedNul => none
  | fault => some fault.message

def explainWrite? : WriteFault → Option String
  | .embeddedNul => none
  | fault => some fault.message

def explainSave? : Manifest.SaveFault → Option String
  | .embeddedNul => none
  | fault => some fault.message

/-- The explanation of a failed run. -/
def explainRun? : RunFault → Option String
  | .lock fault => explainLock? fault
  | .manifestTooDeep => none
  | .schema fault => explainSchema? fault
  | .template fault => explainTemplate? fault
  | .write fault => explainWrite? fault
  | .save fault => explainSave? fault

/-- The markup that tells of an error before a run. -/
def errorLine (console : Console) (message : String) : String :=
  "[red]Error: " ++ console.escape message ++ "[/red]"

/-- The markup that tells of a failed run. -/
def failureLine (console : Console) (message : String) : String :=
  "[bold red]x[/bold red] " ++ console.escape message

/-- The markup that explains a fault, if it is one to explain. -/
def explanation? (console : Console) : Fault → Option String
  | .settings fault => (explainSettings? fault).map (errorLine console)
  | .discovery fault => (explainDiscovery? fault).map (errorLine console)
  | .schemaNotFound => some (errorLine console (message .schemaNotFound))
  | .appNotFound => some (errorLine console (message .appNotFound))
  | .schema fault => some (errorLine console fault.message)
  | .run fault => (explainRun? fault).map (failureLine console)
  | .disk _ => none
  | .manifestTooDeep => none
  | .markup => none

end Fault

end ViewGen.CommandLine
