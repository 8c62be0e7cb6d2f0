import ViewGen.CommandLine.Commands

/-!
# Executing a command line
-/

namespace ViewGen.CommandLine

abbrev ExitStatus := Nat

def Ending.status : Ending → ExitStatus
  | .help => 0
  | .misuse => 2

/-- Explains the fault of a job that can be explained. -/
def explaining (job : Job Fault Unit) : Job Fault ExitStatus := do
  match ← job.outcome with
  | .ok () => pure 0
  | .error fault =>
    match fault.explanation? (← get).libraries.console with
    | some line => do
      say line
      pure 1
    | none => throw fault

namespace Invocation

def task (invocation : Invocation) : Job Fault Unit :=
  match invocation.command with
  | .generate => generate invocation
  | .models => showModels invocation
  | .status => showStatus invocation

/-- Whether notes of a level are kept. -/
def keeps (invocation : Invocation) (level : Level) : Bool :=
  invocation.verbose || level == .warning

end Invocation

/-- Does what a command line asks for, and gives the status to exit with. -/
def execute (words : List String) : Job Fault ExitStatus :=
  match Invocation.ofWords words with
  | .error ending => pure ending.status
  | .ok invocation => (explaining invocation.task).notingOnly invocation.keeps

end ViewGen.CommandLine
