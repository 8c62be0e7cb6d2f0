import ViewGen.Schema.Parser
import ViewGen.World

/-!
# Schema files
-/

namespace ViewGen

inductive SchemaFault where
  | cannotRead (path : Path) (cause : ReadFault)
  | embeddedNul
  | malformed (cause : SyntaxFault)
deriving DecidableEq, Repr

def SchemaFault.message : SchemaFault → String
  | .cannotRead path cause => "Cannot read schema file " ++ path.render ++ ": " ++ cause.message
  | .embeddedNul => DiskFault.embeddedNul.message
  | .malformed cause => cause.message

def SchemaFault.ofRead (path : Path) : ReadFault → SchemaFault
  | .disk .embeddedNul => .embeddedNul
  | cause => .cannotRead path cause

namespace Schema

/-- Parses a schema text and notes a model left open at its end. -/
def parseNoting (text : String) : Job SyntaxFault (List Model) := do
  let schema ← Job.ofExcept (parse text)
  match schema.unclosed with
  | some name => Job.note .debug ("Model '" ++ name ++ "' not closed before end of schema")
  | none => pure ()
  pure schema.models

/-- The models of a schema file. -/
def ofFile (path : Path) : Job SchemaFault (List Model) := do
  let text ← (Job.readText path).withFault (.ofRead path)
  let models ← (parseNoting text).withFault .malformed
  Job.note .info ("Parsed " ++ toString models.length ++ " models from " ++ path.render)
  pure models

end Schema

end ViewGen
