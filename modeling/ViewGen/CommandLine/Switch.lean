/-!
# Commands and their options
-/

namespace ViewGen.CommandLine

inductive Switch where
  | help
  | config
  | verbose
  | schema
  | output
  | templates
  | extension
  | dryRun
deriving DecidableEq, Repr

namespace Switch

/-- All names of an option. A short name is a dash and a letter, a long one starts with two dashes. -/
def names : Switch → List String
  | .help => ["--help", "-h"]
  | .config => ["--config", "-c"]
  | .verbose => ["--verbose", "-v"]
  | .schema => ["--schema", "-s"]
  | .output => ["--output", "-o"]
  | .templates => ["--templates", "-t"]
  | .extension => ["--extension"]
  | .dryRun => ["--dry-run"]

/-- Whether an option comes with a value. -/
def takesValue : Switch → Bool
  | .help | .verbose | .dryRun => false
  | .config | .schema | .output | .templates | .extension => true

end Switch

inductive Command where
  | generate
  | models
  | status
deriving DecidableEq, Repr

namespace Command

def all : List Command := [.generate, .models, .status]

def name : Command → String
  | .generate => "generate"
  | .models => "models"
  | .status => "status"

def ofName? (name : String) : Option Command :=
  all.find? (·.name == name)

/-- The options that can follow the name of a command. -/
def switches : Command → List Switch
  | .generate => [.help, .schema, .output, .templates, .extension, .dryRun]
  | .models => [.help, .schema]
  | .status => [.help, .output]

end Command

/-- The options that stand before the name of a command. -/
def leadingSwitches : List Switch := [.help, .config, .verbose]

end ViewGen.CommandLine
