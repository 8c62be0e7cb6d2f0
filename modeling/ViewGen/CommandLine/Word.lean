import ViewGen.CommandLine.Switch
import ViewGen.Text.CodePoints

/-!
# Words of a command line

Before any option is obeyed, every word is classified, on its own.
-/

namespace ViewGen.CommandLine

/-- How a command line that names no task ends. -/
inductive Ending where
  | help
  | misuse
deriving DecidableEq, Repr

/-- What a word holds after the name of an option. -/
inductive Attachment where
  | nothing
  /-- A value after an equals sign. -/
  | value (text : List Char)
  /-- Letters right after a short name: a value, or more options. -/
  | letters (text : List Char)
deriving DecidableEq, Repr

inductive Word where
  | plain
  /-- After this word all are plain. -/
  | divider
  | option (switch : Switch) (attachment : Attachment)
  | unknown
deriving DecidableEq, Repr

/-- The option of exactly that name. -/
def named? (switches : List Switch) (name : List Char) : Option Switch :=
  switches.find? (·.names.contains (String.ofList name))

/-- The options with a name that starts so. -/
def abbreviated (switches : List Switch) (start : List Char) : List Switch :=
  switches.filter (·.names.any fun name => start.isPrefixOf name.toList)

/-- A word up to its first equals sign, and what follows that. -/
def cutAtEquals (s : List Char) : List Char × Option (List Char) :=
  match s.dropWhile (· ≠ '=') with
  | _ :: value => (s.takeWhile (· ≠ '='), some value)
  | [] => (s, none)

/-- Whether a word is a negative number, of which a line feed at its end is no part. -/
def isNegativeNumber (s : List Char) : Bool :=
  let s := if s.getLast? = some '\n' then s.dropLast else s
  match s with
  | '-' :: rest =>
    match rest.dropWhile Text.isScriptDigit with
    | [] => !rest.isEmpty
    | '.' :: fraction => !fraction.isEmpty && fraction.all Text.isScriptDigit
    | _ => false
  | _ => false

/-- A word that starts with a dash and names no option is plain if it is a negative number or holds
a blank. -/
def classifyOther (s : List Char) : Word :=
  if isNegativeNumber s || s.contains ' ' then .plain else .unknown

/-- A word that is not a name but starts with two dashes can abbreviate a name. -/
def classifyLong (switches : List Switch) (s : List Char) : Except Ending Word :=
  let (start, value) := cutAtEquals s
  match abbreviated switches start with
  | [] => .ok (classifyOther s)
  | [switch] => .ok (.option switch (match value with
      | some text => .value text
      | none => .nothing))
  | _ => .error .misuse

/-- A word that is not a name but starts with one dash can start with a short name. -/
def classifyShort (switches : List Switch) (letter : Char) (rest : List Char) : Word :=
  match named? switches ['-', letter] with
  | some switch => .option switch (.letters rest)
  | none => classifyOther ('-' :: letter :: rest)

def classify (switches : List Switch) (s : List Char) : Except Ending Word :=
  match s with
  | '-' :: letter :: rest =>
    match named? switches s with
    | some switch => .ok (.option switch .nothing)
    | none =>
      let (name, value) := cutAtEquals s
      match value, named? switches name with
      | some text, some switch => .ok (.option switch (.value text))
      | _, _ =>
        if letter = '-' then classifyLong switches s
        else .ok (classifyShort switches letter rest)
  | _ => .ok .plain

/-- All words of a command line with their classes. -/
def classifyAll (switches : List Switch) : List String → Except Ending (List (String × Word))
  | [] => .ok []
  | word :: rest =>
    if word = "--" then .ok ((word, .divider) :: rest.map (·, .plain))
    else
      match classify switches word.toList, classifyAll switches rest with
      | .ok found, .ok more => .ok ((word, found) :: more)
      | .error ending, _ => .error ending
      | _, .error ending => .error ending

/-! ## Usage

What is told when help is asked for, or when a command line cannot be read. -/

def Switch.purpose : Switch → String
  | .help => "Show this help"
  | .config => "Settings file (default: ramp.toml in the current directory, if there)"
  | .verbose => "Show debug notes"
  | .schema => "Schema file (default: found from the current directory upwards)"
  | .output => "Output root of the views (default: the app directory found upwards)"
  | .templates => "Directory of templates (default: the bundled templates)"
  | .extension => "File extension of the views (default: tsx)"
  | .dryRun => "Show what would be written without writing it"

def Command.purpose : Command → String
  | .generate => "Generate or update the views of all models"
  | .models => "List the models and fields of the schema"
  | .status => "Show the views that the manifest holds"

/-- The line about an option. -/
def Switch.usage (switch : Switch) : String :=
  "  " ++ ", ".intercalate switch.names ++ (if switch.takesValue then " VALUE" else "") ++ "\n      " ++
    switch.purpose ++ "\n"

/-- The lines about a command and its options. -/
def Command.usage (command : Command) : String :=
  "\n" ++ command.name ++ ": " ++ command.purpose ++ "\n" ++
    String.join (command.switches.map Switch.usage)

def usage : String :=
  "usage: ramp [options] command [options]\n\n" ++
    String.join (leadingSwitches.map Switch.usage) ++ String.join (Command.all.map Command.usage)

end ViewGen.CommandLine
