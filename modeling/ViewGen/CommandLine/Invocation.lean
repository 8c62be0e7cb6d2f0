import ViewGen.CommandLine.Word

/-!
# Invocations

A command line is read from left to right: the options before the command's name, the name, and the
options of the command. Words that nothing takes are refused only when all are read, so help that is
asked for among them is given.
-/

namespace ViewGen.CommandLine

/-- What one word gives: options with their values, one that still lacks its value, and whether
letters are left that name no option. -/
structure WordOptions where
  given : List (Switch × String)
  waiting : Option Switch
  surplus : Bool
deriving DecidableEq, Repr

/-- An option by itself. -/
def aloneOptions (switch : Switch) : WordOptions :=
  if switch.takesValue then ⟨[], some switch, false⟩ else ⟨[(switch, "")], none, false⟩

/-- An option with a value attached. -/
def valueOptions (switch : Switch) (text : List Char) : Except Ending WordOptions :=
  if switch.takesValue then .ok ⟨[(switch, String.ofList text)], none, false⟩ else .error .misuse

def WordOptions.after (switch : Switch) (more : WordOptions) : WordOptions :=
  { more with given := (switch, "") :: more.given }

/-- An option with letters after its short name. -/
def letterOptions (switches : List Switch) (switch : Switch) :
    List Char → Except Ending WordOptions
  | [] => .ok (aloneOptions switch)
  | c :: rest =>
    if switch.takesValue then .ok ⟨[(switch, String.ofList (c :: rest))], none, false⟩
    else if c = '-' then .error .misuse
    else
      match named? switches ['-', c] with
      | none => .ok ⟨[(switch, "")], none, true⟩
      | some next =>
        match rest with
        | '=' :: text => (valueOptions next text).map (.after switch)
        | _ => (letterOptions switches next rest).map (.after switch)

def wordOptions (switches : List Switch) (switch : Switch) :
    Attachment → Except Ending WordOptions
  | .nothing => .ok (aloneOptions switch)
  | .value text => valueOptions switch text
  | .letters text => letterOptions switches switch text

/-- What has been read: the options in order with their values, and whether there were words that
nothing takes. -/
structure Reading where
  given : List (Switch × String)
  surplus : Bool
deriving DecidableEq, Repr

namespace Reading

def empty : Reading := ⟨[], false⟩

/-- Takes the options of a word. Asking for help ends the reading. -/
def take (reading : Reading) (given : List (Switch × String)) (surplus : Bool) :
    Except Ending Reading :=
  if given.any (·.1 == .help) then .error .help
  else .ok ⟨reading.given ++ given, reading.surplus || surplus⟩

/-- Reads the words of one option. The rest of the line is what the value of a waiting option is
taken from. -/
def option (switches : List Switch) (reading : Reading) (switch : Switch)
    (attachment : Attachment) (next : Option (String × Word)) :
    Except Ending (Reading × Bool) :=
  match wordOptions switches switch attachment with
  | .error ending => .error ending
  | .ok found =>
    match found.waiting, next with
    | none, _ => (reading.take found.given found.surplus).map (·, false)
    | some waiting, some (value, .plain) =>
      (reading.take (found.given ++ [(waiting, value)]) found.surplus).map (·, true)
    | some _, _ => .error .misuse

/-- Reads options up to a plain word, which with the words after it is left. -/
def leading (switches : List Switch) :
    Reading → List (String × Word) → Except Ending (Reading × List String)
  | reading, [] => .ok (reading, [])
  | reading, (word, found) :: rest =>
    match found with
    | .plain => .ok (reading, word :: rest.map (·.1))
    | .divider => .error .misuse
    | .unknown => leading switches { reading with surplus := true } rest
    | .option switch attachment =>
      match reading.option switches switch attachment rest.head?, rest with
      | .error ending, _ => .error ending
      | .ok (reading, true), _ :: rest => leading switches reading rest
      | .ok (reading, _), rest => leading switches reading rest
termination_by _ words => words.length

/-- Reads options among words that nothing takes. -/
def all (switches : List Switch) : Reading → List (String × Word) → Except Ending Reading
  | reading, [] => .ok reading
  | reading, (_, found) :: rest =>
    match found with
    | .option switch attachment =>
      match reading.option switches switch attachment rest.head?, rest with
      | .error ending, _ => .error ending
      | .ok (reading, true), _ :: rest => all switches reading rest
      | .ok (reading, _), rest => all switches reading rest
    | _ => all switches { reading with surplus := true } rest
termination_by _ words => words.length

/-- The value of an option given, unless it is empty. Of several the last counts. -/
def value? (reading : Reading) (switch : Switch) : Option String :=
  (reading.given.reverse.lookup switch).filter (!·.isEmpty)

def has (reading : Reading) (switch : Switch) : Bool :=
  reading.given.any (·.1 == switch)

end Reading

/-- What a command line asks for. -/
structure Invocation where
  command : Command
  verbose : Bool
  dryRun : Bool
  config : Option String
  schema : Option String
  output : Option String
  templates : Option String
  extension : Option String
deriving DecidableEq, Repr

namespace Invocation

def ofReadings (command : Command) (general own : Reading) : Invocation :=
  { command
    verbose := general.has .verbose
    config := general.value? .config
    dryRun := own.has .dryRun
    schema := own.value? .schema
    output := own.value? .output
    templates := own.value? .templates
    extension := own.value? .extension }

/-- Reads the options of a command. -/
def ofCommand (command : Command) (general : Reading) (words : List String) :
    Except Ending Invocation := do
  let own ← Reading.all command.switches .empty (← classifyAll command.switches words)
  if general.surplus || own.surplus then throw .misuse
  pure (ofReadings command general own)

/-- Reads a command line. -/
def ofWords (words : List String) : Except Ending Invocation := do
  let (general, rest) ← Reading.leading leadingSwitches .empty (← classifyAll leadingSwitches words)
  match rest with
  | [] => throw .misuse
  | name :: rest =>
    match Command.ofName? name with
    | none => throw .misuse
    | some command => ofCommand command general rest

end Invocation

end ViewGen.CommandLine
