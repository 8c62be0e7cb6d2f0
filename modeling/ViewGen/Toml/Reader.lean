import ViewGen.Toml.Lexeme

/-!
# Reading TOML

A document is a list of statements, each on a line of its own: a member of the table that the last
header opened, or a header. What has been declared decides whether later statements may add to it.
-/

namespace ViewGen.Toml

/-! ### Arrays and inline tables -/

/-- What an inline table holds so far, and the keys whose values nothing can be added to. -/
structure Inline where
  members : Members
  frozen : List Key

/-- Whether nothing can be added below a key. -/
def isFrozen (frozen : List Key) (key : Key) : Bool :=
  frozen.any (·.isPrefixOf key)

def isContainer : Toml → Bool
  | .array _ => true
  | .table _ => true
  | _ => false

def Inline.add (inline : Inline) (key : Key) (value : Toml) : Except Fault Inline :=
  if isFrozen inline.frozen key then malformed
  else (addAt false key value inline.members).map fun members =>
    { members, frozen := if isContainer value then key :: inline.frozen else inline.frozen }

mutual

/-- A value of any kind. `fuel` bounds the number of steps and `depth` the cost of nesting. -/
def value : Nat → Nat → List Char → Reading Toml
  | 0, _, _ => malformed
  | fuel + 1, depth, s =>
    match s with
    | '[' :: rest =>
      if depth < arrayCost then .error .tooDeep
      else match skipLines false rest with
        | .error fault => .error fault
        | .ok (']' :: rest) => .ok (.array [], rest)
        | .ok rest => items fuel (depth - arrayCost) [] rest
    | '\x7b' :: rest =>
      if depth < tableCost then .error .tooDeep
      else match skipSpace rest with
        | '\x7d' :: rest => .ok (.table [], rest)
        | rest => inlineMembers fuel (depth - tableCost) ⟨[], []⟩ rest
    | s => scalar s

/-- The items of an array from one of them on, after those before it. -/
def items : Nat → Nat → List Toml → List Char → Reading Toml
  | 0, _, _, _ => malformed
  | fuel + 1, depth, before, s =>
    match value fuel depth s with
    | .error fault => .error fault
    | .ok (item, rest) =>
      match skipLines false rest with
      | .error fault => .error fault
      | .ok (']' :: rest) => .ok (.array (before ++ [item]), rest)
      | .ok (',' :: rest) =>
        match skipLines false rest with
        | .error fault => .error fault
        | .ok (']' :: rest) => .ok (.array (before ++ [item]), rest)
        | .ok rest => items fuel depth (before ++ [item]) rest
      | .ok _ => malformed

/-- The members of an inline table from one of them on, after those before it. -/
def inlineMembers : Nat → Nat → Inline → List Char → Reading Toml
  | 0, _, _, _ => malformed
  | fuel + 1, depth, before, s =>
    match member fuel depth s with
    | .error fault => .error fault
    | .ok ((name, found), rest) =>
      match before.add name found, skipSpace rest with
      | .error fault, _ => .error fault
      | .ok after, '\x7d' :: rest => .ok (.table after.members, rest)
      | .ok after, ',' :: rest => inlineMembers fuel depth after (skipSpace rest)
      | .ok _, _ => malformed

/-- A key with its value. -/
def member : Nat → Nat → List Char → Reading (Key × Toml)
  | 0, _, _ => malformed
  | fuel + 1, depth, s =>
    match key s with
    | .error fault => .error fault
    | .ok (name, '=' :: rest) =>
      (value fuel depth (skipSpace rest)).map fun (found, rest) => ((name, found), rest)
    | .ok _ => malformed

end

/-! ### Documents -/

/-- A document as far as it has been read: its root table, the header that is in force, the tables
that no header can open any more, those for which this holds from the next header on, and the keys
whose values nothing can be added to. -/
structure Document where
  root : Members
  header : Key
  declared : List Key
  pending : List Key
  frozen : List Key

namespace Document

def empty : Document := ⟨[], [], [], [], []⟩

/-- Adds a member below the header in force. The tables on the way to it may not have been declared
elsewhere. -/
def addMember (doc : Document) (name : Key) (found : Toml) : Except Fault Document :=
  let passed := (List.range (name.length - 1)).map fun n => doc.header ++ name.take (n + 1)
  if passed.any doc.declared.contains then malformed
  else if isFrozen doc.frozen (doc.header ++ name.dropLast) then malformed
  else (addAt true (doc.header ++ name) found doc.root).map fun root =>
    { doc with
      root
      pending := passed ++ doc.pending
      frozen := if isContainer found then (doc.header ++ name) :: doc.frozen else doc.frozen }

/-- The state at a header: what was pending is declared. -/
def settled (doc : Document) : Document :=
  { doc with declared := doc.pending ++ doc.declared, pending := [] }

/-- Opens a table, once for every header. -/
def openTable (doc : Document) (name : Key) : Except Fault Document :=
  if doc.declared.contains name || isFrozen doc.frozen name then malformed
  else (alter true .ok name doc.root).map fun root =>
    { doc with root, header := name, declared := name :: doc.declared }

/-- Opens a new table at the end of an array of tables. What was declared about its items before is
forgotten. -/
def openItem (doc : Document) (name : Key) : Except Fault Document :=
  if isFrozen doc.frozen name then malformed
  else match name.getLast? with
    | none => malformed
    | some last =>
      (alter true (addItem last) name.dropLast doc.root).map fun root =>
        { doc with
          root
          header := name
          declared := name :: doc.declared.filter fun other => !name.isPrefixOf other
          frozen := doc.frozen.filter fun other => !name.isPrefixOf other }

/-- Reads the statement at the start of a text, which is not empty. `budget` bounds the cost of nesting. -/
def statement (budget : Nat) (doc : Document) (s : List Char) : Reading Document :=
  match s with
  | '#' :: _ => .ok (doc, s)
  | '[' :: '[' :: rest =>
    match key (skipSpace rest) with
    | .error fault => .error fault
    | .ok (name, ']' :: ']' :: rest) => (doc.settled.openItem name).map fun doc => (doc, rest)
    | .ok _ => malformed
  | '[' :: rest =>
    match key (skipSpace rest) with
    | .error fault => .error fault
    | .ok (name, ']' :: rest) => (doc.settled.openTable name).map fun doc => (doc, rest)
    | .ok _ => malformed
  | s =>
    match member (2 * s.length + 2) budget s with
    | .error fault => .error fault
    | .ok ((name, found), rest) => (doc.addMember name found).map fun doc => (doc, rest)

/-- Reads statements up to the end of a text. `fuel` bounds their number. -/
def statements (budget : Nat) : Nat → Document → List Char → Except Fault Document
  | 0, doc, _ => .ok doc
  | fuel + 1, doc, s =>
    match skipSpace s with
    | [] => .ok doc
    | '\n' :: rest => statements budget fuel doc rest
    | s =>
      match doc.statement budget s with
      | .error fault => .error fault
      | .ok (doc, rest) =>
        match skipComment (skipSpace rest) with
        | .error fault => .error fault
        | .ok [] => .ok doc
        | .ok ('\n' :: rest) => statements budget fuel doc rest
        | .ok _ => malformed

end Document

/-- A carriage return before a line feed does not count. -/
def dropReturns : List Char → List Char
  | [] => []
  | '\r' :: '\n' :: rest => '\n' :: dropReturns rest
  | c :: rest => c :: dropReturns rest

/-- Reads a document. -/
def parse (budget : Nat) (text : String) : Except Fault Members :=
  let s := dropReturns text.toList
  (Document.statements budget (s.length + 1) .empty s).map (·.root)

end ViewGen.Toml
