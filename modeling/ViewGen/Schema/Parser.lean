import ViewGen.Schema.Declaration
import ViewGen.Text.Separators

/-!
# Schema text

A schema is read line by line. Only `model` blocks are understood: outside of them every line that
is no header is skipped, which leaves out the other kinds of block.
-/

namespace ViewGen

/-- What a line, without the blanks around it, does to the block it stands in. -/
inductive LineRole where
  /-- Opens a model; the name is missing if the line has one word only. -/
  | header (name : Option String)
  | closing
  | field
  | skipped
deriving DecidableEq, Repr

/-- A line is a header whenever its first word is `model`, whatever else it holds. Comments, block
attributes and lines with an opening brace declare no field. -/
def LineRole.ofLine (line : String) : LineRole :=
  match Text.words line with
  | [] => .skipped
  | first :: others =>
    if first = "model" then .header others.head?
    else if line.toList.contains '\x7b' then .skipped
    else if line = "\x7d" then .closing
    else if "//".toList.isPrefixOf line.toList || "@@".toList.isPrefixOf line.toList then .skipped
    else .field

/-- The models of a schema text; `unclosed` names the one that is still open at the end. -/
structure Schema where
  models : List Model
  unclosed : Option String
deriving DecidableEq, Repr

namespace Schema

/-- Commits the model that is open when the next one begins or a block ends. -/
def precededBy (current : Option Model) (later : Schema) : Schema :=
  { later with models := current.toList ++ later.models }

/-- Reads the lines from number `n` on, while `current` is the open model. -/
def ofLines (n : Nat) (current : Option Model) : List String → Except SyntaxFault Schema
  | [] => .ok { models := current.toList, unclosed := current.map (·.name) }
  | line :: rest =>
    match LineRole.ofLine line, current with
    | .header none, _ => .error { line, lineNumber := some n }
    | .header (some name), _ =>
      match ofLines (n + 1) (some { name, fields := [] }) rest with
      | .error fault => .error fault
      | .ok later => .ok (later.precededBy current)
    | .closing, some model =>
      match ofLines (n + 1) none rest with
      | .error fault => .error fault
      | .ok later => .ok (later.precededBy (some model))
    | .field, some model =>
      match Field.parse line (some n) with
      | .error fault => .error fault
      | .ok field => ofLines (n + 1) (some { model with fields := model.fields ++ [field] }) rest
    | _, _ => ofLines (n + 1) current rest

/-- Reads a schema text. The first faulty line, counted from one, is the one reported. -/
def parse (text : String) : Except SyntaxFault Schema :=
  ofLines 1 none ((Text.lines text).map Text.strip)

end Schema

end ViewGen
