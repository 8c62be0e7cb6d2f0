import ViewGen.Disk.File
import ViewGen.Schema.Basic

/-!
# What the program calls

The templates of a directory are rendered by an engine, what is printed is read and drawn by a
console, and temporary files get random names. The program defines none of the three. A world brings
them along, so whatever is shown of the program in every world is shown for all of them.
-/

namespace ViewGen

/-! ### Templates -/

/-- What the program tells apart about an exception that code beyond it raises. -/
inductive Raised.Family where
  | templateNotFound
  | malformedTemplate (line : Nat) (reason : String)
  /-- Any other exception of templates. -/
  | template
  /-- Anything else, be it raised by the engine or by what a template calls. -/
  | other
deriving DecidableEq, Repr

/-- An exception that code beyond the program raises. -/
structure Raised where
  family : Raised.Family
  kind : String
  message : String
deriving DecidableEq, Repr

/-- A template that has been loaded, and shows models. -/
abbrev LoadedTemplate := Model → Except Raised String

/-- Loads the template of a name from a directory, as the disk stands and seen from the current
directory. Templates can draw random numbers or count, so what is loaded can show a model in another
way when it is asked for again: the number is that of the rendering within its run. -/
abbrev TemplateEngine := Disk → Location → Nat → Path → String → Except Raised LoadedTemplate

/-! ### Printing -/

/-- A table, of markup or of the texts that its markup is read as. -/
structure Table (α : Type) where
  title : Option α
  headings : List α
  rows : List (List α)
deriving DecidableEq, Repr

namespace Table

variable {α β : Type}

/-- All texts of a table. -/
def texts (table : Table α) : List α :=
  table.title.toList ++ table.headings ++ table.rows.flatten

/-- Reads every text of a table; nothing if one of them is refused. -/
def mapM? (f : α → Option β) (table : Table α) : Option (Table β) := do
  let title ← match table.title with
    | none => some none
    | some title => (f title).map some
  let headings ← table.headings.mapM f
  let rows ← table.rows.mapM (·.mapM f)
  some { title, headings, rows }

end Table

/-- How printed text is read and drawn. -/
structure Console where
  /-- The text that markup is read as; nothing if it is refused. -/
  read : String → Option (List Char)
  /-- The markup that stands for a text. -/
  escape : String → String
  line : List Char → String
  table : Table (List Char) → String

/-! ### Temporary files -/

/-- The random part of a temporary file's name. -/
structure RandomName where
  text : String
  plain : text.length = 8 ∧ ∀ c ∈ text.toList, c.isLower ∨ c.isDigit ∨ c = '_'
deriving DecidableEq, Repr

/-! ### Together -/

structure Libraries where
  engine : TemplateEngine
  console : Console
  /-- The names that are tried in turn for a temporary file. -/
  randomNames : List RandomName

end ViewGen
