import ViewGen.Path
import ViewGen.Text.Case

/-!
# Views

The kinds of artifact generated for every model, and where each is placed.
-/

namespace ViewGen

inductive ViewKind where
  | list
  | create
  | update
  | delete
  | search
deriving DecidableEq, Repr

namespace ViewKind

/-- All kinds in the order of generation. -/
def all : List ViewKind := [.list, .create, .update, .delete, .search]

def name : ViewKind → String
  | .list => "List"
  | .create => "Create"
  | .update => "Update"
  | .delete => "Delete"
  | .search => "Search"

/-- The name of the template that shows views of a kind. -/
def templateName (kind : ViewKind) : String :=
  kind.name ++ ".j2"

def ofName? (name : String) : Option ViewKind :=
  all.find? (·.name == name)

end ViewKind

def defaultExtension : String := "tsx"

/-- The place of an artifact below the output root: a directory per model and a file per kind, both
in lower case. -/
def viewPath (model : String) (kind : ViewKind) (extension : String) : Path :=
  ((Path.parse "routes").joinName (Text.lower model)).joinName
    (Text.lower kind.name ++ "." ++ extension)

end ViewGen
