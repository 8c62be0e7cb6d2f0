/-!
# Problems of stored data

Data read from a file is checked place by place, and every place that fails is reported.
-/

namespace ViewGen

inductive ProblemKind where
  | missing
  | textExpected
  | listExpected
  | objectExpected
  | numberExpected
  | numberUnreadable
  | belowMinimum
deriving DecidableEq, Repr

def ProblemKind.name : ProblemKind → String
  | .missing => "missing"
  | .textExpected => "string_type"
  | .listExpected => "list_type"
  | .objectExpected => "model_type"
  | .numberExpected => "float_type"
  | .numberUnreadable => "float_parsing"
  | .belowMinimum => "greater_than_equal"

/-- A place that fails, by the names and indices that lead to it. -/
structure Problem where
  place : List String
  kind : ProblemKind
deriving DecidableEq, Repr

/-- The value of checked data, or all its problems in order. -/
abbrev Checked (α : Type) := Except (List Problem) α

namespace Checked

def problems {α : Type} : Checked α → List Problem
  | .ok _ => []
  | .error found => found

def fail {α : Type} (kind : ProblemKind) : Checked α :=
  .error [⟨[], kind⟩]

/-- Names the place that the data was found at. -/
def at' {α : Type} (name : String) : Checked α → Checked α
  | .ok a => .ok a
  | .error found => .error (found.map fun problem => { problem with place := name :: problem.place })

/-- Combines two parts; the problems of the first come first. -/
def both {α β γ : Type} (f : α → β → γ) (a : Checked α) (b : Checked β) : Checked γ :=
  match a, b with
  | .ok a, .ok b => .ok (f a b)
  | a, b => .error (a.problems ++ b.problems)

/-- Checks the items of a list, from index `n` on. -/
def each {α β : Type} (check : α → Checked β) (n : Nat) : List α → Checked (List β)
  | [] => .ok []
  | a :: rest => both (· :: ·) ((check a).at' (toString n)) (each check (n + 1) rest)

end Checked

end ViewGen
