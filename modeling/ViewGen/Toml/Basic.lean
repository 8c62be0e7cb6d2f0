import ViewGen.Number.Binary64

/-!
# TOML values

A table holds its members in the order in which they were named first.
-/

namespace ViewGen

inductive Toml where
  | text (value : String)
  | integer (value : Int)
  | real (value : Binary64)
  | bool (value : Bool)
  /-- A date, a time or both. -/
  | moment
  | array (items : List Toml)
  | table (members : List (String × Toml))
deriving Repr

namespace Toml

abbrev Members := List (String × Toml)

/-- The names that lead from a table to a value. -/
abbrev Key := List String

/-- Why a text is no document. -/
inductive Fault where
  | malformed
  /-- Arrays and tables nest too deeply. -/
  | tooDeep
  /-- An integer has more decimal digits than can be read. -/
  | tooManyDigits (count : Nat)
deriving DecidableEq, Repr

/-- What an array costs of the room that there is for nested ones. -/
def arrayCost : Nat := 2

def tableCost : Nat := 3

/-- Puts a value under a name, in place of the one that is there. -/
def put (name : String) (value : Toml) : Members → Members
  | [] => [(name, value)]
  | member :: rest => if member.1 = name then (name, value) :: rest else member :: put name value rest

/-- Changes the table that a key leads to. Missing tables are made. Where `intoArrays` holds, an
array stands for its last item. -/
def alter (intoArrays : Bool) (change : Members → Except Fault Members) :
    Key → Members → Except Fault Members
  | [], members => change members
  | name :: rest, members =>
    match members.lookup name with
    | none => (alter intoArrays change rest []).map fun inner => put name (.table inner) members
    | some (.table inner) =>
      (alter intoArrays change rest inner).map fun inner => put name (.table inner) members
    | some (.array items) =>
      match intoArrays, items.getLast? with
      | true, some (.table inner) =>
        (alter intoArrays change rest inner).map fun inner =>
          put name (.array (items.dropLast ++ [.table inner])) members
      | _, _ => .error .malformed
    | some _ => .error .malformed

/-- Adds a member that is not there yet. -/
def addNew (name : String) (value : Toml) (members : Members) : Except Fault Members :=
  match members.lookup name with
  | some _ => .error .malformed
  | none => .ok (members ++ [(name, value)])

/-- Adds an empty table to the array of that name, which is made if it is missing. -/
def addItem (name : String) (members : Members) : Except Fault Members :=
  match members.lookup name with
  | none => .ok (members ++ [(name, .array [.table []])])
  | some (.array items) => .ok (put name (.array (items ++ [.table []])) members)
  | some _ => .error .malformed

/-- Adds a member under a key, with the tables that lead to it. -/
def addAt (intoArrays : Bool) (key : Key) (value : Toml) (members : Members) :
    Except Fault Members :=
  match key.getLast? with
  | none => .error .malformed
  | some name => alter intoArrays (addNew name value) key.dropLast members

end Toml

end ViewGen
