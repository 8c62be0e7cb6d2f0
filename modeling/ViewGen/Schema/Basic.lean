/-!
# Schema entities

Models with their fields in the order of declaration. They are read from the schema text on every
run and never stored.
-/

namespace ViewGen

/-- How many rows a relation joins on either side. -/
inductive Cardinality where
  | oneToOne
  | oneToMany
  | manyToOne
  | manyToMany
deriving DecidableEq, Repr

def Cardinality.name : Cardinality → String
  | .oneToOne => "oneToOne"
  | .oneToMany => "oneToMany"
  | .manyToOne => "manyToOne"
  | .manyToMany => "manyToMany"

/-- A field's reference to another model. -/
structure Relation where
  name : String
  cardinality : Cardinality
  relatedModel : String
deriving DecidableEq, Repr

/-- One declared field. `baseType` is the declared type without its marker, and `defaultText` is
the text between the parentheses of the default attribute. -/
structure Field where
  name : String
  baseType : String
  isRequired : Bool
  isList : Bool
  isUnique : Bool
  defaultText : Option String
  relation : Option Relation
deriving DecidableEq, Repr

structure Model where
  name : String
  fields : List Field
deriving DecidableEq, Repr

namespace Model

/-- The field of that name declared last. -/
def field? (m : Model) (name : String) : Option Field :=
  m.fields.reverse.find? (·.name == name)

def relationFields (m : Model) : List Field :=
  m.fields.filter (·.relation.isSome)

def scalarFields (m : Model) : List Field :=
  m.fields.filter (·.relation.isNone)

end Model

end ViewGen
