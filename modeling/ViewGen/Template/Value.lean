import ViewGen.Schema.Basic
import ViewGen.Text.Quoted

/-!
# Template values

What the expressions of a template stand for. A name or attribute that does not exist stands for an
undefined value, which only fails when it is used.
-/

namespace ViewGen.Template

inductive Undefined where
  | name (name : String)
  | attribute (object name : String)
deriving DecidableEq, Repr

def Undefined.message : Undefined → String
  | .name n => "'" ++ n ++ "' is undefined"
  | .attribute object n => "'" ++ object ++ "' has no attribute '" ++ n ++ "'"

inductive Value where
  | undefined (cause : Undefined)
  | null
  | bool (value : Bool)
  | text (content : String)
  | model (model : Model)
  | field (field : Field)
  | fields (fields : List Field)
  | relation (relation : Relation)
  | cardinality (cardinality : Cardinality)
  /-- A member of a record with its name. -/
  | pair (name : String) (member : Value)
deriving DecidableEq, Repr

/-- A value of a kind that lacks what a filter or loop needs. -/
inductive BadValue where
  | notText
  | notIterable
  | missingMember (kind member : String)
deriving DecidableEq, Repr

def BadValue.message : BadValue → String
  | .notText => "expected a text"
  | .notIterable => "expected a sequence"
  | .missingMember kind member => "'" ++ kind ++ "' object has no attribute '" ++ member ++ "'"

/-- The kind of the exception. -/
def BadValue.exception : BadValue → String
  | .notText => "TypeError"
  | .notIterable => "TypeError"
  | .missingMember _ _ => "AttributeError"

namespace Value

/-- The constant that names a cardinality. -/
def cardinalityConstant : Cardinality → String
  | .oneToOne => "ONE_TO_ONE"
  | .oneToMany => "ONE_TO_MANY"
  | .manyToOne => "MANY_TO_ONE"
  | .manyToMany => "MANY_TO_MANY"

/-- The kind of a value, as the faults of filters name it. -/
def kindName : Value → String
  | .undefined _ => "StrictUndefined"
  | .null => "NoneType"
  | .bool _ => "bool"
  | .text _ => "str"
  | .model _ => "Model"
  | .field _ => "Field"
  | .fields _ => "list"
  | .relation _ => "Relation"
  | .cardinality _ => "RelationType"
  | .pair _ _ => "tuple"

/-- The kind of a value, as an undefined attribute names it. -/
def objectName : Value → String
  | .null => "None"
  | .model _ => "ramp.schema.models.Model object"
  | .field _ => "ramp.schema.models.Field object"
  | .relation _ => "ramp.schema.models.Relation object"
  | .cardinality _ => "ramp.schema.models.RelationType object"
  | value => value.kindName ++ " object"

def ofOption {α : Type} (f : α → Value) : Option α → Value
  | some a => f a
  | none => .null

/-- The attribute of a value, if it has it. -/
def attribute? : Value → String → Option Value
  | .model m, "name" => some (.text m.name)
  | .model m, "fields" => some (.fields m.fields)
  | .model m, "scalar_fields" => some (.fields m.scalarFields)
  | .model m, "relation_fields" => some (.fields m.relationFields)
  | .field f, "name" => some (.text f.name)
  | .field f, "type" => some (.text f.baseType)
  | .field f, "is_required" => some (.bool f.isRequired)
  | .field f, "is_list" => some (.bool f.isList)
  | .field f, "is_unique" => some (.bool f.isUnique)
  | .field f, "default" => some (ofOption .text f.defaultText)
  | .field f, "relation" => some (ofOption .relation f.relation)
  | .relation r, "name" => some (.text r.name)
  | .relation r, "related_model" => some (.text r.relatedModel)
  | .relation r, "type" => some (.cardinality r.cardinality)
  | .cardinality c, "value" => some (.text c.name)
  | .cardinality c, "name" => some (.text (cardinalityConstant c))
  | _, _ => none

def boolText (b : Bool) : String :=
  if b then "True" else "False"

def optionText {α : Type} (f : α → String) : Option α → String
  | some a => f a
  | none => "None"

/-- The parts of a record, written with their names. -/
def parts (separator : String) (members : List (String × String)) : String :=
  separator.intercalate (members.map fun (name, shown) => name ++ "=" ++ shown)

def cardinalityText (c : Cardinality) : String :=
  "<RelationType." ++ cardinalityConstant c ++ ": " ++ Text.quoted c.name ++ ">"

def relationParts (r : Relation) : List (String × String) :=
  [("name", Text.quoted r.name), ("type", cardinalityText r.cardinality),
    ("related_model", Text.quoted r.relatedModel)]

def relationText (r : Relation) : String :=
  "Relation(" ++ parts ", " (relationParts r) ++ ")"

def fieldParts (f : Field) : List (String × String) :=
  [("name", Text.quoted f.name), ("type", Text.quoted f.baseType),
    ("is_required", boolText f.isRequired), ("is_list", boolText f.isList),
    ("is_unique", boolText f.isUnique), ("default", optionText Text.quoted f.defaultText),
    ("relation", optionText relationText f.relation)]

def fieldText (f : Field) : String :=
  "Field(" ++ parts ", " (fieldParts f) ++ ")"

def fieldsText (fs : List Field) : String :=
  "[" ++ ", ".intercalate (fs.map fieldText) ++ "]"

def modelParts (m : Model) : List (String × String) :=
  [("name", Text.quoted m.name), ("fields", fieldsText m.fields)]

/-- The text that stands for a value inside of another. -/
def innerText : Value → String
  | .undefined _ => "Undefined"
  | .null => "None"
  | .bool b => boolText b
  | .text s => Text.quoted s
  | .model m => "Model(" ++ parts ", " (modelParts m) ++ ")"
  | .field f => fieldText f
  | .fields fs => fieldsText fs
  | .relation r => relationText r
  | .cardinality c => cardinalityText c
  | .pair name member => "(" ++ Text.quoted name ++ ", " ++ member.innerText ++ ")"

/-- The text that a value is printed as. -/
def text? : Value → Except Undefined String
  | .undefined cause => .error cause
  | .null => .ok "None"
  | .bool b => .ok (boolText b)
  | .text s => .ok s
  | .model m => .ok (parts " " (modelParts m))
  | .field f => .ok (parts " " (fieldParts f))
  | .fields fs => .ok (fieldsText fs)
  | .relation r => .ok (parts " " (relationParts r))
  | .cardinality c => .ok ("RelationType." ++ cardinalityConstant c)
  | .pair name member => .ok (innerText (.pair name member))

/-- Whether a condition with that value holds: null, false and what is empty do not. -/
def holds : Value → Except Undefined Bool
  | .undefined cause => .error cause
  | .null => .ok false
  | .bool b => .ok b
  | .text s => .ok (!s.isEmpty)
  | .fields fs => .ok (!fs.isEmpty)
  | _ => .ok true

/-- Whether two values are equal. A cardinality equals the text that names it. -/
def equals : Value → Value → Except Undefined Bool
  | .undefined cause, _ => .error cause
  | _, .undefined cause => .error cause
  | .cardinality c, .text s => .ok (c.name == s)
  | .text s, .cardinality c => .ok (s == c.name)
  | .pair name member, .pair other value => if name = other then member.equals value else .ok false
  | left, right => .ok (left == right)

/-- The members of a record, in the order of their declaration. -/
def members? : Value → Option (List (String × Value))
  | .model m => some [("name", .text m.name), ("fields", .fields m.fields)]
  | .field f => some [("name", .text f.name), ("type", .text f.baseType),
      ("is_required", .bool f.isRequired), ("is_list", .bool f.isList), ("is_unique", .bool f.isUnique),
      ("default", ofOption .text f.defaultText), ("relation", ofOption .relation f.relation)]
  | .relation r => some [("name", .text r.name), ("type", .cardinality r.cardinality),
      ("related_model", .text r.relatedModel)]
  | _ => none

/-- The text of a value that is one, by its name if it is a cardinality. -/
def asText? : Value → Option String
  | .text s => some s
  | .cardinality c => some c.name
  | _ => none

end Value

end ViewGen.Template
