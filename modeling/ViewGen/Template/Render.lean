import ViewGen.Naming
import ViewGen.Template.Parser
import ViewGen.Template.Value

/-!
# Rendering

A template's text for one model. Nothing of a text that fails is kept.
-/

namespace ViewGen.Template

/-- Why a template fails when it is rendered. -/
inductive RenderFault where
  | undefined (cause : Undefined)
  | unknownFilter (name : String)
  | badValue (cause : BadValue)
deriving DecidableEq, Repr

/-- The names that are bound, the innermost first. -/
abbrev Scope := List (String × Value)

def Scope.value (scope : Scope) (name : String) : Value :=
  (scope.lookup name).getD (.undefined (.name name))

/-- A failing use of an undefined value as a fault of rendering. -/
def used {α : Type} : Except Undefined α → Except RenderFault α
  | .ok a => .ok a
  | .error cause => .error (.undefined cause)

/-- A change of text, applied to a value that is one. -/
def onText (f : String → String) (value : Value) : Except RenderFault Value :=
  match value.asText? with
  | some s => .ok (.text (f s))
  | none => .error (.badValue .notText)

/-- The attribute of a value; an undefined value has none at all. -/
def attributeOf (name : String) : Value → Except RenderFault Value
  | .undefined cause => .error (.undefined cause)
  | value => .ok ((value.attribute? name).getD (.undefined (.attribute value.objectName name)))

def Filter.apply (filter : Filter) (value : Value) : Except RenderFault Value :=
  match filter with
  | .camelCase => onText Naming.camelCase value
  | .snakeCase => onText Naming.snakeCase value
  | .kebabCase => onText Naming.kebabCase value
  | .plural =>
    match value, value.asText? with
    | .undefined cause, _ => .error (.undefined cause)
    | _, some s => .ok (.text (Naming.plural s))
    | value, none => .error (.badValue (.missingMember value.kindName "endswith"))
  | .inputType =>
    match value with
    | .undefined cause => .error (.undefined cause)
    | .field f => .ok (.text (Naming.inputType f.baseType))
    | .relation r => .ok (.text (Naming.inputType r.cardinality.name))
    | value => .error (.badValue (.missingMember value.kindName "type"))
  | .unknown name => .error (.unknownFilter name)

def Expr.eval (scope : Scope) : Expr → Except RenderFault Value
  | .name n => .ok (scope.value n)
  | .literal content => .ok (.text content)
  | .bool value => .ok (.bool value)
  | .null => .ok .null
  | .attribute object member =>
    match object.eval scope with
    | .error fault => .error fault
    | .ok value => attributeOf member value
  | .filter operand f _ =>
    match operand.eval scope with
    | .error fault => .error fault
    | .ok value => f.apply value
  | .isNull operand =>
    match operand.eval scope with
    | .error fault => .error fault
    | .ok value => .ok (.bool (value = .null))
  | .equals left right =>
    match left.eval scope, right.eval scope with
    | .error fault, _ => .error fault
    | .ok _, .error fault => .error fault
    | .ok a, .ok b =>
      match used (a.equals b) with
      | .error fault => .error fault
      | .ok equal => .ok (.bool equal)
  | .not operand =>
    match operand.eval scope with
    | .error fault => .error fault
    | .ok value =>
      match used value.holds with
      | .error fault => .error fault
      | .ok b => .ok (.bool !b)

/-- The items that a loop over a value runs through: fields, the characters of a text, the members of a
record with their names, or the two parts of such a pair. -/
def itemsOf (value : Value) : Except RenderFault (List Value) :=
  match value, value.asText?, value.members? with
  | .undefined cause, _, _ => .error (.undefined cause)
  | .fields fields, _, _ => .ok (fields.map .field)
  | .pair name member, _, _ => .ok [.text name, member]
  | _, some s, _ => .ok (s.toList.map fun c => .text (String.singleton c))
  | _, none, some members => .ok (members.map fun (name, member) => .pair name member)
  | _, none, none => .error (.badValue .notIterable)

/-- Whether a condition holds; without one it does. -/
def conditionHolds (scope : Scope) : Option Expr → Except RenderFault Bool
  | none => .ok true
  | some condition =>
    match condition.eval scope with
    | .error fault => .error fault
    | .ok value => used value.holds

/-- The text of a loop's body for the items that pass the condition, if any does. -/
def renderItems (name : String) (condition : Option Expr) (scope : Scope)
    (body : Scope → Except RenderFault String) : List Value → Except RenderFault (Option String)
  | [] => .ok none
  | item :: rest =>
    let inner := (name, item) :: scope
    match conditionHolds inner condition with
    | .error fault => .error fault
    | .ok false => renderItems name condition scope body rest
    | .ok true =>
      match body inner with
      | .error fault => .error fault
      | .ok first =>
        match renderItems name condition scope body rest with
        | .error fault => .error fault
        | .ok others => .ok (some (first ++ others.getD ""))

mutual

/-- The text of a statement and the names bound after it. A loop binds no name beyond its end. -/
def Statement.render (scope : Scope) : Statement → Except RenderFault (String × Scope)
  | .text content => .ok (content, scope)
  | .print value =>
    match value.eval scope with
    | .error fault => .error fault
    | .ok value =>
      match used value.text? with
      | .error fault => .error fault
      | .ok text => .ok (text, scope)
  | .set name value =>
    match value.eval scope with
    | .error fault => .error fault
    | .ok value => .ok ("", (name, value) :: scope)
  | .loop name source condition body otherwise =>
    match source.eval scope with
    | .error fault => .error fault
    | .ok value =>
      match itemsOf value with
      | .error fault => .error fault
      | .ok items =>
        let runBody := fun inner => (renderAll inner body).map (·.1)
        match renderItems name condition scope runBody items with
        | .error fault => .error fault
        | .ok (some text) => .ok (text, scope)
        | .ok none =>
          match renderAll scope otherwise with
          | .error fault => .error fault
          | .ok (text, _) => .ok (text, scope)
  | .branch condition yes no =>
    match condition.eval scope with
    | .error fault => .error fault
    | .ok value =>
      match used value.holds with
      | .error fault => .error fault
      | .ok true => renderAll scope yes
      | .ok false => renderAll scope no

def renderAll (scope : Scope) : List Statement → Except RenderFault (String × Scope)
  | [] => .ok ("", scope)
  | statement :: rest =>
    match statement.render scope with
    | .error fault => .error fault
    | .ok (first, scope) =>
      match renderAll scope rest with
      | .error fault => .error fault
      | .ok (others, scope) => .ok (first ++ others, scope)

end

/-- The text of a template for a model, which is bound to the name `model`. -/
def render (template : Template) (model : Model) : Except RenderFault String :=
  (renderAll [("model", .model model)] template.statements).map (·.1)

end ViewGen.Template
