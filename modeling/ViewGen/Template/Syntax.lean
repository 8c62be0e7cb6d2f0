import ViewGen.Template.Token

/-!
# Template syntax
-/

namespace ViewGen.Template

/-- A filter changes a value on its way into the text. -/
inductive Filter where
  | camelCase
  | snakeCase
  | kebabCase
  | plural
  | inputType
  | unknown (name : String)
deriving DecidableEq, Repr

def Filter.ofName : String → Filter
  | "camel_case" => .camelCase
  | "snake_case" => .snakeCase
  | "kebab_case" => .kebabCase
  | "plural" => .plural
  | "input_type" => .inputType
  | name => .unknown name

inductive Expr where
  | name (name : String)
  | literal (content : String)
  | bool (value : Bool)
  | null
  | attribute (object : Expr) (name : String)
  | filter (operand : Expr) (filter : Filter) (line : Nat)
  | isNull (operand : Expr)
  | equals (left right : Expr)
  | not (operand : Expr)
deriving DecidableEq, Repr

inductive Statement where
  | text (content : String)
  | print (value : Expr)
  | set (name : String) (value : Expr)
  /-- Runs the body for every item of the source that passes the condition, and `otherwise` if
  there is none. -/
  | loop (name : String) (source : Expr) (condition : Option Expr) (body otherwise : List Statement)
  | branch (condition : Expr) (yes no : List Statement)
deriving Repr

/-- The line of the first filter in an expression that is unknown. -/
def Expr.unknownFilter? : Expr → Option Nat
  | .name _ | .literal _ | .bool _ | .null => none
  | .attribute object _ => object.unknownFilter?
  | .filter _ (.unknown _) line => some line
  | .filter operand _ _ => operand.unknownFilter?
  | .isNull operand => operand.unknownFilter?
  | .equals left right => left.unknownFilter?.or right.unknownFilter?
  | .not operand => operand.unknownFilter?

mutual

/-- The line of the first unknown filter that makes a template invalid. In a branch, where `lenient`
holds, one only fails when it is reached. -/
def Statement.unknownFilter? (lenient : Bool) : Statement → Option Nat
  | .text _ => none
  | .print value => if lenient then none else value.unknownFilter?
  | .set _ value => if lenient then none else value.unknownFilter?
  | .loop _ source condition body otherwise =>
    (condition.bind (·.unknownFilter?)).or <|
      (if lenient then none else source.unknownFilter?).or <|
        (unknownFilterIn false body).or (unknownFilterIn false otherwise)
  | .branch _ yes no => (unknownFilterIn true yes).or (unknownFilterIn true no)

def unknownFilterIn (lenient : Bool) : List Statement → Option Nat
  | [] => none
  | statement :: rest => (statement.unknownFilter? lenient).or (unknownFilterIn lenient rest)

end

end ViewGen.Template
