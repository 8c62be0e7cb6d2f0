import ViewGen.Schema.Basic
import ViewGen.Text.Quoted
import ViewGen.Text.Separators

/-!
# Field declarations

A field is declared on one line by its name, its type and its attributes.
-/

namespace ViewGen

/-- A declaration that lacks a word, with its place if that is known. -/
structure SyntaxFault where
  line : String
  lineNumber : Option Int
deriving DecidableEq, Repr

def SyntaxFault.message (fault : SyntaxFault) : String :=
  let place := match fault.lineNumber with
    | some n => "line " ++ toString n
    | none => "field line"
  "Malformed field declaration at " ++ place ++ ": " ++ Text.quoted fault.line

/-- The side of a relation that holds the foreign key names what it references, so that clause and
the list marker decide the cardinality. -/
def Cardinality.classify (isList : Bool) (mapping : Option String) : Cardinality :=
  let hasReferences := match mapping with
    | some text => Text.occursIn "references".toList text.toList
    | none => false
  match isList, hasReferences with
  | true, true => .oneToMany
  | true, false => .manyToMany
  | false, true => .manyToOne
  | false, false => .oneToOne

/-! ## Attributes

An attribute stands after a field's type, such as `@default(now())`. Its argument is the balanced
text between its parentheses. -/

namespace Attribute

/-- The text up to the parenthesis that closes an argument in which `depth` parentheses are still
open; nothing if the text ends before. -/
def argumentBody (depth : Nat) : List Char → Option (List Char)
  | [] => none
  | c :: rest =>
    if c = '(' then (argumentBody (depth + 1) rest).map (c :: ·)
    else if c = ')' then
      match depth with
      | 0 => some []
      | inner + 1 => (argumentBody inner rest).map (c :: ·)
    else (argumentBody depth rest).map (c :: ·)

/-- The balanced argument at the start of a text. -/
def parenthesized : List Char → Option (List Char)
  | '(' :: rest => argumentBody 0 rest
  | _ => none

/-- The argument of the attribute `name`, taken at the first word that starts with the name. An
argument with blanks in it is spread over several words, so they are joined by spaces first. -/
def argument? (name : String) : List String → Option String
  | [] => none
  | word :: rest =>
    if name.toList.isPrefixOf word.toList then
      let joined := (" ".intercalate (word :: rest)).toList
      (parenthesized (joined.drop name.length)).map String.ofList
    else argument? name rest

end Attribute

/-! ## Fields -/

namespace Declaration

/-- A type without its first marker, `?` or `[]`. -/
def dropMarker : List Char → List Char
  | [] => []
  | '?' :: rest => rest
  | '[' :: ']' :: rest => rest
  | c :: rest => c :: dropMarker rest

def hasListMarker : List Char → Bool
  | [] => false
  | '[' :: ']' :: _ => true
  | _ :: rest => hasListMarker rest

def eraseListMarkers : List Char → List Char
  | [] => []
  | '[' :: ']' :: rest => eraseListMarkers rest
  | c :: rest => c :: eraseListMarkers rest

/-- The base type of a type word. A word with two markers keeps the second. -/
def baseType (typeWord : String) : String :=
  String.ofList (dropMarker typeWord.toList)

/-- The model a type word refers to, without any marker. -/
def relatedModel (typeWord : String) : String :=
  String.ofList ((eraseListMarkers typeWord.toList).filter (· ≠ '?'))

/-- A relation from its attribute's argument: the name, then the fields mapping, between commas. -/
def relation (typeWord : String) (isList : Bool) (argument : String) : Relation :=
  let parts := (Text.pieces ',' argument.toList).map (Text.trimChars Text.isBlank)
  { name := String.ofList (Text.trimChars (· == '"') (parts.headD []))
    cardinality := Cardinality.classify isList (parts[1]?.map String.ofList)
    relatedModel := relatedModel typeWord }

/-- The field declared by a name, a type word and the words after them. -/
def field (name typeWord : String) (modifiers : List String) : Field :=
  let isList := hasListMarker typeWord.toList
  { name
    baseType := baseType typeWord
    isRequired := !typeWord.toList.contains '?'
    isList
    isUnique := modifiers.contains "@unique"
    defaultText := Attribute.argument? "@default" modifiers
    relation := (Attribute.argument? "@relation" modifiers).map (relation typeWord isList) }

end Declaration

/-- Reads a field declaration; `lineNumber` only serves the fault. -/
def Field.parse (line : String) (lineNumber : Option Int) : Except SyntaxFault Field :=
  match Text.words line with
  | name :: typeWord :: modifiers => .ok (Declaration.field name typeWord modifiers)
  | _ => .error { line, lineNumber }

end ViewGen
