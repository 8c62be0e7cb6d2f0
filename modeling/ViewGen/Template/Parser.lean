import ViewGen.Template.Syntax

/-!
# Reading templates

A template that cannot be read is refused with the line at fault.
-/

namespace ViewGen.Template

/-- What is read from tokens, with the tokens that follow, or the line at fault. -/
abbrev Reading (α : Type) := Except Nat (α × List Token)

namespace Parser

/-- The line of the next token. -/
def lineOf : List Token → Nat
  | [] => 1
  | token :: _ => token.line

/-- Takes a token of that kind. -/
def expect (kind : TokenKind) : List Token → Reading Unit
  | token :: rest => if token.kind = kind then .ok ((), rest) else .error token.line
  | [] => .error 1

/-- The constant that a name stands for. -/
def constant? : String → Option Expr
  | "true" | "True" => some (.bool true)
  | "false" | "False" => some (.bool false)
  | "none" | "None" => some .null
  | _ => none

/-- Literals next to each other are one. -/
def literals (content : String) : List Token → String × List Token
  | ⟨_, .literal more⟩ :: rest => literals (content ++ more) rest
  | tokens => (content, tokens)

def primary : List Token → Reading Expr
  | ⟨_, .name name⟩ :: rest => .ok ((constant? name).getD (.name name), rest)
  | ⟨_, .literal content⟩ :: rest =>
    let (content, after) := literals content rest
    .ok (.literal content, after)
  | tokens => .error (lineOf tokens)

/-- The attributes taken of an expression. -/
def attributes (object : Expr) : List Token → Reading Expr
  | ⟨_, .symbol "."⟩ :: ⟨_, .name name⟩ :: rest => attributes (.attribute object name) rest
  | ⟨_, .symbol "."⟩ :: rest => .error (lineOf rest)
  | tokens => .ok (object, tokens)

/-- The filters and tests applied to an expression. The only test is for null. -/
def applications (operand : Expr) : List Token → Reading Expr
  | ⟨_, .symbol "|"⟩ :: ⟨line, .name name⟩ :: rest =>
    applications (.filter operand (.ofName name) line) rest
  | ⟨_, .symbol "|"⟩ :: rest => .error (lineOf rest)
  | ⟨_, .name "is"⟩ :: ⟨_, .name "not"⟩ :: ⟨line, .name test⟩ :: rest =>
    if test = "none" then applications (.not (.isNull operand)) rest else .error line
  | ⟨_, .name "is"⟩ :: ⟨line, .name test⟩ :: rest =>
    if test = "none" then applications (.isNull operand) rest else .error line
  | ⟨_, .name "is"⟩ :: rest => .error (lineOf rest)
  | tokens => .ok (operand, tokens)

def operand (tokens : List Token) : Reading Expr :=
  match primary tokens with
  | .error line => .error line
  | .ok (first, rest) =>
    match attributes first rest with
    | .error line => .error line
    | .ok (object, rest) => applications object rest

def comparison (tokens : List Token) : Reading Expr :=
  match operand tokens with
  | .error line => .error line
  | .ok (left, rest) =>
    match rest with
    | ⟨_, .symbol "=="⟩ :: after =>
      match operand after with
      | .error line => .error line
      | .ok (right, rest) => .ok (.equals left right, rest)
    | ⟨_, .symbol "!="⟩ :: after =>
      match operand after with
      | .error line => .error line
      | .ok (right, rest) => .ok (.not (.equals left right), rest)
    | _ => .ok (left, rest)

def expression : List Token → Reading Expr
  | ⟨_, .name "not"⟩ :: rest =>
    match expression rest with
    | .error line => .error line
    | .ok (operand, after) => .ok (.not operand, after)
  | tokens => comparison tokens

/-- The end of a block's opening tag, before which a colon may stand. -/
def tagEnd : List Token → Reading Unit
  | ⟨_, .symbol ":"⟩ :: rest => expect .closeBlock rest
  | tokens => expect .closeBlock tokens

/-- The name that a tag binds, which is no constant. -/
def target : List Token → Reading String
  | ⟨line, .name name⟩ :: rest =>
    if (constant? name).isSome then .error line else .ok (name, rest)
  | tokens => .error (lineOf tokens)

/-- The opening tag of a loop after its keyword: name, source and condition. -/
def loopTag (tokens : List Token) : Reading (String × Expr × Option Expr) :=
  match target tokens with
  | .error line => .error line
  | .ok (name, rest) =>
    match expect (.name "in") rest with
    | .error line => .error line
    | .ok (_, rest) =>
      match expression rest with
      | .error line => .error line
      | .ok (source, ⟨_, .name "if"⟩ :: rest) =>
        match expression rest with
        | .error line => .error line
        | .ok (condition, rest) =>
          match tagEnd rest with
          | .error line => .error line
          | .ok (_, rest) => .ok ((name, source, some condition), rest)
      | .ok (source, rest) =>
        match tagEnd rest with
        | .error line => .error line
        | .ok (_, rest) => .ok ((name, source, none), rest)

/-- The tag that sets a name, after its keyword. -/
def setTag (tokens : List Token) : Reading Statement :=
  match target tokens with
  | .error line => .error line
  | .ok (name, rest) =>
    match expect (.symbol "=") rest with
    | .error line => .error line
    | .ok (_, rest) =>
      match expression rest with
      | .error line => .error line
      | .ok (value, rest) =>
        match expect .closeBlock rest with
        | .error line => .error line
        | .ok (_, rest) => .ok (.set name value, rest)

/-- The rest of a printed expression. -/
def printTag (tokens : List Token) : Reading Statement :=
  match expression tokens with
  | .error line => .error line
  | .ok (value, rest) =>
    match expect .closePrint rest with
    | .error line => .error line
    | .ok (_, rest) => .ok (.print value, rest)

mutual

/-- Statements up to the end or to a block tag among `ends`, whose name is left to be read. `fuel`
bounds the number of statements and of tags. -/
def statements : Nat → List String → List Token → Reading (List Statement)
  | 0, _, tokens => .error (lineOf tokens)
  | fuel + 1, ends, tokens =>
    match tokens with
    | [] => .ok ([], [])
    | ⟨line, .finish⟩ :: _ => if ends.isEmpty then .ok ([], tokens) else .error line
    | ⟨_, .openBlock⟩ :: ⟨line, .name name⟩ :: rest =>
      if ends.contains name then .ok ([], ⟨line, .name name⟩ :: rest)
      else
        match block fuel name line rest with
        | .error line => .error line
        | .ok (first, rest) =>
          match statements fuel ends rest with
          | .error line => .error line
          | .ok (others, rest) => .ok (first :: others, rest)
    | ⟨_, .openBlock⟩ :: rest => .error (lineOf rest)
    | ⟨_, .openPrint⟩ :: rest =>
      match printTag rest with
      | .error line => .error line
      | .ok (first, rest) =>
        match statements fuel ends rest with
        | .error line => .error line
        | .ok (others, rest) => .ok (first :: others, rest)
    | ⟨_, .text content⟩ :: rest =>
      match statements fuel ends rest with
      | .error line => .error line
      | .ok (others, rest) => .ok (.text content :: others, rest)
    | ⟨line, _⟩ :: _ => .error line

/-- A block after its first name. -/
def block : Nat → String → Nat → List Token → Reading Statement
  | 0, _, line, _ => .error line
  | fuel + 1, name, line, tokens =>
    match name with
    | "set" => setTag tokens
    | "for" =>
      match loopTag tokens with
      | .error line => .error line
      | .ok ((name, source, condition), rest) =>
        match statements fuel ["endfor", "else"] rest with
        | .error line => .error line
        | .ok (body, ⟨_, .name "endfor"⟩ :: rest) =>
          match expect .closeBlock rest with
          | .error line => .error line
          | .ok (_, rest) => .ok (.loop name source condition body [], rest)
        | .ok (body, _ :: rest) =>
          match finalBody fuel "endfor" rest with
          | .error line => .error line
          | .ok (otherwise, rest) => .ok (.loop name source condition body otherwise, rest)
        | .ok (_, []) => .error line
    | "if" => branches fuel tokens
    | _ => .error line

/-- The statements after an `else` tag's name, up to the end of the block. -/
def finalBody : Nat → String → List Token → Reading (List Statement)
  | 0, _, tokens => .error (lineOf tokens)
  | fuel + 1, name, tokens =>
    match tagEnd tokens with
    | .error line => .error line
    | .ok (_, rest) =>
      match statements fuel [name] rest with
      | .error line => .error line
      | .ok (body, rest) =>
        match expect .closeBlock (rest.drop 1) with
        | .error line => .error line
        | .ok (_, rest) => .ok (body, rest)

/-- A branch after its keyword, with the branches that follow from its `elif` tags. -/
def branches : Nat → List Token → Reading Statement
  | 0, tokens => .error (lineOf tokens)
  | fuel + 1, tokens =>
    match expression tokens with
    | .error line => .error line
    | .ok (condition, rest) =>
      match tagEnd rest with
      | .error line => .error line
      | .ok (_, rest) =>
        match statements fuel ["elif", "else", "endif"] rest with
        | .error line => .error line
        | .ok (yes, ⟨_, .name "elif"⟩ :: rest) =>
          match branches fuel rest with
          | .error line => .error line
          | .ok (no, rest) => .ok (.branch condition yes [no], rest)
        | .ok (yes, ⟨_, .name "else"⟩ :: rest) =>
          match finalBody fuel "endif" rest with
          | .error line => .error line
          | .ok (no, rest) => .ok (.branch condition yes no, rest)
        | .ok (yes, rest) =>
          match expect .closeBlock (rest.drop 1) with
          | .error line => .error line
          | .ok (_, rest) => .ok (.branch condition yes [], rest)

end

end Parser

end ViewGen.Template

namespace ViewGen

/-- A template that has been read. -/
structure Template where
  statements : List Template.Statement
deriving Repr

/-- Reads a template, or names the line at fault. A filter that does not exist is a fault too. -/
def Template.parse (text : String) : Except Nat Template :=
  let tokens := Token.scan text.toList
  match Parser.statements (2 * tokens.length + 1) [] tokens with
  | .error line => .error line
  | .ok (statements, _) =>
    match unknownFilterIn false statements with
    | some line => .error line
    | none => .ok ⟨statements⟩

end ViewGen
