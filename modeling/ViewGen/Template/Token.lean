import ViewGen.Text.Separators
import ViewGen.Text.CodePoints
import ViewGen.Text.Identifier
import ViewGen.Text.Quoted

/-!
# Template tokens

A template is text with blocks between percent braces, printed expressions between double braces
and comments between hash braces. The newline after a block or comment goes, and so do the blanks
between the start of a line and a block or comment.
-/

namespace ViewGen.Template

inductive TokenKind where
  | text (content : String)
  | openBlock
  | closeBlock
  | openPrint
  | closePrint
  | name (name : String)
  | literal (content : String)
  | number (digits : String)
  | symbol (symbol : String)
  /-- Stands where the template cannot be cut into tokens. -/
  | fault
  /-- Stands after the last token. -/
  | finish
deriving DecidableEq, Repr

/-- A token and the line it starts on. -/
structure Token where
  line : Nat
  kind : TokenKind
deriving DecidableEq, Repr

namespace Token

/-- What a pair of characters opens. -/
inductive Opening where
  | block
  | print
  | comment
deriving DecidableEq, Repr

/-- A sign beside a delimiter: a minus removes all blanks on that side, a plus keeps them. -/
inductive Sign where
  | none
  | minus
  | plus
deriving DecidableEq, Repr

def signed : List Char → Sign × List Char
  | '-' :: rest => (.minus, rest)
  | '+' :: rest => (.plus, rest)
  | s => (.none, s)

def opening? : List Char → Option (Opening × List Char)
  | '\x7b' :: '\x7b' :: rest => some (.print, rest)
  | '\x7b' :: '%' :: rest => some (.block, rest)
  | '\x7b' :: '#' :: rest => some (.comment, rest)
  | _ => none

/-- The text before the first opening, and what follows the opening if there is one. -/
def untilOpening : List Char → List Char × Option (Opening × List Char)
  | [] => ([], none)
  | c :: rest =>
    match opening? (c :: rest) with
    | some found => ([], some found)
    | none =>
      let (text, found) := untilOpening rest
      (c :: text, found)

def lineFeeds (s : List Char) : Nat :=
  s.count '\n'

def dropEndWhile (p : Char → Bool) (s : List Char) : List Char :=
  (s.reverse.dropWhile p).reverse

/-- Removes the blanks after the last line feed, if nothing else stands there and a line starts
there. `atLineStart` says whether a line starts with the text. -/
def dropIndent (atLineStart : Bool) (text : List Char) : List Char :=
  let indent := (text.reverse.takeWhile (· ≠ '\n')).reverse
  if indent.all Text.isBlank && (atLineStart || text.contains '\n') then
    text.take (text.length - indent.length)
  else text

/-- The text that stays before an opening. -/
def keptText (atLineStart : Bool) (opening : Opening) (sign : Sign) (text : List Char) :
    List Char :=
  match sign, opening with
  | .minus, _ => dropEndWhile Text.isBlank text
  | .none, .block => dropIndent atLineStart text
  | .none, .comment => dropIndent atLineStart text
  | _, _ => text

/-- A closing delimiter at the start of `s`, of the two characters `a b`: the characters it takes
with it, and what follows. A minus before it takes all blanks, else a block or comment takes one
line feed. -/
def closing? (a b : Char) (takesLineFeed : Bool) : List Char → Option (List Char × List Char)
  | c :: d :: rest =>
    if c = a && d = b then
      match takesLineFeed, rest with
      | true, '\n' :: after => some (['\n'], after)
      | _, _ => some ([], rest)
    else match rest with
      | e :: after =>
        if d = a && e = b then
          if c = '-' then some (after.takeWhile Text.isBlank, after.dropWhile Text.isBlank)
          else if c = '+' && takesLineFeed then some ([], after)
          else none
        else none
      | [] => none
  | _ => none

/-- The comment up to its end, the blanks taken with the end, and what follows. -/
def untilCommentEnd : List Char → Option (List Char × List Char × List Char)
  | [] => none
  | c :: rest =>
    match closing? '#' '\x7d' true (c :: rest) with
    | some (taken, after) => some ([], taken, after)
    | none => (untilCommentEnd rest).map fun (comment, found) => (c :: comment, found)

/-- The raw text up to the quote, which a backslash hides, and what follows the quote. -/
def untilQuote (quote : Char) : List Char → Option (List Char × List Char)
  | [] => none
  | '\\' :: c :: rest => (untilQuote quote rest).map fun (raw, after) => ('\\' :: c :: raw, after)
  | c :: rest =>
    if c = quote then some ([], rest)
    else if c = '\\' then none
    else (untilQuote quote rest).map fun (raw, after) => (c :: raw, after)

def isOctal (c : Char) : Bool :=
  '0' ≤ c && c ≤ '7'

/-- The character that a single letter stands for after a backslash. -/
def escape? : Char → Option Char
  | '\\' => some '\\'
  | '\'' => some '\''
  | '"' => some '"'
  | 'a' => some '\x07'
  | 'b' => some '\x08'
  | 'f' => some '\x0c'
  | 'n' => some '\n'
  | 'r' => some '\r'
  | 't' => some '\t'
  | 'v' => some '\x0b'
  | _ => none

/-- A character that no escape is made of, after the backslash that stays before it. One beyond ASCII
is spelled by its code. -/
def keptEscape (c : Char) : List Char :=
  let n := c.toNat
  if n < 0x80 then ['\\', c]
  else if n < 0x100 then '\\' :: 'x' :: Text.hexDigits 2 n
  else if n < 0x10000 then '\\' :: 'u' :: Text.hexDigits 4 n
  else '\\' :: 'U' :: Text.hexDigits 8 n

/-- The text of a literal with its escapes resolved; nothing if one is cut short. `fuel` bounds the
number of characters. -/
def unescape : Nat → List Char → Option (List Char)
  | 0, _ => some []
  | _, [] => some []
  | fuel + 1, '\\' :: '\n' :: rest => unescape fuel rest
  | fuel + 1, '\\' :: c :: rest =>
    match escape? c with
    | some d => (unescape fuel rest).map (d :: ·)
    | none =>
      let digits := match c with
        | 'x' => 2
        | 'u' => 4
        | 'U' => 8
        | _ => 0
      if 0 < digits then
        match Text.hexChar? digits rest with
        | some d => (unescape fuel (rest.drop digits)).map (d :: ·)
        | none => none
      else if c = 'N' then none
      else if isOctal c then
        let octal := (c :: rest.take 2).takeWhile isOctal
        let code := octal.foldl (fun code digit => 8 * code + (digit.toNat - 48)) 0
        (unescape fuel (rest.drop (octal.length - 1))).map (Char.ofNat code :: ·)
      else (unescape fuel rest).map (keptEscape c ++ ·)
  | fuel + 1, c :: rest => (unescape fuel rest).map (c :: ·)

/-- The symbols of expressions, the longer ones first. -/
def symbols : List String :=
  ["//", "**", "==", "!=", ">=", "<=", "+", "-", "/", "*", "%", "~", "[", "]", "(", ")", "\x7b",
    "\x7d", ">", "<", "=", ".", ":", "|", ",", ";"]

def symbol? (s : List Char) : Option (String × List Char) :=
  symbols.findSome? fun symbol =>
    if symbol.toList.isPrefixOf s then some (symbol, s.drop symbol.length) else none

/-- The bracket that closes an opening bracket. -/
def closer? : String → Option String
  | "(" => some ")"
  | "[" => some "]"
  | "\x7b" => some "\x7d"
  | _ => none

/-- The brackets that are still to be closed after a symbol; nothing if it closes the wrong one. -/
def expected? (stack : List String) (symbol : String) : Option (List String) :=
  match closer? symbol with
  | some closer => some (closer :: stack)
  | none =>
    if symbol = ")" || symbol = "]" || symbol = "\x7d" then
      match stack with
      | top :: rest => if top = symbol then some rest else none
      | [] => none
    else some stack

/-- A token inside of a block or a printed expression: its kind, the characters it takes, what
follows, and the brackets still open. -/
def code? (stack : List String) : List Char → Option (TokenKind × List Char × List String)
  | [] => none
  | c :: rest =>
    if Text.isIdentifierStart c then
      let name := (c :: rest).takeWhile Text.isIdentifierPart
      some (.name (String.ofList name), (c :: rest).dropWhile Text.isIdentifierPart, stack)
    else if c.isDigit then
      let digits := (c :: rest).takeWhile Char.isDigit
      some (.number (String.ofList digits), (c :: rest).dropWhile Char.isDigit, stack)
    else if c = '\'' || c = '"' then
      match untilQuote c rest with
      | some (raw, after) =>
        match unescape raw.length raw with
        | some content => some (.literal (String.ofList content), after, stack)
        | none => none
      | none => none
    else match symbol? (c :: rest) with
      | some (symbol, after) => (expected? stack symbol).map fun open' => (.symbol symbol, after, open')
      | none => none

/-- Where a template is read: in text, of which a line may have just started, or in a block or a
printed expression with brackets still to be closed. -/
inductive Mode where
  | text (atLineStart : Bool)
  | code (opening : Opening) (stack : List String)

def closeFor (opening : Opening) : List Char → Option (List Char × List Char) :=
  match opening with
  | .print => closing? '\x7d' '\x7d' false
  | _ => closing? '%' '\x7d' true

def endsLine (s : List Char) : Bool :=
  s.getLast? = some '\n'

/-- The tokens from line `line` on; `last` is the line of the token before, and `fuel` bounds the
number of steps. -/
def scanFrom : Nat → Mode → Nat → Nat → List Char → List Token
  | 0, _, _, last, _ => [⟨last, .finish⟩]
  | fuel + 1, .text atLineStart, line, last, s =>
    if s.isEmpty then [⟨last, .finish⟩]
    else
      let (text, found) := untilOpening s
      match found with
      | none => [⟨line, .text (String.ofList text)⟩, ⟨line, .finish⟩]
      | some (opening, rest) =>
        let (sign, rest) := signed rest
        let kept := keptText atLineStart opening sign text
        let here := line + lineFeeds text
        let before := if kept.isEmpty then [] else [Token.mk line (.text (String.ofList kept))]
        let last := if kept.isEmpty then last else line
        match opening with
        | .comment =>
          match untilCommentEnd rest with
          | none => before ++ [if rest.isEmpty then ⟨last, .finish⟩ else ⟨here, .fault⟩]
          | some (comment, taken, after) =>
            before ++ scanFrom fuel (.text (endsLine taken)) (here + lineFeeds comment + lineFeeds taken)
              last after
        | .block => before ++ ⟨here, .openBlock⟩ :: scanFrom fuel (.code .block []) here here rest
        | .print => before ++ ⟨here, .openPrint⟩ :: scanFrom fuel (.code .print []) here here rest
  | fuel + 1, .code opening stack, line, last, s =>
    match if stack.isEmpty then closeFor opening s else none with
    | some (taken, after) =>
      let kind := if opening = .print then TokenKind.closePrint else .closeBlock
      ⟨line, kind⟩ :: scanFrom fuel (.text (endsLine taken)) (line + lineFeeds taken) line after
    | none =>
      match s with
      | [] => [⟨last, .finish⟩]
      | c :: rest =>
        if Text.isBlank c then
          scanFrom fuel (.code opening stack) (if c = '\n' then line + 1 else line) last rest
        else match code? stack (c :: rest) with
          | none => [⟨line, .fault⟩]
          | some (kind, after, stack) =>
            let taken := s.take (s.length - after.length)
            ⟨line, kind⟩ :: scanFrom fuel (.code opening stack) (line + lineFeeds taken) line after

/-- The tokens of a template, closed by `finish` or `fault`. -/
def scan (s : List Char) : List Token :=
  scanFrom (2 * s.length + 2) (.text true) 1 1 s

end Token

end ViewGen.Template
