import ViewGen.Json.Basic
import ViewGen.Text.CodePoints

/-!
# JSON tokens

A text is cut into tokens from left to right. What is no token ends the list as `invalid`.
-/

namespace ViewGen.Json

/-- A piece of a JSON text; `invalid` stands for a rest that is none. -/
inductive Token where
  | openObject
  | closeObject
  | openArray
  | closeArray
  | comma
  | colon
  /-- A value of one token. -/
  | scalar (value : Json)
  | invalid

namespace Token

def isSpace (c : Char) : Bool :=
  c = ' ' || c = '\t' || c = '\n' || c = '\r'

/-- The unit named by four hexadecimal digits. -/
def unit? (a b c d : Char) : Option UInt16 :=
  match Text.hexValue? a, Text.hexValue? b, Text.hexValue? c, Text.hexValue? d with
  | some a, some b, some c, some d => some (UInt16.ofNat (((a * 16 + b) * 16 + c) * 16 + d))
  | _, _, _, _ => none

/-- The unit named by a character after a backslash. -/
def escape? : Char → Option UInt16
  | '"' => some 0x22
  | '\\' => some 0x5C
  | '/' => some 0x2F
  | 'b' => some 0x08
  | 'f' => some 0x0C
  | 'n' => some 0x0A
  | 'r' => some 0x0D
  | 't' => some 0x09
  | _ => none

/-- The units up to the closing quote, and what follows it. Control characters must be escaped. -/
def textBody : List Char → Option (List UInt16 × List Char)
  | [] => none
  | '"' :: rest => some ([], rest)
  | '\\' :: 'u' :: a :: b :: c :: d :: rest =>
    match unit? a b c d, textBody rest with
    | some u, some (units, after) => some (u :: units, after)
    | _, _ => none
  | '\\' :: e :: rest =>
    match escape? e, textBody rest with
    | some u, some (units, after) => some (u :: units, after)
    | _, _ => none
  | c :: rest =>
    if c.toNat < 0x20 || c = '\\' then none
    else match textBody rest with
      | some (units, after) => some (Units.ofChar c ++ units, after)
      | none => none

/-- Integers with more digits are refused. -/
def digitLimit : Nat := 4300

/-- The digits after a point, if there is a point with a digit after it. -/
def fraction : List Char → List Char × List Char
  | '.' :: rest =>
    match rest.takeWhile Char.isDigit with
    | [] => ([], '.' :: rest)
    | digits => (digits, rest.dropWhile Char.isDigit)
  | s => ([], s)

/-- The decimal exponent, if there is one, and what follows. -/
def exponent : List Char → Option Int × List Char
  | e :: rest =>
    if e = 'e' || e = 'E' then
      let (negative, unsigned) := match rest with
        | '-' :: r => (true, r)
        | '+' :: r => (false, r)
        | r => (false, r)
      match unsigned.takeWhile Char.isDigit with
      | [] => (none, e :: rest)
      | digits =>
        let n : Int := Text.decimalValue digits
        (some (if negative then -n else n), unsigned.dropWhile Char.isDigit)
    else (none, e :: rest)
  | [] => (none, [])

/-- The digits before a point. A leading zero stands alone. -/
def wholeDigits : List Char → List Char
  | '0' :: _ => ['0']
  | s => s.takeWhile Char.isDigit

/-- The number at the start of a text without sign, and what follows. -/
def number (negative : Bool) (s : List Char) : Option (Json × List Char) :=
  let whole := wholeDigits s
  if whole.isEmpty then none
  else
    let (decimals, afterDecimals) := fraction (s.drop whole.length)
    let (power, after) := exponent afterDecimals
    if decimals.isEmpty && power.isNone then
      if digitLimit < whole.length then none
      else
        let n : Int := Text.decimalValue whole
        some (.integer (if negative then -n else n), after)
    else
      let scale : Int := power.getD 0 - decimals.length
      some (.real (.ofDecimal negative (Text.decimalValue (whole ++ decimals)) scale), after)

/-- The words that are values. -/
def words : List (List Char × Json) := [
  ("null".toList, .null),
  ("true".toList, .bool true),
  ("false".toList, .bool false),
  ("NaN".toList, .real .notANumber),
  ("Infinity".toList, .real (.infinite false)),
  ("-Infinity".toList, .real (.infinite true))]

/-- The word at the start of a text, and what follows. -/
def word (s : List Char) : Option (Json × List Char) :=
  words.findSome? fun (name, value) =>
    if name.isPrefixOf s then some (value, s.drop name.length) else none

/-- The value of one token at the start of a text, and what follows. -/
def scalar? : List Char → Option (Json × List Char)
  | '"' :: rest => (textBody rest).map fun (units, after) => (.text ⟨units⟩, after)
  | '-' :: rest =>
    match number true rest with
    | some found => some found
    | none => word ('-' :: rest)
  | s =>
    match number false s with
    | some found => some found
    | none => word s

/-- The token that one character is. -/
def punctuation? : Char → Option Token
  | '\x7b' => some .openObject
  | '\x7d' => some .closeObject
  | '[' => some .openArray
  | ']' => some .closeArray
  | ',' => some .comma
  | ':' => some .colon
  | _ => none

/-- The tokens of a text, of which `fuel` bounds the number. -/
def scanFrom : Nat → List Char → List Token
  | 0, _ => []
  | fuel + 1, s =>
    match s.dropWhile isSpace with
    | [] => []
    | c :: rest =>
      match punctuation? c with
      | some token => token :: scanFrom fuel rest
      | none =>
        match scalar? (c :: rest) with
        | some (value, after) => .scalar value :: scanFrom fuel after
        | none => [.invalid]

/-- The tokens of a text: there are never more of them than characters. -/
def scan (s : List Char) : List Token :=
  scanFrom (s.length + 1) s

end Token

end ViewGen.Json
