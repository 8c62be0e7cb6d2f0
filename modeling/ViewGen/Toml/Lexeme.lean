import ViewGen.Text.CodePoints
import ViewGen.Toml.Basic

/-!
# TOML lexemes

The values and keys that hold no other values. Every reader takes a text from its start and gives
what follows.
-/

namespace ViewGen.Toml

abbrev Reading (α : Type) := Except Fault (α × List Char)

def malformed {α : Type} : Except Fault α :=
  .error .malformed

def isSpace (c : Char) : Bool :=
  c = ' ' || c = '\t'

def skipSpace (s : List Char) : List Char :=
  s.dropWhile isSpace

/-- Control characters are allowed nowhere, except for the tab. -/
def isForbidden (c : Char) : Bool :=
  (c.toNat < 0x20 || c.toNat = 0x7F) && c ≠ '\t'

/-- In texts of several lines the line feed is allowed too. -/
def isForbiddenInLines (c : Char) : Bool :=
  isForbidden c && c ≠ '\n'

/-- Skips a comment up to the end of its line, if there is one. -/
def skipComment : List Char → Except Fault (List Char)
  | '#' :: rest =>
    if (rest.takeWhile (· ≠ '\n')).any isForbidden then malformed
    else .ok (rest.dropWhile (· ≠ '\n'))
  | s => .ok s

/-- Skips blanks, line feeds and comments; `commented` says whether the text starts in a comment. -/
def skipLines (commented : Bool) : List Char → Except Fault (List Char)
  | [] => .ok []
  | c :: rest =>
    if c = '\n' then skipLines false rest
    else if commented then if isForbidden c then malformed else skipLines true rest
    else if isSpace c then skipLines false rest
    else if c = '#' then skipLines true rest
    else .ok (c :: rest)

/-! ### Texts -/

/-- The text up to the closing apostrophe. -/
def literal (s : List Char) : Reading String :=
  let content := s.takeWhile (· ≠ '\'')
  match s.dropWhile (· ≠ '\'') with
  | [] => malformed
  | _ :: rest => if content.any isForbidden then malformed else .ok (String.ofList content, rest)

/-- The characters up to three quotes in a row. -/
def untilThree (quote : Char) : List Char → Option (List Char × List Char)
  | a :: b :: c :: rest =>
    if a = quote ∧ b = quote ∧ c = quote then some ([], rest)
    else (untilThree quote (b :: c :: rest)).map fun (content, after) => (a :: content, after)
  | _ => none

/-- Up to two quotes after three closing ones still belong to the text. -/
def withExtraQuotes (quote : Char) (content : List Char) (s : List Char) : String × List Char :=
  let extra := (s.take 2).takeWhile (· = quote)
  (String.ofList (content ++ extra), s.drop extra.length)

/-- A line feed right after three opening quotes is no part of the text. -/
def dropFirstBreak : List Char → List Char
  | '\n' :: rest => rest
  | s => s

def literalLines (s : List Char) : Reading String :=
  match untilThree '\'' (dropFirstBreak s) with
  | none => malformed
  | some (content, rest) =>
    if content.any isForbiddenInLines then malformed
    else .ok (withExtraQuotes '\'' content rest)

def escape? : Char → Option Char
  | 'b' => some '\x08'
  | 't' => some '\t'
  | 'n' => some '\n'
  | 'f' => some '\x0c'
  | 'r' => some '\r'
  | '"' => some '"'
  | '\\' => some '\\'
  | _ => none

/-- The character named after a backslash, and what follows. -/
def escaped : List Char → Option (Char × List Char)
  | 'u' :: rest => (Text.hexChar? 4 rest).map fun c => (c, rest.drop 4)
  | 'U' :: rest => (Text.hexChar? 8 rest).map fun c => (c, rest.drop 8)
  | e :: rest => (escape? e).map fun c => (c, rest)
  | [] => none

/-- What follows a backslash at the end of a line: blanks and line breaks up to the next character
are no part of the text. -/
def continued? (s : List Char) : Option (List Char) :=
  match skipSpace s with
  | '\n' :: rest => some (rest.dropWhile fun c => isSpace c || c = '\n')
  | _ => none

/-- The characters up to the closing quote. `fuel` bounds their number. -/
def basicFrom : Nat → List Char → Option (List Char × List Char)
  | 0, _ => none
  | _, [] => none
  | fuel + 1, c :: rest =>
    if c = '"' then some ([], rest)
    else if c = '\\' then
      match escaped rest with
      | none => none
      | some (d, after) => (basicFrom fuel after).map fun (content, after) => (d :: content, after)
    else if isForbidden c then none
    else (basicFrom fuel rest).map fun (content, after) => (c :: content, after)

def basic (s : List Char) : Reading String :=
  match basicFrom s.length s with
  | none => malformed
  | some (content, rest) => .ok (String.ofList content, rest)

/-- The characters up to three closing quotes. `fuel` bounds their number. -/
def basicLinesFrom : Nat → List Char → Option (List Char × List Char)
  | 0, _ => none
  | _, [] => none
  | fuel + 1, c :: rest =>
    if c = '"' ∧ "\"\"".toList.isPrefixOf rest then some ([], rest.drop 2)
    else if c = '\\' then
      match continued? rest, escaped rest with
      | some after, _ => basicLinesFrom fuel after
      | none, none => none
      | none, some (d, after) =>
        (basicLinesFrom fuel after).map fun (content, after) => (d :: content, after)
    else if isForbiddenInLines c then none
    else (basicLinesFrom fuel rest).map fun (content, after) => (c :: content, after)

def basicLines (s : List Char) : Reading String :=
  let s := dropFirstBreak s
  match basicLinesFrom s.length s with
  | none => malformed
  | some (content, rest) => .ok (withExtraQuotes '"' content rest)

/-! ### Keys -/

def isBareKey (c : Char) : Bool :=
  c.isAlphanum || c = '-' || c = '_'

def keyPart : List Char → Reading String
  | '\'' :: rest => literal rest
  | '"' :: rest => basic rest
  | s =>
    match s.takeWhile isBareKey with
    | [] => malformed
    | name => .ok (String.ofList name, s.dropWhile isBareKey)

/-- Parts with dots between them. `fuel` bounds their number. -/
def keyFrom : Nat → List Char → Reading Key
  | 0, _ => malformed
  | fuel + 1, s =>
    match keyPart s with
    | .error fault => .error fault
    | .ok (part, rest) =>
      match skipSpace rest with
      | '.' :: rest => (keyFrom fuel (skipSpace rest)).map fun (parts, rest) => (part :: parts, rest)
      | rest => .ok ([part], rest)

def key (s : List Char) : Reading Key :=
  keyFrom (s.length + 1) s

/-! ### Numbers -/

/-- The digits after a first one. A single underscore may stand before each. -/
def moreDigits (isDigit : Char → Bool) : List Char → List Char × List Char
  | [] => ([], [])
  | '_' :: c :: rest =>
    if isDigit c then
      let (digits, after) := moreDigits isDigit rest
      (c :: digits, after)
    else ([], '_' :: c :: rest)
  | c :: rest =>
    if isDigit c then
      let (digits, after) := moreDigits isDigit rest
      (c :: digits, after)
    else ([], c :: rest)

/-- The digits at the start of a text, which may be none. -/
def digitsOf (isDigit : Char → Bool) : List Char → List Char × List Char
  | c :: rest =>
    if isDigit c then
      let (digits, after) := moreDigits isDigit rest
      (c :: digits, after)
    else ([], c :: rest)
  | [] => ([], [])

/-- An integer in another base than ten. -/
def basedInteger : List Char → Option (Toml × List Char)
  | '0' :: mark :: rest =>
    let (base, isDigit) : Nat × (Char → Bool) := match mark with
      | 'x' => (16, Text.isHexDigit)
      | 'o' => (8, fun c => '0' ≤ c && c ≤ '7')
      | 'b' => (2, fun c => c = '0' || c = '1')
      | _ => (0, fun _ => false)
    match digitsOf isDigit rest with
    | ([], _) => none
    | (digits, after) => some (.integer (Text.digitsValue base digits), after)
  | _ => none

def sign : List Char → Bool × List Char
  | '-' :: rest => (true, rest)
  | '+' :: rest => (false, rest)
  | s => (false, s)

/-- The digits before the point: a leading zero stands alone. -/
def wholePart : List Char → List Char × List Char
  | '0' :: rest => (['0'], rest)
  | s => digitsOf Char.isDigit s

/-- The digits after a point, if there is a point with a digit after it. -/
def decimalPart : List Char → List Char × List Char
  | '.' :: rest =>
    match digitsOf Char.isDigit rest with
    | ([], _) => ([], '.' :: rest)
    | found => found
  | s => ([], s)

/-- The decimal exponent, if there is one. -/
def exponentPart : List Char → Option Int × List Char
  | e :: rest =>
    let (negative, unsigned) := sign rest
    match e = 'e' || e = 'E', digitsOf Char.isDigit unsigned with
    | true, (d :: digits, after) =>
      let n : Int := Text.decimalValue (d :: digits)
      (some (if negative then -n else n), after)
    | _, _ => (none, e :: rest)
  | [] => (none, [])

/-- Integers with more decimal digits cannot be read. -/
def digitLimit : Nat := 4300

def decimalNumber (s : List Char) : Reading Toml :=
  let (negative, unsigned) := sign s
  let (whole, rest) := wholePart unsigned
  let (decimals, rest) := decimalPart rest
  let (power, rest) := exponentPart rest
  if whole.isEmpty then malformed
  else if decimals.isEmpty && power.isNone then
    if digitLimit < whole.length then .error (.tooManyDigits whole.length)
    else
      let n : Int := Text.decimalValue whole
      .ok (.integer (if negative then -n else n), rest)
  else
    let scale : Int := power.getD 0 - decimals.length
    .ok (.real (.ofDecimal negative (Text.decimalValue (whole ++ decimals)) scale), rest)

/-! ### Dates and times -/

/-- A number of exactly `n` digits within bounds. -/
def fixedDigits (n low high : Nat) (s : List Char) : Option (Nat × List Char) :=
  let digits := s.take n
  let value := Text.decimalValue digits
  if digits.length = n && digits.all Char.isDigit && low ≤ value && value ≤ high then
    some (value, s.drop n)
  else none

def expectChar (c : Char) : List Char → Option (List Char)
  | d :: rest => if d = c then some rest else none
  | [] => none

def isLeapYear (year : Nat) : Bool :=
  year % 4 = 0 && (year % 100 ≠ 0 || year % 400 = 0)

def daysIn (year month : Nat) : Nat :=
  if month = 2 then if isLeapYear year then 29 else 28
  else if month = 4 ∨ month = 6 ∨ month = 9 ∨ month = 11 then 30
  else 31

/-- What follows a date of the calendar. -/
def date (s : List Char) : Option (List Char) := do
  let (year, s) ← fixedDigits 4 1 9999 s
  let s ← expectChar '-' s
  let (month, s) ← fixedDigits 2 1 12 s
  let s ← expectChar '-' s
  let (_, s) ← fixedDigits 2 1 (daysIn year month) s
  some s

/-- What follows hours and minutes. -/
def clock (s : List Char) : Option (List Char) := do
  let (_, s) ← fixedDigits 2 0 23 s
  let s ← expectChar ':' s
  let (_, s) ← fixedDigits 2 0 59 s
  some s

/-- What follows a fraction of a second, if there is one. -/
def skipFraction : List Char → List Char
  | '.' :: c :: rest => if c.isDigit then rest.dropWhile Char.isDigit else '.' :: c :: rest
  | s => s

/-- What follows a time of the day. -/
def time (s : List Char) : Option (List Char) := do
  let s ← clock s
  let s ← expectChar ':' s
  let (_, s) ← fixedDigits 2 0 59 s
  some (skipFraction s)

/-- What follows an offset from universal time, if there is one. -/
def skipOffset : List Char → List Char
  | c :: rest =>
    if c = 'Z' ∨ c = 'z' then rest
    else if c = '+' ∨ c = '-' then (clock rest).getD (c :: rest)
    else c :: rest
  | [] => []

/-- What follows a date, with the time of that day if there is one. -/
def dateTime (s : List Char) : Option (List Char) := do
  let s ← date s
  match s with
  | c :: rest =>
    if c = 'T' ∨ c = 't' ∨ c = ' ' then some (((time rest).map skipOffset).getD (c :: rest))
    else some (c :: rest)
  | [] => some []

/-! ### Values -/

/-- The words that are values. -/
def words : List (List Char × Toml) := [
  ("true".toList, .bool true),
  ("false".toList, .bool false),
  ("inf".toList, .real (.infinite false)),
  ("+inf".toList, .real (.infinite false)),
  ("-inf".toList, .real (.infinite true)),
  ("nan".toList, .real .notANumber),
  ("+nan".toList, .real .notANumber),
  ("-nan".toList, .real .notANumber)]

def word? (s : List Char) : Option (Toml × List Char) :=
  words.findSome? fun (name, value) =>
    if name.isPrefixOf s then some (value, s.drop name.length) else none

def textValue (found : Reading String) : Reading Toml :=
  found.map fun (content, rest) => (.text content, rest)

/-- A value that is no array and no table. -/
def scalar : List Char → Reading Toml
  | '"' :: '"' :: '"' :: rest => textValue (basicLines rest)
  | '"' :: rest => textValue (basic rest)
  | '\'' :: '\'' :: '\'' :: rest => textValue (literalLines rest)
  | '\'' :: rest => textValue (literal rest)
  | s =>
    match word? s, dateTime s, time s, basedInteger s with
    | some found, _, _, _ => .ok found
    | none, some rest, _, _ => .ok (.moment, rest)
    | none, none, some rest, _ => .ok (.moment, rest)
    | none, none, none, some found => .ok found
    | none, none, none, none => decimalNumber s

end ViewGen.Toml
