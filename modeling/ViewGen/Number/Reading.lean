import ViewGen.Number.Binary64
import ViewGen.Text.Separators
import ViewGen.Text.CodePoints

/-!
# Reading numbers

A number is written with an optional sign, digits with at most one point among or beside them, and an
optional exponent. Infinity and what is no number have words.
-/

namespace ViewGen.Binary64

/-- The blank characters of Unicode, to which the separators of records do not belong. -/
def isWhite (c : Char) : Bool :=
  Text.isBlank c && !(28 ≤ c.toNat && c.toNat ≤ 31)

def signOf : List Char → Bool × List Char
  | '-' :: rest => (true, rest)
  | '+' :: rest => (false, rest)
  | s => (false, s)

/-- An exponent that makes up a whole text. -/
def exponentOf? : List Char → Option Int
  | [] => some 0
  | e :: rest =>
    let (negative, digits) := signOf rest
    if (e = 'e' || e = 'E') && !digits.isEmpty && digits.all Char.isDigit then
      let n : Int := Text.decimalValue digits
      some (if negative then -n else n)
    else none

/-- The digits after a point, if there is one. -/
def decimalsOf : List Char → List Char × List Char
  | '.' :: rest => (rest.takeWhile Char.isDigit, rest.dropWhile Char.isDigit)
  | s => ([], s)

/-- The word that a text is, without its sign and in any case. -/
def wordOf? (negative : Bool) (s : List Char) : Option Binary64 :=
  match String.ofList (s.map Char.toLower) with
  | "inf" => some (.infinite negative)
  | "infinity" => some (.infinite negative)
  | "nan" => some .notANumber
  | _ => none

/-- The number that a text without blanks writes. -/
def ofChars? (s : List Char) : Option Binary64 :=
  let (negative, unsigned) := signOf s
  let whole := unsigned.takeWhile Char.isDigit
  let (decimals, rest) := decimalsOf (unsigned.dropWhile Char.isDigit)
  match (whole ++ decimals).isEmpty, exponentOf? rest with
  | false, some power =>
    some (.ofDecimal negative (Text.decimalValue (whole ++ decimals)) (power - decimals.length))
  | _, _ => wordOf? negative unsigned

/-- A text without its underscores, if each of them stands alone and between other characters. -/
def withoutUnderscores? (s : List Char) : Option (List Char) :=
  if s.head? = some '_' || s.getLast? = some '_' || Text.occursIn "__".toList s then none
  else some (s.filter (· ≠ '_'))

/-- The number that a text writes, with blanks around it. Underscores are allowed inside. -/
def ofText? (text : String) : Option Binary64 :=
  match ofChars? (Text.trimChars isWhite text.toList) with
  | some x => some x
  | none =>
    match withoutUnderscores? text.toList with
    | some s => ofChars? (Text.trimChars isWhite s)
    | none => none

end ViewGen.Binary64
