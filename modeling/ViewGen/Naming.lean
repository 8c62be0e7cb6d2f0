import ViewGen.Text.Separators
import ViewGen.Text.Case

/-!
# Naming conventions

Names respelled for the places of an artifact in which they stand. Word boundaries are found by
ASCII letters and digits only.
-/

namespace ViewGen.Naming

def isCapital (c : Char) : Bool :=
  'A' ≤ c && c ≤ 'Z'

def isSmall (c : Char) : Bool :=
  'a' ≤ c && c ≤ 'z'

def isSmallOrDigit (c : Char) : Bool :=
  isSmall c || ('0' ≤ c && c ≤ '9')

/-- Puts an underscore between a small letter or digit and a capital. -/
def markCapitals : List Char → List Char
  | [] => []
  | [c] => [c]
  | c :: d :: rest =>
    if isSmallOrDigit c && isCapital d then c :: '_' :: markCapitals (d :: rest)
    else c :: markCapitals (d :: rest)

/-- Puts an underscore before a capital with small letters after it, from left to right. A match
takes the character before the capital and all the small letters, so the next one starts beyond. -/
def markWords : List Char → List Char
  | c :: d :: e :: rest =>
    if c ≠ '\n' && isCapital d && isSmall e then
      c :: '_' :: d :: e :: (rest.takeWhile isSmall ++ markWords (rest.dropWhile isSmall))
    else c :: markWords (d :: e :: rest)
  | s => s
termination_by s => s.length
decreasing_by
  · have := (List.dropWhile_sublist (l := rest) isSmall).length_le
    simp only [List.length_cons]
    omega
  · simp

def snakeCaseChars (s : List Char) : List Char :=
  Text.lowerChars (markCapitals (markWords s))

/-- Lower case words joined by underscores. -/
def snakeCase (s : String) : String :=
  String.ofList (snakeCaseChars s.toList)

def kebabCaseChars (s : List Char) : List Char :=
  (snakeCaseChars s).map fun c => if c = '_' then '-' else c

/-- Lower case words joined by hyphens. -/
def kebabCase (s : String) : String :=
  String.ofList (kebabCaseChars s.toList)

def camelCaseChars (s : List Char) : List Char :=
  match Text.pieces '_' ((markCapitals s).map fun c => if c = '-' then '_' else c) with
  | [] => []
  | first :: others => Text.lowerChars first ++ others.flatMap Text.capitalizeChars

/-- The first word in lower case and every other one capitalized, without separators. -/
def camelCase (s : String) : String :=
  String.ofList (camelCaseChars s.toList)

def isVowel (c : Char) : Bool :=
  c = 'a' || c = 'e' || c = 'i' || c = 'o' || c = 'u'

/-- The plural of a word that is given reversed, reversed too. -/
def pluralReversed : List Char → List Char
  | 's' :: rest => 's' :: 'e' :: 's' :: rest
  | 'x' :: rest => 's' :: 'e' :: 'x' :: rest
  | 'z' :: rest => 's' :: 'e' :: 'z' :: rest
  | 'h' :: 'c' :: rest => 's' :: 'e' :: 'h' :: 'c' :: rest
  | 'h' :: 's' :: rest => 's' :: 'e' :: 'h' :: 's' :: rest
  | 'y' :: c :: rest =>
    if isVowel c then 's' :: 'y' :: c :: rest else 's' :: 'e' :: 'i' :: c :: rest
  | s => 's' :: s

/-- The plural of an English noun, by its last letters only. -/
def plural (s : String) : String :=
  String.ofList (pluralReversed s.toList.reverse).reverse

/-- The kind of form input for a field of the base type. -/
def inputType (baseType : String) : String :=
  if ["Int", "BigInt", "Float", "Decimal"].contains baseType then "number"
  else if baseType = "Boolean" then "checkbox"
  else if baseType = "DateTime" then "datetime-local"
  else "text"

end ViewGen.Naming
