import ViewGen.Text.CaseTable

/-!
# Lower case and capitalization

Case mappings of whole texts. A character can map to several, and a capital sigma maps to its final
form at the end of a word.
-/

namespace ViewGen.Text

/-- The code point that a run maps `n` to, if it covers `n`. -/
def CaseRun.shifted (run : CaseRun) (n : Nat) : Option Nat :=
  if run.first ≤ n ∧ n ≤ run.last ∧ (n - run.first) % run.step = 0 then
    some (n + run.shift).toNat
  else none

/-- The character that the first covering run maps `c` to, else `c` itself. -/
def mapThrough (runs : List CaseRun) (c : Char) : Char :=
  match runs.findSome? (·.shifted c.toNat) with
  | some n => Char.ofNat n
  | none => c

/-- The lower case form of a character that stands alone. -/
def lowerChar (c : Char) : List Char :=
  if c.toNat < 0x80 then [c.toLower]
  else if c = '\u0130' then ['i', '\u0307']
  else [mapThrough lowerRuns c]

/-- The title case form of a character. -/
def titleChar (c : Char) : List Char :=
  if c.toNat < 0x80 then [c.toUpper]
  else match titleExpansions.lookup c.toNat with
    | some codes => codes.map Char.ofNat
    | none => [mapThrough titleRuns c]

def isCased (c : Char) : Bool :=
  inRanges c.toNat casedRanges

def isCaseIgnorable (c : Char) : Bool :=
  inRanges c.toNat caseIgnorableRanges

/-- Whether the next character that counts has case. -/
def meetsCased (s : List Char) : Bool :=
  match s.dropWhile isCaseIgnorable with
  | [] => false
  | c :: _ => isCased c

/-- The lower case form of the text `s` that follows `before`, which is given reversed. A capital
sigma becomes final when a letter comes before it and none after it. -/
def lowerAfter (before : List Char) : List Char → List Char
  | [] => []
  | c :: rest =>
    let form :=
      if c = '\u03A3' then [if meetsCased before && !meetsCased rest then '\u03C2' else '\u03C3']
      else lowerChar c
    form ++ lowerAfter (c :: before) rest

def lowerChars (s : List Char) : List Char :=
  lowerAfter [] s

def lower (s : String) : String :=
  String.ofList (lowerChars s.toList)

/-- The first character in title case and all others in lower case. -/
def capitalizeChars : List Char → List Char
  | [] => []
  | c :: rest => titleChar c ++ lowerAfter [c] rest

end ViewGen.Text
