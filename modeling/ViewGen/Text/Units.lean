/-!
# Texts of 16-bit units

A JSON text can name half of a surrogate pair by an escape, so it is a sequence of 16-bit units and
not of characters. Every text of characters is one too.
-/

namespace ViewGen

structure Units where
  values : List UInt16
deriving DecidableEq, Repr

namespace Units

/-- The units of a character: a pair of surrogates beyond the first plane, else the code point. -/
def ofChar (c : Char) : List UInt16 :=
  let n := c.toNat
  if n < 0x10000 then [UInt16.ofNat n]
  else [UInt16.ofNat (0xD800 + (n - 0x10000) / 0x400), UInt16.ofNat (0xDC00 + (n - 0x10000) % 0x400)]

def ofChars (s : List Char) : Units :=
  ⟨s.flatMap ofChar⟩

def ofString (s : String) : Units :=
  ofChars s.toList

def isHigh (u : UInt16) : Bool :=
  0xD800 ≤ u && u < 0xDC00

def isLow (u : UInt16) : Bool :=
  0xDC00 ≤ u && u < 0xE000

/-- The units cut into those of one character each; half a pair without the other stands alone. -/
def split : List UInt16 → List (List UInt16)
  | [] => []
  | [u] => [[u]]
  | u :: v :: rest =>
    if isHigh u && isLow v then [u, v] :: split rest else [u] :: split (v :: rest)

/-- The first `n` characters. -/
def take (n : Nat) (t : Units) : Units :=
  ⟨((split t.values).take n).flatten⟩

/-- The character of the units cut out by `split`; half a pair is shown as a replacement. -/
def shownChar : List UInt16 → Char
  | [u] => if isHigh u || isLow u then '\uFFFD' else Char.ofNat u.toNat
  | [u, v] => Char.ofNat (0x10000 + (u.toNat - 0xD800) * 0x400 + (v.toNat - 0xDC00))
  | _ => '\uFFFD'

/-- The text of characters, as far as it is one. -/
def shown (t : Units) : String :=
  String.ofList ((split t.values).map shownChar)

end Units

end ViewGen
