/-!
# Code points

Ranges of code points, and the values of digits, and of numbers and characters written in them.
-/

namespace ViewGen.Text

/-- The code points from the first to the second, both included. -/
abbrev Range := Nat × Nat

def inRanges (n : Nat) : List Range → Bool
  | [] => false
  | (first, last) :: rest => (first ≤ n && n ≤ last) || inRanges n rest

/-! ### Digits -/

/-- The zeros of all scripts; the other nine digits of a script follow its zero. -/
def scriptZeros : List Nat := [
  0x0030, 0x0660, 0x06F0, 0x07C0, 0x0966, 0x09E6, 0x0A66, 0x0AE6, 0x0B66, 0x0BE6, 0x0C66, 0x0CE6,
  0x0D66, 0x0DE6, 0x0E50, 0x0ED0, 0x0F20, 0x1040, 0x1090, 0x17E0, 0x1810, 0x1946, 0x19D0, 0x1A80,
  0x1A90, 0x1B50, 0x1BB0, 0x1C40, 0x1C50, 0xA620, 0xA8D0, 0xA900, 0xA9D0, 0xA9F0, 0xAA50, 0xABF0,
  0xFF10, 0x104A0, 0x10D30, 0x11066, 0x110F0, 0x11136, 0x111D0, 0x112F0, 0x11450, 0x114D0,
  0x11650, 0x116C0, 0x11730, 0x118E0, 0x11950, 0x11C50, 0x11D50, 0x11DA0, 0x16A60, 0x16AC0,
  0x16B50, 0x1D7CE, 0x1D7D8, 0x1D7E2, 0x1D7EC, 0x1D7F6, 0x1E140, 0x1E2F0, 0x1E950, 0x1FBF0]

/-- Whether a character is a decimal digit of some script. -/
def isScriptDigit (c : Char) : Bool :=
  scriptZeros.any fun first => first ≤ c.toNat && c.toNat < first + 10

/-- The value of a hexadecimal digit in either case. -/
def hexValue? (c : Char) : Option Nat :=
  if c.isDigit then some (c.toNat - 48)
  else if 'a' ≤ c ∧ c ≤ 'f' then some (c.toNat - 87)
  else if 'A' ≤ c ∧ c ≤ 'F' then some (c.toNat - 55)
  else none

def isHexDigit (c : Char) : Bool :=
  (hexValue? c).isSome

/-- The value of digits in some base. -/
def digitsValue (base : Nat) (digits : List Char) : Nat :=
  digits.foldl (fun n c => base * n + (hexValue? c).getD 0) 0

def decimalValue (digits : List Char) : Nat :=
  digitsValue 10 digits

/-- The character whose code the first `n` characters write in hexadecimal digits. -/
def hexChar? (n : Nat) (s : List Char) : Option Char :=
  let digits := s.take n
  let code := digitsValue 16 digits
  if digits.length = n && digits.all isHexDigit && code.isValidChar then some (Char.ofNat code)
  else none

end ViewGen.Text
