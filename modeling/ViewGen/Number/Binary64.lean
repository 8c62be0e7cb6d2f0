/-!
# Binary floating point numbers of 64 bits

Finite numbers are `mantissa * 2 ^ exponent`, computed exactly.
-/

namespace ViewGen

/-- A number with 53 binary digits. In a finite one the mantissa has 53 digits, unless the exponent
is the least one. -/
inductive Binary64 where
  | finite (negative : Bool) (mantissa : Nat) (exponent : Int)
  | infinite (negative : Bool)
  | notANumber
deriving DecidableEq, Repr

namespace Binary64

def leastExponent : Int := -1074

def greatestExponent : Int := 971

def zero (negative : Bool) : Binary64 :=
  .finite negative 0 leastExponent

/-- The quotient rounded to the nearest integer, and to the even one of two. -/
def roundDiv (num den : Nat) : Nat :=
  let q := num / den
  let twice := 2 * (num % den)
  if twice < den then q
  else if den < twice then q + 1
  else if q % 2 = 0 then q else q + 1

/-- `num / den * 2 ^ shift` as a quotient of natural numbers. -/
def scaled (num den : Nat) (shift : Int) : Nat × Nat :=
  match shift with
  | .ofNat n => (num * Nat.pow 2 n, den)
  | .negSucc n => (num, den * Nat.pow 2 (n + 1))

/-- The greatest `e` with `2 ^ e ≤ num / den`. -/
def binaryOrder (num den : Nat) : Int :=
  let e : Int := (Nat.log2 num : Int) - Nat.log2 den
  let (n, d) := scaled num den (-e)
  if d ≤ n then e else e - 1

/-- The number nearest to `num / den`; the even mantissa wins a tie. -/
def ofRatio (negative : Bool) (num den : Nat) : Binary64 :=
  if num = 0 then zero negative
  else
    let exponent := max (binaryOrder num den - 52) leastExponent
    let (n, d) := scaled num den (-exponent)
    let rounded := roundDiv n d
    let (mantissa, exponent) :=
      if rounded = Nat.pow 2 53 then (Nat.pow 2 52, exponent + 1) else (rounded, exponent)
    if greatestExponent < exponent then .infinite negative
    else .finite negative mantissa exponent

/-- The number of decimal digits of `n`. -/
def decimalLength (n : Nat) : Nat :=
  (Nat.toDigits 10 n).length

/-- The number nearest to `digits * 10 ^ scale`. What is surely too large or too small is decided
without computing the power. -/
def ofDecimal (negative : Bool) (digits : Nat) (scale : Int) : Binary64 :=
  if digits = 0 then zero negative
  else
    let order := (decimalLength digits : Int) + scale
    if 310 < order then .infinite negative
    else if order < -330 then zero negative
    else match scale with
      | .ofNat n => ofRatio negative (digits * Nat.pow 10 n) 1
      | .negSucc n => ofRatio negative digits (Nat.pow 10 (n + 1))

def ofInt (n : Int) : Binary64 :=
  ofRatio (n < 0) n.natAbs 1

/-- The sign of a number that is one. -/
def isNegative : Binary64 → Bool
  | .finite negative mantissa _ => negative && mantissa != 0
  | .infinite negative => negative
  | .notANumber => false

/-- Whether the number is at least zero. -/
def isNonneg : Binary64 → Bool
  | .notANumber => false
  | x => !x.isNegative

/-- A finite number as a quotient, without its sign. -/
def ratio (mantissa : Nat) (exponent : Int) : Nat × Nat :=
  scaled mantissa 1 exponent

end Binary64

end ViewGen
