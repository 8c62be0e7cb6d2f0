import ViewGen.Number.Binary64

/-!
# Shortest decimal text

The text of a number has the fewest digits that read back as the number, and of those the digits
nearest to it.
-/

namespace ViewGen.Binary64

/-- The numbers that read back as one number: those between two bounds `low / den` and
`high / den`, which belong to it if `closed`. -/
structure Interval where
  low : Nat
  high : Nat
  den : Nat
  closed : Bool

/-- Every number nearer to `mantissa * 2 ^ exponent` than to its neighbours. The gap below is half as
wide when the mantissa is the least with its number of digits. -/
def readBack (mantissa : Nat) (exponent : Int) : Interval :=
  let (n, d) := scaled mantissa 4 exponent
  let (unit, _) := scaled 1 4 exponent
  let below := if mantissa = Nat.pow 2 52 ∧ leastExponent < exponent then unit else 2 * unit
  { low := 4 * n - below
    high := 4 * n + 2 * unit
    den := d
    closed := mantissa % 2 = 0 }

/-- Whether `digits * 10 ^ scale` lies in the interval. -/
def Interval.holds (i : Interval) (digits : Nat) (scale : Int) : Bool :=
  let (n, d) := match scale with
    | .ofNat s => (digits * Nat.pow 10 s * i.den, 1)
    | .negSucc s => (digits * i.den, Nat.pow 10 (s + 1))
  if i.closed then i.low * d ≤ n && n ≤ i.high * d else i.low * d < n && n < i.high * d

/-- The greatest `e` with `10 ^ e ≤ num / den`. -/
def decimalOrder (num den : Nat) : Int :=
  if den ≤ num then (decimalLength (num / den) : Int) - 1
  else
    let length := decimalLength (den / num)
    if den ≤ num * Nat.pow 10 (length - 1) then -(length - 1 : Int) else -(length : Int)

/-- The quotient `num / den` cut to an integer of units `10 ^ scale`, and whether the next integer
is nearer; of two equally near the even one is chosen. -/
def nearestUnits (num den : Nat) (scale : Int) : Nat × Bool :=
  let (n, d) := match scale with
    | .ofNat s => (num, den * Nat.pow 10 s)
    | .negSucc s => (num * Nat.pow 10 (s + 1), den)
  let q := n / d
  let twice := 2 * (n % d)
  (q, d < twice || (d = twice && q % 2 = 1))

/-- Tries `count` digits, then one more as long as `more` allows. -/
def shortestFrom (interval : Interval) (num den : Nat) (order : Int) (count : Nat) :
    Nat → Nat × Int
  | 0 => ((nearestUnits num den (order - count + 1)).1, order - count + 1)
  | more + 1 =>
    let scale := order - count + 1
    let (q, up) := nearestUnits num den scale
    let (first, second) := if up then (q + 1, q) else (q, q + 1)
    if interval.holds first scale then (first, scale)
    else if interval.holds second scale then (second, scale)
    else shortestFrom interval num den order (count + 1) more

/-- Digits and scale of a positive number: `digits * 10 ^ scale` reads back as it, and seventeen
digits always suffice. -/
def shortest (mantissa : Nat) (exponent : Int) : Nat × Int :=
  let (num, den) := ratio mantissa exponent
  shortestFrom (readBack mantissa exponent) num den (decimalOrder num den) 1 17

/-- The digits without zeros at their end, and the scale that makes up for them. `fuel` bounds their
number. -/
def dropZeros (digits : Nat) (scale : Int) : Nat → Nat × Int
  | 0 => (digits, scale)
  | fuel + 1 =>
    if digits ≠ 0 ∧ digits % 10 = 0 then dropZeros (digits / 10) (scale + 1) fuel
    else (digits, scale)

/-- Digits are written positionally when the point falls among the first sixteen of them or at most
three zeros follow it, and else with an exponent of at least two digits. -/
def decimalText (digits : Nat) (scale : Int) : String :=
  let (digits, scale) := dropZeros digits scale 20
  let ds := Nat.toDigits 10 digits
  let point : Int := ds.length + scale
  let zeros (n : Int) := List.replicate n.toNat '0'
  if -4 < point && point ≤ 16 then
    String.ofList <|
      if point ≤ 0 then '0' :: '.' :: (zeros (-point) ++ ds)
      else if 0 ≤ scale then ds ++ zeros scale ++ ['.', '0']
      else ds.take point.toNat ++ '.' :: ds.drop point.toNat
  else
    let e := point - 1
    let eds := Nat.toDigits 10 e.natAbs
    let fraction := if ds.length ≤ 1 then [] else '.' :: ds.drop 1
    String.ofList <| ds.take 1 ++ fraction ++
      ['e', if e < 0 then '-' else '+'] ++ (if eds.length < 2 then '0' :: eds else eds)

/-- The text of a number. -/
def text : Binary64 → String
  | .notANumber => "nan"
  | .infinite negative => if negative then "-inf" else "inf"
  | .finite negative mantissa exponent =>
    let unsigned :=
      if mantissa = 0 then "0.0"
      else
        let (digits, scale) := shortest mantissa exponent
        decimalText digits scale
    if negative then "-" ++ unsigned else unsigned

end ViewGen.Binary64
