import ViewGen.Number.Shortest

/-!
# Timeouts

How long to wait for a lock that another run holds.
-/

namespace ViewGen

/-- A number of seconds. Infinity, like what is no number, never comes. -/
inductive Timeout where
  | whole (seconds : Int)
  | real (seconds : Binary64)
  | unlimited
deriving DecidableEq, Repr

namespace Timeout

def text : Timeout → String
  | .whole seconds => toString seconds
  | .real seconds => seconds.text
  | .unlimited => "None"

/-- Milliseconds between two looks at a lock. -/
def pollInterval : Nat := 200

/-- The least number of polls that take `num / den` seconds or more. -/
def pollsFor (num den : Nat) : Nat :=
  (num * 1000 + pollInterval * den - 1) / (pollInterval * den)

/-- How many polls it takes until the time is over, if it ever is. -/
def polls? : Timeout → Option Nat
  | .whole seconds => some (pollsFor seconds.toNat 1)
  | .real (.finite true _ _) => some 0
  | .real (.finite false mantissa exponent) =>
    let (num, den) := Binary64.ratio mantissa exponent
    some (pollsFor num den)
  | .real (.infinite true) => some 0
  | .real (.infinite false) => none
  | .real .notANumber => none
  | .unlimited => none

end Timeout

end ViewGen
