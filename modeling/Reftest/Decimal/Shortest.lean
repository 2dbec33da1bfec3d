import Reftest.Decimal.Binary64

/-!
The shortest decimal text of a value of the binary format of 64 bits.  A decimal stands for a value
if it lies between the midpoints to the value's two neighbours, the midpoints included when the
mantissa is even.
-/

namespace Reftest.Binary64

/-- A value and the midpoints on both sides of it, as multiples of one unit. -/
structure Neighbourhood where
  low : Nat
  value : Nat
  high : Nat
  closed : Bool

def Neighbourhood.contains (near : Neighbourhood) (point : Nat) : Bool :=
  (near.low < point && point < near.high) ||
    (near.closed && (near.low = point || point = near.high))

def neighbourhood (mantissa : Nat) (exponent : Int) : Neighbourhood where
  low :=
    if mantissa = powerOfTwo 52 ∧ exponent > leastExponent then 4 * mantissa - 1
    else 4 * mantissa - 2
  value := 4 * mantissa
  high := 4 * mantissa + 2
  closed := mantissa % 2 = 0

def Neighbourhood.scale (near : Neighbourhood) (factor : Nat) : Neighbourhood where
  low := near.low * factor
  value := near.value * factor
  high := near.high * factor
  closed := near.closed

/-- The nearest multiple of `step` that stands for the value, as a count of steps; of two equally
near the greater. -/
def Neighbourhood.nearest? (near : Neighbourhood) (step : Nat) : Option Nat :=
  let count := near.value / step
  let below := near.contains (count * step)
  let above := near.contains ((count + 1) * step)
  if below && (!above || near.value - count * step < (count + 1) * step - near.value) then
    some count
  else if above then some (count + 1)
  else none

def onGrid? (mantissa : Nat) (exponent place : Int) : Option Nat :=
  let near := (neighbourhood mantissa exponent).scale
    (powerOfTwo (exponent - 2).toNat * powerOfTen (-place).toNat)
  near.nearest? (powerOfTwo (2 - exponent).toNat * powerOfTen place.toNat)

def coarsest (mantissa : Nat) (exponent : Int) : Nat → Int → Nat × Int
  | 0, place => (0, place)
  | tries + 1, place =>
    match onGrid? mantissa exponent place with
    | some digits => (digits, place)
    | none => coarsest mantissa exponent tries (place - 1)

/-- Digits and the place of the last of them, with the fewest digits that stand for the value. -/
def shortest (mantissa : Nat) (exponent : Int) : Nat × Int :=
  coarsest mantissa exponent 24 ((exponent + mantissa.log2) * 30103 / 100000 + 2)

def positional (digits : Nat) (place : Int) : List Char :=
  let written := Nat.toDigits 10 digits
  let fraction := (-place).toNat
  if fraction = 0 then written ++ List.replicate place.toNat '0' ++ ['.', '0']
  else
    let padded := List.replicate (fraction + 1 - written.length) '0' ++ written
    let whole := padded.length - fraction
    padded.take whole ++ '.' :: padded.drop whole

def text : Binary64 → String
  | .nan => "NaN"
  | .infinite negative => if negative then "-inf" else "inf"
  | .finite negative mantissa exponent =>
    let body :=
      if mantissa = 0 then ['0', '.', '0']
      else
        let (digits, place) := shortest mantissa exponent
        positional digits place
    String.ofList (if negative then '-' :: body else body)

end Reftest.Binary64
