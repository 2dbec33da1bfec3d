namespace Reftest

/-- A finite value is `mantissa * 2 ^ exponent`, with its sign kept apart. -/
inductive Binary64 where
  | nan
  | infinite (negative : Bool)
  | finite (negative : Bool) (mantissa : Nat) (exponent : Int)
  deriving DecidableEq, Repr

namespace Binary64

def powerOfTwo (exponent : Nat) : Nat :=
  Nat.pow 2 exponent

def powerOfTen (exponent : Nat) : Nat :=
  Nat.pow 10 exponent

def leastExponent : Int := -1074

def greatestExponent : Int := 971

def zero (negative : Bool) : Binary64 :=
  .finite negative 0 leastExponent

def roundHalfEven (numerator denominator : Nat) : Nat :=
  let quotient := numerator / denominator
  let remainder := numerator % denominator
  if 2 * remainder > denominator ∨ (2 * remainder = denominator ∧ quotient % 2 = 1) then
    quotient + 1
  else
    quotient

def scaled (numerator denominator : Nat) (exponent : Int) : Nat × Nat :=
  if exponent < 0 then (numerator * powerOfTwo (-exponent).toNat, denominator)
  else (numerator, denominator * powerOfTwo exponent.toNat)

def exponentFor (numerator denominator : Nat) : Int :=
  let low := max ((numerator.log2 : Int) - denominator.log2 - 53) leastExponent
  let (n, d) := scaled numerator denominator low
  if powerOfTwo 53 ≤ n / d then low + 1 else low

def ofRatio (negative : Bool) (numerator denominator : Nat) : Binary64 :=
  let exponent := exponentFor numerator denominator
  let (n, d) := scaled numerator denominator exponent
  let mantissa := roundHalfEven n d
  let (mantissa, exponent) :=
    if mantissa = powerOfTwo 53 then (powerOfTwo 52, exponent + 1) else (mantissa, exponent)
  if exponent > greatestExponent then .infinite negative
  else .finite negative mantissa exponent

/-- The value nearest to `digits * 10 ^ exponent`.  Numbers far outside the range are told by the
place of their first digit. -/
def ofDecimal (negative : Bool) (digits : Nat) (exponent : Int) : Binary64 :=
  if digits = 0 then zero negative
  else
    let place := (Nat.toDigits 10 digits).length + exponent
    if place > 310 then .infinite negative
    else if place < -330 then zero negative
    else if exponent < 0 then ofRatio negative digits (powerOfTen (-exponent).toNat)
    else ofRatio negative (digits * powerOfTen exponent.toNat) 1

example : ofDecimal false 1 400 = .infinite false := by decide

end Binary64

end Reftest
