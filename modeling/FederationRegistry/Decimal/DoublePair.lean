import FederationRegistry.Decimal.Binary64

/-!
# Pairs of doubles

A pair of doubles stands for their sum: the second holds what the first lacks of a number, so a
pair carries about twice the digits of a double. Products of pairs are computed in doubles alone,
each step rounded: the factors are cut in halves, so that the products of halves are exact, and
what the rounding of the sum loses goes into the second double.

Main definition: `DoublePair.scale?`, which multiplies by a power of ten in steps of a hundred, ten
and one.
-/

namespace FederationRegistry

/-- The sum of two doubles. -/
structure DoublePair where
  high : Rat
  low : Rat

namespace DoublePair

open Binary64 (round? upperHalf)

/-- The pair nearest to a number; there is none beyond the largest double. -/
def nearest? (x : Rat) : Option DoublePair := do
  let high ← round? x
  return ⟨high, ← round? (x - high)⟩

/-- The product of two pairs; there is none beyond the largest double. -/
def mul? (x y : DoublePair) : Option DoublePair := do
  let x₁ := upperHalf x.high
  let x₂ ← round? (x.high - x₁)
  let y₁ := upperHalf y.high
  let y₂ ← round? (y.high - y₁)
  let upper ← round? (x₁ * y₁)
  let middle ← round? ((← round? (x₁ * y₂)) + (← round? (x₂ * y₁)))
  let sum ← round? (upper + middle)
  let lost ← round? ((← round? (upper - sum)) + middle)
  let inner ← round? (lost + (← round? (x₂ * y₂)))
  let outer ← round? ((← round? (x.high * y.low)) + (← round? (x.low * y.high)))
  let rest ← round? (inner + outer)
  let high ← round? (sum + rest)
  return ⟨high, ← round? ((← round? (sum - high)) + rest)⟩

/-- The product of a pair and a power of another. -/
def mulPower? (x factor : DoublePair) : Nat → Option DoublePair
  | 0 => some x
  | n + 1 => do mulPower? (← x.mul? factor) factor n

/-- The exponents of the powers of ten by which numbers are scaled, in order. -/
def steps : List Nat := [100, 10, 1]

/-- The pair times ten to the exponent. -/
def scale? (x : DoublePair) (exponent : Int) : Option DoublePair :=
  let rec go (x : DoublePair) (n : Nat) : List Nat → Option DoublePair
    | [] => some x
    | step :: steps => do
      let power := Nat.pow 10 step
      let factor ← nearest? (if 0 ≤ exponent then power else mkRat 1 power)
      go (← x.mulPower? factor (n / step)) (n % step) steps
  go x exponent.natAbs steps

/-- The double nearest to what the pair stands for. -/
def sum? (x : DoublePair) : Option Rat := round? (x.high + x.low)

end DoublePair

end FederationRegistry
