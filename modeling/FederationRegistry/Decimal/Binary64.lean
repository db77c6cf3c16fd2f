/-!
# `Binary64`: double-precision numbers in exact arithmetic

A finite double is a sign, a significand below `2 ^ 53` and an exponent: its magnitude is
`significand * 2 ^ exponent`. The representation is *canonical*: the significand has all 53
bits unless the exponent is the least one, so equal numbers of one sign are equal values.

Everything is computed on natural numbers. `roundRatio` is the one rounding rule, to the
nearest double and of two nearest to the even one, and the arithmetic that reading a decimal
needs (`ofRatio?`, `mul?`, `div?`) is exact arithmetic followed by it.
-/

namespace FederationRegistry

/-- Significands lie below this number, the 53rd power of two. -/
abbrev Binary64.significandLimit : Nat := 9007199254740992

/-- The significand and exponent of a finite double in canonical form. -/
abbrev Binary64.Canonical (significand : Nat) (exponent : Int) : Prop :=
  significand < significandLimit ∧ -1074 ≤ exponent ∧ exponent ≤ 971 ∧
    (significandLimit ≤ 2 * significand ∨ exponent = -1074)

/-- A finite double-precision number. -/
structure Binary64 where
  /-- The sign bit; zero has one too. -/
  negative : Bool
  significand : Nat
  exponent : Int
  canonical : Binary64.Canonical significand exponent
deriving DecidableEq

namespace Binary64

/-- Zero with the given sign. -/
def zero (negative : Bool) : Binary64 :=
  ⟨negative, 0, -1074, by decide⟩

instance : Inhabited Binary64 := ⟨zero false⟩

/-- The number is zero, of either sign. -/
def isZero (x : Binary64) : Bool := x.significand == 0

/-- The two numbers are numerically equal: the zeros of both signs are. -/
def same (x y : Binary64) : Bool :=
  (x.isZero && y.isZero) || decide (x = y)

/-! ## Rounding -/

/-- `num / den` to the nearest integer, a half going to the even neighbour. -/
def roundDiv (num den : Nat) : Nat :=
  let q := num / den
  let r := num % den
  if 2 * r < den then q
  else if den < 2 * r then q + 1
  else if q % 2 = 0 then q else q + 1

/-- The ratio `num / den` as one that is scaled by `2 ^ (-exponent)`. -/
def scaled (num den : Nat) (exponent : Int) : Nat × Nat :=
  if 0 ≤ exponent then (num, den * Nat.pow 2 exponent.toNat)
  else (num * Nat.pow 2 (-exponent).toNat, den)

/-- The exponent at which the ratio keeps 53 bits, or the least exponent. -/
def targetExponent (num den : Nat) : Int :=
  if num = 0 then -1074 else
  let k : Int := (num.log2 : Int) - (den.log2 : Int)
  let atLeast := scaled num den k
  let log := if atLeast.2 ≤ atLeast.1 then k else k - 1
  max (log - 52) (-1074)

/-- Significand and exponent of the double nearest to `num / den`; the exponent may lie beyond
the largest one. -/
def roundRatio (num den : Nat) : Nat × Int :=
  let e := targetExponent num den
  let s := scaled num den e
  let m := roundDiv s.1 s.2
  if m = significandLimit then (significandLimit / 2, e + 1) else (m, e)

/-- The double with these parts, if they are those of one. -/
def ofParts? (negative : Bool) (significand : Nat) (exponent : Int) : Option Binary64 :=
  if h : Canonical significand exponent then some ⟨negative, significand, exponent, h⟩ else none

/-- The double nearest to `± num / den`, `none` beyond the largest one. -/
def ofRatio? (negative : Bool) (num den : Nat) : Option Binary64 :=
  let r := roundRatio num den
  ofParts? negative r.1 r.2

/-- `significand * 2 ^ exponent`. -/
def ofBinary (significand : Nat) (exponent : Int) : Rat :=
  if 0 ≤ exponent then (significand * Nat.pow 2 exponent.toNat : Nat)
  else mkRat significand (Nat.pow 2 (-exponent).toNat)

/-- The double nearest to a number, as an exact number; `none` beyond the largest one. -/
def round? (x : Rat) : Option Rat :=
  let (significand, exponent) := roundRatio x.num.natAbs x.den
  if 971 < exponent then none
  else
    let magnitude := ofBinary significand exponent
    some (if x < 0 then -magnitude else magnitude)

/-- The number without the lower half of the significand that it has as a double. -/
def upperHalf (x : Rat) : Rat :=
  let (significand, exponent) := roundRatio x.num.natAbs x.den
  let magnitude := ofBinary (significand / 67108864) (exponent + 26)
  if x < 0 then -magnitude else magnitude

/-- Magnitude as a ratio of natural numbers. -/
def ratio (x : Binary64) : Nat × Nat :=
  if 0 ≤ x.exponent then (x.significand * Nat.pow 2 x.exponent.toNat, 1)
  else (x.significand, Nat.pow 2 (-x.exponent).toNat)

/-- The rounded product, `none` beyond the largest double. -/
def mul? (x y : Binary64) : Option Binary64 :=
  let a := x.ratio
  let b := y.ratio
  ofRatio? (x.negative != y.negative) (a.1 * b.1) (a.2 * b.2)

/-- The rounded quotient by a number other than zero, `none` beyond the largest double. -/
def div? (x y : Binary64) : Option Binary64 :=
  let a := x.ratio
  let b := y.ratio
  ofRatio? (x.negative != y.negative) (a.1 * b.2) (a.2 * b.1)

end Binary64

end FederationRegistry
