import FederationRegistry.Json.Basic
import FederationRegistry.Decimal.Digits

/-!
# Numerals of a JSON text

What a numeral stands for. A numeral without fraction and exponent that fits a 64-bit integer is
that integer, except `-0`, which is the double; every other numeral is a double.

**Reading a double** takes two roundings. The digits make a 64-bit *significand*: digits are
taken from the left as long as they fit, the others only move the decimal point (in the whole
part) or are dropped (in the fraction). The significand is rounded to a double and then
multiplied or divided by the double nearest to the power of ten. So the last bit can differ
from the double nearest to the numeral, and all readers here agree on which one it is.
-/

namespace FederationRegistry.Json

/-- The parts of a numeral, as lists of digits. -/
structure Numeral where
  negative : Bool
  whole : List Char
  /-- The digits behind the point, if there is one. -/
  fraction : Option (List Char)
  /-- Sign and digits of the exponent, if there is one. -/
  exponent : Option (Bool × List Char)

namespace Numeral

/-- The longest start of the digits that keeps the number below `2 ^ 64`, put behind the digits
of `acc`, and the number of digits left over. -/
def gather (acc : Nat) : List Char → Nat × Nat
  | [] => (acc, 0)
  | c :: cs =>
    let next := acc * 10 + (c.toNat - 48)
    if next < Word.unsignedLimit then gather next cs else (acc, cs.length + 1)

/-- The double nearest to a power of ten. -/
def powerOfTen (n : Nat) : Option Binary64 := Binary64.ofRatio? false (Nat.pow 10 n) 1

/-- `significand * 10 ^ exponent` in two roundings, or three for the smallest exponents; `none`
beyond the largest double. -/
def scale? (significand : Nat) (exponent : Int) : Option Binary64 := do
  if significand = 0 then return Binary64.zero false
  let base ← Binary64.ofRatio? false significand 1
  if 308 < exponent then none
  else if 0 ≤ exponent then base.mul? (← powerOfTen exponent.toNat)
  else if -308 ≤ exponent then base.div? (← powerOfTen (-exponent).toNat)
  else if -616 ≤ exponent then
    (← base.div? (← powerOfTen 308)).div? (← powerOfTen (-exponent - 308).toNat)
  else return Binary64.zero false

/-- The value of the exponent part. -/
def exponentValue (n : Numeral) : Int :=
  match n.exponent with
  | none => 0
  | some (false, ds) => Decimal.ofDigits ds
  | some (true, ds) => -(Decimal.ofDigits ds : Int)

/-- The numeral as a double. -/
def double? (n : Numeral) : Option Binary64 :=
  let whole := gather 0 n.whole
  let digits := n.fraction.getD []
  let part := gather whole.1 digits
  let taken : Int := (digits.length : Int) - part.2
  (scale? part.1 (whole.2 - taken + n.exponentValue)).map fun x => { x with negative := n.negative }

/-- The numeral as an integer, if it is written as one and fits. -/
def integer? (n : Numeral) : Option Integer :=
  if n.fraction.isSome || n.exponent.isSome then none
  else
    let value := Decimal.ofDigits n.whole
    if n.negative then
      if 1 ≤ value ∧ value ≤ Word.signedLimit then Integer.ofInt? (-(value : Int)) else none
    else if value < Word.unsignedLimit then Integer.ofInt? value else none

/-- The number a numeral stands for, `none` beyond the largest double. -/
def number? (n : Numeral) : Option Number :=
  match n.integer? with
  | some i => some (.integer i)
  | none => n.double?.map .double

end Numeral

end FederationRegistry.Json
