import FederationRegistry.Decimal.Binary64
import FederationRegistry.Decimal.Digits

/-!
# The shortest decimal of a double

A double is written with the fewest significant digits that read back to it under correct
rounding, and of those with the digits nearest to it.

**The search.** For one digit, two digits and so on, the two neighbours of the double on the
decimal grid of that many digits are tried; the first grid with a neighbour that reads back
wins. Seventeen digits always suffice; behind them stands the exact decimal expansion, so that
the search has an answer by construction.

**The layout** is a separate decision (`Layout`): which magnitudes are written in plain
positional notation, and how the rest is written with an exponent.
-/

namespace FederationRegistry.Decimal

/-- A positive decimal: `digits * 10 ^ exponent`. -/
structure Scientific where
  digits : Nat
  exponent : Int
deriving DecidableEq

namespace Scientific

/-- The decimal as a ratio of natural numbers. -/
def ratio (s : Scientific) : Nat × Nat :=
  if 0 ≤ s.exponent then (s.digits * Nat.pow 10 s.exponent.toNat, 1)
  else (s.digits, Nat.pow 10 (-s.exponent).toNat)

/-- The decimal reads back to the magnitude of `x`. -/
def readsBackTo (s : Scientific) (x : Binary64) : Bool :=
  decide (Binary64.ofRatio? x.negative s.ratio.1 s.ratio.2 = some x)

/-- Trailing zeros of the digits moved into the exponent, at most `fuel` of them. -/
def trimmed (fuel : Nat) (s : Scientific) : Scientific :=
  match fuel with
  | 0 => s
  | fuel + 1 =>
    if s.digits ≠ 0 ∧ s.digits % 10 = 0 then trimmed fuel ⟨s.digits / 10, s.exponent + 1⟩ else s

end Scientific

/-- The number of zeros between the point and the first digit of a positive ratio below one. -/
def leadingZeros (num den : Nat) : Nat :=
  ((List.range 400).find? fun j => den ≤ num * Nat.pow 10 (j + 1)).getD 400

/-- The position of the leading digit of a positive ratio: `10 ^ (magnitude - 1)` is the largest
power of ten that is not above it. -/
def magnitude (num den : Nat) : Int :=
  if den ≤ num then (digits (num / den)).length else -(leadingZeros num den : Int)

/-- The neighbours of a ratio on the grid of multiples of `10 ^ exponent`, the nearer one first;
of two equally near ones the one with the even digit. -/
def neighbours (num den : Nat) (exponent : Int) : List Scientific :=
  let s := if 0 ≤ exponent then (num, den * Nat.pow 10 exponent.toNat)
    else (num * Nat.pow 10 (-exponent).toNat, den)
  let below := s.1 / s.2
  let twice := 2 * (s.1 % s.2)
  let low : Scientific := ⟨below, exponent⟩
  let high : Scientific := ⟨below + 1, exponent⟩
  if twice < s.2 ∨ (twice = s.2 ∧ below % 2 = 0) then [low, high] else [high, low]

/-- The exact decimal expansion of a double. -/
def exact (x : Binary64) : Scientific :=
  if 0 ≤ x.exponent then ⟨x.significand * Nat.pow 2 x.exponent.toNat, 0⟩
  else ⟨x.significand * Nat.pow 5 (-x.exponent).toNat, x.exponent⟩

/-- The fewest digits that read back to a double other than zero, and the nearest of those. -/
def shortest (x : Binary64) : Scientific :=
  let r := x.ratio
  let top := magnitude r.1 r.2
  let grids := (List.range 17).map fun n => neighbours r.1 r.2 (top - (n + 1 : Nat))
  (((grids.flatten.find? fun s => s.readsBackTo x)).getD (exact x)).trimmed 1100

/-! ## Layout -/

/-- How the digits of a decimal are laid out. -/
structure Layout where
  /-- Least and greatest exponent of the leading digit written in plain notation. -/
  plainFrom : Int
  plainTo : Int
  /-- What stands before a non-negative exponent. -/
  plus : String

/-- Property values write magnitudes from `1e-5` to below `1e16` in plain notation, always with a
digit after the point, and put a sign before every exponent. -/
def propertyLayout : Layout := ⟨-5, 15, "+"⟩

/-- The digits and the exponent of their leading digit, laid out. -/
def Layout.write (layout : Layout) (s : Scientific) : String :=
  let ds := digits s.digits
  let lead : Int := s.exponent + ds.length - 1
  if layout.plainFrom ≤ lead ∧ lead ≤ layout.plainTo then
    if lead < 0 then
      "0." ++ String.ofList (List.replicate (-lead - 1).toNat '0' ++ ds)
    else
      let whole := lead.toNat + 1
      if ds.length ≤ whole then
        String.ofList (ds ++ List.replicate (whole - ds.length) '0') ++ ".0"
      else String.ofList (ds.take whole) ++ "." ++ String.ofList (ds.drop whole)
  else
    let mantissa := match ds with
      | [] => "0"
      | [d] => d.toString
      | d :: rest => d.toString ++ "." ++ String.ofList rest
    let sign := if lead < 0 then "-" else layout.plus
    mantissa ++ "e" ++ sign ++ text lead.natAbs

/-- A double as text: its sign, then its shortest decimal, laid out. -/
def Layout.writeDouble (layout : Layout) (x : Binary64) : String :=
  let sign := if x.negative then "-" else ""
  if x.isZero then sign ++ "0.0" else sign ++ layout.write (shortest x)

end FederationRegistry.Decimal
