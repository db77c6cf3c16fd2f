import FederationRegistry.Decimal.Digits
import FederationRegistry.Decimal.DoublePair
import FederationRegistry.Word

/-!
# Numbers in texts

A text reads as a number when it is a decimal numeral with nothing around it but white space: a
sign, digits with at most one point among them, and an exponent. The point and the exponent may be
missing, and so may the digits on one side of the point.

**The double** of a numeral is not always the nearest one. The digits make a significand of 64 bits:
digits are taken from the left as long as there is room, and the others only move the point or are
dropped. The significand is scaled by a pair of doubles, whose last rounding comes on top.
-/

namespace FederationRegistry.Decimal

/-- White space around a number. -/
def isSpace (c : Char) : Bool := c = ' ' || (0x09 ≤ c.toNat && c.toNat ≤ 0x0D)

/-- The characters without white space around them. -/
def trimSpace (cs : List Char) : List Char :=
  ((cs.dropWhile isSpace).reverse.dropWhile isSpace).reverse

/-- The number that a text stands for. -/
structure Reading where
  negative : Bool
  /-- The digits in front of the point. -/
  whole : List Char
  /-- The digits behind the point. -/
  fraction : List Char
  exponent : Int
  /-- There is neither a point nor an exponent. -/
  isPlain : Bool

namespace Reading

/-! ## Numerals -/

/-- An exponent that has reached this number counts no more digits. -/
def exponentLimit : Nat := 10000

/-- The exponent behind the digits of `n`. -/
def exponentFrom (n : Nat) : List Char → Nat
  | [] => n
  | c :: cs =>
    exponentFrom (if n < exponentLimit then 10 * n + (c.toNat - 48) else exponentLimit) cs

/-- The exponent that the rest of a numeral gives; there need not be one. -/
def exponent? : List Char → Option Int
  | [] => some 0
  | mark :: cs =>
    if mark = 'e' ∨ mark = 'E' then
      let (negative, digits) := splitSign cs
      if digits.isEmpty || !digits.all isDigit then none
      else
        let n := exponentFrom 0 digits
        some (if negative then -(n : Int) else n)
    else none

/-- What the characters of a numeral stand for. -/
def ofChars? (cs : List Char) : Option Reading := do
  let (negative, unsigned) := splitSign cs
  let (whole, rest) := unsigned.span isDigit
  let (fraction, tail) :=
    match rest with
    | '.' :: rest => rest.span isDigit
    | rest => ([], rest)
  let exponent ← exponent? tail
  if whole.isEmpty && fraction.isEmpty then none
  else some { negative, whole, fraction, exponent, isPlain := rest.isEmpty }

/-- What a text stands for, if it reads as a number. -/
def ofText? (text : String) : Option Reading := ofChars? (trimSpace text.toList)

/-! ## Values -/

/-- A number with a sign. -/
def signed (r : Reading) (magnitude : Rat) : Rat := if r.negative then -magnitude else magnitude

/-- A significand below this number has room for one more digit. -/
def roomForDigit : Nat := (Word.unsignedLimit - 10) / 10

/-- The digits behind those of a significand as far as there is room, and the number of digits
left over. -/
def gather (significand : Nat) : List Char → Nat × Nat
  | [] => (significand, 0)
  | c :: cs =>
    if significand < roomForDigit then gather (significand * 10 + (c.toNat - 48)) cs
    else (significand, cs.length + 1)

/-- The significand and the exponent of ten behind it. -/
def parts (r : Reading) : Nat × Int :=
  let whole := gather 0 r.whole
  let all := gather whole.1 r.fraction
  (all.1, r.exponent + whole.2 - ((r.fraction.length : Int) - all.2))

/-- A significand below this number may be made ten times as large. -/
def roomForFactor : Nat := (Word.unsignedLimit - 2048) / 10

/-- The parts with a positive exponent brought closer to zero; `fuel` bounds the steps, of which
twenty fill the significand. -/
def raise : Nat → Nat → Nat → Nat × Nat
  | 0, significand, exponent => (significand, exponent)
  | fuel + 1, significand, exponent =>
    if 0 < exponent ∧ significand < roomForFactor then
      raise fuel (significand * 10) (exponent - 1)
    else (significand, exponent)

/-- The parts with a negative exponent, given as its size, brought closer to zero. -/
def lower : Nat → Nat → Nat → Nat × Nat
  | 0, significand, size => (significand, size)
  | fuel + 1, significand, size =>
    if 0 < size ∧ significand % 10 = 0 then lower fuel (significand / 10) (size - 1)
    else (significand, size)

/-- The parts with an exponent that is as close to zero as the significand allows. -/
def balanced (parts : Nat × Int) : Nat × Int :=
  match parts.2 with
  | .ofNat n => (raise 20 parts.1 n).map id Int.ofNat
  | .negSucc n => (lower 20 parts.1 (n + 1)).map id fun size => -Int.ofNat size

/-- The magnitude of the double that a significand and an exponent of ten give; `none` beyond the
largest one. A significand that rounds up to 65 bits counts as what it rounds to. -/
def magnitude? (parts : Nat × Int) : Option Rat :=
  if parts.1 = 0 then some 0
  else do
    let (significand, exponent) := balanced parts
    let pair ← DoublePair.nearest? significand
    let pair := if pair.high < Word.unsignedLimit then pair else { pair with low := 0 }
    (← pair.scale? exponent).sum?

/-- A number beyond all doubles, which stands for what is beyond the largest one. -/
def beyond : Rat := (Nat.pow 2 1024 : Nat)

/-- The double of the numeral. -/
def double (r : Reading) : Rat := r.signed ((magnitude? r.parts).getD beyond)

/-- The integer of a plain numeral. -/
def integer? (r : Reading) : Option Int :=
  if r.isPlain then
    let n := ofDigits r.whole
    some (if r.negative then -(n : Int) else n)
  else none

end Reading

end FederationRegistry.Decimal
