import FederationRegistry.Settings.Value
import FederationRegistry.Toml.Scan

/-!
# Numbers, truth values, dates and times of TOML

A scalar that is no text runs up to a mark of the document, without the blanks in front of it. Of
these only integers have a value here; all others are read for their form alone, since no setting
takes them.

**Underscores** join digits: each stands between two of them. Behind its first underscore an integer
in base ten may hold anything but spaces and the marks of a float, with the letters up to `f`
counted as digits; it is an integer in form, and has a value if all that stands in it are digits. In
the other bases an integer without digits is one without a value.
-/

namespace FederationRegistry.Toml

open Decimal (hexValue? isDigit splitSign)

/-! ## Numbers -/

/-- The character is a digit in base sixteen. -/
def isHexDigit (c : Char) : Bool := (hexValue? c).isSome

/-- Every underscore stands between two digits; `joinable` says that the first may come at
once. -/
def isJoinedFrom (isDigit : Char → Bool) (joinable : Bool) : List Char → Bool
  | [] => true
  | c :: cs =>
    if c = '_' then joinable && cs.head?.any isDigit && isJoinedFrom isDigit false cs
    else isJoinedFrom isDigit (isDigit c) cs

/-- Every underscore stands between two digits. -/
def isJoined (isDigit : Char → Bool) (cs : List Char) : Bool := isJoinedFrom isDigit false cs

/-- The characters other than underscores. -/
def withoutJoints (cs : List Char) : List Char := cs.filter (· != '_')

/-- The number that digits in a base stand for. A number beyond 64 bits counts as the first such
number. -/
def number? (base : Nat) (cs : List Char) : Option Nat :=
  let behind (n : Nat) (c : Char) : Option Nat :=
    ((hexValue? c).filter (· < base)).map fun d => min (base * n + d) Word.unsignedLimit
  if cs.isEmpty then none else cs.foldlM behind 0

/-- A zero leads other digits. -/
def isZeroLed : List Char → Bool
  | '0' :: c :: _ => isDigit c || c = '_'
  | _ => false

/-- The character marks an exponent. -/
def isExponentMark (c : Char) : Bool := c = 'e' || c = 'E'

/-- The text behind the mark of a base has the form of digits in it, or is empty. -/
def isBaseForm (base : Nat) (cs : List Char) : Bool :=
  isJoined isHexDigit cs &&
    (withoutJoints cs).all fun c => (hexValue? c).any (· < base)

/-- No text starts behind a tab. -/
def hasNoTabbedQuote : List Char → Bool
  | '\t' :: '"' :: _ | '\t' :: '\'' :: _ => false
  | _ :: cs => hasNoTabbedQuote cs
  | [] => true

/-- The text has the form of an integer in base ten. -/
def isDecimalForm (cs : List Char) : Bool :=
  let unsigned := (splitSign cs).2
  let behindDigits := unsigned.dropWhile isDigit
  !unsigned.isEmpty && !isZeroLed unsigned && isJoined isHexDigit unsigned &&
    (behindDigits.isEmpty || behindDigits.head? == some '_') &&
    (behindDigits.all fun c => c != ' ' && c != '.' && !isExponentMark c) &&
    hasNoTabbedQuote behindDigits

/-- The value of an integer in base ten, with its sign. -/
def decimalValue? (cs : List Char) : Option Int :=
  let (negative, digits) := splitSign (withoutJoints cs)
  (number? 10 digits).map fun n => if negative then -(n : Int) else n

/-- What an integer stands for: with a sign in base ten, without one in bases sixteen, eight and
two. -/
def integer? : List Char → Option SettingValue
  | '0' :: 'x' :: cs => inBase 16 cs
  | '0' :: 'o' :: cs => inBase 8 cs
  | '0' :: 'b' :: cs => inBase 2 cs
  | cs => if isDecimalForm cs then some (ofValue (decimalValue? cs)) else none
where
  /-- The value, or that there is none. -/
  ofValue (value : Option Int) : SettingValue := value.elim .foreign .integer
  /-- What the digits in a base stand for. -/
  inBase (base : Nat) (cs : List Char) : Option SettingValue :=
    if isBaseForm base cs then some (ofValue ((number? base (withoutJoints cs)).map Int.ofNat))
    else none

/-- The text is made of digits, and not empty. -/
def isDigits (cs : List Char) : Bool := !cs.isEmpty && cs.all isDigit

/-- The exponent behind its mark. -/
def isExponent (cs : List Char) : Bool := isDigits (splitSign cs).2

/-- The part behind the point: digits, and perhaps an exponent. -/
def isFraction (cs : List Char) : Bool :=
  let digits := cs.takeWhile fun c => !isExponentMark c
  isDigits digits &&
    match cs.drop digits.length with
    | [] => true
    | _ :: exponent => isExponent exponent

/-- Digits with a point, an exponent or both behind them. -/
def isFinite (cs : List Char) : Bool :=
  let whole := cs.takeWhile fun c => c != '.' && !isExponentMark c
  isDigits whole &&
    match cs.drop whole.length with
    | '.' :: fraction => isFraction fraction
    | _ :: exponent => isExponent exponent
    | [] => false

/-- A number with a point, an exponent or both, or one that is not finite. -/
def isFloat (cs : List Char) : Bool :=
  let unsigned := (splitSign cs).2
  unsigned == ['i', 'n', 'f'] || unsigned == ['n', 'a', 'n'] ||
    (!isZeroLed unsigned && isJoined isDigit unsigned && isFinite (withoutJoints unsigned))

/-! ## Dates and times -/

/-- The number that exactly so many digits stand for. -/
def fixed? (width : Nat) (cs : List Char) : Option Nat :=
  if cs.length = width ∧ cs.all isDigit then some (Decimal.ofDigits cs) else none

/-- The number of days of a month. -/
def daysOfMonth (year month : Nat) : Nat :=
  if month = 2 then
    if year % 4 = 0 ∧ (year % 100 ≠ 0 ∨ year % 400 = 0) then 29 else 28
  else if month = 4 ∨ month = 6 ∨ month = 9 ∨ month = 11 then 30
  else 31

/-- A date. -/
def isDate : List Char → Bool
  | [y₁, y₂, y₃, y₄, '-', m₁, m₂, '-', d₁, d₂] =>
    match fixed? 4 [y₁, y₂, y₃, y₄], fixed? 2 [m₁, m₂], fixed? 2 [d₁, d₂] with
    | some year, some month, some day =>
      1 ≤ month && month ≤ 12 && 1 ≤ day && day ≤ daysOfMonth year month
    | _, _, _ => false
  | _ => false

/-- Two digits that stand for no more than a limit. -/
def isUpTo (limit : Nat) (a b : Char) : Bool := (fixed? 2 [a, b]).any fun n => n ≤ limit

/-- What may follow the minutes of a time: seconds, and perhaps a fraction of them. -/
def isSeconds : List Char → Bool
  | [] => true
  | ':' :: a :: b :: cs =>
    isUpTo 60 a b &&
      match cs with
      | [] => true
      | '.' :: fraction => !fraction.isEmpty && fraction.all isDigit
      | _ => false
  | _ => false

/-- A time of day. -/
def isTime : List Char → Bool
  | a :: b :: ':' :: c :: d :: cs => isUpTo 23 a b && isUpTo 59 c d && isSeconds cs
  | _ => false

/-- A time of day, perhaps with its distance from universal time. -/
def isZonedTime (cs : List Char) : Bool :=
  let time := cs.takeWhile fun c => c != 'Z' && c != 'z' && c != '+' && c != '-'
  isTime time &&
    match cs.drop time.length with
    | [] | ['Z'] | ['z'] => true
    | [_, a, b, ':', c, d] => isUpTo 23 a b && isUpTo 59 c d
    | _ => false

/-- A date, a time, or both with a letter or a space between them. -/
def isMoment (cs : List Char) : Bool :=
  isDate cs || isTime cs ||
    match cs.drop 10 with
    | 'T' :: time | 't' :: time | ' ' :: time => isDate (cs.take 10) && isZonedTime time
    | _ => false

/-! ## Scalars -/

/-- The character may stand in a scalar that is no text: it is no mark. -/
def isScalarChar (c : Char) : Bool :=
  !(['=', ',', '[', ']', '{', '}', '#', '\r', '\n'].contains c)

/-- The characters without the blanks at their end. -/
def trimBlanks (cs : List Char) : List Char := (cs.reverse.dropWhile isBlank).reverse

/-- The value that a run of characters stands for. -/
def scalar? (cs : List Char) : Option SettingValue :=
  match integer? cs with
  | some v => some v
  | none =>
    if cs == "true".toList || cs == "false".toList || isFloat cs || isMoment cs then
      some .foreign
    else none

/-- A scalar that is no text. -/
def scanScalar (cs : List Char) : Option (SettingValue × List Char) :=
  let run := cs.takeWhile isScalarChar
  (scalar? (trimBlanks run)).map fun v => (v, cs.drop run.length)

end FederationRegistry.Toml
