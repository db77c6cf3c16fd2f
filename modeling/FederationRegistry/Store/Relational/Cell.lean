import FederationRegistry.Decimal.Reading
import FederationRegistry.Dict
import FederationRegistry.Word

/-!
# Cells

The value of a row in one column.

**Types of columns.** The type of a column does not decide what stands in it: a value is turned
into one of that type where this loses nothing, and is kept as it is where not
(`ColumnType.fit`). So whoever writes to the file can leave a text or a fraction in a column of
integers.

**Order.** Missing values stand first, then numbers by their value, then texts.
-/

namespace FederationRegistry

/-- The largest number of a row, and the largest integer in a column. -/
def maxColumnInteger : Int := Word.signedLimit - 1

/-- The value of a row in one column. -/
inductive Cell where
  | null
  | integer (value : Int)
  /-- A number that is no integer of a column. -/
  | real (value : Rat)
  | text (value : String)
deriving DecidableEq

/-- What kind of value a cell holds. -/
inductive CellKind where
  | null
  | integer
  | real
  | text
deriving DecidableEq

/-- The name of the kind. -/
def CellKind.label : CellKind → String
  | .null => "Null"
  | .integer => "Integer"
  | .real => "Real"
  | .text => "Text"

namespace Cell

/-- The kind of the value. -/
def kind : Cell → CellKind
  | .null => .null
  | .integer _ => .integer
  | .real _ => .real
  | .text _ => .text

/-- A truth value as one or zero. -/
def flag (b : Bool) : Cell := .integer (if b then 1 else 0)

/-- A text that may be missing. -/
def text? : Option String → Cell
  | none => .null
  | some s => .text s

/-- An integer that may be missing. -/
def integer? : Option Int → Cell
  | none => .null
  | some i => .integer i

/-- The values are equal: numbers by their value, and a missing value to none. -/
def same : Cell → Cell → Bool
  | .null, _ | _, .null => false
  | .integer i, .real x | .real x, .integer i => x == i
  | a, b => a == b

/-! ## Order -/

/-- The place of a cell in the order: its group, its value among numbers, integers before others of
the same value, and its text. -/
def rank : Cell → Nat × (Rat × (Nat × String))
  | .null => (0, 0, 0, "")
  | .integer i => (1, i, 0, "")
  | .real x => (1, x, 1, "")
  | .text s => (2, 0, 0, s)

theorem rank_injective (a b : Cell) (h : rank a = rank b) : a = b := by
  cases a <;> cases b <;> simp_all [rank]

instance : Key Cell := .ofRank rank rank_injective

theorem before_integer (i j : Int) :
    Key.before (Cell.integer i) (.integer j) = decide (i < j) := by
  simp only [Key.before, rank, Rat.intCast_lt_intCast]
  simp

end Cell

/-! ## Types of columns -/

/-- The type of a column. -/
inductive ColumnType where
  | integer
  | text
deriving DecidableEq

namespace ColumnType

/-- A number in a column of integers. The integers next to the limits of the range stay apart from
other numbers. -/
def fitNumber (x : Rat) : Cell :=
  if x.den = 1 ∧ -(Word.signedLimit : Int) < x.num ∧ x.num < maxColumnInteger then .integer x.num
  else .real x

/-- A text in a column of integers. -/
def fitText (s : String) : Cell :=
  match Decimal.Reading.ofText? s with
  | none => .text s
  | some r =>
    match r.integer? with
    | some i =>
      if -(Word.signedLimit : Int) ≤ i ∧ i ≤ maxColumnInteger then .integer i
      else fitNumber r.double
    | none => fitNumber r.double

/-- What stands in a column of a type that is given a value. -/
def fit : ColumnType → Cell → Cell
  | .integer, .real x => fitNumber x
  | .integer, .text s => fitText s
  | .text, .integer i => .text (Decimal.intText i)
  | _, c => c

end ColumnType

end FederationRegistry
