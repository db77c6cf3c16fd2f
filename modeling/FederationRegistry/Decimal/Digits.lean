/-!
# Decimal digits

Natural numbers and their decimal digits, most significant first and without leading zeros.
Main statement: `ofDigits_digits`, reading back what was written gives the number.
-/

namespace FederationRegistry.Decimal

/-- The character of a digit below ten. -/
def digitChar (d : Nat) : Char := Char.ofNat (48 + d)

/-- The value of a decimal digit, `none` for any other character. -/
def digitValue? (c : Char) : Option Nat :=
  if '0' ≤ c && c ≤ '9' then some (c.toNat - 48) else none

/-- The character is a decimal digit. -/
def isDigit (c : Char) : Bool := (digitValue? c).isSome

/-- The value of a digit in base sixteen, `none` for any other character. -/
def hexValue? (c : Char) : Option Nat :=
  if 'a' ≤ c && c ≤ 'f' then some (c.toNat - 87)
  else if 'A' ≤ c && c ≤ 'F' then some (c.toNat - 55)
  else digitValue? c

/-- The digits of a number. -/
def digits (n : Nat) : List Char :=
  if n < 10 then [digitChar n] else digits (n / 10) ++ [digitChar (n % 10)]
termination_by n

/-- The number that a list of digits stands for, behind the digits of `acc`. -/
def ofDigitsFrom (acc : Nat) (cs : List Char) : Nat :=
  cs.foldl (fun n c => n * 10 + (c.toNat - 48)) acc

/-- The number that a list of digits stands for. -/
def ofDigits (cs : List Char) : Nat := ofDigitsFrom 0 cs

/-- Whether a minus sign comes first, and what stands behind the sign, if there is one. -/
def splitSign : List Char → Bool × List Char
  | '-' :: cs => (true, cs)
  | '+' :: cs => (false, cs)
  | cs => (false, cs)

theorem toNat_digitChar {d : Nat} (h : d < 10) : (digitChar d).toNat = 48 + d := by
  match d, h with
  | 0, _ | 1, _ | 2, _ | 3, _ | 4, _ | 5, _ | 6, _ | 7, _ | 8, _ | 9, _ => rfl

theorem isDigit_digitChar {d : Nat} (h : d < 10) : isDigit (digitChar d) = true := by
  match d, h with
  | 0, _ | 1, _ | 2, _ | 3, _ | 4, _ | 5, _ | 6, _ | 7, _ | 8, _ | 9, _ => rfl

theorem ofDigitsFrom_append (acc : Nat) (xs ys : List Char) :
    ofDigitsFrom acc (xs ++ ys) = ofDigitsFrom (ofDigitsFrom acc xs) ys := by
  simp [ofDigitsFrom, List.foldl_append]

/-- **Reading back.** The digits of a number stand for that number. -/
theorem ofDigits_digits (n : Nat) : ofDigits (digits n) = n := by
  induction n using digits.induct with
  | case1 n h =>
    rw [digits, if_pos h]
    simp [ofDigits, ofDigitsFrom, toNat_digitChar h]
  | case2 n h ih =>
    have hm : n % 10 < 10 := Nat.mod_lt _ (by decide)
    have ih : ofDigitsFrom 0 (digits (n / 10)) = n / 10 := ih
    rw [digits, if_neg h, ofDigits, ofDigitsFrom_append, ih]
    simp only [ofDigitsFrom, List.foldl_cons, List.foldl_nil, toNat_digitChar hm]
    omega

theorem digits_ne_nil (n : Nat) : digits n ≠ [] := by
  rw [digits]; split <;> simp

theorem isDigit_of_mem_digits {n : Nat} {c : Char} (h : c ∈ digits n) : isDigit c = true := by
  induction n using digits.induct with
  | case1 n hn =>
    rw [digits, if_pos hn] at h
    rw [List.mem_singleton.mp h]
    exact isDigit_digitChar hn
  | case2 n hn ih =>
    rw [digits, if_neg hn] at h
    rcases List.mem_append.mp h with h | h
    · exact ih h
    · rw [List.mem_singleton.mp h]
      exact isDigit_digitChar (Nat.mod_lt _ (by decide))

/-- A number as text. -/
def text (n : Nat) : String := String.ofList (digits n)

/-- An integer as text, a minus sign in front of a negative one. -/
def intDigits : Int → List Char
  | .ofNat n => digits n
  | .negSucc n => '-' :: digits (n + 1)

/-- An integer as text. -/
def intText (i : Int) : String := String.ofList (intDigits i)

end FederationRegistry.Decimal
