import FederationRegistry.Json.Document
import FederationRegistry.Json.Printer
import Mathlib.Data.List.TakeDrop

/-!
# The text of a numeral

A numeral is its digits: those in front of the point, those behind it, and those of the exponent.
Written out (`Numeral.chars`), a numeral is scanned again as it was, in front of any text that
delimits it (`scanNumeral_chars`). So no two numerals have one text (`chars_inj`), and a numeral
ends where its characters end (`chars_append_inj`).

The integers are the numerals without point and exponent (`Numeral.ofInt`).
-/

namespace FederationRegistry.Json

open Decimal (digits isDigit digitChar)

/-- The text starts with a comma or a closing bracket, if with anything. -/
def Delimited (cs : List Char) : Prop :=
  ∀ c rest, cs = c :: rest → c = ',' ∨ c = ']' ∨ c = '}'

theorem delimited_nil : Delimited [] := by
  intro c rest h
  cases h

theorem delimited_cons {c : Char} (h : c = ',' ∨ c = ']' ∨ c = '}') (cs : List Char) :
    Delimited (c :: cs) := by
  rintro _ _ ⟨⟩
  exact h

/-! ## Digits -/

/-- The text does not go on with a digit. -/
def EndsDigits (cs : List Char) : Prop := ∀ c rest, cs = c :: rest → isDigit c = false

theorem Delimited.endsDigits {cs : List Char} (h : Delimited cs) : EndsDigits cs := by
  intro c rest hc
  rcases h c rest hc with rfl | rfl | rfl <;> rfl

theorem endsDigits_cons {c : Char} (h : isDigit c = false) (cs : List Char) :
    EndsDigits (c :: cs) := by
  rintro _ _ ⟨⟩
  exact h

theorem span_digits {ds rest : List Char} (hd : ∀ c ∈ ds, isDigit c = true)
    (hr : EndsDigits rest) : (ds ++ rest).span isDigit = (ds, rest) := by
  have hstop : rest.takeWhile isDigit = [] ∧ rest.dropWhile isDigit = rest := by
    cases rest with
    | nil => exact ⟨rfl, rfl⟩
    | cons c cs => simp [hr c cs rfl]
  rw [List.span_eq_takeWhile_dropWhile, List.takeWhile_append_of_pos hd,
    List.dropWhile_append_of_pos hd, hstop.1, hstop.2, List.append_nil]

/-- A positive number is written without a leading zero. -/
theorem digits_ne_zero_cons {n : Nat} (h : 0 < n) (cs : List Char) : digits n ≠ '0' :: cs := by
  induction n using FederationRegistry.Decimal.digits.induct generalizing cs with
  | case1 n hn =>
    rw [digits, if_pos hn]
    intro heq
    have hc := congrArg Char.toNat (List.cons.inj heq).1
    rw [Decimal.toNat_digitChar hn] at hc
    simp at hc
    omega
  | case2 n hn ih =>
    rw [digits, if_neg hn]
    obtain ⟨d, ds, hd⟩ := List.exists_cons_of_ne_nil (Decimal.digits_ne_nil (n / 10))
    rw [hd, List.cons_append]
    intro heq
    exact ih (by omega) ds (by rw [hd, (List.cons.inj heq).1])

theorem digits_ne_zero_cons_cons (n : Nat) (c : Char) (cs : List Char) :
    digits n ≠ '0' :: c :: cs := by
  rcases Nat.eq_zero_or_pos n with rfl | hn
  · simp [digits]
  · exact digits_ne_zero_cons hn _

theorem digits_inj {m n : Nat} (h : digits m = digits n) : m = n := by
  rw [← Decimal.ofDigits_digits m, h, Decimal.ofDigits_digits]

/-- Digits, and at least one of them. -/
structure IsDigits (ds : List Char) : Prop where
  ne_nil : ds ≠ []
  digit : ∀ c ∈ ds, isDigit c = true

theorem isDigits_digits (n : Nat) : IsDigits (digits n) :=
  ⟨Decimal.digits_ne_nil n, fun _ => Decimal.isDigit_of_mem_digits⟩

/-! ## Numerals -/

namespace Numeral

/-- The point and the digits behind it. -/
def fractionChars : Option (List Char) → List Char
  | none => []
  | some ds => '.' :: ds

/-- The exponent, always with a sign. -/
def exponentChars : Option (Bool × List Char) → List Char
  | none => []
  | some (minus, ds) => 'e' :: (if minus then '-' else '+') :: ds

/-- The text behind the sign. -/
def body (n : Numeral) : List Char :=
  n.whole ++ (fractionChars n.fraction ++ exponentChars n.exponent)

/-- The text of the numeral. -/
def chars (n : Numeral) : List Char := if n.negative then '-' :: n.body else n.body

/-- Where digits can stand there is at least one, and none of the leading ones is superfluous. -/
structure WellFormed (n : Numeral) : Prop where
  whole : IsDigits n.whole
  unpadded : ∀ c cs, n.whole ≠ '0' :: c :: cs
  fraction : ∀ ds, n.fraction = some ds → IsDigits ds
  exponent : ∀ minus ds, n.exponent = some (minus, ds) → IsDigits ds

variable {m n : Numeral} {rest rest' : List Char}

theorem WellFormed.body_eq_cons (h : n.WellFormed) :
    ∃ d ds, n.body = d :: ds ∧ isDigit d = true := by
  obtain ⟨d, ds, hd⟩ := List.exists_cons_of_ne_nil h.whole.ne_nil
  exact ⟨d, _, by rw [body, hd, List.cons_append], h.whole.digit d (by simp [hd])⟩

/-- A numeral starts with a minus sign or a digit. -/
theorem WellFormed.chars_eq_cons (h : n.WellFormed) :
    ∃ c cs, n.chars = c :: cs ∧ (c = '-' ∨ isDigit c = true) := by
  obtain ⟨d, ds, hd, hdigit⟩ := h.body_eq_cons
  rw [chars]
  split
  · exact ⟨'-', _, rfl, .inl rfl⟩
  · exact ⟨d, ds, hd, .inr hdigit⟩

theorem endsDigits_exponentChars (exponent : Option (Bool × List Char)) (hr : Delimited rest) :
    EndsDigits (exponentChars exponent ++ rest) := by
  match exponent with
  | none => exact hr.endsDigits
  | some (_, _) => exact endsDigits_cons rfl _

theorem endsDigits_fractionChars (fraction : Option (List Char))
    (exponent : Option (Bool × List Char)) (hr : Delimited rest) :
    EndsDigits (fractionChars fraction ++ (exponentChars exponent ++ rest)) := by
  cases fraction with
  | none => exact endsDigits_exponentChars exponent hr
  | some _ => exact endsDigits_cons rfl _

theorem scanExponent_chars (h : n.WellFormed) (hr : Delimited rest) :
    scanExponent n.negative n.whole n.fraction (exponentChars n.exponent ++ rest) =
      ⟨.ok n, .ok rest⟩ := by
  obtain ⟨negative, whole, fraction, exponent⟩ := n
  match exponent with
  | none =>
    cases rest with
    | nil => rfl
    | cons c cs => rcases hr c cs rfl with rfl | rfl | rfl <;> rfl
  | some (minus, ds) =>
    have hds := h.exponent minus ds rfl
    have hspan := span_digits hds.digit hr.endsDigits
    have hne : ds.isEmpty = false := List.isEmpty_eq_false_iff.mpr hds.ne_nil
    cases minus <;>
      simp only [exponentChars, Bool.false_eq_true, ↓reduceIte, List.cons_append, scanExponent,
        hspan, hne]

/-- Whether a minus sign comes first, and what stands behind it. -/
def splitMinus : List Char → Bool × List Char
  | '-' :: rest => (true, rest)
  | rest => (false, rest)

theorem splitMinus_chars (h : n.WellFormed) (rest : List Char) :
    splitMinus (n.chars ++ rest) = (n.negative, n.body ++ rest) := by
  rw [chars]
  cases n.negative with
  | true => rfl
  | false =>
    obtain ⟨d, ds, hd, hdigit⟩ := h.body_eq_cons
    simp only [Bool.false_eq_true, if_false]
    unfold splitMinus
    split
    · rename_i heq
      rw [hd, List.cons_append] at heq
      rw [(List.cons.inj heq).1] at hdigit
      cases hdigit
    · rfl

/-- **Scanning.** A numeral is scanned as it was written, up to its end. -/
theorem scanNumeral_chars (h : n.WellFormed) (hr : Delimited rest) :
    scanNumeral (n.chars ++ rest) = ⟨.ok n, .ok rest⟩ := by
  have hspan := span_digits h.whole.digit
    (endsDigits_fractionChars n.fraction n.exponent hr)
  have hexponent := scanExponent_chars h hr
  unfold scanNumeral
  split
  rename_i negative cs hopen
  -- neither refusal of the whole part applies: it has a digit, and no zero in front
  obtain ⟨rfl, rfl⟩ := Prod.mk.inj ((splitMinus_chars h rest).symm.trans hopen)
  simp only [body, List.append_assoc, hspan]
  split
  · rename_i hnil
    exact absurd hnil h.whole.ne_nil
  · rename_i hpadded
    exact absurd hpadded (h.unpadded _ _)
  · cases hfraction : n.fraction with
    | none =>
      rw [hfraction] at hexponent
      simp only [fractionChars, List.nil_append]
      split
      · rename_i hpoint
        cases hn : n.exponent with
        | none =>
          rw [hn] at hpoint
          have := hr _ _ hpoint
          simp at this
        | some e =>
          rw [hn] at hpoint
          cases hpoint
      · exact hexponent
    | some ds =>
      have hds := h.fraction ds hfraction
      have hne : ds.isEmpty = false := List.isEmpty_eq_false_iff.mpr hds.ne_nil
      rw [hfraction] at hexponent
      simp only [fractionChars, List.cons_append,
        span_digits hds.digit (endsDigits_exponentChars n.exponent hr), hne]
      exact hexponent

/-- **One text, one numeral.** -/
theorem chars_append_inj (hm : m.WellFormed) (hn : n.WellFormed) (hr : Delimited rest)
    (hr' : Delimited rest') (h : m.chars ++ rest = n.chars ++ rest') : m = n ∧ rest = rest' := by
  have hscan := scanNumeral_chars hm hr
  rw [h, scanNumeral_chars hn hr'] at hscan
  simp only [Scan.mk.injEq, Except.ok.injEq] at hscan
  exact ⟨hscan.1.symm, hscan.2.symm⟩

/-! ## Integers -/

/-- The numeral of an integer. -/
def ofInt : Int → Numeral
  | .ofNat n => ⟨false, digits n, none, none⟩
  | .negSucc n => ⟨true, digits (n + 1), none, none⟩

theorem wellFormed_ofInt (i : Int) : (ofInt i).WellFormed := by
  cases i with
  | ofNat n => exact ⟨isDigits_digits n, digits_ne_zero_cons_cons n, nofun, nofun⟩
  | negSucc n =>
    exact ⟨isDigits_digits (n + 1), digits_ne_zero_cons_cons (n + 1), nofun, nofun⟩

theorem chars_ofInt (i : Int) : (ofInt i).chars = Decimal.intDigits i := by
  cases i with
  | ofNat n => exact List.append_nil (digits n)
  | negSucc n => exact congrArg ('-' :: ·) (List.append_nil (digits (n + 1)))

theorem ofInt_inj {i j : Int} (h : ofInt i = ofInt j) : i = j := by
  cases i with
  | ofNat m =>
    cases j with
    | ofNat n => rw [digits_inj (Numeral.mk.inj h).2.1]
    | negSucc n => cases (Numeral.mk.inj h).1
  | negSucc m =>
    cases j with
    | ofNat n => cases (Numeral.mk.inj h).1
    | negSucc n => rw [Nat.succ.inj (digits_inj (Numeral.mk.inj h).2.1)]

end Numeral

end FederationRegistry.Json
