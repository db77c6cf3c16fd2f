import FederationRegistry.Proofs.Decimal.Shortest
import FederationRegistry.Proofs.Json.Numeral

/-!
# No two doubles have one text

The text of a double is that of a numeral (`exists_numeral`), and the numeral is, digit by digit,
the shortest decimal of the double: layout moves the point and fills up with zeros, and the
exponent makes up for it (`Stands.value`). Since the shortest decimal stands for one double of
each sign, so does the text (`writeDouble_inj`).

This says nothing of the reader of such texts, which rounds twice and may miss the double.
-/

namespace FederationRegistry.Json

open Decimal (digits isDigit Scientific)

namespace Numeral

/-! ## The number of a numeral -/

/-- The number of a numeral without its sign, with the point behind the last digit. -/
def decimal (n : Numeral) : Scientific :=
  ⟨Decimal.ofDigits (n.whole ++ n.fraction.getD []),
    n.exponentValue - (n.fraction.getD []).length⟩

theorem ofDigits_replicate (cs : List Char) (n : Nat) :
    Decimal.ofDigits (cs ++ List.replicate n '0') = Decimal.ofDigits cs * 10 ^ n := by
  induction n with
  | zero => simp
  | succ n ih =>
    rw [List.replicate_succ', ← List.append_assoc, Decimal.ofDigits, Decimal.ofDigitsFrom_append,
      ← Decimal.ofDigits, ih]
    simp [Decimal.ofDigitsFrom, pow_succ, mul_assoc]

theorem ofDigits_zeros_append (n : Nat) (cs : List Char) :
    Decimal.ofDigits (List.replicate n '0' ++ cs) = Decimal.ofDigits cs := by
  have hzeros : Decimal.ofDigits (List.replicate n '0') = 0 := by
    simpa [Decimal.ofDigits, Decimal.ofDigitsFrom] using ofDigits_replicate [] n
  rw [Decimal.ofDigits, Decimal.ofDigitsFrom_append, ← Decimal.ofDigits, hzeros]
  rfl

/-- Zeros behind the digits are made up for by the exponent. -/
theorem value_decimal {n : Numeral} {s : Scientific} (zeros : Nat)
    (hdigits : n.decimal.digits = s.digits * 10 ^ zeros)
    (hexponent : n.decimal.exponent + zeros = s.exponent) : n.decimal.value = s.value := by
  rw [Scientific.value, Scientific.value, hdigits, ← hexponent, zpow_add₀ (by norm_num),
    zpow_natCast]
  push_cast
  ring

/-- The numeral is written for the decimal: it is that of a double, and it has the number. -/
structure Stands (n : Numeral) (s : Scientific) : Prop where
  wellFormed : n.WellFormed
  unsigned : n.negative = false
  pointed : n.fraction.isSome = true ∨ n.exponent.isSome = true
  value : n.decimal.value = s.value

theorem Stands.chars_eq {n : Numeral} {s : Scientific} (h : n.Stands s) : n.chars = n.body := by
  rw [chars, h.unsigned]
  rfl

end Numeral

/-! ## Layout -/

/-- The text of an exponent and its value. -/
theorem exponentChars_lead (lead : Int) :
    Numeral.exponentChars (some (decide (lead < 0), digits lead.natAbs)) =
      'e' :: ((if lead < 0 then "-" else Decimal.propertyLayout.plus).toList ++
        digits lead.natAbs) := by
  by_cases h : lead < 0
  · simp [Numeral.exponentChars, h]
  · simp [Numeral.exponentChars, h, Decimal.propertyLayout]

theorem exponentValue_lead (negative : Bool) (whole : List Char) (fraction : Option (List Char))
    (lead : Int) :
    (Numeral.mk negative whole fraction
      (some (decide (lead < 0), digits lead.natAbs))).exponentValue = lead := by
  by_cases h : lead < 0
  · simp only [Numeral.exponentValue, h, decide_true, Decimal.ofDigits_digits]
    omega
  · simp only [Numeral.exponentValue, h, decide_false, Decimal.ofDigits_digits]
    omega

theorem isDigits_zero : IsDigits ['0'] := by
  refine ⟨List.cons_ne_nil _ _, fun c hc => ?_⟩
  rw [List.mem_singleton.mp hc]
  rfl

theorem isDigits_zeros_append (n : Nat) {ds : List Char} (h : IsDigits ds) :
    IsDigits (List.replicate n '0' ++ ds) := by
  refine ⟨by simp [h.ne_nil], fun c hc => ?_⟩
  rcases List.mem_append.mp hc with hc | hc
  · rw [List.eq_of_mem_replicate hc]
    rfl
  · exact h.digit c hc

theorem isDigits_append_zeros (n : Nat) {ds : List Char} (h : IsDigits ds) :
    IsDigits (ds ++ List.replicate n '0') := by
  refine ⟨by simp [h.ne_nil], fun c hc => ?_⟩
  rcases List.mem_append.mp hc with hc | hc
  · exact h.digit c hc
  · rw [List.eq_of_mem_replicate hc]
    rfl

section

variable {s : Scientific} {lead : Int}

/-- Below one the digits stand behind the point and as many zeros as it takes. -/
theorem stands_belowOne (hlead : s.exponent + (digits s.digits).length - 1 = lead)
    (hneg : lead < 0) :
    (Numeral.mk false ['0'] (some (List.replicate (-lead - 1).toNat '0' ++ digits s.digits))
      none).Stands s := by
  refine ⟨⟨isDigits_zero, nofun, ?_, nofun⟩, rfl, .inl rfl, Numeral.value_decimal 0 ?_ ?_⟩
  · rintro _ ⟨⟩
    exact isDigits_zeros_append _ (isDigits_digits _)
  · have hzero : Decimal.ofDigits (List.replicate 1 '0' ++
        (List.replicate (-lead - 1).toNat '0' ++ digits s.digits)) = s.digits := by
      rw [Numeral.ofDigits_zeros_append, Numeral.ofDigits_zeros_append, Decimal.ofDigits_digits]
    simpa [Numeral.decimal] using hzero
  · simp [Numeral.decimal, Numeral.exponentValue]
    omega

/-- A whole number has its zeros in front of the point and one behind it. -/
theorem stands_whole (hs : 0 < s.digits) (hlead : s.exponent + (digits s.digits).length - 1 = lead)
    (hnonneg : 0 ≤ lead) (hlength : (digits s.digits).length ≤ lead.toNat + 1) :
    (Numeral.mk false
      (digits s.digits ++ List.replicate (lead.toNat + 1 - (digits s.digits).length) '0')
      (some ['0']) none).Stands s := by
  have hlong := List.length_pos_iff.mpr (Decimal.digits_ne_nil s.digits)
  refine ⟨⟨isDigits_append_zeros _ (isDigits_digits _), fun c cs h => ?_, ?_, nofun⟩, rfl, .inl rfl,
    Numeral.value_decimal (lead.toNat + 1 - (digits s.digits).length + 1) ?_ ?_⟩
  · obtain ⟨d, ds, hd⟩ := List.exists_cons_of_ne_nil (Decimal.digits_ne_nil s.digits)
    rw [hd, List.cons_append] at h
    exact digits_ne_zero_cons hs ds (by rw [hd, (List.cons.inj h).1])
  · rintro _ ⟨⟩
    exact isDigits_zero
  · have hzeros := Numeral.ofDigits_replicate (digits s.digits)
      (lead.toNat + 1 - (digits s.digits).length + 1)
    rw [List.replicate_succ', ← List.append_assoc, Decimal.ofDigits_digits] at hzeros
    exact hzeros
  · simp [Numeral.decimal, Numeral.exponentValue]
    omega

/-- Otherwise the point stands among the digits. -/
theorem stands_among (hs : 0 < s.digits) (hlead : s.exponent + (digits s.digits).length - 1 = lead)
    (hnonneg : 0 ≤ lead) (hlength : lead.toNat + 1 < (digits s.digits).length) :
    (Numeral.mk false ((digits s.digits).take (lead.toNat + 1))
      (some ((digits s.digits).drop (lead.toNat + 1))) none).Stands s := by
  have hdigits := isDigits_digits s.digits
  refine ⟨⟨⟨by simp [hdigits.ne_nil], fun c hc => hdigits.digit c (List.mem_of_mem_take hc)⟩,
    fun c cs h => ?_, ?_, nofun⟩, rfl, .inl rfl, Numeral.value_decimal 0 ?_ ?_⟩
  · change (digits s.digits).take (lead.toNat + 1) = '0' :: c :: cs at h
    have happend := List.take_append_drop (lead.toNat + 1) (digits s.digits)
    rw [h] at happend
    exact digits_ne_zero_cons hs _ happend.symm
  · rintro _ ⟨⟩
    refine ⟨fun h => ?_, fun c hc => hdigits.digit c (List.mem_of_mem_drop hc)⟩
    have := List.drop_eq_nil_iff.mp h
    omega
  · simp [Numeral.decimal, Decimal.ofDigits_digits]
  · simp [Numeral.decimal, Numeral.exponentValue]
    omega

/-- With an exponent the point stands behind the first digit, if there is another one. -/
theorem stands_exponent (hlead : s.exponent + (digits s.digits).length - 1 = lead) {d : Char}
    {ds : List Char} (hd : digits s.digits = d :: ds) :
    (Numeral.mk false [d] (if ds = [] then none else some ds)
      (some (decide (lead < 0), digits lead.natAbs))).Stands s := by
  have hdigits := isDigits_digits s.digits
  have hread := Decimal.ofDigits_digits s.digits
  rw [hd] at hdigits hlead hread
  -- one digit stands before the point and the others, if there are any, behind it
  refine ⟨⟨⟨nofun, ?_⟩, ?_, ?_, ?_⟩, rfl, .inr rfl, Numeral.value_decimal 0 ?_ ?_⟩
  · simpa using hdigits.digit d (by simp)
  · intro c cs h
    simp at h
  · intro fraction hfraction
    split at hfraction
    · cases hfraction
    · rename_i hne
      cases hfraction
      exact ⟨hne, fun c hc => hdigits.digit c (List.mem_cons_of_mem d hc)⟩
  · rintro _ _ ⟨⟩
    exact isDigits_digits _
  · by_cases hne : ds = []
    · simpa [Numeral.decimal, hne] using hread
    · simpa [Numeral.decimal, hne] using hread
  · rw [Numeral.decimal, exponentValue_lead]
    by_cases hne : ds = []
    · simp [hne] at hlead ⊢
      omega
    · simp [hne] at hlead ⊢
      omega

end

/-- A decimal is laid out as a numeral that stands for it. -/
theorem exists_stands {s : Scientific} (hs : 0 < s.digits) :
    ∃ n : Numeral, n.Stands s ∧ (Decimal.propertyLayout.write s).toList = n.chars := by
  unfold Decimal.Layout.write
  dsimp only
  generalize hlead : s.exponent + (digits s.digits).length - 1 = lead
  -- the layout without an exponent: the point stands before, behind or among the digits
  split
  · split
    · rename_i hneg
      exact ⟨_, stands_belowOne hlead hneg, by simp [Numeral.chars, Numeral.body,
        Numeral.fractionChars, Numeral.exponentChars]⟩
    · rename_i hneg
      split
      · rename_i hlength
        exact ⟨_, stands_whole hs hlead (not_lt.mp hneg) hlength, by
          simp [Numeral.chars, Numeral.body, Numeral.fractionChars, Numeral.exponentChars]⟩
      · rename_i hlength
        exact ⟨_, stands_among hs hlead (not_lt.mp hneg) (not_le.mp hlength), by
          simp [Numeral.chars, Numeral.body, Numeral.fractionChars, Numeral.exponentChars]⟩
  · -- the layout with an exponent
    obtain ⟨d, ds, hd⟩ := List.exists_cons_of_ne_nil (Decimal.digits_ne_nil s.digits)
    have hstands := stands_exponent hlead hd
    refine ⟨_, hstands, ?_⟩
    rw [hstands.chars_eq, Numeral.body, exponentChars_lead, hd]
    cases ds with
    | nil => simp [Numeral.fractionChars, Decimal.text]
    | cons d' ds => simp [Numeral.fractionChars, Decimal.text]

/-! ## Numbers -/

/-- The numeral is written for the number. -/
def Numeral.IsOf (n : Numeral) : Number → Prop
  | .integer i => n = .ofInt i.value
  | .double x => n.negative = x.negative ∧ n.decimal.value = Decimal.written x ∧
      (n.fraction.isSome = true ∨ n.exponent.isSome = true)

theorem Numeral.not_isOf_double (i : Int) (x : Binary64) : ¬(ofInt i).IsOf (.double x) := by
  rintro ⟨-, -, hpointed⟩
  cases i <;> rcases hpointed with h | h <;> cases h

/-- A numeral is written for one number. -/
theorem Numeral.eq_of_isOf {n : Numeral} {a b : Number} (ha : n.IsOf a) (hb : n.IsOf b) :
    a = b := by
  match a, b with
  | .integer i, .integer j =>
    have hij : i.value = j.value := ofInt_inj (ha.symm.trans hb)
    cases i
    cases j
    cases hij
    rfl
  -- the numeral of a double has a point or an exponent, that of an integer neither
  | .integer i, .double x =>
    change n = ofInt i.value at ha
    rw [ha] at hb
    exact absurd hb (not_isOf_double i.value x)
  | .double x, .integer i =>
    change n = ofInt i.value at hb
    rw [hb] at ha
    exact absurd ha (not_isOf_double i.value x)
  | .double x, .double y =>
    have hwritten : Decimal.written x = Decimal.written y := ha.2.1.symm.trans hb.2.1
    rw [Decimal.eq_of_written hwritten (ha.1.symm.trans hb.1)]

theorem Numeral.chars_withSign (n : Numeral) (negative : Bool) :
    ({ n with negative } : Numeral).chars = if negative then '-' :: n.body else n.body :=
  rfl

theorem Numeral.WellFormed.withSign {n : Numeral} (h : n.WellFormed) (negative : Bool) :
    ({ n with negative } : Numeral).WellFormed :=
  ⟨h.whole, h.unpadded, h.fraction, h.exponent⟩

theorem exists_numeral_double (x : Binary64) :
    ∃ n : Numeral, n.WellFormed ∧ n.IsOf (.double x) ∧
      (Decimal.propertyLayout.writeDouble x).toList = n.chars := by
  unfold Decimal.Layout.writeDouble
  by_cases hx : x.isZero = true
  · -- a zero keeps its sign and gets a point
    refine ⟨⟨x.negative, ['0'], some ['0'], none⟩, ⟨isDigits_zero, nofun, ?_, nofun⟩,
      ⟨rfl, ?_, .inl rfl⟩, ?_⟩
    · rintro _ ⟨⟩
      exact isDigits_zero
    · simp [Decimal.written, hx, Numeral.decimal, Scientific.value, Decimal.ofDigits,
        Decimal.ofDigitsFrom]
    · cases hneg : x.negative <;>
        simp [hx, Numeral.chars, Numeral.body, Numeral.fractionChars, Numeral.exponentChars]
  · -- the shortest digits of another double are not zero, so the layouts apply
    have hpos : 0 < (Decimal.shortest x).digits := by
      refine Nat.pos_of_ne_zero fun hzero => hx (Decimal.isZero_of_value_shortest ?_)
      rw [Scientific.value, hzero, Nat.cast_zero, zero_mul]
    obtain ⟨n, hn, htext⟩ := exists_stands hpos
    refine ⟨{ n with negative := x.negative }, hn.wellFormed.withSign _, ⟨rfl, ?_, hn.pointed⟩, ?_⟩
    · rw [Decimal.written, if_neg hx]
      exact hn.value
    · have hbody : (Decimal.propertyLayout.write (Decimal.shortest x)).toList = n.body :=
        htext.trans hn.chars_eq
      rw [n.chars_withSign, ← hbody]
      cases x.negative <;> simp [hx]

/-- Every number is written as a numeral. -/
theorem exists_numeral (a : Number) :
    ∃ n : Numeral, n.WellFormed ∧ n.IsOf a ∧ renderNumber a = n.chars := by
  cases a with
  | integer i =>
    exact ⟨.ofInt i.value, Numeral.wellFormed_ofInt _, rfl, (Numeral.chars_ofInt _).symm⟩
  | double x => exact exists_numeral_double x

/-- **No two numbers have one text**, and a number ends where its text ends. -/
theorem renderNumber_append_inj {a b : Number} {rest rest' : List Char} (hr : Delimited rest)
    (hr' : Delimited rest') (h : renderNumber a ++ rest = renderNumber b ++ rest') :
    a = b ∧ rest = rest' := by
  obtain ⟨m, hm, hma, hatext⟩ := exists_numeral a
  obtain ⟨n, hn, hnb, hbtext⟩ := exists_numeral b
  rw [hatext, hbtext] at h
  obtain ⟨rfl, hrest⟩ := Numeral.chars_append_inj hm hn hr hr' h
  exact ⟨Numeral.eq_of_isOf hma hnb, hrest⟩

/-- A number starts with a minus sign or a digit. -/
theorem renderNumber_eq_cons (a : Number) :
    ∃ c cs, renderNumber a = c :: cs ∧ (c = '-' ∨ isDigit c = true) := by
  obtain ⟨n, hn, -, htext⟩ := exists_numeral a
  rw [htext]
  exact hn.chars_eq_cons

end FederationRegistry.Json
