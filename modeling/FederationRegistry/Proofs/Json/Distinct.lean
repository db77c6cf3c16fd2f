import FederationRegistry.Proofs.Json.DoubleText
import FederationRegistry.Proofs.Json.ReadBack

/-!
# Distinct values have distinct texts

A value is the only one that has its text (`compact_injective`), doubles included: the text of a
double need not be read back as that double, but no other double has it.

**Where a value ends.** The first character of a text says what the value is (`kindOf?`),
and a numeral ends where its characters end, so two texts in front of anything that delimits them
are compared piece by piece (`render_inj`).

**Equality.** Values are equal when they are identical but for the signs of zeros, so a value
without doubles is known by its text (`compact_eq_iff`).
-/

namespace FederationRegistry

namespace Json

open Decimal (digits isDigit)

/-! ## Where a value ends -/

theorem renderText_append_inj {s t : String} {rest rest' : List Char}
    (h : renderText s ++ rest = renderText t ++ rest') : s = t ∧ rest = rest' := by
  rw [renderText_append, renderText_append] at h
  have hscan := congrArg scanText (List.cons.inj h).2
  rw [scanText_escaped, scanText_escaped] at hscan
  simp only [Scan.mk.injEq, Except.ok.injEq] at hscan
  exact ⟨String.toList_inj.mp hscan.1, hscan.2⟩

/-- What a value is. -/
inductive Kind where
  | null
  | bool
  | number
  | string
  | array
  | object

/-- What a value is. -/
def kind : Json → Kind
  | .null => .null
  | .bool _ => .bool
  | .number _ => .number
  | .string _ => .string
  | .array _ => .array
  | .object _ => .object

/-- What a value is whose text starts with the character. -/
def kindOf? (c : Char) : Option Kind :=
  if c = '-' ∨ isDigit c then some .number
  else if c = 'n' then some .null
  else if c = 't' ∨ c = 'f' then some .bool
  else if c = '"' then some .string
  else if c = '[' then some .array
  else if c = '{' then some .object
  else none

theorem render_eq_kind (j : Json) : ∃ c cs, j.render = c :: cs ∧ kindOf? c = some j.kind := by
  match j with
  | .null | .bool true | .bool false | .string _ | .array [] | .array (_ :: _) | .object []
  | .object (_ :: _) => exact ⟨_, _, rfl, rfl⟩
  | .number n =>
    obtain ⟨c, cs, hc, hstart⟩ := renderNumber_eq_cons n
    exact ⟨c, cs, hc, if_pos hstart⟩

theorem kind_eq_of_append {j k : Json} {rest rest' : List Char}
    (h : j.render ++ rest = k.render ++ rest') : j.kind = k.kind := by
  obtain ⟨c, cs, hj, hc⟩ := render_eq_kind j
  obtain ⟨d, ds, hk, hd⟩ := render_eq_kind k
  rw [hj, hk] at h
  rw [(List.cons.inj h).1, hd] at hc
  exact (Option.some.inj hc).symm

/-- No value starts as an array ends. -/
theorem render_append_ne_close (j : Json) (rest cs : List Char) :
    j.render ++ rest ≠ ']' :: cs := by
  obtain ⟨c, ds, hj, hc⟩ := render_eq_kind j
  rw [hj]
  intro h
  rw [(List.cons.inj h).1] at hc
  cases hc

/-! ## Values -/

mutual

/-- **Distinct texts.** Where the text of a value stands, no other value does, and the text that
follows is the same. -/
theorem render_inj : (v w : Json) → (rest rest' : List Char) → Delimited rest → Delimited rest' →
    v.render ++ rest = w.render ++ rest' → v = w ∧ rest = rest'
  -- by recursion on the first value: what either text starts with tells the kind of its value, so
  -- that a second value of another kind is out
  | .null, w, rest, rest', _, _, h => by
    cases w with
    | null => exact ⟨rfl, List.append_cancel_left h⟩
    | _ => cases kind_eq_of_append h
  | .bool a, w, rest, rest', _, _, h => by
    cases w with
    | bool b =>
      cases a <;> cases b
      · exact ⟨rfl, List.append_cancel_left h⟩
      · simp [render] at h
      · simp [render] at h
      · exact ⟨rfl, List.append_cancel_left h⟩
    | _ => cases kind_eq_of_append h
  -- numerals have no end of their own, so this case needs the delimiters
  | .number m, w, rest, rest', hr, hr', h => by
    cases w with
    | number n =>
      obtain ⟨hmn, hrest⟩ := renderNumber_append_inj hr hr' h
      exact ⟨by rw [hmn], hrest⟩
    | _ => cases kind_eq_of_append h
  | .string s, w, rest, rest', _, _, h => by
    cases w with
    | string t =>
      obtain ⟨hst, hrest⟩ := renderText_append_inj h
      exact ⟨by rw [hst], hrest⟩
    | _ => cases kind_eq_of_append h
  | .array [], w, rest, rest', _, _, h => by
    match w with
    | .array [] => exact ⟨rfl, List.append_cancel_left h⟩
    | .array (y :: ys) =>
      simp only [render, List.cons_append, List.append_assoc, List.cons.injEq, true_and] at h
      -- an empty array closes where the other has its first element
      exact absurd h.symm (render_append_ne_close y _ _)
    | .null | .bool _ | .number _ | .string _ | .object _ => cases kind_eq_of_append h
  | .array (x :: xs), w, rest, rest', _, _, h => by
    match w with
    | .array [] =>
      simp only [render, List.cons_append, List.append_assoc, List.cons.injEq, true_and] at h
      exact absurd h (render_append_ne_close x _ _)
    | .array (y :: ys) =>
      simp only [render, List.cons_append, List.append_assoc, List.cons.injEq, true_and] at h
      -- what follows the first element is delimited, so the elements agree and the rests go on
      obtain ⟨hxy, hrest⟩ := render_inj x y _ _ (delimited_renderElements xs rest)
        (delimited_renderElements ys rest') h
      obtain ⟨hxs, hrest⟩ := renderElements_inj xs ys rest rest' hrest
      exact ⟨by rw [hxy, hxs], hrest⟩
    | .null | .bool _ | .number _ | .string _ | .object _ => cases kind_eq_of_append h
  | .object [], w, rest, rest', _, _, h => by
    match w with
    | .object [] => exact ⟨rfl, List.append_cancel_left h⟩
    | .object ((l, w) :: ns) => simp [render, renderText] at h
    | .null | .bool _ | .number _ | .string _ | .array _ => cases kind_eq_of_append h
  | .object ((k, v) :: ms), w, rest, rest', _, _, h => by
    match w with
    | .object [] => simp [render, renderText] at h
    | .object ((l, w) :: ns) =>
      simp only [render, List.cons_append, List.append_assoc, List.cons.injEq, true_and] at h
      -- the quoted name ends by itself, then the colon and the value follow
      obtain ⟨hkl, h⟩ := renderText_append_inj h
      obtain ⟨hvw, hrest⟩ := render_inj v w _ _ (delimited_renderMembers ms rest)
        (delimited_renderMembers ns rest') (List.cons.inj h).2
      obtain ⟨hms, hrest⟩ := renderMembers_inj ms ns rest rest' hrest
      exact ⟨by rw [hkl, hvw, hms], hrest⟩
    | .null | .bool _ | .number _ | .string _ | .array _ => cases kind_eq_of_append h

theorem renderElements_inj : (xs ys : List Json) → (rest rest' : List Char) →
    renderElements xs ++ rest = renderElements ys ++ rest' →
      xs = ys ∧ rest = rest'
  | [], [], rest, rest', h => ⟨rfl, (List.cons.inj h).2⟩
  | [], y :: ys, rest, rest', h => by cases (List.cons.inj h).1
  | x :: xs, [], rest, rest', h => by cases (List.cons.inj h).1
  | x :: xs, y :: ys, rest, rest', h => by
    simp only [renderElements, List.cons_append, List.append_assoc, List.cons.injEq,
      true_and] at h
    obtain ⟨hxy, hrest⟩ := render_inj x y _ _ (delimited_renderElements xs rest)
      (delimited_renderElements ys rest') h
    obtain ⟨htail, hrest⟩ := renderElements_inj xs ys rest rest' hrest
    exact ⟨by rw [hxy, htail], hrest⟩

theorem renderMembers_inj : (ms ns : List (String × Json)) → (rest rest' : List Char) →
    renderMembers ms ++ rest = renderMembers ns ++ rest' →
      ms = ns ∧ rest = rest'
  | [], [], rest, rest', h => ⟨rfl, (List.cons.inj h).2⟩
  | [], (l, w) :: ns, rest, rest', h => by cases (List.cons.inj h).1
  | (k, v) :: ms, [], rest, rest', h => by cases (List.cons.inj h).1
  | (k, v) :: ms, (l, w) :: ns, rest, rest', h => by
    simp only [renderMembers, List.cons_append, List.append_assoc, List.cons.injEq,
      true_and] at h
    obtain ⟨hkl, h⟩ := renderText_append_inj h
    obtain ⟨hvw, hrest⟩ := render_inj v w _ _ (delimited_renderMembers ms rest)
      (delimited_renderMembers ns rest') (List.cons.inj h).2
    obtain ⟨htail, hrest⟩ := renderMembers_inj ms ns rest rest' hrest
    exact ⟨by rw [hkl, hvw, htail], hrest⟩

end

mutual

/-- Equality is identity where one side has no doubles. -/
theorem same_iff_eq : (v w : Json) → v.DoubleFree → (v.same w = true ↔ v = w)
  | .null, w, _ => by cases w <;> simp [same]
  | .bool _, w, _ => by cases w <;> simp [same]
  -- doubles are left out because of the two zeros
  | .number (.double _), w, hv => by simp [DoubleFree] at hv
  | .number (.integer i), w, _ => by
    match w with
    | .number (.integer j) => simp [same, Number.same]
    | .number (.double x) => simp [same, Number.same]
    | .null | .bool _ | .string _ | .array _ | .object _ => simp [same]
  | .string _, w, _ => by cases w <;> simp [same]
  | .array xs, w, hv => by
    match w with
    | .array ys => simp [same, sameElements_iff_eq xs ys hv]
    | .null | .bool _ | .number _ | .string _ | .object _ => simp [same]
  | .object ms, w, hv => by
    match w with
    | .object ns => simp [same, sameMembers_iff_eq ms ns hv]
    | .null | .bool _ | .number _ | .string _ | .array _ => simp [same]

theorem sameElements_iff_eq : (xs ys : List Json) → DoubleFreeElements xs →
    (sameElements xs ys = true ↔ xs = ys)
  | [], ys, _ => by cases ys <;> simp [sameElements]
  | x :: xs, [], _ => by simp [sameElements]
  | x :: xs, y :: ys, h => by
    simp [sameElements, same_iff_eq x y h.1, sameElements_iff_eq xs ys h.2]

theorem sameMembers_iff_eq : (ms ns : List (String × Json)) → DoubleFreeMembers ms →
    (sameMembers ms ns = true ↔ ms = ns)
  | [], ns, _ => by cases ns <;> simp [sameMembers]
  | (k, v) :: ms, [], _ => by simp [sameMembers]
  | (k, v) :: ms, (l, w) :: ns, h => by
    simp [sameMembers, same_iff_eq v w h.1, sameMembers_iff_eq ms ns h.2, and_assoc]

end

/-- **One text, one value.** -/
theorem compact_injective : Function.Injective compact := by
  intro v w htext
  have hrender : v.render = w.render := String.ofList_injective htext
  have happend : v.render ++ [] = w.render ++ [] := by rw [hrender]
  exact (render_inj v w [] [] delimited_nil delimited_nil happend).1

/-- **A value without doubles is known by its text**, among values of every kind. -/
theorem compact_eq_iff {v w : Json} (h : v.DoubleFree) :
    v.compact = w.compact ↔ v.same w = true := by
  rw [same_iff_eq v w h, compact_injective.eq_iff]

end Json

end FederationRegistry
