import FederationRegistry.Json.Decode
import FederationRegistry.Proofs.Json.Numeral

/-!
# Compact texts are read back

A value without doubles is read back from its compact text, node by node and at any depth. The
limit on the depth is not the reader's: it applies when the nodes are decoded
(`json_ofJson`).

**What follows a value.** A numeral ends where its characters end, so a value is read back only
in front of a text that does not go on with one (`Delimited`). Between the values of a compact
text stand commas and closing brackets alone.

**Fuel.** The reader counts down once for every container and every element, which is at most
once for every character (`readValue_render`).

Main statements: `read_compact` and `json_ofJson`.
-/

namespace FederationRegistry.Json

open Decimal (digits isDigit digitChar)

/-! ## Values without doubles -/

mutual

/-- Every number in the value is an integer. -/
def DoubleFree : Json → Prop
  | .number (.double _) => False
  | .array xs => DoubleFreeElements xs
  | .object ms => DoubleFreeMembers ms
  | _ => True

/-- Every element is without doubles. -/
def DoubleFreeElements : List Json → Prop
  | [] => True
  | x :: xs => x.DoubleFree ∧ DoubleFreeElements xs

/-- The value of every member is without doubles. -/
def DoubleFreeMembers : List (String × Json) → Prop
  | [] => True
  | (_, v) :: ms => v.DoubleFree ∧ DoubleFreeMembers ms

end

/-! ## Texts -/

theorem hexValue?_hexDigit : ∀ d, d < 16 → Decimal.hexValue? (hexDigit d) = some d := by
  decide

theorem scanText_plain {c : Char} (hq : c ≠ '"') (hb : c ≠ '\\') (hc : ¬ c.toNat < 0x20)
    (cs : List Char) : scanText (c :: cs) = (scanText cs).map (c :: ·) := by
  rw [scanText.eq_def]
  split
  · contradiction
  · rename_i h; cases h; contradiction
  · rename_i h; cases h; contradiction
  · rename_i h; cases h; rw [if_neg hc]

theorem scanText_simple {c x : Char} (hu : c ≠ 'u') (hx : simpleEscape? c = some x)
    (cs : List Char) : scanText ('\\' :: c :: cs) = (scanText cs).map (x :: ·) := by
  rw [scanText]
  · simp only [hx]
  · exact hu

theorem scanText_control {c : Char} (h : c.toNat < 0x20) (cs : List Char) :
    scanText ('\\' :: 'u' :: '0' :: '0' :: hexDigit (c.toNat / 16) :: hexDigit (c.toNat % 16) :: cs)
      = (scanText cs).map (c :: ·) := by
  have hquad : hexQuad? '0' '0' (hexDigit (c.toNat / 16)) (hexDigit (c.toNat % 16)) =
      some c.toNat := by
    have h0 : Decimal.hexValue? '0' = some 0 := rfl
    simp only [hexQuad?, h0, hexValue?_hexDigit _ (show c.toNat / 16 < 16 by omega),
      hexValue?_hexDigit _ (show c.toNat % 16 < 16 by omega), Option.bind_eq_bind,
      Option.bind_some, Option.pure_def, Option.some.injEq]
    omega
  have hlow : isLowSurrogate c.toNat = false := by simp [isLowSurrogate]; omega
  have hhigh : isHighSurrogate c.toNat = false := by simp [isHighSurrogate]; omega
  rw [scanText]
  simp only [hquad, hlow, hhigh, Bool.false_eq_true, if_false, Char.ofNat_toNat]

/-- The escaped form of a character is read back as the character. -/
theorem scanText_escapeChar (c : Char) (cs : List Char) :
    scanText (escapeChar c ++ cs) = (scanText cs).map (c :: ·) := by
  have char_eq {n : Nat} (h : c.toNat = n) : c = Char.ofNat n := by rw [← h, Char.ofNat_toNat]
  -- the branches of the writer in their order; the last writes the character itself
  unfold escapeChar
  split
  · rename_i h; subst h; exact scanText_simple (by decide) rfl cs
  split
  · rename_i h; subst h; exact scanText_simple (by decide) rfl cs
  split
  · rename_i h; rw [char_eq h]; exact scanText_simple (by decide) rfl cs
  split
  · rename_i h; rw [char_eq h]; exact scanText_simple (by decide) rfl cs
  split
  · rename_i h; subst h; exact scanText_simple (by decide) rfl cs
  split
  · rename_i h; subst h; exact scanText_simple (by decide) rfl cs
  split
  · rename_i h; subst h; exact scanText_simple (by decide) rfl cs
  split
  · rename_i h; exact scanText_control h cs
  · rename_i hq hb _ _ _ _ _ hc
    exact scanText_plain hq hb hc cs

theorem scanText_escaped (s rest : List Char) :
    scanText (s.flatMap escapeChar ++ '"' :: rest) = ⟨.ok s, .ok rest⟩ := by
  induction s with
  | nil => simp [scanText]
  | cons c s ih => rw [List.flatMap_cons, List.append_assoc, scanText_escapeChar, ih]; rfl

theorem renderText_append (s : String) (rest : List Char) :
    renderText s ++ rest = '"' :: (s.toList.flatMap escapeChar ++ '"' :: rest) := by
  simp [renderText]

/-! ## Numerals -/

theorem ofInt?_value (i : Integer) : Integer.ofInt? i.value = some i := by
  rw [Integer.ofInt?, dif_pos i.inRange]

theorem toNumber_digits {n : Nat} {i : Integer} (h : i.value = n) :
    (Numeral.mk false (digits n) none none).toNumber = .ok (.integer i) := by
  have hn : n < Word.unsignedLimit := by
    have := i.inRange.2
    rw [h] at this
    exact Int.ofNat_lt.mp this
  simp [Numeral.toNumber, Numeral.number?, Numeral.integer?, Decimal.ofDigits_digits, hn, ← h,
    ofInt?_value]

theorem toNumber_minus {n : Nat} {i : Integer} (h : i.value = Int.negSucc n) :
    (Numeral.mk true (digits (n + 1)) none none).toNumber = .ok (.integer i) := by
  have hn : n + 1 ≤ Word.signedLimit := by
    have := i.inRange.1
    rw [h, Int.negSucc_eq] at this
    exact Int.ofNat_le.mp (Int.neg_le_neg_iff.mp this)
  have hv : -((n : Int) + 1) = i.value := by rw [h, Int.negSucc_eq]
  simp [Numeral.toNumber, Numeral.number?, Numeral.integer?, Decimal.ofDigits_digits, hn, hv,
    ofInt?_value]

/-- An integer is read back from its digits. -/
theorem readNumber_intDigits (i : Integer) {rest : List Char} (hr : Delimited rest) :
    readNumber (Decimal.intDigits i.value ++ rest) = (.number (.ok (.integer i)), .ok rest) := by
  rw [readNumber, ← Numeral.chars_ofInt,
    Numeral.scanNumeral_chars (Numeral.wellFormed_ofInt i.value) hr]
  cases hv : i.value with
  | ofNat n => simp only [Numeral.ofInt, Except.bind, toNumber_digits hv]
  | negSucc n => simp only [Numeral.ofInt, Except.bind, toNumber_minus hv]

/-! ## Values -/

theorem skipSpace_cons {c : Char} (h : isSpace c = false) (cs : List Char) :
    skipSpace (c :: cs) = c :: cs := by
  simp [skipSpace, h]

theorem isSpace_of_isDigit {c : Char} (h : isDigit c = true) : isSpace c = false := by
  rw [isSpace]
  simp only [Bool.or_eq_false_iff, decide_eq_false_iff_not]
  refine ⟨⟨⟨?_, ?_⟩, ?_⟩, ?_⟩ <;> (rintro rfl; cases h)

/-- The digits of an integer start with a minus sign or a digit. -/
theorem intDigits_eq_cons (i : Int) :
    ∃ c cs, Decimal.intDigits i = c :: cs ∧ (c = '-' ∨ isDigit c = true) := by
  rw [← Numeral.chars_ofInt]
  exact (Numeral.wellFormed_ofInt i).chars_eq_cons

/-- The text of a value does not start with white space, nor as an array ends. -/
theorem render_eq_cons {j : Json} (h : j.DoubleFree) :
    ∃ c cs, j.render = c :: cs ∧ isSpace c = false ∧ c ≠ ']' := by
  match j with
  | .null => exact ⟨_, _, rfl, rfl, by decide⟩
  | .bool true => exact ⟨_, _, rfl, rfl, by decide⟩
  | .bool false => exact ⟨_, _, rfl, rfl, by decide⟩
  | .number (.double _) => simp [DoubleFree] at h
  | .number (.integer i) =>
    obtain ⟨c, cs, hc, hstart⟩ := intDigits_eq_cons i.value
    refine ⟨c, cs, by rw [render, renderNumber, hc], ?_⟩
    rcases hstart with rfl | hdigit
    · exact ⟨rfl, by decide⟩
    · exact ⟨isSpace_of_isDigit hdigit, by rintro rfl; cases hdigit⟩
  | .string _ => exact ⟨_, _, rfl, rfl, by decide⟩
  | .array [] => exact ⟨_, _, rfl, rfl, by decide⟩
  | .array (_ :: _) => exact ⟨_, _, rfl, rfl, by decide⟩
  | .object [] => exact ⟨_, _, rfl, rfl, by decide⟩
  | .object (_ :: _) => exact ⟨_, _, rfl, rfl, by decide⟩

theorem delimited_renderElements (xs : List Json) (rest : List Char) :
    Delimited (renderElements xs ++ rest) := by
  cases xs with
  | nil => exact delimited_cons (.inr (.inl rfl)) rest
  | cons x xs => exact delimited_cons (.inl rfl) _

theorem delimited_renderMembers (ms : List (String × Json)) (rest : List Char) :
    Delimited (renderMembers ms ++ rest) := by
  cases ms with
  | nil => exact delimited_cons (.inr (.inr rfl)) rest
  | cons m ms => exact delimited_cons (.inl rfl) _

theorem readValue_number (fuel : Nat) {c : Char} (h : c = '-' ∨ isDigit c = true)
    (cs : List Char) : readValue (fuel + 1) (c :: cs) = readNumber (c :: cs) := by
  have hspace : isSpace c = false := h.elim (by rintro rfl; rfl) isSpace_of_isDigit
  have hne : ∀ x : Char, x ≠ '-' → isDigit x = false → c ≠ x := by
    rintro x hx hd rfl
    rcases h with rfl | h
    · exact hx rfl
    · rw [hd] at h; cases h
  rw [readValue, skipSpace_cons hspace]
  simp only [hne 'n' (by decide) rfl, hne 't' (by decide) rfl, hne 'f' (by decide) rfl,
    hne '"' (by decide) rfl, hne '[' (by decide) rfl, hne '{' (by decide) rfl, if_false]
  rw [if_pos]
  rcases h with rfl | h
  · rfl
  · simp [h]

mutual

/-- **Reading back.** The text of a value is read as the node of the value, up to its end. -/
theorem readValue_render : (j : Json) → (fuel : Nat) → (rest : List Char) → j.DoubleFree →
    Delimited rest → j.render.length ≤ fuel →
      readValue fuel (j.render ++ rest) = (Node.ofJson j, .ok rest)
  | .null, 0, _, _, _, hf => by simp [render] at hf
  | .null, fuel + 1, rest, _, _, _ => by
    simp [render, readValue, skipSpace, isSpace, readLiteral, readWord, Node.ofJson, Except.map]
  | .bool true, 0, _, _, _, hf => by simp [render] at hf
  | .bool true, fuel + 1, rest, _, _, _ => by
    simp [render, readValue, skipSpace, isSpace, readLiteral, readWord, Node.ofJson, Except.map]
  | .bool false, 0, _, _, _, hf => by simp [render] at hf
  | .bool false, fuel + 1, rest, _, _, _ => by
    simp [render, readValue, skipSpace, isSpace, readLiteral, readWord, Node.ofJson, Except.map]
  | .number (.double _), _, _, h, _, _ => by simp [DoubleFree] at h
  -- the numeral ends where the delimiter stands, so the digits are read to their end
  | .number (.integer i), fuel, rest, _, hr, hf => by
    obtain ⟨c, cs, hc, hstart⟩ := intDigits_eq_cons i.value
    rw [render, renderNumber] at hf ⊢
    rw [hc] at hf
    cases fuel with
    | zero => cases hf
    | succ fuel =>
      rw [hc, List.cons_append, readValue_number fuel hstart, ← List.cons_append, ← hc,
        readNumber_intDigits i hr]
      rfl
  | .string s, 0, _, _, _, hf => by simp [render, renderText] at hf
  | .string s, fuel + 1, rest, _, _, _ => by
    rw [render, renderText_append, readValue, skipSpace_cons rfl]
    simp [readText, scanText_escaped, Except.map, Node.ofJson]
  | .array [], 0, _, _, _, hf => by simp [render] at hf
  | .array [], 1, _, _, _, hf => by simp [render] at hf
  | .array [], fuel + 2, rest, _, _, _ => by
    simp [render, readValue, readElements, skipSpace, isSpace, Node.ofJson, Node.ofElements]
  | .array (x :: xs), 0, _, _, _, hf => by simp [render] at hf
  -- fuel for the whole text is fuel for what stands inside the brackets
  | .array (x :: xs), fuel + 1, rest, h, _, hf => by
    simp only [render, List.length_cons] at hf
    rw [render, List.cons_append, readValue, skipSpace_cons rfl, List.append_assoc]
    simp only [Char.reduceEq, if_false, if_true]
    rw [readElements_render x xs fuel true rest h (by omega)]
    rfl
  | .object [], 0, _, _, _, hf => by simp [render] at hf
  | .object [], 1, _, _, _, hf => by simp [render] at hf
  | .object [], fuel + 2, rest, _, _, _ => by
    simp [render, readValue, readMembers, skipSpace, isSpace, Node.ofJson, Node.ofMembers]
  | .object ((k, v) :: ms), 0, _, _, _, hf => by simp [render] at hf
  | .object ((k, v) :: ms), fuel + 1, rest, h, _, hf => by
    simp only [render, List.length_cons] at hf
    rw [render, List.cons_append, readValue, skipSpace_cons rfl, List.append_assoc]
    simp only [Char.reduceEq, if_false, if_true]
    rw [List.cons_append, List.append_assoc, readMembers_render k v ms fuel true rest h (by omega)]
    rfl

theorem readElements_render : (x : Json) → (xs : List Json) → (fuel : Nat) → (first : Bool) →
    (rest : List Char) → DoubleFreeElements (x :: xs) →
      (x.render ++ renderElements xs).length ≤ fuel →
        readElements fuel first (x.render ++ (renderElements xs ++ rest)) =
          (Node.ofElements (x :: xs), .closed, .ok rest)
  | x, xs, 0, _, _, h, hf => by
    obtain ⟨c, cs, hc, -⟩ := render_eq_cons h.1
    rw [hc] at hf
    cases hf
  | x, xs, fuel + 1, first, rest, h, hf => by
    obtain ⟨c, cs, hc, hspace, hclose⟩ := render_eq_cons h.1
    have hlen : 1 ≤ x.render.length := by rw [hc]; exact Nat.succ_pos _
    have hdelim := delimited_renderElements xs rest
    have hvalue : x.render.length ≤ fuel := by
      have : 1 ≤ (renderElements xs).length := by cases xs <;> simp [renderElements]
      rw [List.length_append] at hf
      omega
    have hx := readValue_render x fuel (renderElements xs ++ rest) h.1 hdelim hvalue
    rw [hc, List.cons_append] at hx
    rw [hc, List.cons_append, readElements, skipSpace_cons hspace]
    simp only [hclose, if_false, hx]
    -- behind the element stands what closes the list, or a comma and the next one
    match xs, h with
    | [], _ =>
      simp only [renderElements, List.cons_append, List.nil_append, skipSpace_cons (c := ']') rfl,
        Char.reduceEq, if_false, if_true]
      rfl
    | y :: ys, h =>
      rw [renderElements, List.cons_append, List.append_assoc, skipSpace_cons rfl]
      simp only [if_true]
      rw [readElements_render y ys fuel false rest h.2
        (by simp only [renderElements, List.length_append, List.length_cons] at hf ⊢; omega)]
      rfl

theorem readMembers_render : (k : String) → (v : Json) → (ms : List (String × Json)) →
    (fuel : Nat) → (first : Bool) → (rest : List Char) → DoubleFreeMembers ((k, v) :: ms) →
      (renderText k ++ ':' :: (v.render ++ renderMembers ms)).length ≤ fuel →
        readMembers fuel first (renderText k ++ ':' :: (v.render ++ (renderMembers ms ++ rest))) =
          (Node.ofMembers ((k, v) :: ms), .closed, .ok rest)
  | k, v, ms, 0, _, _, _, hf => by simp [renderText] at hf
  | k, v, ms, fuel + 1, first, rest, h, hf => by
    simp only [renderText, List.length_append, List.length_cons] at hf
    -- the value is shorter than its member, so the fuel is enough for it
    have hv := readValue_render v fuel (renderMembers ms ++ rest) h.1
      (delimited_renderMembers ms rest) (by omega)
    rw [renderText_append, readMembers, skipSpace_cons rfl]
    simp only [if_true, scanText_escaped, skipSpace_cons (c := ':') rfl, hv]
    match ms, h with
    | [], _ =>
      simp only [renderMembers, List.cons_append, List.nil_append, skipSpace_cons (c := '}') rfl,
        Char.reduceEq, if_false, if_true]
      simp [Node.ofMembers]
    | (l, w) :: ms, h =>
      have hms := readMembers_render l w ms fuel false rest h.2 (by
        simp only [renderText, renderMembers, List.length_append, List.length_cons] at hf ⊢
        omega)
      simp only [renderMembers, List.cons_append, List.append_assoc, skipSpace_cons (c := ',') rfl,
        if_true, hms]
      simp [Node.ofMembers]

end

/-- **A compact text is read back**, at any depth and with nothing behind it. -/
theorem read_compact {j : Json} (h : j.DoubleFree) :
    Document.read j.compact = ⟨Node.ofJson j, none⟩ := by
  have hread := readValue_render j (2 * j.render.length + 2) [] h delimited_nil (by omega)
  rw [List.append_nil] at hread
  simp only [Document.read, compact, String.toList_ofList, hread]
  rfl

/-! ## Decoding -/

theorem descend_some {d : Nat} (h : 0 < d) : Depth.descend (some d) = .ok (some (d - 1)) := by
  obtain ⟨n, rfl⟩ := Nat.exists_eq_succ_of_ne_zero (Nat.pos_iff_ne_zero.mp h)
  rfl

mutual

/-- A value within the limit is decoded from its node. -/
theorem json_ofJson : (j : Json) → (d : Nat) → j.depth ≤ d →
    (Node.ofJson j).json (some d) = .ok j
  | .null, _, _ | .bool _, _, _ | .number _, _, _ | .string _, _, _ => rfl
  | .array xs, d, h => by
    simp only [depth] at h
    rw [Node.ofJson, Node.json, descend_some (by omega)]
    simp only [bind, Except.bind, jsonElements_ofElements xs (d - 1) (by omega)]
    rfl
  | .object ms, d, h => by
    simp only [depth] at h
    rw [Node.ofJson, Node.json, descend_some (by omega)]
    simp only [bind, Except.bind, jsonMembers_ofMembers ms (d - 1) (by omega)]
    rfl

theorem jsonElements_ofElements : (xs : List Json) → (d : Nat) → depthOfElements xs ≤ d →
    Node.jsonElements (some d) (Node.ofElements xs) = .ok xs
  | [], _, _ => rfl
  | x :: xs, d, h => by
    rw [depthOfElements, Nat.max_le] at h
    rw [Node.ofElements, Node.jsonElements]
    simp only [bind, Except.bind, json_ofJson x d h.1, jsonElements_ofElements xs d h.2]
    rfl

theorem jsonMembers_ofMembers : (ms : List (String × Json)) → (d : Nat) →
    depthOfMembers ms ≤ d → Node.jsonMembers (some d) (Node.ofMembers ms) = .ok ms
  | [], _, _ => rfl
  | (k, v) :: ms, d, h => by
    rw [depthOfMembers, Nat.max_le] at h
    rw [Node.ofMembers, Node.jsonMembers]
    simp only [bind, Except.bind, MemberKey.decode, json_ofJson v d h.1,
      jsonMembers_ofMembers ms d h.2]
    rfl

end

/-- A compact text decodes as the node of its value does. -/
theorem decodeText_compact {α : Type} (read : Depth → Node → Decoded α) {j : Json}
    (h : j.DoubleFree) : decodeText read j.compact = read Depth.ofText (Node.ofJson j) := by
  rw [decodeText, read_compact h]
  cases read Depth.ofText (Node.ofJson j) <;> rfl

end FederationRegistry.Json
