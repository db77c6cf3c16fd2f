import FederationRegistry.Proofs.PropertyText

/-!
# How deep the values of a text nest

A reader counts down from the limit for texts, so whatever text it is given, what it reads nests no
deeper (`depth_of_json`), and neither does the property value that stands for it, since arranging
members takes some of them away and adds none (`depth_arrange_le`). The text need not be one that
a writer made.

Main statement: `PropertyValue.plain_of_ofText`.
-/

namespace FederationRegistry

namespace Json

/-! ## Readers -/

theorem depthOfElements_le_iff {xs : List Json} {d : Nat} :
    depthOfElements xs ≤ d ↔ ∀ x ∈ xs, x.depth ≤ d := by
  induction xs with
  | nil => simp [depthOfElements]
  | cons x xs ih => rw [depthOfElements, Nat.max_le, ih, List.forall_mem_cons]

theorem depthOfMembers_le_iff {ms : List (String × Json)} {d : Nat} :
    depthOfMembers ms ≤ d ↔ ∀ m ∈ ms, m.2.depth ≤ d := by
  induction ms with
  | nil => simp [depthOfMembers]
  | cons m ms ih =>
    obtain ⟨k, v⟩ := m
    rw [depthOfMembers, Nat.max_le, ih, List.forall_mem_cons]

/-- A container opens only below the limit, and its content has one level less. -/
theorem descend_eq_ok_iff {d : Nat} {inside : Depth} :
    Depth.descend (some d) = .ok inside ↔ ∃ n, d = n + 1 ∧ inside = some n := by
  cases d <;> simp [Depth.descend, eq_comm]

mutual

/-- A reader that counts down from a limit reads no value that nests deeper. -/
theorem depth_of_json : (n : Node) → (d : Nat) → {j : Json} → n.json (some d) = .ok j → j.depth ≤ d
  | .literal value, d, j, h => by
    rw [Node.json, except_bind_eq_ok_iff] at h
    obtain ⟨b, -, hj⟩ := h
    cases b <;> cases hj <;> exact Nat.zero_le d
  | .number value, d, j, h => by
    rw [Node.json, except_bind_eq_ok_iff] at h
    obtain ⟨n, -, ⟨⟩⟩ := h
    exact Nat.zero_le d
  | .text value, d, j, h => by
    rw [Node.json, except_bind_eq_ok_iff] at h
    obtain ⟨s, -, ⟨⟩⟩ := h
    exact Nat.zero_le d
  -- an array costs one level, and only as long as one is left
  | .array xs ending, d, j, h => by
    simp only [Node.json, except_bind_eq_ok_iff] at h
    obtain ⟨inside, hinside, elements, helements, -, -, ⟨⟩⟩ := h
    obtain ⟨n, rfl, rfl⟩ := descend_eq_ok_iff.mp hinside
    exact Nat.succ_le_succ (depthOfElements_of_jsonElements xs n helements)
  | .object ms ending, d, j, h => by
    simp only [Node.json, except_bind_eq_ok_iff] at h
    obtain ⟨inside, hinside, members, hmembers, -, -, ⟨⟩⟩ := h
    obtain ⟨n, rfl, rfl⟩ := descend_eq_ok_iff.mp hinside
    exact Nat.succ_le_succ (depthOfMembers_of_jsonMembers ms n hmembers)
  | .absent f, d, j, h => by cases h

theorem depthOfElements_of_jsonElements : (xs : List Node) → (d : Nat) → {ys : List Json} →
    Node.jsonElements (some d) xs = .ok ys → depthOfElements ys ≤ d
  | [], d, _, h => by cases h; exact Nat.zero_le d
  | x :: xs, d, ys, h => by
    simp only [Node.jsonElements, except_bind_eq_ok_iff] at h
    obtain ⟨y, hy, rest, hrest, ⟨⟩⟩ := h
    rw [depthOfElements]
    exact Nat.max_le.mpr ⟨depth_of_json x d hy, depthOfElements_of_jsonElements xs d hrest⟩

theorem depthOfMembers_of_jsonMembers : (ms : List (MemberKey × Node)) → (d : Nat) →
    {ns : List (String × Json)} → Node.jsonMembers (some d) ms = .ok ns → depthOfMembers ns ≤ d
  | [], d, _, h => by cases h; exact Nat.zero_le d
  | (key, v) :: ms, d, ns, h => by
    simp only [Node.jsonMembers, except_bind_eq_ok_iff] at h
    obtain ⟨k, -, w, hw, rest, hrest, ⟨⟩⟩ := h
    rw [depthOfMembers]
    exact Nat.max_le.mpr ⟨depth_of_json v d hw, depthOfMembers_of_jsonMembers ms d hrest⟩

end

/-! ## Arranging -/

theorem mem_entries_insertMany {α : Type} {d : Dict String α} {ms : List (String × α)}
    {m : String × α} (h : m ∈ (d.insertMany ms).entries) : m ∈ ms ∨ m ∈ d.entries := by
  induction ms generalizing d with
  | nil => exact .inr h
  | cons e ms ih =>
    rcases ih h with hm | hm
    · exact .inl (List.mem_cons_of_mem _ hm)
    · rcases Dict.mem_insertEntry hm with rfl | hm
      · exact .inl List.mem_cons_self
      · exact .inr hm

mutual

/-- Arranging a value does not deepen it. -/
theorem depth_arrange_le : (j : Json) → j.arrange.depth ≤ j.depth
  | .null | .bool _ | .number _ | .string _ => Nat.le_refl _
  | .array xs => Nat.succ_le_succ (depthOfElements_arrangeElements_le xs)
  | .object ms => by
    rw [arrange, depth, depth]
    refine Nat.succ_le_succ (Nat.le_trans ?_ (depthOfMembers_arrangeMembers_le ms))
    refine depthOfMembers_le_iff.mpr fun m hm => ?_
    rcases mem_entries_insertMany hm with hm | hm
    · exact depthOfMembers_le_iff.mp (Nat.le_refl _) m hm
    · cases hm

theorem depthOfElements_arrangeElements_le :
    (xs : List Json) → depthOfElements (arrangeElements xs) ≤ depthOfElements xs
  | [] => Nat.le_refl _
  | x :: xs => by
    simp only [arrangeElements, depthOfElements]
    have hx := depth_arrange_le x
    have hxs := depthOfElements_arrangeElements_le xs
    omega

theorem depthOfMembers_arrangeMembers_le :
    (ms : List (String × Json)) → depthOfMembers (arrangeMembers ms) ≤ depthOfMembers ms
  | [] => Nat.le_refl _
  | (_, v) :: ms => by
    simp only [arrangeMembers, depthOfMembers]
    have hv := depth_arrange_le v
    have hms := depthOfMembers_arrangeMembers_le ms
    omega

end

end Json

/-! ## Property values -/

namespace PropertyValue

/-- A value that stands in some text nests no deeper than a reader goes. -/
theorem depth_of_ofText {text : String} {v : PropertyValue} (h : ofText text = .ok v) :
    v.json.depth ≤ maxDepth := by
  rw [ofText, Json.decodeText, except_bind_eq_ok_iff] at h
  obtain ⟨w, hw, hrest⟩ := h
  obtain rfl : w = v := by
    split at hrest
    · exact Except.ok.inj hrest
    · cases hrest
  obtain ⟨j, hj, rfl⟩ := except_map_eq_ok_iff.mp hw
  exact Nat.le_trans (Json.depth_arrange_le j) (Json.depth_of_json _ maxDepth hj)

/-- The text stands for no value with a double in it; it may stand for none at all. -/
def DoubleFreeText (text : String) : Prop := ∀ v, ofText text = .ok v → v.json.DoubleFree

theorem doubleFreeText_of_ofText {text : String} {v : PropertyValue} (h : ofText text = .ok v)
    (hv : v.json.DoubleFree) : DoubleFreeText text := by
  intro w hw
  rw [h] at hw
  cases hw
  exact hv

/-- **What was read can be written and read again.** -/
theorem plain_of_ofText {text : String} {v : PropertyValue} (htext : DoubleFreeText text)
    (h : ofText text = .ok v) : v.Plain :=
  ⟨htext v h, depth_of_ofText h⟩

end PropertyValue

end FederationRegistry
