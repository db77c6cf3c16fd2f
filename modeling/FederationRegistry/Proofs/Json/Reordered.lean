import FederationRegistry.Property
import FederationRegistry.Proofs.Dict

/-!
# The order of members

A value may be written with the members of its objects in any order. Arranging forgets the order:
two values that differ in nothing else, at whatever depth, stand for the same property value
(`PropertyValue.ofJson_of_reordered`).

Keys that stand twice are left out, for there the order says which member counts.
-/

namespace FederationRegistry

namespace Dict

variable {κ α : Type} [Key κ] [DecidableEq κ]

theorem find?_insertMany_of_nodup {entries : List (κ × α)} (h : (entries.map (·.1)).Nodup)
    (d : Dict κ α) (k : κ) (v : α) :
    (d.insertMany entries).find? k = some v ↔
      (k, v) ∈ entries ∨ (k ∉ entries.map (·.1) ∧ d.find? k = some v) := by
  induction entries generalizing d with
  | nil => simp [insertMany]
  | cons e rest ih =>
    obtain ⟨j, u⟩ := e
    obtain ⟨hj, hrest⟩ := List.nodup_cons.mp h
    have hstep := ih hrest (d.insert j u)
    rw [insertMany] at hstep ⊢
    rw [List.foldl_cons, hstep, find?_insert]
    by_cases hk : j = k
    · -- the key does not occur again, so nothing behind overwrites it
      subst hk
      have hnot : j ∉ rest.map (·.1) := hj
      have hmem : (j, v) ∉ rest := fun hmem => hnot (List.mem_map.mpr ⟨_, hmem, rfl⟩)
      simp only [hmem, hnot, false_or, not_false_iff, true_and, if_true, List.mem_cons,
        Prod.mk.injEq, Option.some.injEq, or_false, List.map_cons, not_true, false_and]
      exact eq_comm
    · simp only [if_neg hk, List.mem_cons, Prod.mk.injEq, Ne.symm hk, false_and, false_or,
        List.map_cons]

/-- The order in which entries are given does not matter when no key is given twice. -/
theorem ofList_of_perm {xs ys : List (κ × α)} (h : xs.Perm ys) (hxs : (xs.map (·.1)).Nodup) :
    ofList xs = ofList ys := by
  have hys : (ys.map (·.1)).Nodup := (h.map _).nodup_iff.mp hxs
  refine ext_find? fun k => Option.ext fun v => ?_
  rw [ofList, ofList, find?_insertMany_of_nodup hxs, find?_insertMany_of_nodup hys, h.mem_iff,
    (h.map _).mem_iff]

end Dict

namespace Json

/-- The values differ only in the order of the members of objects, each of which has every key
once. -/
inductive Reordered : Json → Json → Prop
  | refl (j : Json) : Reordered j j
  | trans {i j k : Json} : Reordered i j → Reordered j k → Reordered i k
  | members {ms ns : List (String × Json)} : ms.Perm ns → (ms.map (·.1)).Nodup →
      Reordered (.object ms) (.object ns)
  | element {i j : Json} (xs ys : List Json) : Reordered i j →
      Reordered (.array (xs ++ i :: ys)) (.array (xs ++ j :: ys))
  | member {i j : Json} (ms ns : List (String × Json)) (key : String) : Reordered i j →
      Reordered (.object (ms ++ (key, i) :: ns)) (.object (ms ++ (key, j) :: ns))

theorem arrangeElements_eq_map (xs : List Json) : arrangeElements xs = xs.map arrange := by
  induction xs with
  | nil => rfl
  | cons x xs ih => rw [arrangeElements, ih, List.map_cons]

theorem arrangeMembers_eq_map (ms : List (String × Json)) :
    arrangeMembers ms = ms.map fun m => (m.1, m.2.arrange) := by
  induction ms with
  | nil => rfl
  | cons m ms ih => rw [arrangeMembers, ih, List.map_cons]

/-- Arranging forgets the order of members. -/
theorem Reordered.arrange_eq {i j : Json} (h : Reordered i j) : i.arrange = j.arrange := by
  induction h with
  | refl => rfl
  | trans _ _ ih ih' => exact ih.trans ih'
  | @members ms ns hperm hnodup =>
    have hkeys : ((ms.map fun m => (m.1, m.2.arrange)).map (·.1)).Nodup := by
      rw [List.map_map]
      exact hnodup
    rw [arrange, arrange, arrangeMembers_eq_map, arrangeMembers_eq_map,
      Dict.ofList_of_perm (hperm.map _) hkeys]
  | element xs ys _ ih =>
    simp only [arrange, arrangeElements_eq_map, List.map_append, List.map_cons, ih]
  | member ms ns key _ ih =>
    simp only [arrange, arrangeMembers_eq_map, List.map_append, List.map_cons, ih]

end Json

/-- Values that differ in the order of members stand for the same property value. -/
theorem PropertyValue.ofJson_of_reordered {i j : Json} (h : i.Reordered j) :
    ofJson i = ofJson j := by
  simp only [ofJson, h.arrange_eq]

end FederationRegistry
