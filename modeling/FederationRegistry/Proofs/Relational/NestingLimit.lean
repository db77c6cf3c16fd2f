import FederationRegistry.Proofs.Json.Distinct
import FederationRegistry.Proofs.PropertyText
import FederationRegistry.Proofs.Relational.Load

/-!
# How deep a stored property may nest

A store writes any property value as its canonical text, but reads no text back that opens more
than 127 arrays and objects, one inside the other.

**Theorem (`Tables.decoded_within_limit`).** A value without doubles is decoded from its text as
itself up to the limit, and its text is reported as corrupt from one level beyond it. No two values
have the same text, and what is decoded has the text that it was decoded from.

The properties of an owner are decoded if each of them keeps the limit, and otherwise the report
names one that does not (`Tables.decodeProperties_limit`).
-/

namespace FederationRegistry

namespace Tables

/-- What becomes of the text of a value. -/
theorem decodeProperty_text (key : String) {v : PropertyValue} (hv : v.json.DoubleFree) :
    decodeProperty key v.text =
      if v.json.depth ≤ 127 then .ok v else .error (.corrupt (.propertyText key)) := by
  split
  · rename_i hle
    exact (mapError_eq_ok_iff _).mpr ((PropertyValue.readable_iff hv).mpr hle)
  · rename_i hgt
    rw [decodeProperty, PropertyValue.ofText_of_lt hv (Nat.lt_of_not_le hgt), mapError_error]

/-- **Properties come back if all keep the limit**, and a report names one that does not. -/
theorem decodeProperties_limit {m : PropertyMap} (hm : m.HasValues fun v => v.json.DoubleFree) :
    (decodeProperties m.texts = .ok m ↔ m.HasValues fun v => v.json.depth ≤ 127) ∧
    ∀ err, decodeProperties m.texts = .error err →
      ∃ key v, m.find? key = some v ∧ 127 < v.json.depth ∧ err = .corrupt (.propertyText key) := by
  have htext : ∀ key, m.texts.find? key = (m.find? key).map PropertyValue.text := by
    intro key
    rw [PropertyMap.texts, Dict.find?_mapValues]
  refine ⟨⟨fun h key v hv => ?_, fun h => ?_⟩, fun err h => ?_⟩
  · obtain ⟨w, hw, -⟩ := Dict.find?_of_traverse h (by rw [htext, hv]; rfl)
    by_contra hgt
    rw [decodeProperty_text key (hm key v hv), if_neg hgt] at hw
    cases hw
  · exact decodeProperties_texts fun key v hv =>
      (PropertyValue.readable_iff (hm key v hv)).mpr (h key v hv)
  · -- the first text that does not decode is the one that is blamed
    obtain ⟨key, text, hfind, herr⟩ := Dict.exists_of_traverse_error h
    rw [htext] at hfind
    obtain ⟨v, hv, rfl⟩ := Option.map_eq_some_iff.mp hfind
    rw [decodeProperty_text key (hm key v hv)] at herr
    split at herr
    · cases herr
    · rename_i hgt
      cases herr
      exact ⟨key, v, hv, Nat.lt_of_not_le hgt, rfl⟩

/-- **A value comes back up to the limit, and is refused beyond it.** -/
theorem decoded_within_limit (key : String) {v : PropertyValue} (hv : v.json.DoubleFree) :
    (v.json.depth ≤ 127 → decodeProperty key v.text = .ok v) ∧
    (127 < v.json.depth → decodeProperty key v.text = .error (.corrupt (.propertyText key))) ∧
    (∀ w : PropertyValue, w.text = v.text → w = v) ∧
    ∀ w, decodeProperty key v.text = .ok w → w.text = v.text := by
  rw [decodeProperty_text key hv]
  refine ⟨fun hle => if_pos hle, fun hgt => if_neg (by omega), fun w hw => ?_, fun w hw => ?_⟩
  · obtain ⟨j, hj⟩ := w
    obtain rfl : j = v.json := Json.compact_injective hw
    rfl
  · split at hw
    · cases hw
      rfl
    · cases hw

end Tables

/-! ## A value at the limit -/

namespace PropertyValue

/-- Arrays and objects in turn around a value, as many as a number says. -/
def wrapped (v : PropertyValue) : Nat → PropertyValue
  | 0 => v
  | n + 1 =>
    if n % 2 = 0 then ⟨.array [(wrapped v n).json], (wrapped v n).ordered, trivial⟩
    else ⟨.object [("in", (wrapped v n).json)], List.pairwise_singleton _ _,
      (wrapped v n).ordered, trivial⟩

theorem doubleFree_wrapped {v : PropertyValue} (hv : v.json.DoubleFree) (n : Nat) :
    (wrapped v n).json.DoubleFree := by
  induction n with
  | zero => exact hv
  | succ n ih =>
    rw [wrapped]
    split
    · exact ⟨ih, trivial⟩
    · exact ⟨ih, trivial⟩

theorem depth_wrapped (v : PropertyValue) (n : Nat) :
    (wrapped v n).json.depth = v.json.depth + n := by
  induction n with
  | zero => rfl
  | succ n ih =>
    rw [wrapped]
    split
    · simp only [Json.depth, Json.depthOfElements, ih]
      omega
    · simp only [Json.depth, Json.depthOfMembers, ih]
      omega

/-- What texts are prone to get wrong: controls, quotes, and the outermost integers. -/
def awkward : PropertyValue :=
  ofJson (.object [("\x00\"\\", .string "\x00\x1f\"\\\n"),
    ("range", .array [.ofInt (-Word.signedLimit), .ofInt (Word.unsignedLimit - 1)])])

theorem doubleFree_awkward : awkward.json.DoubleFree :=
  ⟨trivial, ⟨trivial, trivial, trivial⟩, trivial⟩

theorem depth_awkward : awkward.json.depth = 2 := by
  decide +kernel

end PropertyValue

theorem Tables.decoded_within_limit_awkward :
    decodeProperty "tier" (PropertyValue.awkward.wrapped 125).text =
      .ok (PropertyValue.awkward.wrapped 125) ∧
    decodeProperty "tier" (PropertyValue.awkward.wrapped 126).text =
      .error (.corrupt (.propertyText "tier")) := by
  have hdoubleFree := PropertyValue.doubleFree_wrapped PropertyValue.doubleFree_awkward
  have hdepth := PropertyValue.depth_wrapped PropertyValue.awkward
  rw [PropertyValue.depth_awkward] at hdepth
  constructor
  · exact (decoded_within_limit "tier" (hdoubleFree 125)).1 (by rw [hdepth])
  · exact (decoded_within_limit "tier" (hdoubleFree 126)).2.1 (by rw [hdepth]; decide)

end FederationRegistry
