import FederationRegistry.Proofs.Construction
import FederationRegistry.Proofs.Json.ReadBack

/-!
# Property values and their texts

A store keeps a property as its canonical text. A value is *readable* when its text is read back as
the value itself; `readable_iff` says which values without doubles are: those that nest no deeper
than a reader goes.

**Values of an aggregate.** What a store needs of properties it needs of every property value of an
aggregate, wherever it stands (`HasValues`), and every change to an aggregate keeps it.
-/

namespace FederationRegistry

namespace Json

/-! ## Arranged values -/

theorem ofList_of_increasing {α : Type} {ms : List (String × α)} (h : Increasing ms) :
    (Dict.ofList ms).entries = ms :=
  congrArg Dict.entries (Dict.ofList_entries ⟨ms, h⟩)

mutual

/-- An ordered value is arranged already. -/
theorem arrange_of_ordered : (j : Json) → j.Ordered → j.arrange = j
  | .null, _ | .bool _, _ | .number _, _ | .string _, _ => rfl
  | .array xs, h => by rw [arrange, arrangeElements_of_ordered xs h]
  | .object ms, h => by
    rw [arrange, arrangeMembers_of_ordered ms h.2, ofList_of_increasing h.1]

theorem arrangeElements_of_ordered :
    (xs : List Json) → OrderedElements xs → arrangeElements xs = xs
  | [], _ => rfl
  | x :: xs, h => by
    rw [arrangeElements, arrange_of_ordered x h.1, arrangeElements_of_ordered xs h.2]

theorem arrangeMembers_of_ordered :
    (ms : List (String × Json)) → OrderedMembers ms → arrangeMembers ms = ms
  | [], _ => rfl
  | (k, v) :: ms, h => by
    rw [arrangeMembers, arrange_of_ordered v h.1, arrangeMembers_of_ordered ms h.2]

end

/-! ## Values that nest too deep -/

theorem bind_error {ε α β : Type} {x : Except ε α} {err : ε} (h : x = .error err)
    (f : α → Except ε β) : (x >>= f) = .error err := by
  rw [h]
  rfl

mutual

/-- A value beyond the limit is refused. -/
theorem json_ofJson_of_lt : (j : Json) → (d : Nat) → d < j.depth →
    (Node.ofJson j).json (some d) = .error .malformed
  | .array xs, 0, _ => by rw [Node.ofJson, Node.json]; rfl
  | .array xs, d + 1, h => by
    rw [depth] at h
    rw [Node.ofJson, Node.json, descend_some (by omega)]
    exact bind_error (jsonElements_of_lt xs d (by omega)) _
  | .object ms, 0, _ => by rw [Node.ofJson, Node.json]; rfl
  | .object ms, d + 1, h => by
    rw [depth] at h
    rw [Node.ofJson, Node.json, descend_some (by omega)]
    exact bind_error (jsonMembers_of_lt ms d (by omega)) _
  | .null, _, h | .bool _, _, h | .number _, _, h | .string _, _, h => by
    simp [depth] at h

theorem jsonElements_of_lt : (xs : List Json) → (d : Nat) → d < depthOfElements xs →
    Node.jsonElements (some d) (Node.ofElements xs) = .error .malformed
  | [], _, h => by simp [depthOfElements] at h
  | x :: xs, d, h => by
    rw [depthOfElements] at h
    rw [Node.ofElements, Node.jsonElements]
    by_cases hx : d < x.depth
    · exact bind_error (json_ofJson_of_lt x d hx) _
    · rw [json_ofJson x d (by omega)]
      exact bind_error (jsonElements_of_lt xs d (by omega)) _

theorem jsonMembers_of_lt : (ms : List (String × Json)) → (d : Nat) → d < depthOfMembers ms →
    Node.jsonMembers (some d) (Node.ofMembers ms) = .error .malformed
  | [], _, h => by simp [depthOfMembers] at h
  | (k, v) :: ms, d, h => by
    rw [depthOfMembers] at h
    rw [Node.ofMembers, Node.jsonMembers, MemberKey.decode]
    by_cases hv : d < v.depth
    · exact bind_error (json_ofJson_of_lt v d hv) _
    · have hms := jsonMembers_of_lt ms d (by omega)
      simp only [bind, Except.bind, json_ofJson v d (by omega), hms]

end

end Json

/-! ## Readable values -/

namespace PropertyValue

/-- How many arrays and objects a reader opens. -/
def maxDepth : Nat := 127

/-- The text of the value is read back as the value. -/
def Readable (v : PropertyValue) : Prop := ofText v.text = .ok v

theorem ofJson_json (v : PropertyValue) : ofJson v.json = v := by
  cases v with
  | mk json ordered => simp [ofJson, Json.arrange_of_ordered json ordered]

/-- The text of a deeper value is refused. -/
theorem ofText_of_lt {v : PropertyValue} (hv : v.json.DoubleFree) (h : maxDepth < v.json.depth) :
    ofText v.text = .error .malformed := by
  rw [ofText, text, Json.decodeText_compact read hv, read]
  rw [show Json.Depth.ofText = some maxDepth from rfl, Json.json_ofJson_of_lt v.json maxDepth h]
  rfl

/-- **A value without doubles is readable exactly when it nests no deeper than a reader goes.** -/
theorem readable_iff {v : PropertyValue} (hv : v.json.DoubleFree) :
    v.Readable ↔ v.json.depth ≤ maxDepth := by
  constructor
  · intro h
    by_contra hlt
    rw [Readable, ofText_of_lt hv (Nat.lt_of_not_le hlt)] at h
    cases h
  · intro h
    rw [Readable, ofText, text, Json.decodeText_compact read hv, read]
    rw [show Json.Depth.ofText = some maxDepth from rfl, Json.json_ofJson v.json maxDepth h]
    exact congrArg Except.ok (ofJson_json v)

/-- Arrays within arrays, as many as a number says. -/
def nested : Nat → PropertyValue
  | 0 => ⟨.null, trivial⟩
  | n + 1 => ⟨.array [(nested n).json], (nested n).ordered, trivial⟩

theorem doubleFree_nested (n : Nat) : (nested n).json.DoubleFree := by
  induction n with
  | zero => trivial
  | succ n ih => exact ⟨ih, trivial⟩

theorem depth_nested (n : Nat) : (nested n).json.depth = n := by
  induction n with
  | zero => rfl
  | succ n ih => simp [nested, Json.depth, Json.depthOfElements, ih]

theorem not_readable_nested : ¬(nested (maxDepth + 1)).Readable := by
  rw [readable_iff (doubleFree_nested _), depth_nested]
  omega

/-- The values that stores agree on: without doubles, and no deeper than a reader goes. -/
structure Plain (v : PropertyValue) : Prop where
  doubleFree : v.json.DoubleFree
  shallow : v.json.depth ≤ maxDepth

theorem Plain.readable {v : PropertyValue} (h : v.Plain) : v.Readable :=
  (readable_iff h.doubleFree).mpr h.shallow

end PropertyValue

/-! ## The values of an aggregate -/

section HasValues

variable (P : PropertyValue → Prop)

/-- Every value of the map has the property. -/
def PropertyMap.HasValues (m : PropertyMap) : Prop := ∀ key v, m.find? key = some v → P v

/-- Every property value of the connectors has the property. -/
def ConnectorMap.HasValues (m : ConnectorMap) : Prop :=
  ∀ name c, m.find? name = some c → c.properties.HasValues P

/-- Every property value of the section has the property. -/
def SectionUpdate.HasValues : SectionUpdate → Prop
  | .metadata _ => True
  | .authentication a => a.authenticators.HasValues P
  | .provisioning p => p.provisioners.HasValues P
  | .properties delta => delta.HasValues P

/-- Every property value of the provider has the property. -/
structure IdentityProvider.HasValues (p : IdentityProvider) : Prop where
  properties : p.properties.HasValues P
  authentication : ∀ a, p.authentication = some a → a.authenticators.HasValues P
  provisioning : p.provisioning.provisioners.HasValues P

variable {P}

/-- An empty section has no values, so it makes no difference that it is not kept. -/
theorem Authentication.hasValues_nonempty? {a : Authentication} :
    (∀ s, a.nonempty? = some s → s.authenticators.HasValues P) ↔
      a.authenticators.HasValues P := by
  unfold nonempty?
  cases hempty : a.isEmpty with
  | false => simp
  | true =>
    have hnone : a.authenticators = ∅ := by
      simp only [isEmpty, Bool.and_eq_true] at hempty
      exact Dict.isEmpty_iff.mp hempty.2
    simp only [if_true, reduceCtorEq, false_implies, implies_true, true_iff]
    rw [hnone]
    exact fun _ _ hc => nomatch hc

theorem PropertyMap.hasValues_empty : (∅ : PropertyMap).HasValues P :=
  fun _ _ h => nomatch h

theorem PropertyMap.HasValues.put {m : PropertyMap} (hm : m.HasValues P) (key : String)
    {value : PropertyValue} (hv : P value) : (m.put key value).HasValues P := by
  intro k v h
  rw [find?_put] at h
  split at h
  · cases h
    exact hv
  · exact hm k v h

theorem ConnectorMap.hasValues_empty : (∅ : ConnectorMap).HasValues P :=
  fun _ _ h => nomatch h

theorem ConnectorMap.HasValues.add {m : ConnectorMap} (hm : m.HasValues P) {c : Connector}
    (hc : c.properties.HasValues P) : (ConnectorMap.add m c).HasValues P := by
  intro name d h
  rw [ConnectorMap.add, Dict.find?_insert] at h
  split at h
  · cases h
    exact hc
  · exact hm name d h

theorem ConnectorMap.HasValues.mono {Q : PropertyValue → Prop} (h : ∀ v, P v → Q v)
    {m : ConnectorMap} (hm : m.HasValues P) : m.HasValues Q :=
  fun name c hc key v hv => h v (hm name c hc key v hv)

theorem IdentityProvider.HasValues.mono {Q : PropertyValue → Prop} (h : ∀ v, P v → Q v)
    {p : IdentityProvider} (hp : p.HasValues P) : p.HasValues Q where
  properties key v hv := h v (hp.properties key v hv)
  authentication a ha := (hp.authentication a ha).mono h
  provisioning := hp.provisioning.mono h

theorem PropertyMap.HasValues.absorb {m delta : PropertyMap} (hm : m.HasValues P)
    (hd : delta.HasValues P) : (m.absorb delta).HasValues P := by
  intro key v h
  rw [find?_absorb] at h
  rcases Option.or_eq_some_iff.mp h with h | ⟨-, h⟩
  · exact hd key v (Option.filter_eq_some_iff.mp h).1
  · exact hm key v h

theorem IdentityProvider.HasValues.withSection {p q : IdentityProvider} {s : SectionUpdate}
    (hp : p.HasValues P) (hs : s.HasValues P) (h : p.withSection s = .ok q) : q.HasValues P := by
  cases s with
  | metadata m =>
    obtain ⟨-, rfl⟩ := Checked.map_eq_ok_iff.mp h
    exact ⟨hp.properties, hp.authentication, hp.provisioning⟩
  | authentication a =>
    obtain ⟨-, rfl⟩ := Checked.map_eq_ok_iff.mp h
    refine ⟨hp.properties, fun b hb => ?_, hp.provisioning⟩
    obtain ⟨rfl, -⟩ := Authentication.nonempty?_eq_some hb
    exact hs
  | provisioning s =>
    obtain ⟨-, rfl⟩ := Checked.map_eq_ok_iff.mp h
    exact ⟨hp.properties, hp.authentication, hs⟩
  | properties delta =>
    cases h
    exact ⟨hp.properties.absorb hs, hp.authentication, hp.provisioning⟩

end HasValues

/-! ## The values of the sample provider -/

theorem PropertyValue.plain_string (s : String) : (ofJson (.string s)).Plain :=
  ⟨trivial, Nat.zero_le _⟩

theorem Authentication.plain_byTotp :
    byTotp.authenticators.HasValues PropertyValue.Plain :=
  ConnectorMap.hasValues_empty.add
    (PropertyMap.hasValues_empty.put "digits" (PropertyValue.plain_string "six"))

theorem IdentityProvider.plain_acme : acme.HasValues PropertyValue.Plain where
  properties := PropertyMap.hasValues_empty.put "tier" (PropertyValue.plain_string "gold")
  authentication := by
    intro a ha
    cases ha
    exact Authentication.plain_byTotp
  provisioning := ConnectorMap.hasValues_empty

theorem IdentityProvider.hasValues_bare (name : String) (P : PropertyValue → Prop) :
    (bare name).HasValues P := ⟨PropertyMap.hasValues_empty, nofun, ConnectorMap.hasValues_empty⟩

theorem IdentityProvider.readable_acme : acme.HasValues PropertyValue.Readable :=
  plain_acme.mono fun _ hv => hv.readable

end FederationRegistry
