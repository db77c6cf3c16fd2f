import FederationRegistry.Proofs.Relational.Loaded
import FederationRegistry.Proofs.Relational.MirrorReads
import FederationRegistry.Proofs.ServiceProvider.Depth

/-!
# Which aggregates load

A writer takes values of any depth and a reader goes no deeper than its limit, so an aggregate that
was stored need not load. Where no value has doubles, depth is all that matters: an aggregate is
loaded from rows that mirror it exactly when it is `Shallow`, and loading a deeper one fails. The
limit of a service provider is that of its whole document, and of an identity provider that of
every value.

Main statements: `Tables.Mirrors.load_of_shallow` and `Tables.Mirrors.load_of_deep`.
-/

namespace FederationRegistry

open PropertyValue (maxDepth Decodes)

/-- Values without doubles, however deep. -/
def Demand.doubleFree : Demand := ⟨fun v => v.json.DoubleFree, fun s => s.toJson.DoubleFree⟩

/-- No value in the aggregate nests deeper than a reader goes. -/
def Entity.Shallow : (e : Entity) → e.Aggregate → Prop
  | .identityProvider, p => IdentityProvider.HasValues (fun v => v.json.depth ≤ maxDepth) p
  | .serviceProvider, p => (ServiceProvider.sections p).toJson.depth ≤ maxDepth

/-! ## Values and their texts -/

section HasValues

variable {P Q : PropertyValue → Prop}

theorem IdentityProvider.HasValues.and {p : IdentityProvider} (hP : p.HasValues P)
    (hQ : p.HasValues Q) : p.HasValues fun v => P v ∧ Q v where
  properties key v hv := ⟨hP.properties key v hv, hQ.properties key v hv⟩
  authentication a ha name c hc key v hv :=
    ⟨hP.authentication a ha name c hc key v hv, hQ.authentication a ha name c hc key v hv⟩
  provisioning name c hc key v hv :=
    ⟨hP.provisioning name c hc key v hv, hQ.provisioning name c hc key v hv⟩

end HasValues

/-- The text of a value without doubles stands for a value only if the value is shallow. -/
theorem PropertyValue.depth_of_decodes {v : PropertyValue} (hv : v.json.DoubleFree)
    (h : Decodes v.text) : v.json.depth ≤ maxDepth := by
  obtain ⟨w, hw⟩ := h
  by_contra hlt
  rw [ofText_of_lt hv (Nat.lt_of_not_le hlt)] at hw
  cases hw

/-- The text of every value of a provider is among the rows that hold it. -/
theorem ProviderRows.Hold.hasValues {r : ProviderRows} {number : Int} {p : IdentityProvider}
    (h : r.Hold number p) {P : String → Prop} (htexts : ∀ text ∈ r.texts, P text) :
    p.HasValues fun v => P v.text := by
  have hmap {m : PropertyMap} {key : String} {v : PropertyValue} (hv : m.find? key = some v) :
      v.text ∈ m.texts.values :=
    Dict.mem_values_iff.mpr ⟨key, by rw [PropertyMap.texts, Dict.find?_mapValues, hv]; rfl⟩
  have hconnectors {m : ConnectorMap} {records : Dict Int ConnectorRecord}
      (hrecords : records.values = m.values.map (Connector.record number))
      (hmem : ∀ record ∈ records.values,
        record ∈ r.authenticators.values ++ r.provisioners.values) :
      m.HasValues fun v => P v.text := fun name c hc key v hv => by
    have hrecord : Connector.record number c ∈ records.values := by
      rw [hrecords]
      exact List.mem_map_of_mem (Dict.mem_values_iff.mpr ⟨name, hc⟩)
    exact htexts _ (List.mem_append_right _ (List.mem_flatMap.mpr ⟨_, hmem _ hrecord, hmap hv⟩))
  refine ⟨fun key v hv => htexts _ (List.mem_append_left _ ?_), fun a ha => ?_,
    hconnectors h.provisioning.provisioners fun _ hr => List.mem_append_right _ hr⟩
  · rw [h.properties]
    exact hmap hv
  · refine hconnectors (m := a.authenticators) ?_ fun _ hr => List.mem_append_left _ hr
    rw [h.authentication.authenticators, ha]
    rfl

/-! ## Loading -/

/-- Values as demanded have no doubles. -/
structure Demand.DoubleFree (d : Demand) : Prop where
  property : ∀ v, d.property v → v.json.DoubleFree
  sections : ∀ s, d.sections s → s.toJson.DoubleFree

theorem Demand.doubleFree_doubleFree : doubleFree.DoubleFree := ⟨fun _ h => h, fun _ h => h⟩

theorem Demand.doubleFree_plain : Demand.DoubleFree ⟨PropertyValue.Plain, Sections.Plain⟩ :=
  ⟨fun _ h => h.doubleFree, fun _ h => h.doubleFree⟩

/-- Nothing loads exactly where there is no row. -/
theorem Tables.load_eq_none_iff {t : Tables} {e : Entity} {number : Int} :
    t.load e number = .ok none ↔ (t.aggregates e).rows.find? number = none := by
  cases e with
  | identityProvider => exact loadProvider_eq_none_iff
  | serviceProvider => exact loadApplication_eq_none_iff

namespace Tables.Mirrors

variable {d : Demand} {t : Tables} {m : MemoryStore} {k : Nat}

theorem loadProvider_of_deep (hd : d.DoubleFree) (hm : m.Kept d) (h : t.Mirrors m)
    {p : IdentityProvider} (hfind : m.providers.items.find? k = some p)
    (hp : ¬Entity.identityProvider.Shallow p) : ∃ err, t.loadProvider k = .error err := by
  obtain ⟨-, hvalues⟩ := (hm .identityProvider).meets k p hfind
  have hhold := h.holds k p hfind
  cases hload : t.loadProvider k with
  | error err => exact ⟨err, rfl⟩
  | ok found =>
    exfalso
    cases found with
    | none =>
      have hrow : t.providers.rows.find? (k : Int) = some p.storedRow := hhold.row
      rw [loadProvider_eq_none_iff.mp hload] at hrow
      cases hrow
    | some q =>
      -- every text among the rows would stand for a value, and so would that of a deep one
      refine hp (((hvalues.mono hd.property).and (hhold.hasValues fun text htext =>
        decodes_of_loadProvider hload htext)).mono fun v hv => ?_)
      exact PropertyValue.depth_of_decodes hv.1 hv.2

theorem loadApplication_of_deep (hd : d.DoubleFree) (hm : m.Kept d) (h : t.Mirrors m)
    {p : ServiceProvider} (hfind : m.applications.items.find? k = some p)
    (hp : ¬Entity.serviceProvider.Shallow p) : ∃ err, t.loadApplication k = .error err := by
  have hfree := hd.sections _ ((hm .serviceProvider).meets k p hfind).2
  rw [loadApplication, h.find?_applicationRow hfind]
  cases hread : Sections.ofText p.sections.text with
  | ok sections => exact absurd (Sections.depth_of_ofText hfree hread) hp
  | error err =>
    have hread : Sections.ofText p.row.sections = .error err := hread
    simp only [bind, Except.bind, hread, mapError_error]
    exact ⟨_, rfl⟩

/-- **A shallow aggregate loads.** -/
theorem load_of_shallow (hd : d.DoubleFree) (hm : m.Kept d) (h : t.Mirrors m) {e : Entity}
    {a : e.Aggregate} (hfind : (m.shelf e).items.find? k = some a) (ha : e.Shallow a) :
    t.load e k = .ok (some a) := by
  cases e with
  | identityProvider =>
    have hvalues := ((hm .identityProvider).meets k a hfind).2.mono hd.property
    exact h.loadProvider_of_readable hm hfind ((hvalues.and ha).mono fun v hv =>
      (PropertyValue.readable_iff hv.1).mpr hv.2)
  | serviceProvider =>
    have hfree := hd.sections _ ((hm .serviceProvider).meets k a hfind).2
    exact h.loadApplication_of_readable hm hfind ((Sections.readable_iff hfree).mpr ha)

/-- **A deeper aggregate does not load.** -/
theorem load_of_deep (hd : d.DoubleFree) (hm : m.Kept d) (h : t.Mirrors m) {e : Entity}
    {a : e.Aggregate} (hfind : (m.shelf e).items.find? k = some a) (ha : ¬e.Shallow a) :
    ∃ err, t.load e k = .error err := by
  cases e with
  | identityProvider => exact h.loadProvider_of_deep hd hm hfind ha
  | serviceProvider => exact h.loadApplication_of_deep hd hm hfind ha

/-! ## Look-ups -/

/-- What a reference names on a shelf is loaded at its number. -/
theorem get_of_some (hm : m.Kept d) (h : t.Mirrors m) {e : Entity} {target : Ref e}
    {a : e.Aggregate} (hget : (m.shelf e).get? target = some a) :
    ∃ k : Nat, (m.shelf e).items.find? k = some a ∧ t.get e target = t.load e k := by
  cases target with
  | id id =>
    refine ⟨id.value, hget, ?_⟩
    simp only [get, (h.lists e).rowNumber?_of_find? (hm e).toOrdered hget]
  | name name =>
    rw [Shelf.get?] at hget
    obtain ⟨k, hplace, hfind⟩ := Option.bind_eq_some_iff.mp hget
    refine ⟨k, hfind, ?_⟩
    simp only [get, h.numberOf?_eq, hplace]
    rfl

/-- What a reference does not name on a shelf has no row. -/
theorem get_of_none (h : t.Mirrors m) {e : Entity} {target : Ref e}
    (hget : (m.shelf e).get? target = none) : t.get e target = .ok none := by
  have hnone {k : Nat} (hfind : (m.shelf e).items.find? k = none) : t.load e k = .ok none := by
    rw [load_eq_none_iff, (h.lists e).find?_row, hfind]
    rfl
  cases target with
  | id id =>
    rw [get]
    cases hnumber : id.rowNumber? with
    | none => rfl
    | some number =>
      obtain ⟨rfl, -⟩ := Id.rowNumber?_eq_some_iff.mp hnumber
      exact hnone hget
  | name name =>
    rw [get, h.numberOf?_eq]
    cases hplace : (m.shelf e).place? name with
    | none => rfl
    | some k =>
      rw [Shelf.get?, hplace] at hget
      exact hnone hget

end Tables.Mirrors

end FederationRegistry
