import FederationRegistry.Proofs.Relational.Lawful
import FederationRegistry.Proofs.Relational.Legible

/-!
# What loads resembles what is stored

A value need not come back as it was stored, for a text may stand for another value than the one it
was written for. An aggregate that loads still *resembles* the stored one: it has the same
identifier, name and switch, and a provider the same variant. These stand in the row of the
aggregate itself, and no reader goes through property values for them.

So a reference finds an aggregate in tables exactly when it finds one on the shelf that they mirror,
unless loading fails (`Tables.Mirrors.get_cases`).
-/

namespace FederationRegistry

/-- The variant of an aggregate, if it is an identity provider. -/
def Entity.variantOf? : (e : Entity) → e.Aggregate → Option ProviderVariant
  | .identityProvider, p => some p.variant
  | .serviceProvider, _ => none

/-- The aggregates have the same identifier, name, switch and variant. -/
structure Entity.Resembles (e : Entity) (a b : e.Aggregate) : Prop where
  id : e.idOf b = e.idOf a
  name : e.nameOf b = e.nameOf a
  enabled : e.isEnabled b = e.isEnabled a
  variant : e.variantOf? b = e.variantOf? a

theorem Entity.Resembles.refl {e : Entity} (a : e.Aggregate) : e.Resembles a a :=
  ⟨rfl, rfl, rfl, rfl⟩

/-- A variant is known by its kind, its home realm and its hub flag. -/
theorem ProviderVariant.eq_of_parts {v w : ProviderVariant} (hkind : v.kind = w.kind)
    (hrealm : v.homeRealm = w.homeRealm) (hhub : v.isHub = w.isHub) : v = w := by
  cases v with
  | resident =>
    cases w with
    | resident => rfl
    | federated settings => cases hkind
  | federated settings =>
    cases w with
    | resident => cases hkind
    | federated settings' =>
      obtain ⟨realm, hub⟩ := settings
      cases hrealm
      cases hhub
      rfl

namespace Tables

variable {t : Tables} {number : Int}

/-- What a provider that loads takes from its own row. -/
theorem row_of_loadProvider {q : IdentityProvider} (h : t.loadProvider number = .ok (some q)) :
    ∃ row, t.providers.rows.find? number = some row ∧ q.name = row.name ∧
      q.enabled = row.enabled ∧ q.variant.kind = .ofName row.name ∧
      q.variant.homeRealm = row.homeRealm ∧ q.variant.isHub = row.isHub := by
  obtain ⟨row, d, q', id, hrow, hd, hq, -, rfl⟩ := loadProvider_eq_some_iff.mp h
  obtain ⟨variant, -, -, -, hvariant, rfl, -⟩ := IdentityProvider.Draft.build_eq_ok_iff.mp hq
  obtain ⟨hkind, hrealm, hhub⟩ := IdentityProvider.Draft.buildVariant_eq_ok_iff.mp hvariant
  obtain ⟨dialect, roles, provisioning, properties, authentication, -, -, -, -, -, rfl⟩ :=
    loadDraft_eq_ok_iff.mp hd
  exact ⟨row, hrow, rfl, rfl, hkind, hrealm, hhub⟩

/-- What a service provider that loads takes from its own row. -/
theorem row_of_loadApplication {q : ServiceProvider}
    (h : t.loadApplication number = .ok (some q)) :
    ∃ row id, t.applications.rows.find? number = some row ∧ Id.ofRowNumber number = .ok id ∧
      q.id = some id ∧ q.name = row.name ∧ q.enabled = row.enabled := by
  unfold loadApplication at h
  cases hrow : t.applications.rows.find? number with
  | none => simp [hrow] at h
  | some row =>
    simp only [hrow, except_bind_eq_ok_iff, mapError_eq_ok_iff] at h
    obtain ⟨sections, -, p, hbuild, id, hid, ⟨⟩⟩ := h
    obtain ⟨-, rfl⟩ := Checked.map_eq_ok_iff.mp hbuild
    exact ⟨row, id, rfl, hid, rfl, rfl, rfl⟩

namespace Mirrors

variable {d : Demand} {m : MemoryStore} {k : Nat}

theorem resembles_of_loadProvider (hm : m.Kept d) (h : t.Mirrors m) {p q : IdentityProvider}
    (hp : m.providers.items.find? k = some p) (hq : t.loadProvider k = .ok (some q)) :
    Entity.identityProvider.Resembles p q := by
  obtain ⟨row, hrow, hname, henabled, hkind, hrealm, hhub⟩ := row_of_loadProvider hq
  obtain rfl : p.storedRow = row := Option.some.inj ((h.find?_providerRow hp).symm.trans hrow)
  obtain ⟨id, hid, hk⟩ := (hm .identityProvider).stamped k p hp
  obtain ⟨id', hid', hk'⟩ := id_of_loadProvider hq
  obtain rfl : id = id' := Id.ext (by omega)
  obtain ⟨hsound, -⟩ := (hm .identityProvider).meets k p hp
  have hnamed : ProviderKind.ofName p.name = p.kind :=
    (IdentityProvider.validate_ok_iff.mp hsound.valid).2.1
  exact ⟨hid'.trans hid.symm, hname, henabled,
    congrArg some (ProviderVariant.eq_of_parts (hkind.trans hnamed) hrealm hhub)⟩

theorem resembles_of_loadApplication (hm : m.Kept d) (h : t.Mirrors m) {p q : ServiceProvider}
    (hp : m.applications.items.find? k = some p) (hq : t.loadApplication k = .ok (some q)) :
    Entity.serviceProvider.Resembles p q := by
  obtain ⟨row, id', hrow, hk', hid', hname, henabled⟩ := row_of_loadApplication hq
  obtain rfl : p.row = row := Option.some.inj ((h.find?_applicationRow hp).symm.trans hrow)
  obtain ⟨id, hid, hk⟩ := (hm .serviceProvider).stamped k p hp
  have hk' := Id.ofRowNumber_eq_ok_iff.mp hk'
  obtain rfl : id = id' := Id.ext (by omega)
  exact ⟨hid'.trans hid.symm, hname, henabled, rfl⟩

/-- **What loads resembles what stands on the shelf.** -/
theorem resembles_of_load (hm : m.Kept d) (h : t.Mirrors m) {e : Entity} {a b : e.Aggregate}
    (ha : (m.shelf e).items.find? k = some a) (hb : t.load e k = .ok (some b)) :
    e.Resembles a b := by
  cases e with
  | identityProvider => exact h.resembles_of_loadProvider hm ha hb
  | serviceProvider => exact h.resembles_of_loadApplication hm ha hb

/-- **What a reference finds**, if finding it does not fail, is what it finds on the shelf or
resembles it. -/
theorem get_cases (hm : m.Kept d) (h : t.Mirrors m) {e : Entity} (target : Ref e) :
    (∃ err, t.get e target = .error err) ∨
      ∃ found, t.get e target = .ok found ∧
        Option.Rel e.Resembles ((m.shelf e).get? target) found := by
  cases hget : (m.shelf e).get? target with
  | none => exact .inr ⟨none, h.get_of_none hget, .none⟩
  | some a =>
    obtain ⟨k, hfind, hload⟩ := h.get_of_some hm hget
    rw [hload]
    cases hloaded : t.load e k with
    | error err => exact .inl ⟨err, rfl⟩
    | ok found =>
      cases found with
      | none =>
        have hrow := (h.lists e).find?_row k
        rw [Tables.load_eq_none_iff.mp hloaded, hfind] at hrow
        cases hrow
      | some b => exact .inr ⟨some b, rfl, .some (h.resembles_of_load hm hfind hloaded)⟩

end Mirrors

end Tables

end FederationRegistry
