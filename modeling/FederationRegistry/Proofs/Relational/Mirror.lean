import FederationRegistry.Proofs.Relational.Shelf

/-!
# Rows that mirror a store in memory

The tables of a database *mirror* a store in memory when the rows of both entities list its
shelves and the rows of every identity provider hold the provider that stands on the shelf.
Connectors may have any numbers, for aggregates do not show them.

A write of one provider concerns the rows of that provider alone, so what it leaves mirrors the
store with that provider set (`Tables.Mirrors.write`, `Tables.Mirrors.drop`). Nothing is asked of
the property values in the aggregates, for a write does not read them.
-/

namespace FederationRegistry

/-! ## Mirrors -/

/-- The tables mirror a store in memory. -/
structure Tables.Mirrors (t : Tables) (m : MemoryStore) : Prop where
  lists : ∀ e, t.Lists (m.shelf e)
  holds : ∀ k p, m.providers.items.find? k = some p → (t.rowsOf k).Hold k p
  referential : t.Referential
  tight : ∀ kind, (t.connectors kind).connectors.Tight

namespace Tables.Mirrors

variable {t t' : Tables} {m : MemoryStore}

theorem empty : ({} : Tables).Mirrors {} where
  lists e := by cases e <;> exact Lists.empty
  holds _ _ h := nomatch h
  referential := isReferential_iff.mp (by decide +kernel)
  tight kind := by cases kind <;> exact SerialTable.tight_empty

theorem find?_providerRow (h : t.Mirrors m) {k : Nat} {p : IdentityProvider}
    (hfind : m.providers.items.find? k = some p) :
    t.providers.rows.find? (k : Int) = some p.storedRow := by
  have hrow := (h.lists .identityProvider).find?_row k
  rw [show (m.shelf .identityProvider).items.find? k = some p from hfind] at hrow
  exact hrow

theorem find?_applicationRow (h : t.Mirrors m) {k : Nat} {p : ServiceProvider}
    (hfind : m.applications.items.find? k = some p) :
    t.applications.rows.find? (k : Int) = some p.row := by
  have hrow := (h.lists .serviceProvider).find?_row k
  rw [show (m.shelf .serviceProvider).items.find? k = some p from hfind] at hrow
  exact hrow

/-- Tables in which one provider was written mirror the store with that provider set. -/
theorem write (h : t.Mirrors m) {id : ProviderId} {p : IdentityProvider}
    {added : ConnectorKind → Nat} (hrewrites : t.Rewrites t' id.value added)
    (hhold : (t'.rowsOf id.value).Hold id.value p) {last : Nat}
    (hlast : t'.providers.last = last) (hbounded : (last : Int) ≤ maxColumnInteger) :
    t'.Mirrors { m with
      providers := ⟨last, m.providers.items.insert id.value (p.withId id)⟩ } where
  -- the shelf of the other kind and the rows of other providers stay as they are
  lists e := by
    cases e with
    | identityProvider =>
      refine (h.lists .identityProvider).insert (a := p.withId id) ?_ hlast hbounded
      refine Dict.ext_find? fun i => ?_
      rw [Dict.find?_insert]
      split
      · rename_i hi
        subst hi
        exact hhold.row
      · rename_i hi
        exact congrArg ProviderRows.row (hrewrites.others i (Ne.symm hi))
    | serviceProvider =>
      have hlists := h.lists .serviceProvider
      have hsame : t'.aggregates .serviceProvider = t.aggregates .serviceProvider :=
        hrewrites.applications
      exact ⟨hsame ▸ hlists.rows, hsame ▸ hlists.last, hlists.bounded⟩
  holds k q hq := by
    rw [Dict.find?_insert] at hq
    split at hq
    · rename_i hk
      subst hk
      cases hq
      exact ProviderRows.hold_withId.mpr hhold
    · rename_i hk
      rw [hrewrites.others k fun hsame => hk (Int.ofNat.inj hsame).symm]
      exact h.holds k q hq
  referential := hrewrites.referential h.referential hhold.row
  tight kind := (hrewrites.tight kind (h.tight kind)).1

/-- Tables from which a provider was dropped mirror the store without it. -/
theorem drop (h : t.Mirrors m) (id : ProviderId) :
    (t.dropProvider id.value).Mirrors { m with
      providers := { m.providers with items := m.providers.items.erase id.value } } where
  lists e := by
    cases e with
    | identityProvider => exact (h.lists .identityProvider).erase rfl
    | serviceProvider =>
      have hlists := h.lists .serviceProvider
      exact ⟨hlists.rows, hlists.last, hlists.bounded⟩
  holds k q hq := by
    have hrewrites := rewrites_dropProvider h.referential.rooted (id.value : Int)
    rw [Dict.find?_erase] at hq
    split at hq
    · cases hq
    · rename_i hk
      rw [hrewrites.others k fun hsame => hk (Int.ofNat.inj hsame).symm]
      exact h.holds k q hq
  referential :=
    h.referential.of_rewrites (rewrites_dropProvider h.referential.rooted (id.value : Int))
      fun _ => rowsOf_dropProvider_self t id.value
  tight kind :=
    ((rewrites_dropProvider h.referential.rooted (id.value : Int)).tight kind (h.tight kind)).1

/-- Service providers have no rows but their own. -/
theorem withApplications (h : t.Mirrors m) {rows : SerialTable ApplicationRow}
    {s : Shelf .serviceProvider} (hlists : { t with applications := rows }.Lists s) :
    { t with applications := rows }.Mirrors { m with applications := s } where
  lists e := by
    cases e with
    | identityProvider =>
      have hproviders := h.lists .identityProvider
      exact ⟨hproviders.rows, hproviders.last, hproviders.bounded⟩
    | serviceProvider => exact hlists
  holds := h.holds
  referential := ⟨h.referential.absent, h.referential.rooted⟩
  tight := h.tight

end Tables.Mirrors

/-! ## Sections -/

namespace ProviderRows

variable {r r' : ProviderRows} {number : Int} {p q : IdentityProvider}

/-- Rows that hold a provider hold it with a section updated once the section is written. -/
theorem Hold.withSection (h : r.Hold number p) {s : SectionUpdate}
    (hturns : s.Turns number r r') (hq : p.withSection s = .ok q) : r'.Hold number q := by
  -- an update turns the rows of its own section; what the others hold is unchanged
  cases s with
  | metadata m =>
    obtain ⟨-, rfl⟩ := Checked.map_eq_ok_iff.mp hq
    cases hturns
    exact {
      row := by rw [h.row]; rfl
      certificates := rfl
      roleMappings := rfl
      authentication := ⟨h.authentication.1, h.authentication.2⟩
      provisioning := ⟨h.provisioning.1, h.provisioning.2, h.provisioning.3, h.provisioning.4⟩
      properties := h.properties }
  | authentication a =>
    obtain ⟨-, rfl⟩ := Checked.map_eq_ok_iff.mp hq
    obtain ⟨records, hrecords, rfl⟩ := hturns
    exact {
      row := h.row
      certificates := h.certificates
      roleMappings := h.roleMappings
      authentication := ⟨rfl, hrecords⟩
      provisioning := ⟨h.provisioning.1, h.provisioning.2, h.provisioning.3, h.provisioning.4⟩
      properties := h.properties }
  | provisioning s =>
    obtain ⟨-, rfl⟩ := Checked.map_eq_ok_iff.mp hq
    obtain ⟨records, hrecords, rfl⟩ := hturns
    exact {
      row := h.row
      certificates := h.certificates
      roleMappings := h.roleMappings
      authentication := ⟨h.authentication.1, h.authentication.2⟩
      provisioning := ⟨rfl, rfl, rfl, hrecords⟩
      properties := h.properties }
  | properties delta =>
    cases hq
    cases hturns
    exact {
      row := h.row
      certificates := h.certificates
      roleMappings := h.roleMappings
      authentication := ⟨h.authentication.1, h.authentication.2⟩
      provisioning := ⟨h.provisioning.1, h.provisioning.2, h.provisioning.3, h.provisioning.4⟩
      properties := by
        show r.properties.merge _ = _
        rw [h.properties]
        exact (PropertyMap.texts_absorb _ _).symm }

end ProviderRows

namespace SectionUpdate

variable {s : SectionUpdate} {p : IdentityProvider} {t t' : Tables} {number : Int}

/-- What refuses a section for the row of a provider is what refuses it for the provider. -/
theorem refusal?_storedRow (hs : s.Built) (hp : p.Sound)
    (hfree : EntityTable.providers.isNameTaken t number p.name = false) :
    s.refusal? t number p.storedRow =
      match p.withSection s with
      | .error err => some (.ofModel err)
      | .ok q =>
        if EntityTable.providers.isNameTaken t number q.name then
          some (.nameTaken .identityProvider q.name)
        else none := by
  have hkind : ProviderKind.ofName p.storedRow.name = p.kind :=
    (IdentityProvider.validate_ok_iff.mp hp.valid).2.1
  -- no other section changes the name, and the stored name is free for its own row
  have hkept {q : IdentityProvider} (hname : q.name = p.name) :
      none = if EntityTable.providers.isNameTaken t number q.name then
        some (RegistryError.nameTaken .identityProvider q.name) else none := by
    rw [hname, hfree]
    rfl
  cases s with
  | metadata m =>
    simp only [refusal?, hkind, IdentityProvider.withSection, IdentityProvider.withMetadata]
    cases p.kind.checkMetadata m <;> rfl
  | authentication a =>
    rw [show p.withSection (.authentication a) = .ok { p with authentication := a.nonempty? } from
      Checked.map_eq_ok_iff.mpr ⟨Authentication.Built.valid hs, rfl⟩]
    exact hkept rfl
  | provisioning s =>
    rw [show p.withSection (.provisioning s) = .ok { p with provisioning := s } from
      Checked.map_eq_ok_iff.mpr ⟨Provisioning.Built.valid hs, rfl⟩]
    exact hkept rfl
  | properties delta => exact hkept (q := p.withMergedProperties delta) rfl

theorem last_putRows {row : ProviderRow} (h : s.putRows? t number row = some t') :
    t'.providers.last = t.providers.last := by
  cases s with
  | metadata m => cases h; rfl
  | authentication a =>
    obtain ⟨c, -, rfl⟩ := Option.map_eq_some_iff.mp h
    rfl
  | provisioning p =>
    obtain ⟨c, -, rfl⟩ := Option.map_eq_some_iff.mp h
    rfl
  | properties delta => cases h; rfl

end SectionUpdate

end FederationRegistry
