import FederationRegistry.Proofs.Relational.Lookup
import FederationRegistry.Proofs.Relational.Numbering
import FederationRegistry.Proofs.Service.Reopening
import FederationRegistry.Proofs.Transcript

/-!
# Relational integrity

**Theorem (`Database.integrity_after`).** Put any requests to a new database, with arguments that
builders make.

* Every row has its owner, the resident provider has no home realm and is no hub, roles and dialects
  are numbered from zero on, and every property is the text of a value that can be set
  (`Tables.Integral`).
* To delete a provider leaves no row of it, of its connectors or of their properties, and all other
  rows as they are (`Tables.Forgets`).
* Whatever is asked next, a number that was given out to a connector stays with it
  (`Tables.Continues`).

The rows mirror a store in memory all along, so what is true of the rows that a sound provider is
written as is true of all rows: each belongs to a provider that is there (`Mirrors.exists_holder`),
and that holds them.
-/

namespace FederationRegistry

/-! ## What is true of all rows -/

/-- The text of a value that can be set under the key. -/
def IsPropertyText (key text : String) : Prop :=
  Text.isBlank key = false ∧ ∃ v : PropertyValue, v.isNull = false ∧ text = v.text

/-- A number from zero on. -/
def Cell.IsNatural (c : Cell) : Prop := ∃ n : Nat, c = .integer n

namespace Tables

/-- What the rows of a database keep. -/
structure Integral (t : Tables) : Prop where
  referential : t.isReferential = true
  /-- Every connector has a number that was given out. -/
  tight : t.Tight
  /-- The rows of a provider are those that one sound provider is written as. -/
  held : ∀ number row, t.providers.rows.find? number = some row →
    ∃ p : IdentityProvider, p.Sound ∧ (t.rowsOf number).Hold number p
  resident : ∀ number row, t.providers.rows.find? number = some row → row.name = residentName →
    row.homeRealm = none ∧ row.isHub = false
  dialects : ∀ number row, t.providers.rows.find? number = some row →
    row.dialectId = .null ∨ row.dialectId.IsNatural
  roles : ∀ number role external, t.roleMappings.find? (number, role) = some external →
    role.IsNatural
  properties : ∀ number key text, t.properties.find? (number, key) = some text →
    IsPropertyText key text
  connectorProperties : ∀ kind number key text,
    (t.connectors kind).properties.find? (number, key) = some text → IsPropertyText key text

/-- The second tables have no row of a provider, of its connectors or of their properties, and all
other rows of the first ones. -/
structure Forgets (t t' : Tables) (number : Int) : Prop where
  rows : t'.rowsOf number = {}
  connectors : ∀ kind n row, (t.connectors kind).connectors.rows.find? n = some row →
    row.owner = number → (t'.connectors kind).connectors.rows.find? n = none ∧
      (t'.connectors kind).properties.slice n = ∅
  others : ∀ o, o ≠ number → t'.rowsOf o = t.rowsOf o
  applications : t'.applications = t.applications

end Tables

theorem PropertyMap.isPropertyText {m : PropertyMap} (hm : m.Kept) {key text : String}
    (h : m.texts.find? key = some text) : IsPropertyText key text := by
  rw [texts, Dict.find?_mapValues] at h
  obtain ⟨v, hfind, rfl⟩ := Option.map_eq_some_iff.mp h
  have hsettable := kept_iff.mp hm key v hfind
  simp only [settable, Bool.and_eq_true, Bool.not_eq_true'] at hsettable
  exact ⟨hsettable.1, v, hsettable.2, rfl⟩

theorem Metadata.isNatural_of_roleRows {m : Metadata} {role : Cell} {external : String}
    (h : m.roleRows.find? role = some external) : role.IsNatural := by
  obtain ⟨e, -, he⟩ := List.mem_map.mp (Dict.mem_entries_iff.mpr h)
  exact ⟨e.1, (Prod.mk.inj he).1.symm⟩

theorem IdentityProvider.dialectId_storedRow (p : IdentityProvider) :
    p.storedRow.dialectId = .null ∨ p.storedRow.dialectId.IsNatural := by
  show p.metadata.dialectCells.1 = .null ∨ p.metadata.dialectCells.1.IsNatural
  unfold Metadata.dialectCells
  cases p.metadata.claimDialect with
  | none => exact .inl rfl
  | some dialect => exact .inr ⟨dialect.id, rfl⟩

/-- A provider of the reserved name has no settings of a federated one. -/
theorem IdentityProvider.resident_storedRow {p : IdentityProvider} (hp : p.Sound)
    (h : p.name = residentName) :
    p.storedRow.homeRealm = none ∧ p.storedRow.isHub = false := by
  have hkind : p.variant.kind = .resident := (resident_iff hp.valid).mpr h
  show p.variant.homeRealm = none ∧ p.variant.isHub = false
  cases hvariant : p.variant with
  | resident => exact ⟨rfl, rfl⟩
  | federated settings =>
    rw [hvariant] at hkind
    cases hkind

/-! ## Rows that mirror a store -/

namespace Tables.Mirrors

variable {d : Demand} {t : Tables} {m : MemoryStore} {number : Int}

/-- The row of a provider belongs to a provider on the shelf, which all its rows hold. -/
theorem holder_of_row (hm : m.Kept d) (h : t.Mirrors m) {row : ProviderRow}
    (hrow : t.providers.rows.find? number = some row) :
    ∃ p : IdentityProvider, p.Sound ∧ row = p.storedRow ∧ (t.rowsOf number).Hold number p := by
  obtain ⟨k, p, rfl, hfind, rfl⟩ := (h.lists .identityProvider).of_find?_row hrow
  exact ⟨p, hm.sound hfind, rfl, h.holds k p hfind⟩

/-- **Every row has a holder**: where anything stands, a provider is there and is held. -/
theorem exists_holder (hm : m.Kept d) (h : t.Mirrors m) (hrows : t.rowsOf number ≠ {}) :
    ∃ p : IdentityProvider, p.Sound ∧ (t.rowsOf number).Hold number p := by
  cases hrow : t.providers.rows.find? number with
  | none => exact absurd (h.referential.absent number hrow) hrows
  | some row =>
    obtain ⟨p, hp, -, hhold⟩ := h.holder_of_row hm hrow
    exact ⟨p, hp, hhold⟩

theorem isNatural_role (hm : m.Kept d) (h : t.Mirrors m) {role : Cell} {external : String}
    (hfind : t.roleMappings.find? (number, role) = some external) : role.IsNatural := by
  have hslice : (t.rowsOf number).roleMappings.find? role = some external := by
    rwa [rowsOf, Dict.find?_slice]
  obtain ⟨p, -, hhold⟩ := h.exists_holder hm fun hnone => by
    rw [hnone] at hslice
    cases hslice
  rw [hhold.roleMappings] at hslice
  exact Metadata.isNatural_of_roleRows hslice

/-- Properties among the rows of a provider are those of the provider that the rows hold. -/
theorem isPropertyText (hm : m.Kept d) (h : t.Mirrors m) (scope : PropertyScope)
    {texts : Dict String String} (hmem : texts ∈ (t.rowsOf number).textsIn scope)
    {key text : String} (hfind : texts.find? key = some text) : IsPropertyText key text := by
  obtain ⟨p, hp, hhold⟩ := h.exists_holder hm fun hnone => by
    rw [hnone] at hmem
    cases scope with
    | provider =>
      obtain rfl := List.mem_singleton.mp hmem
      cases hfind
    | authenticator => cases hmem
    | provisioner => cases hmem
  rw [hhold.textsIn] at hmem
  obtain ⟨props, hprops, rfl⟩ := List.mem_map.mp hmem
  exact PropertyMap.isPropertyText (hp.keptIn hprops) hfind

/-- Properties under the number of a connector are among the rows of the provider that owns it. -/
theorem isPropertyText_of_connector (hm : m.Kept d) (h : t.Mirrors m) (kind : ConnectorKind)
    {key text : String}
    (hfind : (t.connectors kind).properties.find? (number, key) = some text) :
    IsPropertyText key text := by
  obtain ⟨row, hrow⟩ := Dict.contains_iff.mp (h.referential.rooted kind number key text hfind)
  have hrecord : ((t.connectors kind).rowsOf row.owner).find? number =
      some (row, (t.connectors kind).properties.slice number) := by
    rw [ConnectorTables.find?_rowsOf, ConnectorTables.find?_ownedBy_eq_some.mpr ⟨hrow, rfl⟩]
    rfl
  have hslice : (t.connectors kind).properties.slice number ∈
      ((t.connectors kind).rowsOf row.owner).values.map (·.2) :=
    List.mem_map_of_mem (Dict.mem_values_iff.mpr ⟨number, hrecord⟩)
  have htext : ((t.connectors kind).properties.slice number).find? key = some text := by
    rwa [Dict.find?_slice]
  cases kind with
  | authenticator => exact h.isPropertyText hm .authenticator hslice htext
  | provisioner => exact h.isPropertyText hm .provisioner hslice htext

/-- **Rows that mirror a store are integral.** -/
theorem integral (hm : m.Kept d) (h : t.Mirrors m) : t.Integral where
  referential := isReferential_iff.mpr h.referential
  tight := h.tight
  held number row hrow := by
    obtain ⟨p, hp, -, hhold⟩ := h.holder_of_row hm hrow
    exact ⟨p, hp, hhold⟩
  resident number row hrow hname := by
    obtain ⟨p, hp, rfl, -⟩ := h.holder_of_row hm hrow
    exact IdentityProvider.resident_storedRow hp hname
  dialects number row hrow := by
    obtain ⟨p, -, rfl, -⟩ := h.holder_of_row hm hrow
    exact p.dialectId_storedRow
  roles number role external hfind := h.isNatural_role hm hfind
  properties number key text hfind := by
    have hmem : t.properties.slice number ∈ (t.rowsOf number).textsIn .provider :=
      List.mem_singleton.mpr rfl
    exact h.isPropertyText hm .provider hmem (by rwa [Dict.find?_slice])
  connectorProperties kind number key text hfind := h.isPropertyText_of_connector hm kind hfind

end Tables.Mirrors

/-! ## Deletions -/

/-- A provider that is dropped is forgotten with all that it owns. -/
theorem Tables.forgets_dropProvider {t : Tables} (hrooted : ∀ kind, (t.connectors kind).Rooted)
    (number : Int) : t.Forgets (t.dropProvider number) number where
  rows := rowsOf_dropProvider_self t number
  connectors kind n row hrow howner := by
    rw [connectors_dropProvider]
    have hgone : ((t.connectors kind).dropOwner number).connectors.rows.find? n = none := by
      rw [ConnectorTables.find?_connectors_dropOwner, hrow]
      simp [howner]
    exact ⟨hgone, ConnectorTables.slice_of_rooted
      (ConnectorTables.rooted_dropOwner (hrooted kind) number) hgone⟩
  others := (rewrites_dropProvider hrooted number).others
  applications := rfl

namespace Database

variable {d : Demand} {db : Database}

theorem forgets_answer (hrooted : ∀ kind, (db.tables.connectors kind).Rooted) {id : ProviderId}
    (h : (db.answer (.delete .identityProvider id)).result = .ok ()) :
    db.tables.Forgets (db.answer (.delete .identityProvider id)).store.tables id.value := by
  have hanswer : db.answer (.delete .identityProvider id) =
      db.writingAt db.engine (.delete .identityProvider) id fun number =>
        onRow id (deleteRow .identityProvider number) := rfl
  rw [hanswer] at h ⊢
  cases hnumber : id.rowNumber? with
  | none =>
    rw [writingAt_of_none hnumber] at h
    cases h
  | some number =>
    rw [writingAt_of_rowNumber hnumber] at h ⊢
    have hsettle := settle_of_writing h
    rw [settle_deleteProvider] at hsettle
    split at hsettle
    · obtain ⟨rfl, -⟩ := Id.rowNumber?_eq_some_iff.mp hnumber
      rw [← (Prod.mk.inj (Except.ok.inj hsettle)).2]
      exact Tables.forgets_dropProvider hrooted id.value
    · cases hsettle

/-! ## Runs -/

/-- Requests, one after the other, leave connectors that go on from those before. -/
theorem continues_after (hdb : db.Kept d) {rs : List Request} (hrs : ∀ r ∈ rs, r.Admissible d) :
    db.tables.Continues (ProviderStore.after db rs).tables := by
  induction rs generalizing db with
  | nil => exact .refl _
  | cons r rs ih =>
    obtain ⟨hr, hrs⟩ := List.forall_mem_cons.mp hrs
    obtain ⟨m, -, hmirrors⟩ := hdb.mirrors
    exact (continues_answer db.engine hmirrors.referential.rooted hmirrors.tight hr).trans
      (ih (kept_answer hdb hr).1 hrs)

/-- **Relational integrity** of what requests make of a new database. -/
theorem integrity_after (rs : List Request) (hrs : ∀ r ∈ rs, r.Admissible {}) :
    let db := ProviderStore.after Database.fresh rs
    db.tables.Integral ∧
      (∀ id : ProviderId, (db.answer (.delete .identityProvider id)).result = .ok () →
        db.tables.Forgets (db.answer (.delete .identityProvider id)).store.tables id.value) ∧
      ∀ more : List Request, (∀ r ∈ more, r.Admissible {}) →
        db.tables.Continues (ProviderStore.after db more).tables := by
  have hdb := kept_after_fresh hrs
  obtain ⟨m, hm, hmirrors⟩ := hdb.mirrors
  exact ⟨hmirrors.integral hm, fun id => forgets_answer hmirrors.referential.rooted,
    fun more => continues_after hdb⟩

/-- Requests that store a provider with an authenticator. -/
def acmeRequests : List Request := [.create .identityProvider .acme]

/-- The database after them. -/
def storedAcme : Database := ProviderStore.after fresh acmeRequests

/-- The provider is deleted and stored again. -/
def replaceAcme : List Request := .delete .identityProvider (Id.nth 0) :: acmeRequests

/-- A provider with an authenticator is stored; it can be deleted without a trace, and what is
created in its place gets an authenticator of another number. -/
theorem integrity_after_acme :
    (∀ r ∈ acmeRequests ++ replaceAcme, r.Admissible {}) ∧
      (storedAcme.answer (.delete .identityProvider (Id.nth 0))).result = .ok () ∧
      storedAcme.tables.Integral ∧
      storedAcme.tables.Forgets
        (storedAcme.answer (.delete .identityProvider (Id.nth 0))).store.tables 1 ∧
      storedAcme.tables.Continues (ProviderStore.after storedAcme replaceAcme).tables ∧
      (storedAcme.tables.connectors .authenticator).connectors.rows.keys = [1] ∧
      ((ProviderStore.after storedAcme replaceAcme).tables.connectors
        .authenticator).connectors.rows.keys = [2] := by
  have hacme : Entity.identityProvider.Offered {} IdentityProvider.acme :=
    ⟨IdentityProvider.built_acme, IdentityProvider.plain_acme.mono fun _ _ => trivial⟩
  have hcreated : ∀ r ∈ acmeRequests, r.Admissible {} :=
    List.forall_mem_cons.mpr ⟨hacme, List.forall_mem_nil _⟩
  have hagain : ∀ r ∈ replaceAcme, r.Admissible {} := List.forall_mem_cons.mpr ⟨trivial, hcreated⟩
  have hdelete : (storedAcme.answer (.delete .identityProvider (Id.nth 0))).result = .ok () := by
    decide +kernel
  have hdb := integrity_after acmeRequests hcreated
  rw [← storedAcme] at hdb
  obtain ⟨hintegral, hforgets, hcontinues⟩ := hdb
  exact ⟨List.forall_mem_append.mpr ⟨hcreated, hagain⟩, hdelete, hintegral,
    hforgets (Id.nth 0) hdelete, hcontinues replaceAcme hagain, by decide +kernel,
    by decide +kernel⟩

end Database

end FederationRegistry
