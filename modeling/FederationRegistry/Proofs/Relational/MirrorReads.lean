import FederationRegistry.Proofs.Json.Distinct
import FederationRegistry.Proofs.Relational.Load
import FederationRegistry.Proofs.Relational.MirrorWrites
import FederationRegistry.Proofs.ServiceProvider.ReadBack

/-!
# Reads on rows that mirror a store

What is read from tables that mirror a store in memory is what stands on its shelves.

**Aggregates** come back from their rows as long as every value in them is readable.

**Look-ups by property** compare texts in the tables and values in memory. As long as both
comparisons say the same of the stored values (`MemoryStore.Comparable`), as they do of values
without doubles, both stores find the same providers and report the same number of them.

Main statements: `Tables.Mirrors.load_eq`, `Tables.mem_providersWith_iff` and
`Database.answer_of_read`.
-/

namespace FederationRegistry

/-- Values as demanded are read back. -/
structure Demand.Readable (d : Demand) : Prop where
  property : ∀ v, d.property v → v.Readable
  sections : ∀ s, d.sections s → s.Readable

/-! ## Aggregates -/

/-- A row is loaded as the service provider whose sections its text stands for. -/
theorem Tables.loadApplication_of_row {t : Tables} {p : ServiceProvider} {id : ServiceProviderId}
    (hp : p.validate = .ok ()) (hsections : p.sections.Readable)
    (hrow : t.applications.rows.find? (id.value : Int) = some p.row) :
    t.loadApplication id.value = .ok (some (p.withId id)) := by
  have hread : Sections.ofText p.row.sections = .ok p.sections := hsections
  have hbuild : ServiceProvider.build
      { name := p.row.name
        displayLabel := p.row.displayLabel
        description := p.row.description
        enabled := p.row.enabled
        sections := p.sections } = .ok p.toDraft :=
    Checked.map_eq_ok_iff.mpr ⟨hp, rfl⟩
  rw [loadApplication, hrow]
  simp only [bind, Except.bind, hread, mapError_ok, hbuild, Id.ofRowNumber_eq_ok_iff.mpr rfl]
  rfl

namespace Tables.Mirrors

variable {d : Demand} {t : Tables} {m : MemoryStore}

/-- A provider on the shelf is loaded when its values are readable. -/
theorem loadProvider_of_readable (hm : m.Kept d) (h : t.Mirrors m) {k : Nat}
    {p : IdentityProvider} (hfind : m.providers.items.find? k = some p)
    (hvalues : p.HasValues PropertyValue.Readable) : t.loadProvider k = .ok (some p) := by
  obtain ⟨hsound, -⟩ := (hm .identityProvider).meets k p hfind
  obtain ⟨id, hid, rfl⟩ := (hm .identityProvider).stamped k p hfind
  rw [loadProvider_of_hold hsound hvalues (h.holds id.value p hfind)
    (Id.ofRowNumber_eq_ok_iff.mpr rfl)]
  exact congrArg (fun p => Except.ok (some p)) (Entity.withId_of_idOf hid)

theorem loadProvider_eq (hd : d.Readable) (hm : m.Kept d) (h : t.Mirrors m) (k : Nat) :
    t.loadProvider k = .ok (m.providers.items.find? k) := by
  have hrow := (h.lists .identityProvider).find?_row k
  cases hfind : m.providers.items.find? k with
  | none =>
    rw [show (m.shelf .identityProvider).items.find? k = none from hfind] at hrow
    rw [loadProvider, show t.providers.rows.find? (k : Int) = none from hrow]
  | some p =>
    obtain ⟨-, hvalues⟩ := (hm .identityProvider).meets k p hfind
    exact h.loadProvider_of_readable hm hfind (hvalues.mono hd.property)

/-- A service provider on the shelf is loaded when its sections are readable. -/
theorem loadApplication_of_readable (hm : m.Kept d) (h : t.Mirrors m) {k : Nat}
    {p : ServiceProvider} (hfind : m.applications.items.find? k = some p)
    (hsections : p.sections.Readable) : t.loadApplication k = .ok (some p) := by
  obtain ⟨hvalid, -⟩ := (hm .serviceProvider).meets k p hfind
  obtain ⟨id, hid, rfl⟩ := (hm .serviceProvider).stamped k p hfind
  rw [loadApplication_of_row hvalid hsections (h.find?_applicationRow hfind)]
  exact congrArg (fun p => Except.ok (some p)) (Entity.withId_of_idOf hid)

theorem loadApplication_eq (hd : d.Readable) (hm : m.Kept d) (h : t.Mirrors m) (k : Nat) :
    t.loadApplication k = .ok (m.applications.items.find? k) := by
  have hrow := (h.lists .serviceProvider).find?_row k
  cases hfind : m.applications.items.find? k with
  | none =>
    rw [show (m.shelf .serviceProvider).items.find? k = none from hfind] at hrow
    rw [loadApplication, show t.applications.rows.find? (k : Int) = none from hrow]
  | some p =>
    obtain ⟨-, hsections⟩ := (hm .serviceProvider).meets k p hfind
    exact h.loadApplication_of_readable hm hfind (hd.sections _ hsections)

/-- **Aggregates are loaded as they stand on the shelf.** -/
theorem load_eq (hd : d.Readable) (hm : m.Kept d) (h : t.Mirrors m) (e : Entity) (k : Nat) :
    t.load e k = .ok ((m.shelf e).items.find? k) := by
  cases e with
  | identityProvider => exact h.loadProvider_eq hd hm k
  | serviceProvider => exact h.loadApplication_eq hd hm k

theorem numberOf?_eq (h : t.Mirrors m) (e : Entity) (name : String) :
    t.numberOf? e name = ((m.shelf e).place? name).map Int.ofNat := by
  cases e with
  | identityProvider => exact (h.lists .identityProvider).numberOf?_eq name
  | serviceProvider => exact (h.lists .serviceProvider).numberOf?_eq name

theorem get_eq (hd : d.Readable) (hm : m.Kept d) (h : t.Mirrors m) {e : Entity} (target : Ref e) :
    t.get e target = .ok ((m.shelf e).get? target) := by
  cases target with
  | id id =>
    rw [get, Shelf.get?]
    cases hnumber : id.rowNumber? with
    | some number =>
      obtain ⟨rfl, -⟩ := Id.rowNumber?_eq_some_iff.mp hnumber
      exact h.load_eq hd hm e id.value
    | none =>
      cases hfind : (m.shelf e).items.find? id.value with
      | none => rfl
      | some a =>
        have hsome := (h.lists e).rowNumber?_of_find? (hm e).toOrdered hfind
        rw [hnumber] at hsome
        cases hsome
  | name name =>
    rw [get, Shelf.get?, h.numberOf?_eq]
    cases (m.shelf e).place? name with
    | none => rfl
    | some k => exact h.load_eq hd hm e k

/-- Tables that mirror the same store are read alike, also where a value does not come back. -/
theorem get_congr {t' : Tables} (h : t.Mirrors m) (h' : t'.Mirrors m) (target : ProviderRef) :
    t.get .identityProvider target = t'.get .identityProvider target := by
  -- a database decides what loads by the rows of one provider, and both hold the same there
  have hload (k : Nat) : t.loadProvider k = t'.loadProvider k := by
    cases hfind : m.providers.items.find? k with
    | some p => exact loadProvider_congr (h.holds k p hfind) (h'.holds k p hfind)
    | none =>
      have hnone {t : Tables} (h : t.Mirrors m) : t.loadProvider k = .ok none := by
        have hrow := (h.lists .identityProvider).find?_row k
        rw [show (m.shelf .identityProvider).items.find? k = none from hfind] at hrow
        rw [loadProvider, show t.providers.rows.find? (k : Int) = none from hrow]
      rw [hnone h, hnone h']
  cases target with
  | id id =>
    rw [get, get]
    cases hnumber : id.rowNumber? with
    | none => rfl
    | some number =>
      obtain ⟨rfl, -⟩ := Id.rowNumber?_eq_some_iff.mp hnumber
      exact hload id.value
  | name name =>
    rw [get, get, h.numberOf?_eq, h'.numberOf?_eq]
    cases (m.shelf .identityProvider).place? name with
    | none => rfl
    | some k => exact hload k

theorem resolve_eq (hm : m.Kept d) (h : t.Mirrors m) (e : Entity) (name : String) :
    t.resolve e name = .ok (((m.shelf e).place? name).bind Id.ofNat?) := by
  rw [resolve, h.numberOf?_eq]
  cases hplace : (m.shelf e).place? name with
  | none => rfl
  | some k =>
    obtain ⟨a, hfind, -⟩ := (Shelf.place?_eq_some_iff (hm e).toOrdered).mp hplace
    obtain ⟨id, -, rfl⟩ := (hm e).stamped k a hfind
    rw [Option.map_some, Option.bind_some, Id.ofNat?_eq_some_iff.mpr rfl]
    dsimp only
    rw [show (Id.ofRowNumber (Int.ofNat id.value) : Except StoreError (Id e)) = .ok id from
      Id.ofRowNumber_eq_ok_iff.mpr rfl]
    rfl

end Tables.Mirrors

/-! ## Look-ups by property -/

/-- The texts of properties in a scope. -/
def ProviderRows.textsIn (r : ProviderRows) : PropertyScope → List (Dict String String)
  | .provider => [r.properties]
  | .authenticator => r.authenticators.values.map (·.2)
  | .provisioner => r.provisioners.values.map (·.2)

theorem ProviderRows.Hold.textsIn {r : ProviderRows} {number : Int} {p : IdentityProvider}
    (h : r.Hold number p) (scope : PropertyScope) :
    r.textsIn scope = (p.propertiesIn scope).map PropertyMap.texts := by
  cases scope with
  | provider =>
    rw [ProviderRows.textsIn, h.properties]
    rfl
  | authenticator =>
    rw [ProviderRows.textsIn, h.authentication.authenticators, IdentityProvider.propertiesIn]
    cases p.authentication with
    | none => rfl
    | some a => rw [List.map_map, List.map_map]; rfl
  | provisioner =>
    rw [ProviderRows.textsIn, h.provisioning.provisioners, IdentityProvider.propertiesIn,
      List.map_map, List.map_map]
    rfl

namespace Tables

variable {t : Tables}

theorem mem_ownersOf_iff {rows : Dict (Int × String) String} {key text : String} {i : Int} :
    i ∈ ownersOf rows key text ↔ (rows.slice i).find? key = some text := by
  rw [ownersOf, KeySet.mem_keys_ofList, Dict.find?_slice, ← Dict.mem_entries_iff]
  simp only [List.mem_map, List.mem_filter, Bool.and_eq_true, beq_iff_eq]
  constructor
  · rintro ⟨⟨⟨owner, key'⟩, text'⟩, ⟨hmem, rfl, rfl⟩, rfl⟩
    exact hmem
  · intro hmem
    exact ⟨((i, key), text), ⟨hmem, rfl, rfl⟩, rfl⟩

theorem mem_through_iff {c : ConnectorTables} {key text : String} {i : Int} :
    i ∈ providersWith.through key text c ↔
      ∃ texts ∈ (c.rowsOf i).values.map (·.2), texts.find? key = some text := by
  rw [providersWith.through, KeySet.mem_keys_ofList]
  simp only [List.mem_filterMap, mem_ownersOf_iff, Option.map_eq_some_iff, List.mem_map,
    Dict.mem_values_iff, ConnectorTables.find?_rowsOf]
  constructor
  · rintro ⟨number, htext, row, hrow, rfl⟩
    have howned := ConnectorTables.find?_ownedBy_eq_some.mpr ⟨hrow, rfl⟩
    exact ⟨_, ⟨_, ⟨number, row, howned, rfl⟩, rfl⟩, htext⟩
  · rintro ⟨_, ⟨_, ⟨number, row, howned, rfl⟩, rfl⟩, htext⟩
    obtain ⟨hrow, howner⟩ := ConnectorTables.find?_ownedBy_eq_some.mp howned
    exact ⟨number, htext, row, hrow, howner⟩

/-- **What a look-up finds**: the providers that have a property of the key and the text among their
own rows. -/
theorem mem_providersWith_iff {scope : PropertyScope} {key text : String} {i : Int} :
    i ∈ t.providersWith scope key text ↔
      ∃ texts ∈ (t.rowsOf i).textsIn scope, texts.find? key = some text := by
  cases scope with
  | provider =>
    rw [providersWith, mem_ownersOf_iff, ProviderRows.textsIn]
    simp only [List.mem_singleton, exists_eq_left]
    rfl
  | authenticator => exact mem_through_iff
  | provisioner => exact mem_through_iff

end Tables

/-- Every property value that the provider has in a scope has the property. -/
theorem IdentityProvider.HasValues.propertiesIn {P : PropertyValue → Prop} {p : IdentityProvider}
    (hp : p.HasValues P) {scope : PropertyScope} {m : PropertyMap} (hm : m ∈ p.propertiesIn scope) :
    m.HasValues P :=
  of_mem_propertiesIn hp.properties hp.authentication hp.provisioning hm

/-- Of the properties of the key the comparison with a value says the same as that of the texts. -/
def IdentityProvider.Comparable (p : IdentityProvider) (scope : PropertyScope) (key : String)
    (value : PropertyValue) : Prop :=
  ∀ m ∈ p.propertiesIn scope, ∀ v, m.find? key = some v →
    (v.text = value.text ↔ v.same value = true)

/-- So it is for every provider of the store. -/
def MemoryStore.Comparable (m : MemoryStore) (scope : PropertyScope) (key : String)
    (value : PropertyValue) : Prop :=
  ∀ k p, m.providers.items.find? k = some p → p.Comparable scope key value

theorem MemoryStore.comparable_of_doubleFree {d : Demand} {m : MemoryStore}
    (hfree : ∀ v, d.property v → v.json.DoubleFree) (hm : m.Kept d) (scope : PropertyScope)
    (key : String) (value : PropertyValue) : m.Comparable scope key value := by
  intro k p hfind properties hmem v hv
  have hvalues := ((hm .identityProvider).meets k p hfind).2.mono hfree
  exact Json.compact_eq_iff (hvalues.propertiesIn hmem key v hv)

/-- Where the comparisons say the same, a property is found by its text as by its value. -/
theorem IdentityProvider.hasProperty_iff {p : IdentityProvider} {scope : PropertyScope}
    {key : String} {value : PropertyValue} (hp : p.Comparable scope key value) :
    p.hasProperty scope key value = true ↔
      ∃ texts ∈ (p.propertiesIn scope).map PropertyMap.texts,
        texts.find? key = some value.text := by
  rw [hasProperty, List.any_eq_true]
  simp only [List.mem_map, exists_exists_and_eq_and, PropertyMap.texts, Dict.find?_mapValues,
    Option.map_eq_some_iff, Option.any_eq_true]
  exact exists_congr fun m => and_congr_right fun hm => exists_congr fun v =>
    and_congr_right fun hv => (hp m hm v hv).symm

/-- The rows that providers own are those of the providers on the shelf. Which numbers come next,
and what else the tables hold, is left open. -/
structure Tables.HoldProviders (t : Tables) (m : MemoryStore) : Prop where
  holds : ∀ k p, m.providers.items.find? k = some p → (t.rowsOf k).Hold k p
  absent : ∀ i : Int, (∀ k : Nat, k = i → m.providers.items.find? k = none) → t.rowsOf i = {}

theorem Tables.Mirrors.holdProviders {t : Tables} {m : MemoryStore} (h : t.Mirrors m) :
    t.HoldProviders m where
  holds := h.holds
  absent i hnone := by
    refine h.referential.absent i ?_
    cases hrow : t.providers.rows.find? i with
    | none => rfl
    | some row =>
      obtain ⟨k, p, hk, hfind, -⟩ := (h.lists .identityProvider).of_find?_row hrow
      exact nomatch (hnone k hk.symm).symm.trans hfind

namespace Tables.HoldProviders

variable {t : Tables} {m : MemoryStore} {scope : PropertyScope} {key : String}
  {value : PropertyValue}

theorem mem_providersWith_iff (h : t.HoldProviders m) (hm : m.Comparable scope key value)
    (i : Int) :
    i ∈ t.providersWith scope key value.text ↔
      ∃ k p, m.providers.items.find? k = some p ∧ p.hasProperty scope key value = true ∧
        (k : Int) = i := by
  rw [Tables.mem_providersWith_iff]
  constructor
  · rintro ⟨texts, hmem, htext⟩
    by_cases hfound : ∃ (k : Nat) (p : IdentityProvider),
        k = i ∧ m.providers.items.find? k = some p
    · obtain ⟨k, p, rfl, hfind⟩ := hfound
      rw [(h.holds k p hfind).textsIn] at hmem
      exact ⟨k, p, hfind, (IdentityProvider.hasProperty_iff (hm k p hfind)).mpr
        ⟨texts, hmem, htext⟩, rfl⟩
    · -- a provider that is not there has no properties
      have hnone (k : Nat) (hk : k = i) : m.providers.items.find? k = none :=
        Option.eq_none_iff_forall_not_mem.mpr fun p hp => hfound ⟨k, p, hk, hp⟩
      rw [h.absent i hnone] at hmem
      cases scope with
      | provider =>
        rw [List.mem_singleton.mp hmem] at htext
        cases htext
      | authenticator => cases hmem
      | provisioner => cases hmem
  · rintro ⟨k, p, hfind, hproperty, rfl⟩
    rw [(h.holds k p hfind).textsIn]
    exact (IdentityProvider.hasProperty_iff (hm k p hfind)).mp hproperty

/-- The numbers of the providers with a property are the identifiers of those on the shelf, in the
same order. -/
theorem providersWith_eq (h : t.HoldProviders m) (hm : m.Comparable scope key value) :
    t.providersWith scope key value.text =
      (m.providers.items.entries.filter fun e => e.2.hasProperty scope key value).map
        fun e => (e.1 : Int) := by
  have hkeys : ((m.providers.items.filter fun _ p => p.hasProperty scope key value).embed
      fun _ p => p).keys =
      (m.providers.items.entries.filter fun e => e.2.hasProperty scope key value).map
        fun e => (e.1 : Int) := by
    simp only [Dict.keys, Dict.embed, Dict.filter, List.map_map]
    rfl
  obtain ⟨numbers, hnumbers⟩ : ∃ numbers : KeySet Int,
      t.providersWith scope key value.text = numbers.keys := by
    cases scope <;> exact ⟨_, rfl⟩
  rw [← hkeys, hnumbers]
  -- both lists ascend, so they are equal if they have the same members
  refine Dict.keys_ext fun i => ?_
  rw [← hnumbers, h.mem_providersWith_iff hm, Dict.mem_keys_embed]
  constructor
  · rintro ⟨k, p, hfind, hproperty, hk⟩
    refine ⟨k, Dict.mem_keys_iff.mpr ⟨p, ?_⟩, hk⟩
    rw [Dict.find?_filter, hfind]
    simp [hproperty]
  · rintro ⟨k, hmem, hk⟩
    obtain ⟨p, hp⟩ := Dict.mem_keys_iff.mp hmem
    rw [Dict.find?_filter, Option.filter_eq_some_iff] at hp
    exact ⟨k, p, hp.1, hp.2, hk⟩

end Tables.HoldProviders

/-! ## Answers to reads -/

namespace Database

variable {d : Demand} {db : Database} {m : MemoryStore}

/-- A name is resolved by its place on the shelf. -/
theorem result_resolve (hm : m.Kept d) (h : db.tables.Mirrors m) (e : Entity) (name : String) :
    (db.answer (.resolve e name)).result = .ok (((m.shelf e).place? name).bind Id.ofNat?) := by
  rw [answer_resolve]
  exact (mapError_eq_ok_iff _).mpr (h.resolve_eq hm e name)

/-- A look-up by property loads the provider that the store in memory finds, if it finds one. -/
theorem findByProperty_cases {scope : PropertyScope} {key : String} {value : PropertyValue}
    (h : db.tables.HoldProviders m) (hm : m.Comparable scope key value) :
    ∃ found loaded warnings, m.findByProperty scope key value = ⟨.ok found, m, warnings⟩ ∧
      db.answer (.findByProperty scope key value) =
        db.readout .findByProperty (propertyTarget scope key) loaded warnings ∧
      ((found = none ∧ loaded = .ok none) ∨
        ∃ (k : Nat) (p : IdentityProvider), found = some p ∧
          m.providers.items.find? k = some p ∧ loaded = db.tables.loadProvider k) := by
  have hvalues : (m.providers.items.values.filter fun p => p.hasProperty scope key value) =
      (m.providers.items.entries.filter fun e => e.2.hasProperty scope key value).map (·.2) := by
    rw [Dict.values, List.filter_map]
    rfl
  rw [answer_findByProperty, matched, MemoryStore.findByProperty, h.providersWith_eq hm, hvalues]
  cases hfound : m.providers.items.entries.filter fun e => e.2.hasProperty scope key value with
  | nil => exact ⟨none, _, [], rfl, rfl, .inl ⟨rfl, rfl⟩⟩
  | cons entry rest =>
    have hmem := List.mem_filter.mp (hfound ▸ List.mem_cons_self : entry ∈ List.filter _ _)
    refine ⟨some entry.2, _, _, rfl, ?_,
      .inr ⟨entry.1, entry.2, rfl, Dict.mem_entries_iff.mp hmem.1, rfl⟩⟩
    simp only [List.map_cons, List.head?_cons, Option.elim_some, ambiguity, List.length_cons,
      List.length_map]

theorem answer_findByProperty_eq (hd : d.Readable)
    (hfree : ∀ v, d.property v → v.json.DoubleFree) (hm : m.Kept d) (h : db.tables.Mirrors m)
    (scope : PropertyScope) (key : String) (value : PropertyValue) :
    db.answer (.findByProperty scope key value) =
      ⟨(m.findByProperty scope key value).result, db,
        (m.findByProperty scope key value).warnings⟩ := by
  obtain ⟨found, loaded, warnings, hmemory, hrows, hcases⟩ :=
    findByProperty_cases h.holdProviders
      (MemoryStore.comparable_of_doubleFree hfree hm scope key value)
  have hloaded : loaded = .ok found := by
    obtain ⟨rfl, rfl⟩ | ⟨k, p, rfl, hfind, rfl⟩ := hcases
    · rfl
    · rw [h.loadProvider_eq hd hm, hfind]
  rw [hmemory, hrows, hloaded]
  rfl

/-- **Reads agree.** A read is answered as on the store that the rows mirror. -/
theorem answer_of_read (hd : d.Readable) (hfree : ∀ v, d.property v → v.json.DoubleFree)
    (hm : m.Kept d) (h : db.tables.Mirrors m) {r : Request} (hr : r.isWrite = false) :
    db.answer r = ⟨(m.answer r).result, db, (m.answer r).warnings⟩ ∧ (m.answer r).store = m := by
  cases r with
  | list e enabledOnly =>
    refine ⟨?_, rfl⟩
    rw [answer_list, (h.lists e).names_eq]
    rfl
  | get e target =>
    refine ⟨?_, rfl⟩
    rw [answer_get, h.get_eq hd hm]
    rfl
  | resolve e name =>
    refine ⟨?_, rfl⟩
    rw [answer_resolve, h.resolve_eq hm]
    rfl
  | findByProperty scope key value =>
    exact ⟨answer_findByProperty_eq hd hfree hm h scope key value, rfl⟩
  | readiness => exact ⟨answer_readiness db, rfl⟩
  | create | update | updateSection | delete | switch => cases hr

end Database

end FederationRegistry
