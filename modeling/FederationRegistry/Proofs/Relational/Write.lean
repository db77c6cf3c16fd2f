import FederationRegistry.Proofs.Construction
import FederationRegistry.Proofs.Relational.Rows
import FederationRegistry.Proofs.Relational.Transaction

/-!
# What writers do to tables

Every writer of a section comes to one change of the tables, which this module names: the rows it
replaces and nothing else. Writers fail for one reason only, that no number is left for a
connector.

**What is asked of the tables.** The provider is there and every row has its owner. Then no
constraint refuses a row: rows are inserted where none of the owner is left, and the properties
of a new connector cannot be there already.

Main statements: `Metadata.settle_writeRows`, `Authentication.settle_write`,
`Provisioning.settle_write`, `PropertyMap.settle_writeMerged` and
`IdentityProvider.settle_writeSections`.
-/

set_option linter.unusedSectionVars false
set_option synthInstance.maxSize 1000

namespace FederationRegistry

open Transaction

/-! ## Owned tables -/

/-- Rows are what was put there, owners stand elsewhere, and the rows are not those of
aggregates. -/
class OwnedTable.Lawful {κ α : Type} [Key κ] (table : OwnedTable κ α) : Prop where
  rows_withRows : ∀ t rows, table.rows (table.withRows t rows) = rows := by intros; rfl
  withRows_rows : ∀ t, table.withRows t (table.rows t) = t := by intros; rfl
  withRows_withRows : ∀ t rows rows',
    table.withRows (table.withRows t rows) rows' = table.withRows t rows' := by intros; rfl
  hasOwner_withRows : ∀ t rows owner,
    table.hasOwner (table.withRows t rows) owner = table.hasOwner t owner := by intros; rfl
  aside : isMain table.table = false := by rfl

namespace OwnedTable

instance lawful_certificates : certificates.Lawful := {}

instance lawful_roleMappings : roleMappings.Lawful := {}

instance lawful_properties : properties.Lawful := {}

instance lawful_requestedClaims : requestedClaims.Lawful := {}

instance lawful_provisioningClaims : provisioningClaims.Lawful := {}

instance lawful_provisioningRoles : provisioningRoles.Lawful := {}

instance lawful_jitProviders : jitProviders.Lawful := {}

instance lawful_connectorProperties (kind : ConnectorKind) :
    (connectorProperties kind).Lawful := by
  cases kind <;> exact {}

section Aside

variable {κ α : Type} [Key κ] [DecidableEq κ] (table : OwnedTable κ α)
  [hlawful : table.Lawful] (owner : Int) (key : κ) (value : α)

theorem isMain_of_deletions {t : Tables} {c : RowChange} (hc : c ∈ table.deletions owner t) :
    isMain c.table = false := by
  obtain ⟨e, -, rfl⟩ := List.mem_map.mp hc
  exact hlawful.aside

instance aside_clear : Aside (table.clear owner) := ⟨fun _ _ => table.isMain_of_deletions owner⟩

instance aside_insert : Aside (table.insert owner key value) where
  changes _ c hc := by
    obtain rfl := List.mem_singleton.mp hc
    exact hlawful.aside

instance aside_upsert : Aside (table.upsert owner key value) where
  changes t c hc := by
    rcases List.mem_cons.mp hc with rfl | hc
    · exact hlawful.aside
    · split at hc
      · obtain rfl := List.mem_singleton.mp hc
        exact hlawful.aside
      · cases hc

end Aside

variable {κ α : Type} [Key κ] [DecidableEq κ] {table : OwnedTable κ α} {owner : Int} {t : Tables}

theorem settle_clear (table : OwnedTable κ α) (owner : Int) (t : Tables) :
    (step (table.clear owner)).settle t =
      .ok ((), table.withRows t ((table.rows t).dropOwner owner)) :=
  settle_step _ _

theorem settle_insert (howner : table.hasOwner t owner = true) {key : κ}
    (hfree : (table.rows t).find? (owner, key) = none) (value : α) :
    (step (table.insert owner key value)).settle t =
      .ok ((), table.withRows t ((table.rows t).insert (owner, key) value)) := by
  rw [settle_step]
  simp [insert, write, howner, Dict.contains, hfree]

theorem settle_upsert (howner : table.hasOwner t owner = true) (key : κ) (value : α) :
    (step (table.upsert owner key value)).settle t =
      .ok ((), table.withRows t ((table.rows t).insert (owner, key) value)) := by
  rw [settle_step]
  simp [upsert, write, howner]

/-- Rows inserted one by one. The induction goes along the rows that are left; those behind the
first have other keys, so they are still free after it. -/
theorem settle_insertAll (hl : table.Lawful) (howner : table.hasOwner t owner = true)
    {entries : List (κ × α)} (hi : Increasing entries)
    (hfree : ∀ e ∈ entries, (table.rows t).find? (owner, e.1) = none) :
    (each entries fun e => step (table.insert owner e.1 e.2)).settle t =
      .ok ((), table.withRows t
        (entries.foldl (fun d e => d.insert (owner, e.1) e.2) (table.rows t))) := by
  induction entries generalizing t with
  | nil => rw [settle_each_nil, List.foldl_nil, hl.withRows_rows]
  | cons e rest ih =>
    have hr := List.pairwise_cons.mp hi
    rw [settle_each_cons, settle_insert howner (hfree e (by simp))]
    refine (ih (by rw [hl.hasOwner_withRows, howner]) hr.2 fun e' he' => ?_).trans ?_
    · have hne : (owner, e.1) ≠ (owner, e'.1) := by simp [Key.ne_of_before (hr.1 e' he')]
      rw [hl.rows_withRows, Dict.find?_insert, if_neg hne, hfree e' (by simp [he'])]
    · simp only [hl.withRows_withRows, hl.rows_withRows, List.foldl_cons]

theorem settle_upsertAll (hl : table.Lawful) (howner : table.hasOwner t owner = true)
    (entries : List (κ × α)) :
    (each entries fun e => step (table.upsert owner e.1 e.2)).settle t =
      .ok ((), table.withRows t
        (entries.foldl (fun d e => d.insert (owner, e.1) e.2) (table.rows t))) := by
  induction entries generalizing t with
  | nil => rw [settle_each_nil, List.foldl_nil, hl.withRows_rows]
  | cons e rest ih =>
    rw [settle_each_cons, settle_upsert howner]
    refine (ih (by rw [hl.hasOwner_withRows, howner])).trans ?_
    simp only [hl.withRows_withRows, hl.rows_withRows, List.foldl_cons]

instance plain_replaceRows (table : OwnedTable κ α) [table.Lawful] (owner : Int)
    (rows : Dict κ α) : Plain (replaceRows table owner rows) := by
  unfold replaceRows
  infer_instance

/-- The rows of an owner cleared and inserted anew. -/
theorem settle_refill (hl : table.Lawful) (howner : table.hasOwner t owner = true)
    (rows : Dict κ α) :
    (each rows.entries fun e => step (table.insert owner e.1 e.2)).settle
        (table.withRows t ((table.rows t).dropOwner owner)) =
      .ok ((), table.withRows t ((table.rows t).replaceOwner owner rows)) := by
  rw [settle_insertAll hl (by rw [hl.hasOwner_withRows, howner]) rows.increasing fun e _ => by
    rw [hl.rows_withRows, Dict.find?_dropOwner, if_pos rfl]]
  rw [hl.withRows_withRows, hl.rows_withRows, Dict.replaceOwner, Dict.mergeOwner_eq_foldl]

theorem settle_replaceRows (hl : table.Lawful) (howner : table.hasOwner t owner = true)
    (rows : Dict κ α) :
    (replaceRows table owner rows).settle t =
      .ok ((), table.withRows t ((table.rows t).replaceOwner owner rows)) := by
  rw [replaceRows, settle_bind, settle_clear]
  exact settle_refill hl howner rows

end OwnedTable

/-! ## Connectors -/

namespace Tables

@[simp] theorem connectors_withConnectors (t : Tables) (kind : ConnectorKind)
    (c : ConnectorTables) : (t.withConnectors kind c).connectors kind = c := by
  cases kind <;> rfl

@[simp] theorem withConnectors_connectors (t : Tables) (kind : ConnectorKind) :
    t.withConnectors kind (t.connectors kind) = t := by
  cases kind <;> rfl

@[simp] theorem withConnectors_withConnectors (t : Tables) (kind : ConnectorKind)
    (c c' : ConnectorTables) :
    (t.withConnectors kind c).withConnectors kind c' = t.withConnectors kind c' := by
  cases kind <;> rfl

@[simp] theorem providers_withConnectors (t : Tables) (kind : ConnectorKind)
    (c : ConnectorTables) : (t.withConnectors kind c).providers = t.providers := by
  cases kind <;> rfl

end Tables

theorem isMain_ofConnectors (kind : ConnectorKind) : isMain (.ofConnectors kind) = false := by
  cases kind <;> rfl

instance aside_clearConnectors (kind : ConnectorKind) (owner : Int) :
    Aside (.clearConnectors kind owner) where
  changes t c hc := by
    obtain ⟨e, -, hc⟩ := List.mem_flatMap.mp hc
    rcases List.mem_cons.mp hc with rfl | hc
    · exact isMain_ofConnectors kind
    · exact (OwnedTable.connectorProperties kind).isMain_of_deletions e.1 hc

instance aside_insertConnector (kind : ConnectorKind) (row : ConnectorRow) :
    Aside (.insertConnector kind row) where
  changes t c hc := by
    obtain rfl := List.mem_singleton.mp hc
    exact isMain_ofConnectors kind

theorem settle_clearConnectors (kind : ConnectorKind) (owner : Int) (t : Tables) :
    (step (.clearConnectors kind owner)).settle t =
      .ok ((), t.withConnectors kind ((t.connectors kind).dropOwner owner)) :=
  settle_step _ _

/-- The failure to find a number for a row. -/
def RegistryError.rowsExhausted : RegistryError := dataFailure .full

/-- The end of a writer that may run out of numbers. -/
def ranOut (out : Option Tables) : Except RegistryError (Unit × Tables) :=
  match out with
  | none => .error .rowsExhausted
  | some t => .ok ((), t)

namespace Connector

variable {t : Tables} {kind : ConnectorKind} {owner : Int}

instance plain_write (kind : ConnectorKind) (owner : Int) (c : Connector) :
    Plain (write kind owner c) := by
  unfold write
  infer_instance

/-- A connector is inserted with its properties, unless no number is left for it. -/
theorem settle_write (hprovider : t.providers.rows.contains owner = true)
    (hrooted : (t.connectors kind).Rooted) {c : Connector}
    (hname : ∀ r ∈ ((t.connectors kind).rowsOf owner).values, r.1.name ≠ c.name) :
    (write kind owner c).settle t =
      ranOut (((t.connectors kind).add? owner c).map (t.withConnectors kind)) := by
  have hother : ((t.connectors kind).ownedBy owner).values.any (fun other => other.name == c.name)
      = false := by
    rw [List.any_eq_false]
    intro row hrow hsame
    obtain ⟨number, hfind⟩ := Dict.mem_values_iff.mp hrow
    refine hname (row, (t.connectors kind).properties.slice number) ?_ (by simpa using hsame)
    exact Dict.mem_values_iff.mpr
      ⟨number, by rw [ConnectorTables.find?_rowsOf, hfind]; rfl⟩
  rw [write, settle_bind, settle_step]
  cases hnext : (t.connectors kind).connectors.next? with
  | none => simp only [Statement.insertConnector, hnext, ConnectorTables.add?]; rfl
  | some number =>
    have hfree := SerialTable.find?_next hnext
    simp only [Statement.insertConnector, hnext, hother, hprovider, Bool.not_true,
      Bool.false_eq_true, if_false, mapError_ok, Except.bind]
    -- the texts of the properties are inserted behind the row, at a number without properties
    have htexts : (each c.properties.entries fun e =>
          step ((OwnedTable.connectorProperties kind).insert number e.1 e.2.text)) =
        each c.properties.texts.entries fun e =>
          step ((OwnedTable.connectorProperties kind).insert number e.1 e.2) :=
      (each_map (fun e : String × PropertyValue => (e.1, e.2.text)) c.properties.entries
        fun e => step ((OwnedTable.connectorProperties kind).insert number e.1 e.2)).symm
    rw [htexts, OwnedTable.settle_insertAll (OwnedTable.lawful_connectorProperties kind)
      (by simp [OwnedTable.connectorProperties, Dict.contains, SerialTable.append,
        Dict.find?_insert])
      c.properties.texts.increasing fun e _ => ?_]
    · simp only [ConnectorTables.add?, hnext, Option.map_some, ranOut, Connector.record,
        Dict.mergeOwner_eq_foldl, OwnedTable.connectorProperties,
        Tables.connectors_withConnectors, Tables.withConnectors_withConnectors]
    · have hnone := ConnectorTables.slice_of_rooted hrooted hfree
      simpa only [OwnedTable.connectorProperties, Tables.connectors_withConnectors,
        Dict.find?_slice, Dict.find?_empty] using congrArg (fun d => d.find? e.1) hnone

/-- Connectors inserted one by one. The induction goes along the connectors that are left, whose
names are not among those that are there. -/
theorem settle_writeAll (hprovider : t.providers.rows.contains owner = true)
    (hrooted : (t.connectors kind).Rooted) {cs : List Connector}
    (hnodup : (cs.map (·.name)).Nodup)
    (hnames : ∀ r ∈ ((t.connectors kind).rowsOf owner).values, ∀ c ∈ cs, r.1.name ≠ c.name) :
    (each cs (write kind owner)).settle t =
      ranOut (((t.connectors kind).addAll? owner cs).map (t.withConnectors kind)) := by
  -- by induction on the connectors: the names to come differ from those written already
  induction cs generalizing t with
  | nil => simp [ConnectorTables.addAll?, ranOut]
  | cons c cs ih =>
    rw [settle_each_cons,
      settle_write hprovider hrooted fun r hr => hnames r hr c (by simp)]
    cases hadd : (t.connectors kind).add? owner c with
    | none => simp [ConnectorTables.addAll?, hadd, ranOut, Except.bind]
    | some middle =>
      have heffect := ConnectorTables.add_effect hrooted hadd
      simp only [List.map_cons, List.nodup_cons] at hnodup
      simp only [Option.map_some, ranOut, Except.bind]
      rw [ih (by simpa using hprovider) (by simpa using heffect.rooted) hnodup.2]
      · simp only [ConnectorTables.addAll?, hadd, Option.bind_some,
          Tables.connectors_withConnectors]
        congr 2
        funext c'
        exact Tables.withConnectors_withConnectors t kind middle c'
      · intro r hr d hd
        rw [Tables.connectors_withConnectors, heffect.own, List.mem_append] at hr
        rcases hr with hr | hr
        · exact hnames r hr d (by simp [hd])
        · -- the connector just written: the names of the list are distinct
          obtain rfl : r = c.record owner := by simpa using hr
          intro hsame
          have hmem : d.name ∈ cs.map (·.name) := List.mem_map_of_mem hd
          rw [← hsame] at hmem
          exact hnodup.1 hmem

/-- The connectors of a provider dropped and others inserted. -/
theorem settle_replace (kind : ConnectorKind) (hprovider : t.providers.rows.contains owner = true)
    (hrooted : (t.connectors kind).Rooted) {m : ConnectorMap} (hm : m.Formed) :
    (each m.values (write kind owner)).settle
        (t.withConnectors kind ((t.connectors kind).dropOwner owner)) =
      ranOut (((t.connectors kind).replace? owner m.values).map (t.withConnectors kind)) := by
  rw [settle_writeAll (by simpa using hprovider)
    (by simpa using ConnectorTables.rooted_dropOwner hrooted owner)
    (ConnectorMap.nodup_names hm)]
  · simp only [Tables.connectors_withConnectors, ConnectorTables.replace?]
    congr 2
    funext c
    exact Tables.withConnectors_withConnectors t kind _ c
  · intro r hr
    rw [Tables.connectors_withConnectors, ConnectorTables.rowsOf_dropOwner_self] at hr
    cases hr

end Connector
/-! ## Metadata -/

theorem columnInteger_of_le {n : Nat} (h : n ≤ maxReferenceId) :
    columnInteger n = .ok (n : Int) := by
  have hn : (n : Int) ≤ maxColumnInteger := by
    simp only [maxColumnInteger, maxReferenceId, Word.signedLimit] at h ⊢
    omega
  rw [columnInteger, if_pos hn]

namespace Metadata

variable {m : Metadata} {t : Tables} {owner : Int}

/-- The dialect as the columns of a row hold it. -/
def dialectCells (m : Metadata) : Cell × Bool :=
  match m.claimDialect with
  | none => (.null, false)
  | some dialect => (.integer dialect.id, dialect.isLocal)

/-- The role mappings as rows. -/
def roleRows (m : Metadata) : Dict Cell String :=
  ⟨m.roleMappings.entries.map fun e => (.integer e.1, e.2),
    Dict.increasing_map (f := fun n : Nat => Cell.integer n) (g := fun _ external => external)
      (fun a b h => by rw [Cell.before_integer]; simpa [Key.before] using h)
      m.roleMappings.increasing⟩

/-- The tables with the certificates and role mappings of a provider replaced. -/
def putRows (m : Metadata) (t : Tables) (owner : Int) : Tables :=
  { t with
    certificates := t.certificates.replaceOwner owner m.certificates
    roleMappings := t.roleMappings.replaceOwner owner m.roleRows }

theorem dialectColumns_eq (hm : m.validate = .ok ()) : m.dialectColumns = .ok m.dialectCells := by
  have hdialect := (validate_ok_iff.mp hm).2.2.1
  unfold dialectColumns dialectCells
  cases hd : m.claimDialect with
  | none => rfl
  | some d =>
    simp only [columnInteger_of_le (hdialect d hd)]
    rfl

instance plain_writeRows (m : Metadata) (owner : Int) : Plain (m.writeRows owner) := by
  unfold writeRows
  infer_instance

/-- Valid metadata are written whole. -/
theorem settle_writeRows (hm : m.validate = .ok ())
    (hprovider : t.providers.rows.contains owner = true) :
    (m.writeRows owner).settle t = .ok ((), m.putRows t owner) := by
  have hroles := (validate_ok_iff.mp hm).2.2.2
  have hrows : (each m.roleMappings.entries fun e => do
        let role ← lift (columnInteger e.1)
        step (OwnedTable.roleMappings.insert owner (.integer role) e.2)) =
      each m.roleRows.entries fun e => step (OwnedTable.roleMappings.insert owner e.1 e.2) := by
    rw [roleRows, each_map]
    refine each_congr fun e he => ?_
    rw [columnInteger_of_le (hroles e he).1]
    rfl
  rw [writeRows, settle_bind,
    OwnedTable.settle_replaceRows OwnedTable.lawful_certificates hprovider]
  simp only [Except.bind, hrows]
  rw [settle_bind, OwnedTable.settle_clear]
  exact OwnedTable.settle_refill OwnedTable.lawful_roleMappings
    (t := { t with certificates := t.certificates.replaceOwner owner m.certificates })
    hprovider m.roleRows

end Metadata

/-! ## Authentication -/

namespace Authentication

variable {a : Option Authentication} {t : Tables} {owner : Int}

/-- The tables with the requested claims and authenticators of a provider replaced, if numbers are
left. -/
def putRows? (a : Option Authentication) (t : Tables) (owner : Int) : Option Tables :=
  (t.authenticators.replace? owner (a.getD {}).authenticators.values).map fun authenticators =>
    { t with
      requestedClaims := t.requestedClaims.replaceOwner owner (a.getD {}).requestedClaims
      authenticators }

instance plain_write (owner : Int) (a : Option Authentication) : Plain (write owner a) := by
  unfold write
  cases a <;> infer_instance

/-- An authentication section is written whole unless numbers run out. -/
theorem settle_write (ha : ∀ s, a = some s → s.Formed)
    (hprovider : t.providers.rows.contains owner = true) (hrooted : t.authenticators.Rooted) :
    (write owner a).settle t = ranOut (putRows? a t owner) := by
  cases a with
  | none => rfl
  | some s =>
    simp only [write, settle_bind, OwnedTable.settle_clear, settle_clearConnectors]
    have hclaims := OwnedTable.settle_refill OwnedTable.lawful_requestedClaims
      (t := { t with authenticators := t.authenticators.dropOwner owner }) hprovider
      s.requestedClaims
    have hconnectors := Connector.settle_replace .authenticator
      (t := { t with
        requestedClaims := t.requestedClaims.replaceOwner owner s.requestedClaims })
      hprovider hrooted (ha s rfl)
    refine (bind_of_ok hclaims _).trans (hconnectors.trans ?_)
    simp only [putRows?, Option.getD_some]
    rfl

end Authentication

/-! ## Provisioning -/

namespace Provisioning

variable {p : Provisioning} {t : Tables} {owner : Int}

/-- The default values of the claims. -/
def defaults (p : Provisioning) : Dict String (Option String) :=
  p.claims.mapValues fun _ c => c.defaultValue

/-- The tables with the provisioning of a provider replaced, if numbers are left. -/
def putRows? (p : Provisioning) (t : Tables) (owner : Int) : Option Tables :=
  (t.provisioners.replace? owner p.provisioners.values).map fun provisioners =>
    { t with
      jitProviders := t.jitProviders.replaceOwner owner p.jitProviders
      provisioningClaims := t.provisioningClaims.replaceOwner owner p.defaults
      provisioningRoles := t.provisioningRoles.replaceOwner owner p.roles
      provisioners }

instance plain_write (owner : Int) (p : Provisioning) : Plain (p.write owner) := by
  unfold write
  infer_instance

/-- A provisioning section is written whole unless numbers run out. -/
theorem settle_write (hp : p.Formed) (hprovider : t.providers.rows.contains owner = true)
    (hrooted : t.provisioners.Rooted) :
    (p.write owner).settle t = ranOut (p.putRows? t owner) := by
  -- a claim is filed under its address, so the statements go by the entries
  have hdefaults : (each p.claims.values fun c =>
        step (OwnedTable.provisioningClaims.insert owner c.uri c.defaultValue)) =
      each p.defaults.entries fun e =>
        step (OwnedTable.provisioningClaims.insert owner e.1 e.2) := by
    rw [Dict.values, defaults, Dict.mapValues, each_map, each_map]
    refine each_congr fun e he => ?_
    rw [(hp.claims e.1 e.2 (Dict.mem_entries_iff.mp he)).1]
  have hjit := OwnedTable.settle_refill OwnedTable.lawful_jitProviders
    (t := { t with
      provisioningClaims := t.provisioningClaims.dropOwner owner
      provisioningRoles := t.provisioningRoles.dropOwner owner
      provisioners := t.provisioners.dropOwner owner }) hprovider p.jitProviders
  have hclaims := OwnedTable.settle_refill OwnedTable.lawful_provisioningClaims
    (t := { t with
      jitProviders := t.jitProviders.replaceOwner owner p.jitProviders
      provisioningRoles := t.provisioningRoles.dropOwner owner
      provisioners := t.provisioners.dropOwner owner }) hprovider p.defaults
  have hroles := OwnedTable.settle_refill OwnedTable.lawful_provisioningRoles
    (t := { t with
      jitProviders := t.jitProviders.replaceOwner owner p.jitProviders
      provisioningClaims := t.provisioningClaims.replaceOwner owner p.defaults
      provisioners := t.provisioners.dropOwner owner }) hprovider p.roles
  have hconnectors := Connector.settle_replace .provisioner
    (t := { t with
      jitProviders := t.jitProviders.replaceOwner owner p.jitProviders
      provisioningClaims := t.provisioningClaims.replaceOwner owner p.defaults
      provisioningRoles := t.provisioningRoles.replaceOwner owner p.roles })
    hprovider hrooted hp.provisioners
  rw [write, hdefaults]
  -- all tables are cleared first, so each refill starts from its own empty rows
  simp only [settle_bind, OwnedTable.settle_clear, settle_clearConnectors]
  refine (bind_of_ok hjit _).trans ((bind_of_ok hclaims _).trans ?_)
  refine (bind_of_ok hroles _).trans (hconnectors.trans ?_)
  simp only [putRows?]
  rfl

end Provisioning

/-! ## Properties -/

theorem Transaction.each_filter {β : Type} (p : β → Bool) (bs : List β)
    (step : β → Transaction Unit) :
    (each bs fun b => if p b = true then step b else pure ()) = each (bs.filter p) step := by
  induction bs with
  | nil => rfl
  | cons b bs ih =>
    rw [each, ih]
    by_cases hb : p b = true
    · rw [if_pos hb, List.filter_cons_of_pos hb, each]
    · rw [if_neg hb, List.filter_cons_of_neg hb]
      rfl

namespace PropertyMap

variable {m : PropertyMap} {t : Tables} {owner : Int}

/-- The properties that can be set. -/
def settables (m : PropertyMap) : PropertyMap := m.filter settable

/-- The tables with the settable properties of a map set for a provider. -/
def mergeRows (m : PropertyMap) (t : Tables) (owner : Int) : Tables :=
  { t with properties := t.properties.mergeOwner owner m.settables.texts }

/-- The tables with the properties of a provider replaced. -/
def putRows (m : PropertyMap) (t : Tables) (owner : Int) : Tables :=
  { t with properties := t.properties.replaceOwner owner m.settables.texts }

theorem settables_of_kept (h : m.Kept) : m.settables = m :=
  Dict.filter_eq_self (kept_iff.mp h)

instance plain_writeMerged (owner : Int) (delta : PropertyMap) :
    Plain (delta.writeMerged owner) := by
  unfold writeMerged
  infer_instance

instance plain_writeAll (owner : Int) (m : PropertyMap) : Plain (m.writeAll owner) := by
  unfold writeAll
  infer_instance

/-- The settable properties are merged. -/
theorem settle_writeMerged (hprovider : t.providers.rows.contains owner = true) :
    (m.writeMerged owner).settle t = .ok ((), m.mergeRows t owner) := by
  have hrows : m.writeMerged owner =
      each m.settables.texts.entries fun e =>
        step (OwnedTable.properties.upsert owner e.1 e.2) := by
    rw [writeMerged, each_filter (fun e : String × PropertyValue => settable e.1 e.2), texts,
      Dict.mapValues, each_map]
    rfl
  rw [hrows, OwnedTable.settle_upsertAll OwnedTable.lawful_properties hprovider,
    mergeRows, Dict.mergeOwner_eq_foldl]
  rfl

theorem settle_writeAll (hprovider : t.providers.rows.contains owner = true) :
    (m.writeAll owner).settle t = .ok ((), m.putRows t owner) := by
  rw [writeAll, settle_bind, OwnedTable.settle_clear]
  exact settle_writeMerged (t := { t with properties := t.properties.dropOwner owner }) hprovider

end PropertyMap

/-! ## All sections -/

namespace IdentityProvider

variable {p : IdentityProvider} {t : Tables} {number : Int}

/-- The tables with all sections of a provider replaced, if numbers are left. -/
def putRows? (p : IdentityProvider) (t : Tables) (number : Int) : Option Tables :=
  (Authentication.putRows? p.authentication (p.metadata.putRows t number) number).bind fun t =>
    (p.provisioning.putRows? t number).map fun t => p.properties.putRows t number

instance plain_writeSections (p : IdentityProvider) (number : Int) :
    Plain (p.writeSections number) := by
  unfold writeSections
  infer_instance

/-- A sound provider is written whole unless numbers run out. -/
theorem settle_writeSections (hp : p.Sound) (hprovider : t.providers.rows.contains number = true)
    (hrooted : ∀ kind, (t.connectors kind).Rooted) :
    (p.writeSections number).settle t = ranOut (p.putRows? t number) := by
  obtain ⟨hmetadata, -, -, -, -⟩ := validate_ok_iff.mp hp.valid
  rw [writeSections, settle_bind, Metadata.settle_writeRows hmetadata hprovider]
  simp only [Except.bind]
  rw [settle_bind, Authentication.settle_write (t := p.metadata.putRows t number)
    (fun a ha => (hp.authentication a ha).1) hprovider (hrooted .authenticator), putRows?]
  cases ha : Authentication.putRows? p.authentication (p.metadata.putRows t number) number with
  | none => rfl
  | some t' =>
    -- the authentication wrote to its connectors only
    obtain ⟨hproviders, hprovisioners⟩ : t'.providers = t.providers ∧
        t'.provisioners = t.provisioners := by
      obtain ⟨c, -, rfl⟩ := Option.map_eq_some_iff.mp ha
      exact ⟨rfl, rfl⟩
    simp only [ranOut, Except.bind, Option.bind_some]
    rw [settle_bind, Provisioning.settle_write hp.provisioning (hproviders ▸ hprovider)
      (hprovisioners ▸ hrooted .provisioner)]
    cases hprov : p.provisioning.putRows? t' number with
    | none => rfl
    | some t'' =>
      obtain ⟨c, -, rfl⟩ := Option.map_eq_some_iff.mp hprov
      refine PropertyMap.settle_writeAll ?_
      rw [hproviders]
      exact hprovider

end IdentityProvider

end FederationRegistry
