import FederationRegistry.Proofs.Relational.Effect
import FederationRegistry.Store.Relational

/-!
# What the transactions of a store come to

For every write of the store this module gives the outcome of its transaction when nothing is
refused, as a case distinction over what it finds in the tables: a number for the new row, the row
that it addresses, another row of the same name, numbers for connectors. The order of the cases
is the order in which failures are detected.

Main statements: `IdentityProvider.settle_insertRows`, `IdentityProvider.settle_updateRows`,
`SectionUpdate.settle_writeRows` and their likes; `IdentityProvider.written_of_insert` and
`IdentityProvider.written_of_update` say what a write of a whole provider leaves.
-/

set_option synthInstance.maxSize 1000

namespace FederationRegistry

open Transaction

/-! ## Identifiers -/

namespace Id

variable {e : Entity} {id : Id e} {number : Int}

theorem ofRowNumber_eq_ok_iff : ofRowNumber number = .ok id ↔ (id.value : Int) = number := by
  unfold ofRowNumber
  have hpositive := id.inRange.1
  split
  · simp only [reduceCtorEq, false_iff]
    omega
  · cases hid : ofNat? (e := e) number.toNat with
    | some i =>
      have hi := ofNat?_eq_some_iff.mp hid
      simp only [Except.ok.injEq]
      constructor
      · rintro rfl; omega
      · intro h; exact Id.ext (by omega)
    | none =>
      simp only [reduceCtorEq, false_iff]
      intro h
      rw [ofNat?_eq_some_iff.mpr (by omega : id.value = number.toNat)] at hid
      cases hid

theorem rowNumber?_eq_some_iff :
    id.rowNumber? = some number ↔ (id.value : Int) = number ∧ number ≤ maxColumnInteger := by
  unfold rowNumber?
  split <;> simp only [Option.some.injEq, reduceCtorEq, false_iff] <;> omega

end Id

/-! ## Rows of aggregates -/

namespace EntityTable

variable {ρ : Type}

theorem settle_insert (e : EntityTable ρ) (report : EngineFailure → RegistryError) (row : ρ)
    (t : Tables) :
    (execute report (e.insert row)).settle t =
      match (e.rows t).next? with
      | none => .error (report .full)
      | some number =>
        if e.isNameTaken t number (e.name row) then .error (report e.nameTaken)
        else .ok (number, e.withRows t ((e.rows t).append number row)) := by
  rw [settle_execute]
  simp only [insert]
  cases (e.rows t).next? with
  | none => rfl
  | some number => dsimp only; split <;> rfl

theorem settle_update_none (e : EntityTable ρ) (report : EngineFailure → RegistryError)
    {number : Int} {t : Tables} (h : (e.rows t).rows.find? number = none) (change : ρ → ρ) :
    (execute report (e.update number change)).settle t = .ok (false, t) := by
  rw [settle_execute]
  simp only [update, h]
  rfl

theorem settle_update_some (e : EntityTable ρ) (report : EngineFailure → RegistryError)
    {number : Int} {t : Tables} {row : ρ} (h : (e.rows t).rows.find? number = some row)
    (change : ρ → ρ) :
    (execute report (e.update number change)).settle t =
      if e.isNameTaken t number (e.name (change row)) then .error (report e.nameTaken)
      else .ok (true,
        e.withRows t ((e.rows t).withRows ((e.rows t).rows.insert number (change row)))) := by
  rw [settle_execute]
  simp only [update, h]
  split <;> rfl

end EntityTable

/-- The tables with a new application row. -/
def Tables.appendApplication (t : Tables) (number : Int) (row : ApplicationRow) : Tables :=
  { t with applications := t.applications.append number row }

/-- The tables without an application. -/
def Tables.dropApplication (t : Tables) (number : Int) : Tables :=
  { t with applications := t.applications.withRows (t.applications.rows.erase number) }

/-- The tables with another row for an application. -/
def Tables.putApplication (t : Tables) (number : Int) (row : ApplicationRow) : Tables :=
  { t with applications := t.applications.withRows (t.applications.rows.insert number row) }

theorem settle_insertProvider (row : ProviderRow) (t : Tables) :
    (execute (rowFailure .identityProvider row.name) (EntityTable.providers.insert row)).settle t =
      match t.providers.next? with
      | none => .error .rowsExhausted
      | some number =>
        if EntityTable.providers.isNameTaken t number row.name then
          .error (.nameTaken .identityProvider row.name)
        else .ok (number, t.appendProvider number row) :=
  EntityTable.settle_insert EntityTable.providers _ row t

theorem settle_updateProvider (name : String) (number : Int) (change : ProviderRow → ProviderRow)
    (t : Tables) :
    (execute (rowFailure .identityProvider name)
        (EntityTable.providers.update number change)).settle t =
      match t.providers.rows.find? number with
      | none => .ok (false, t)
      | some row =>
        if EntityTable.providers.isNameTaken t number (change row).name then
          .error (.nameTaken .identityProvider name)
        else .ok (true, t.putProvider number (change row)) := by
  cases hrow : t.providers.rows.find? number with
  | none => exact EntityTable.settle_update_none EntityTable.providers _ hrow change
  | some row => exact EntityTable.settle_update_some EntityTable.providers _ hrow change

theorem settle_insertApplication (row : ApplicationRow) (t : Tables) :
    (execute (rowFailure .serviceProvider row.name) (EntityTable.applications.insert row)).settle
        t =
      match t.applications.next? with
      | none => .error .rowsExhausted
      | some number =>
        if EntityTable.applications.isNameTaken t number row.name then
          .error (.nameTaken .serviceProvider row.name)
        else .ok (number, t.appendApplication number row) :=
  EntityTable.settle_insert EntityTable.applications _ row t

theorem settle_updateApplication (name : String) (number : Int)
    (change : ApplicationRow → ApplicationRow) (t : Tables) :
    (execute (rowFailure .serviceProvider name)
        (EntityTable.applications.update number change)).settle t =
      match t.applications.rows.find? number with
      | none => .ok (false, t)
      | some row =>
        if EntityTable.applications.isNameTaken t number (change row).name then
          .error (.nameTaken .serviceProvider name)
        else .ok (true, t.putApplication number (change row)) := by
  cases hrow : t.applications.rows.find? number with
  | none => exact EntityTable.settle_update_none EntityTable.applications _ hrow change
  | some row => exact EntityTable.settle_update_some EntityTable.applications _ hrow change

/-! ## Whole aggregates -/

namespace IdentityProvider

variable {p : IdentityProvider} {t : Tables}

instance steady_insertRows (p : IdentityProvider) : Steady p.insertRows := by
  unfold insertRows
  infer_instance

instance steady_updateRows (p : IdentityProvider) (id : ProviderId) (number : Int) :
    Steady (p.updateRows id number) := by
  unfold updateRows
  infer_instance

/-- A provider is inserted under the next number, unless its name is taken or numbers run out. -/
theorem settle_insertRows (hp : p.Sound) (hrooted : ∀ kind, (t.connectors kind).Rooted) :
    p.insertRows.settle t =
      match t.providers.next? with
      | none => .error .rowsExhausted
      | some number =>
        if EntityTable.providers.isNameTaken t number p.name then
          .error (.nameTaken .identityProvider p.name)
        else
          match p.putRows? (t.appendProvider number p.storedRow) number with
          | none => .error .rowsExhausted
          | some t' =>
            ((Id.ofRowNumber number).mapError RegistryError.ofStore).map fun id => (id, t') := by
  obtain ⟨hmetadata, -, -, -, -⟩ := validate_ok_iff.mp hp.valid
  -- valid metadata fits the columns, so the row is there to insert
  rw [insertRows, settle_bind, settle_lift, row_eq hmetadata]
  refine (bind_of_ok (rfl : _ = Except.ok (p.storedRow, t)) _).trans ?_
  rw [settle_bind, show p.name = p.storedRow.name from rfl, settle_insertProvider]
  cases t.providers.next? with
  | none => rfl
  | some number =>
    dsimp only
    split
    · rfl
    · simp only [Except.bind]
      rw [settle_bind, settle_writeSections (t := t.appendProvider number p.storedRow) hp
        (by simp [Tables.appendProvider, SerialTable.append, Dict.contains, Dict.find?_insert])
        (fun kind => by rw [Tables.connectors_appendProvider]; exact hrooted kind)]
      cases p.putRows? (t.appendProvider number p.storedRow) number with
      | none => rfl
      | some t' => exact settle_lift _ _

/-- A provider that is there is replaced, unless its name is taken or numbers run out. -/
theorem settle_updateRows (hp : p.Sound) (hrooted : ∀ kind, (t.connectors kind).Rooted)
    (id : ProviderId) (number : Int) :
    (p.updateRows id number).settle t =
      match t.providers.rows.find? number with
      | none => .error (.noSuchId id)
      | some _ =>
        if EntityTable.providers.isNameTaken t number p.name then
          .error (.nameTaken .identityProvider p.name)
        else ranOut (p.putRows? (t.putProvider number p.storedRow) number) := by
  obtain ⟨hmetadata, -, -, -, -⟩ := validate_ok_iff.mp hp.valid
  rw [updateRows, settle_bind, settle_lift, row_eq hmetadata]
  refine (bind_of_ok (rfl : _ = Except.ok (p.storedRow, t)) _).trans ?_
  rw [settle_bind, show p.name = p.storedRow.name from rfl, settle_updateProvider]
  cases t.providers.rows.find? number with
  | none => rfl
  | some row =>
    dsimp only
    split
    · rfl
    · exact settle_writeSections (t := t.putProvider number p.storedRow) hp
        (by simp [Tables.putProvider, SerialTable.withRows, Dict.contains, Dict.find?_insert])
        (fun kind => by rw [Tables.connectors_putProvider]; exact hrooted kind)

/-- **What an insertion leaves.** -/
theorem written_of_insert (hp : p.Sound) (hrooted : ∀ kind, (t.connectors kind).Rooted)
    {id : ProviderId} {t' : Tables} (h : p.insertRows.settle t = .ok (id, t')) :
    t.providers.next? = some (id.value : Int) ∧
      t'.providers = t.providers.append id.value p.storedRow ∧
      (t'.rowsOf id.value).Hold id.value p ∧ t.Rewrites t' id.value p.count := by
  rw [settle_insertRows hp hrooted] at h
  cases hnext : t.providers.next? with
  | none => rw [hnext] at h; cases h
  | some number =>
    rw [hnext] at h
    dsimp only at h
    split at h
    · cases h
    · cases hput : p.putRows? (t.appendProvider number p.storedRow) number with
      | none => rw [hput] at h; cases h
      | some t'' =>
        rw [hput] at h
        cases hid : (Id.ofRowNumber number : Except StoreError ProviderId) with
        | error err => simp only [hid] at h; cases h
        | ok i =>
          simp only [hid] at h
          cases h
          obtain rfl := Id.ofRowNumber_eq_ok_iff.mp hid
          have happend := Tables.rewrites_appendProvider hrooted id.value p.storedRow
          obtain ⟨hhold, hrewrites, hproviders⟩ := hold_putRows hp happend.rooted
            (by simp [Tables.appendProvider, SerialTable.append, Dict.find?_insert]) hput
          refine ⟨rfl, hproviders, hhold, ?_⟩
          have hall := happend.trans hrewrites
          simp only [Nat.zero_add] at hall
          exact hall

/-- **What an update leaves.** -/
theorem written_of_update (hp : p.Sound) (hrooted : ∀ kind, (t.connectors kind).Rooted)
    {id : ProviderId} {number : Int} {t' : Tables}
    (h : (p.updateRows id number).settle t = .ok ((), t')) :
    t'.providers = (t.putProvider number p.storedRow).providers ∧
      (t'.rowsOf number).Hold number p ∧ t.Rewrites t' number p.count := by
  rw [settle_updateRows hp hrooted] at h
  cases hrow : t.providers.rows.find? number with
  | none => rw [hrow] at h; cases h
  | some row =>
    rw [hrow] at h
    dsimp only at h
    split at h
    · cases h
    · cases hput : p.putRows? (t.putProvider number p.storedRow) number with
      | none => rw [hput] at h; cases h
      | some t'' =>
        rw [hput] at h
        cases h
        -- the new row first, then the sections behind it
        have hreplace := Tables.rewrites_putProvider hrooted number p.storedRow
        obtain ⟨hhold, hrewrites, hproviders⟩ := hold_putRows hp hreplace.rooted
          (by simp [Tables.putProvider, SerialTable.withRows, Dict.find?_insert]) hput
        refine ⟨hproviders, hhold, ?_⟩
        have hall := hreplace.trans hrewrites
        simp only [Nat.zero_add] at hall
        exact hall

end IdentityProvider

namespace ServiceProvider

variable {p : ServiceProvider} {t : Tables}

instance steady_insertRows (p : ServiceProvider) : Steady p.insertRows := by
  unfold insertRows
  infer_instance

instance steady_updateRows (p : ServiceProvider) (id : ServiceProviderId) (number : Int) :
    Steady (p.updateRows id number) := by
  unfold updateRows
  infer_instance

theorem settle_insertRows (p : ServiceProvider) (t : Tables) :
    p.insertRows.settle t =
      match t.applications.next? with
      | none => .error .rowsExhausted
      | some number =>
        if EntityTable.applications.isNameTaken t number p.name then
          .error (.nameTaken .serviceProvider p.name)
        else
          ((Id.ofRowNumber number).mapError RegistryError.ofStore).map
            fun id => (id, t.appendApplication number p.row) := by
  rw [insertRows, settle_bind, show p.name = p.row.name from rfl, settle_insertApplication]
  cases t.applications.next? with
  | none => rfl
  | some number =>
    dsimp only
    split
    · rfl
    · exact settle_lift _ _

theorem settle_updateRows (p : ServiceProvider) (id : ServiceProviderId) (number : Int)
    (t : Tables) :
    (p.updateRows id number).settle t =
      match t.applications.rows.find? number with
      | none => .error (.noSuchId id)
      | some _ =>
        if EntityTable.applications.isNameTaken t number p.name then
          .error (.nameTaken .serviceProvider p.name)
        else .ok ((), t.putApplication number p.row) := by
  rw [updateRows, settle_bind, show p.name = p.row.name from rfl, settle_updateApplication]
  cases t.applications.rows.find? number with
  | none => rfl
  | some row => dsimp only; split <;> rfl

/-- **What an insertion leaves.** -/
theorem written_of_insert {id : ServiceProviderId} {t' : Tables}
    (h : p.insertRows.settle t = .ok (id, t')) :
    (id.value : Int) ≤ maxColumnInteger ∧
      EntityTable.applications.isNameTaken t id.value p.name = false ∧
      t' = t.appendApplication id.value p.row := by
  rw [settle_insertRows] at h
  cases hnext : t.applications.next? with
  | none => rw [hnext] at h; cases h
  | some number =>
    rw [hnext] at h
    dsimp only at h
    split at h
    · cases h
    · rename_i hfree
      cases hid : (Id.ofRowNumber number : Except StoreError ServiceProviderId) with
      | error err => rw [hid] at h; cases h
      | ok i =>
        rw [hid] at h
        cases h
        obtain rfl := Id.ofRowNumber_eq_ok_iff.mp hid
        have hroom := SerialTable.next?_eq_some_iff.mp hnext
        exact ⟨by omega, by simpa using hfree, rfl⟩

/-- **What an update leaves.** -/
theorem written_of_update {id : ServiceProviderId} {number : Int} {t' : Tables}
    (h : (p.updateRows id number).settle t = .ok ((), t')) :
    EntityTable.applications.isNameTaken t number p.name = false ∧
      t' = t.putApplication number p.row := by
  rw [settle_updateRows] at h
  cases hrow : t.applications.rows.find? number with
  | none => rw [hrow] at h; cases h
  | some row =>
    rw [hrow] at h
    dsimp only at h
    split at h
    · cases h
    · rename_i hfree
      cases h
      exact ⟨by simpa using hfree, rfl⟩

end ServiceProvider

/-! ## Sections -/

namespace SectionUpdate

variable {t : Tables} {id : ProviderId} {number : Int}

instance plain_requireProvider (id : ProviderId) (number : Int) :
    Plain (requireProvider id number) := by
  unfold requireProvider
  infer_instance

/-- How metadata are written once the stored name is known. -/
def continueMetadata (id : ProviderId) (number : Int) (m : Metadata) :
    Option String → Transaction Unit
  | none => throw (.noSuchId id)
  | some name =>
    match (ProviderKind.ofName name).checkMetadata m with
    | .error err => throw (.ofModel err)
    | .ok () => do
      let dialect ← lift m.dialectColumns
      let _ ←
        execute (rowFailure .identityProvider m.name)
          (EntityTable.providers.update number (m.intoRow dialect))
      m.writeRows number

theorem writeMetadata_eq (id : ProviderId) (number : Int) (m : Metadata) :
    writeMetadata id number m =
      step (.query fun t => (t.providers.rows.find? number).map (·.name)) >>=
        continueMetadata id number m := by
  unfold writeMetadata
  congr 1

instance steady_continueMetadata (id : ProviderId) (number : Int) (m : Metadata)
    (stored : Option String) : Steady (continueMetadata id number m stored) := by
  unfold continueMetadata
  cases stored with
  | none => exact steady_throw _
  | some name =>
    dsimp only
    cases (ProviderKind.ofName name).checkMetadata m with
    | error err => exact steady_throw _
    | ok _ => dsimp only; infer_instance

instance steady_writeMetadata (id : ProviderId) (number : Int) (m : Metadata) :
    Steady (writeMetadata id number m) := by
  rw [writeMetadata_eq]
  infer_instance

instance steady_writeRows (id : ProviderId) (number : Int) (s : SectionUpdate) :
    Steady (s.writeRows id number) := by
  cases s <;> unfold writeRows <;> infer_instance

theorem settle_requireProvider (id : ProviderId) (number : Int) (t : Tables) :
    (requireProvider id number).settle t =
      if t.providers.rows.contains number then .ok ((), t) else .error (.noSuchId id) := by
  rw [requireProvider, settle_bind, settle_step]
  simp only [Statement.query, mapError_ok, Except.bind]
  cases t.providers.rows.contains number <;> rfl

/-- What is written behind the check is written to a provider that is there. -/
theorem settle_requireProvider_bind {α : Type} (id : ProviderId) (number : Int)
    (next : Unit → Transaction α) [Steady (next ())] (t : Tables) :
    (requireProvider id number >>= next).settle t =
      match t.providers.rows.find? number with
      | none => .error (.noSuchId id)
      | some _ => (next ()).settle t := by
  have (u : Unit) : Steady (next u) := inferInstanceAs (Steady (next ()))
  rw [settle_bind, settle_requireProvider, Dict.contains]
  cases t.providers.rows.find? number <;> rfl

/-- The tables with a section of a provider written into them, if numbers are left for its
connectors. -/
def putRows? (s : SectionUpdate) (t : Tables) (number : Int) (row : ProviderRow) :
    Option Tables :=
  match s with
  | .metadata m => some (m.putRows (t.putProvider number (m.intoRow m.dialectCells row)) number)
  | .authentication a => Authentication.putRows? a.nonempty? t number
  | .provisioning p => p.putRows? t number
  | .properties delta => some (delta.mergeRows t number)

/-- What refuses a valid section for the provider of a row: metadata need a name that suits its
kind and that no other provider has. -/
def refusal? (s : SectionUpdate) (t : Tables) (number : Int) (row : ProviderRow) :
    Option RegistryError :=
  match s with
  | .metadata m =>
    match (ProviderKind.ofName row.name).checkMetadata m with
    | .error err => some (.ofModel err)
    | .ok () =>
      if EntityTable.providers.isNameTaken t number m.name then
        some (.nameTaken .identityProvider m.name)
      else none
  | _ => none

/-- A refusal says the same in any context. -/
theorem inContext_of_refusal? {s : SectionUpdate} {row : ProviderRow} {err : RegistryError}
    (h : s.refusal? t number row = some err) (operation target : String) :
    err.inContext operation target = err := by
  cases s with
  | metadata m =>
    simp only [refusal?] at h
    cases hcheck : (ProviderKind.ofName row.name).checkMetadata m with
    | error e => rw [hcheck] at h; cases h; rfl
    | ok _ =>
      rw [hcheck] at h
      dsimp only at h
      split at h
      · cases h; rfl
      · cases h
  | authentication a => cases h
  | provisioning p => cases h
  | properties delta => cases h

/-- Metadata are checked against the name that stands in the row, and the row is changed before the
rows that it owns. -/
theorem settle_writeMetadata {m : Metadata} (hvalid : m.validate = .ok ()) (id : ProviderId)
    (number : Int) :
    (writeMetadata id number m).settle t =
      match t.providers.rows.find? number with
      | none => .error (.noSuchId id)
      | some row =>
        match refusal? (.metadata m) t number row with
        | some err => .error err
        | none => ranOut (putRows? (.metadata m) t number row) := by
  rw [writeMetadata_eq, settle_bind, settle_step]
  simp only [Statement.query, mapError_ok, Except.bind]
  cases hrow : t.providers.rows.find? number with
  | none => rfl
  | some row =>
    simp only [Option.map_some, refusal?, continueMetadata]
    cases (ProviderKind.ofName row.name).checkMetadata m with
    | error err => rfl
    | ok _ =>
      simp only
      rw [settle_bind, settle_lift, Metadata.dialectColumns_eq hvalid]
      refine (bind_of_ok (rfl : _ = Except.ok (m.dialectCells, t)) _).trans ?_
      rw [settle_bind, settle_updateProvider, hrow]
      simp only [show (m.intoRow m.dialectCells row).name = m.name from rfl]
      split
      · rfl
      · exact Metadata.settle_writeRows hvalid
          (by simp [Tables.putProvider, SerialTable.withRows, Dict.contains, Dict.find?_insert])

/-- A section of a provider that is there is written, unless it is refused or numbers run out. -/
theorem settle_writeRows {s : SectionUpdate} (hs : s.Built)
    (hrooted : ∀ kind, (t.connectors kind).Rooted) (id : ProviderId) (number : Int) :
    (s.writeRows id number).settle t =
      match t.providers.rows.find? number with
      | none => .error (.noSuchId id)
      | some row =>
        match s.refusal? t number row with
        | some err => .error err
        | none => ranOut (s.putRows? t number row) := by
  have hcontains {row : ProviderRow} (hrow : t.providers.rows.find? number = some row) :
      t.providers.rows.contains number = true := Dict.contains_iff.mpr ⟨row, hrow⟩
  cases s with
  | metadata m =>
    exact settle_writeMetadata (Metadata.Built.valid hs) id number
  | authentication a =>
    rw [writeRows, settle_requireProvider_bind]
    cases hrow : t.providers.rows.find? number with
    | none => rfl
    | some row =>
      exact Authentication.settle_write
        (fun s h => (Authentication.nonempty?_eq_some h).1 ▸ hs.1.formed)
        (hcontains hrow) (hrooted .authenticator)
  | provisioning p =>
    rw [writeRows, settle_requireProvider_bind]
    cases hrow : t.providers.rows.find? number with
    | none => rfl
    | some row => exact Provisioning.settle_write hs.1.formed (hcontains hrow) (hrooted .provisioner)
  | properties delta =>
    rw [writeRows, settle_requireProvider_bind]
    cases hrow : t.providers.rows.find? number with
    | none => rfl
    | some row => exact PropertyMap.settle_writeMerged (hcontains hrow)

/-- The number of connectors of a kind in the section. -/
def count (s : SectionUpdate) (kind : ConnectorKind) : Nat :=
  match s, kind with
  | .authentication a, .authenticator => Authentication.count a.nonempty?
  | .provisioning p, .provisioner => p.count
  | _, _ => 0

/-- What a section makes of the rows of its provider, connectors under any numbers. -/
def Turns (s : SectionUpdate) (number : Int) (r r' : ProviderRows) : Prop :=
  match s with
  | .metadata m =>
    r' = { r with
      row := r.row.map (m.intoRow m.dialectCells)
      certificates := m.certificates
      roleMappings := m.roleRows }
  | .authentication a =>
    ∃ records,
      records.values =
        (a.nonempty?.getD {}).authenticators.values.map (Connector.record number) ∧
      r' = { r with
        requestedClaims := (a.nonempty?.getD {}).requestedClaims
        authenticators := records }
  | .provisioning p =>
    ∃ records,
      records.values = p.provisioners.values.map (Connector.record number) ∧
      r' = { r with
        jitProviders := p.jitProviders
        provisioningClaims := p.defaults
        provisioningRoles := p.roles
        provisioners := records }
  | .properties delta => r' = { r with properties := r.properties.merge delta.settables.texts }

/-- **A write of a section** changes the rows of one provider, and of those its own. -/
theorem turns_putRows {s : SectionUpdate} (hrooted : ∀ kind, (t.connectors kind).Rooted)
    {row : ProviderRow} (hrow : t.providers.rows.find? number = some row) {t' : Tables}
    (h : s.putRows? t number row = some t') :
    s.Turns number (t.rowsOf number) (t'.rowsOf number) ∧ t.Rewrites t' number s.count := by
  cases s with
  | metadata m =>
    cases h
    have hput := Tables.rewrites_putProvider hrooted number (m.intoRow m.dialectCells row)
    refine ⟨?_, ?_⟩
    · have hstored : (t.rowsOf number).row = some row := hrow
      rw [Turns, Metadata.rowsOf_putRows, Tables.rowsOf_putProvider, hstored]
      rfl
    · have hall := hput.trans (m.rewrites_putRows hput.rooted number)
      -- two writes in a row, of which neither adds a connector
      have hcount : count (.metadata m) = fun _ => 0 + 0 := by funext kind; cases kind <;> rfl
      rw [hcount]
      exact hall
  | authentication a =>
    refine ⟨Authentication.rowsOf_putRows (hrooted .authenticator) h, ?_⟩
    have hcount : count (.authentication a) = fun kind =>
        if kind = .authenticator then Authentication.count a.nonempty? else 0 := by
      funext kind; cases kind <;> rfl
    rw [hcount]
    exact Authentication.rewrites_putRows hrooted h
  | provisioning p =>
    refine ⟨Provisioning.rowsOf_putRows (hrooted .provisioner) h, ?_⟩
    have hcount : count (.provisioning p) = fun kind =>
        if kind = .provisioner then p.count else 0 := by
      funext kind; cases kind <;> rfl
    rw [hcount]
    exact Provisioning.rewrites_putRows hrooted h
  | properties delta =>
    cases h
    refine ⟨delta.rowsOf_mergeRows t number, ?_⟩
    have hcount : count (.properties delta) = fun _ => 0 := by funext kind; cases kind <;> rfl
    rw [hcount]
    exact delta.rewrites_mergeRows hrooted number

/-- A section is written whole when numbers are left for its connectors. -/
theorem putRows?_isSome {s : SectionUpdate} (h : ∀ kind, (t.connectors kind).HasRoom (s.count kind))
    (number : Int) (row : ProviderRow) : ∃ t', s.putRows? t number row = some t' := by
  cases s with
  | metadata m => exact ⟨_, rfl⟩
  | authentication a =>
    obtain ⟨c, hc⟩ := ConnectorTables.replace?_isSome (h .authenticator) number
    exact ⟨_, Option.map_eq_some_iff.mpr ⟨c, hc, rfl⟩⟩
  | provisioning p =>
    obtain ⟨c, hc⟩ := ConnectorTables.replace?_isSome (h .provisioner) number
    exact ⟨_, Option.map_eq_some_iff.mpr ⟨c, hc, rfl⟩⟩
  | properties delta => exact ⟨_, rfl⟩

end SectionUpdate

end FederationRegistry
