import FederationRegistry.Proofs.Relational.Failure

/-!
# Columns of written rows

The schema wants a value in most columns and one or zero in the columns of truth values. Whatever
the tables hold, every row that a request is about to insert or update is so in all of its columns
(`RowChange.conforms`). An engine that refuses other rows only refuses no request
(`Database.answerUnder_of_lenient`).
-/

namespace FederationRegistry

open Transaction

/-! ## What the schema asks of a column -/

/-- The columns of the table that may be without a value. -/
def Table.optionalColumns : Table → List String
  | .provider => ["display_name", "description", "home_realm_id", "claim_dialect_id"]
  | .provisioningClaim => ["default_value"]
  | .application => ["display_name", "description"]
  | _ => []

/-- The columns of truth values. -/
def Table.flagColumns : List String :=
  ["is_federation_hub", "is_local_claim_dialect", "is_enabled"]

/-- The table takes the value in a column. -/
def Table.takes (t : Table) (column : String) (c : Cell) : Bool :=
  (c != .null || t.optionalColumns.contains column) &&
    (!flagColumns.contains column || c == .flag false || c == .flag true)

namespace RowChange

/-- A row that is inserted or updated has all columns of its table, with values that it takes. -/
def conforms (c : RowChange) : Bool :=
  c.event == .delete ||
    c.cells.length == c.table.columns.length &&
      (c.table.columns.zip c.cells).all fun x => c.table.takes x.1 x.2

theorem conforms_delete {c : RowChange} (h : c.event = .delete) : c.conforms = true := by
  simp [conforms, h]

end RowChange

theorem Cell.flag_ne_null (b : Bool) : Cell.flag b ≠ .null := nofun

theorem Cell.flag_cases (b : Bool) : Cell.flag b = .flag false ∨ Cell.flag b = .flag true := by
  cases b
  · exact .inl rfl
  · exact .inr rfl

/-! ### Rows with numbers -/

theorem ProviderRow.conforms (event : RowEvent) (number : Int) (row : ProviderRow) :
    RowChange.conforms ⟨.provider, event, row.cells number⟩ = true := by
  simp [RowChange.conforms, cells, Table.columns, Table.takes, Table.optionalColumns,
    Table.flagColumns, Cell.flag_ne_null, Cell.flag_cases]

theorem ApplicationRow.conforms (event : RowEvent) (number : Int) (row : ApplicationRow) :
    RowChange.conforms ⟨.application, event, row.cells number⟩ = true := by
  simp [RowChange.conforms, cells, Table.columns, Table.takes, Table.optionalColumns,
    Table.flagColumns, Cell.flag_ne_null, Cell.flag_cases]

theorem ConnectorRow.conforms (kind : ConnectorKind) (event : RowEvent) (number : Int)
    (row : ConnectorRow) :
    RowChange.conforms ⟨.ofConnectors kind, event, row.cells number⟩ = true := by
  cases kind <;> simp [RowChange.conforms, cells, Table.columns, Table.takes,
    Table.optionalColumns, Table.flagColumns, Cell.flag_ne_null, Cell.flag_cases,
    Table.ofConnectors]

/-! ### Owned rows -/

namespace OwnedTable

variable {κ α : Type} [Key κ]

/-- Whoever owns it, a row with the key and the value conforms. -/
def Takes (table : OwnedTable κ α) (key : κ) (value : α) : Prop :=
  ∀ event owner, (table.change event owner key value).conforms = true

theorem takes_certificates (key thumbprint : String) : certificates.Takes key thumbprint := by
  intro event owner
  simp [RowChange.conforms, change, certificates, Table.columns, Table.takes, Table.flagColumns]

/-- A role mapping with a local role conforms. -/
theorem takes_roleMappings (role : Int) (external : String) :
    roleMappings.Takes (.integer role) external := by
  intro event owner
  simp [RowChange.conforms, change, roleMappings, Table.columns, Table.takes, Table.flagColumns]

theorem takes_properties (key text : String) : properties.Takes key text := by
  intro event owner
  simp [RowChange.conforms, change, properties, Table.columns, Table.takes, Table.flagColumns]

theorem takes_requestedClaims (uri : String) (u : Unit) : requestedClaims.Takes uri u := by
  intro event owner
  simp [RowChange.conforms, change, requestedClaims, Table.columns, Table.takes,
    Table.flagColumns]

theorem takes_provisioningClaims (uri : String) (default? : Option String) :
    provisioningClaims.Takes uri default? := by
  intro event owner
  simp [RowChange.conforms, change, provisioningClaims, Table.columns, Table.takes,
    Table.optionalColumns, Table.flagColumns]

theorem takes_provisioningRoles (role : String) (u : Unit) : provisioningRoles.Takes role u := by
  intro event owner
  simp [RowChange.conforms, change, provisioningRoles, Table.columns, Table.takes,
    Table.flagColumns]

theorem takes_jitProviders (name : String) (u : Unit) : jitProviders.Takes name u := by
  intro event owner
  simp [RowChange.conforms, change, jitProviders, Table.columns, Table.takes, Table.flagColumns]

theorem takes_connectorProperties (kind : ConnectorKind) (key text : String) :
    (connectorProperties kind).Takes key text := by
  intro event owner
  cases kind <;> simp [RowChange.conforms, change, connectorProperties, Table.columns,
    Table.takes, Table.flagColumns, Table.ofConnectorProperties]

end OwnedTable

/-! ## Steps of writers -/

/-- The rows that the step is about to insert or update conform. -/
def Transaction.Step.Conforms (s : Step) : Prop := ∀ c ∈ s.changes, c.conforms = true

open Transaction.Step

theorem conforming_query {α : Type} (read : Tables → α) :
    Stepwise Conforms (step (.query read)) :=
  .execute fun _ _ hc => (nomatch hc)

namespace OwnedTable

variable {κ α : Type} [Key κ] {table : OwnedTable κ α} {key : κ} {value : α}

theorem conforms_deletions {owner : Int} {t : Tables} {c : RowChange}
    (hc : c ∈ table.deletions owner t) : c.conforms = true := by
  obtain ⟨e, -, rfl⟩ := List.mem_map.mp hc
  exact RowChange.conforms_delete rfl

theorem conforming_clear (table : OwnedTable κ α) (owner : Int) :
    Stepwise Conforms (step (table.clear owner)) :=
  .execute fun _ _ hc => conforms_deletions hc

variable [DecidableEq κ]

theorem conforming_insert (h : table.Takes key value) (owner : Int) :
    Stepwise Conforms (step (table.insert owner key value)) := by
  refine .execute fun t c hc => ?_
  obtain rfl := List.mem_singleton.mp hc
  exact h .insert owner

theorem conforming_upsert (h : table.Takes key value) (owner : Int) :
    Stepwise Conforms (step (table.upsert owner key value)) := by
  refine .execute fun t c hc => ?_
  rcases List.mem_cons.mp hc with rfl | hc
  · exact h .insert owner
  · split at hc
    · obtain rfl := List.mem_singleton.mp hc
      exact h .update owner
    · cases hc

end OwnedTable

theorem conforms_connectorDeletions {kind : ConnectorKind} {owner : Int} {t : Tables}
    {c : RowChange} (hc : c ∈ Statement.connectorDeletions kind owner t) : c.conforms = true := by
  obtain ⟨e, -, hc⟩ := List.mem_flatMap.mp hc
  rcases List.mem_cons.mp hc with rfl | hc
  · exact RowChange.conforms_delete rfl
  · exact OwnedTable.conforms_deletions hc

theorem conforming_clearConnectors (kind : ConnectorKind) (owner : Int) :
    Stepwise Conforms (step (.clearConnectors kind owner)) :=
  .execute fun _ _ hc => conforms_connectorDeletions hc

/-! ### Sections -/

theorem Connector.conforming_write (kind : ConnectorKind) (owner : Int) (c : Connector) :
    Stepwise Conforms (write kind owner c) := by
  refine .bind (.execute fun t change hchange => ?_) fun number => .each fun e =>
    OwnedTable.conforming_insert (OwnedTable.takes_connectorProperties kind e.1 e.2.text) number
  obtain rfl := List.mem_singleton.mp hchange
  exact ConnectorRow.conforms kind .insert _ _

theorem Metadata.conforming_writeRows (m : Metadata) (owner : Int) :
    Stepwise Conforms (m.writeRows owner) := by
  have hcertificates : Stepwise Conforms (replaceRows .certificates owner m.certificates) :=
    .bind (OwnedTable.conforming_clear _ owner) fun _ => .each fun e =>
      OwnedTable.conforming_insert (OwnedTable.takes_certificates e.1 e.2) owner
  exact .bind hcertificates fun _ => .bind (OwnedTable.conforming_clear _ owner) fun _ =>
    .each fun e => .bind (.lift _) fun role =>
      OwnedTable.conforming_insert (OwnedTable.takes_roleMappings role e.2) owner

theorem Authentication.conforming_write (owner : Int) (a : Option Authentication) :
    Stepwise Conforms (write owner a) := by
  refine .bind (OwnedTable.conforming_clear _ owner) fun _ =>
    .bind (conforming_clearConnectors _ owner) fun _ => ?_
  cases a with
  | none => exact .pure _
  | some a =>
    have hclaims : Stepwise Conforms (each a.requestedClaims.entries fun e =>
        step (OwnedTable.requestedClaims.insert owner e.1 e.2)) :=
      .each fun e => OwnedTable.conforming_insert (OwnedTable.takes_requestedClaims e.1 e.2) owner
    exact hclaims.bind fun _ => .each (Connector.conforming_write _ owner)

theorem Provisioning.conforming_write (owner : Int) (p : Provisioning) :
    Stepwise Conforms (p.write owner) := by
  have hjit : Stepwise Conforms (each p.jitProviders.entries fun e =>
      step (OwnedTable.jitProviders.insert owner e.1 e.2)) :=
    .each fun e => OwnedTable.conforming_insert (OwnedTable.takes_jitProviders e.1 e.2) owner
  have hclaims : Stepwise Conforms (each p.claims.values fun c =>
      step (OwnedTable.provisioningClaims.insert owner c.uri c.defaultValue)) :=
    .each fun c =>
      OwnedTable.conforming_insert (OwnedTable.takes_provisioningClaims c.uri c.defaultValue) owner
  have hroles : Stepwise Conforms (each p.roles.entries fun e =>
      step (OwnedTable.provisioningRoles.insert owner e.1 e.2)) :=
    .each fun e => OwnedTable.conforming_insert (OwnedTable.takes_provisioningRoles e.1 e.2) owner
  exact .bind (OwnedTable.conforming_clear _ owner) fun _ =>
    .bind (OwnedTable.conforming_clear _ owner) fun _ =>
    .bind (OwnedTable.conforming_clear _ owner) fun _ =>
    .bind (conforming_clearConnectors _ owner) fun _ =>
    hjit.bind fun _ => hclaims.bind fun _ => hroles.bind fun _ =>
      .each (Connector.conforming_write _ owner)

theorem PropertyMap.conforming_writeMerged (owner : Int) (delta : PropertyMap) :
    Stepwise Conforms (delta.writeMerged owner) :=
  .each fun e => .ite
    (OwnedTable.conforming_upsert (OwnedTable.takes_properties e.1 e.2.text) owner) (.pure _)

theorem IdentityProvider.conforming_writeSections (p : IdentityProvider) (number : Int) :
    Stepwise Conforms (p.writeSections number) :=
  .bind (p.metadata.conforming_writeRows number) fun _ =>
    .bind (Authentication.conforming_write number p.authentication) fun _ =>
    .bind (p.provisioning.conforming_write number) fun _ =>
    .bind (OwnedTable.conforming_clear _ number) fun _ =>
      p.properties.conforming_writeMerged number

/-! ### Aggregates -/

theorem Tables.conforms_ownedDeletions {t : Tables} {owner : Int} {c : RowChange}
    (hc : c ∈ t.ownedDeletions owner) : c.conforms = true := by
  simp only [ownedDeletions, List.mem_append, or_assoc] at hc
  rcases hc with hc | hc | hc | hc | hc | hc | hc | hc | hc
  any_goals exact OwnedTable.conforms_deletions hc
  all_goals exact conforms_connectorDeletions hc

/-- The rows of the table conform, and nothing else than deletions goes with a deletion. -/
structure EntityTable.Conforming {ρ : Type} (table : EntityTable ρ) : Prop where
  row : ∀ event number row,
    RowChange.conforms ⟨table.table, event, table.cells number row⟩ = true
  owned : ∀ t number, ∀ c ∈ table.ownedDeletions t number, c.conforms = true

namespace EntityTable

theorem conforming_providers : providers.Conforming :=
  ⟨ProviderRow.conforms, fun _ _ _ hc => Tables.conforms_ownedDeletions hc⟩

theorem conforming_applications : applications.Conforming :=
  ⟨ApplicationRow.conforms, fun _ _ _ hc => (nomatch hc)⟩

variable {ρ : Type} {table : EntityTable ρ} {report : EngineFailure → RegistryError}

theorem conforming_insert (h : table.Conforming) (row : ρ) :
    Stepwise Conforms (execute report (table.insert row)) := by
  refine .execute fun t c hc => ?_
  obtain rfl := List.mem_singleton.mp hc
  exact h.row .insert _ row

theorem conforming_update (h : table.Conforming) (number : Int) (change : ρ → ρ) :
    Stepwise Conforms (execute report (table.update number change)) := by
  refine .execute fun t c hc => ?_
  obtain ⟨row, -, rfl⟩ := List.mem_map.mp hc
  exact h.row .update number (change row)

theorem conforming_delete (h : table.Conforming) (number : Int) :
    Stepwise Conforms (execute report (table.delete number)) := by
  refine .execute fun t c hc => ?_
  simp only [Step.of, delete] at hc
  split at hc
  · cases hc
  · rcases List.mem_cons.mp hc with rfl | hc
    · exact RowChange.conforms_delete rfl
    · exact h.owned t number c hc

end EntityTable

theorem IdentityProvider.conforming_insertRows (p : IdentityProvider) :
    Stepwise Conforms p.insertRows :=
  .bind (.lift _) fun row =>
    .bind (EntityTable.conforming_insert EntityTable.conforming_providers row) fun number =>
      .bind (p.conforming_writeSections number) fun _ => .lift _

theorem IdentityProvider.conforming_updateRows (p : IdentityProvider) (id : ProviderId)
    (number : Int) : Stepwise Conforms (p.updateRows id number) :=
  .bind (.lift _) fun _ =>
    .bind (EntityTable.conforming_update EntityTable.conforming_providers number _) fun _ =>
      .ite (p.conforming_writeSections number) (.throw _)

theorem ServiceProvider.conforming_insertRows (p : ServiceProvider) :
    Stepwise Conforms p.insertRows :=
  .bind (EntityTable.conforming_insert EntityTable.conforming_applications p.row) fun _ => .lift _

theorem ServiceProvider.conforming_updateRows (p : ServiceProvider) (id : ServiceProviderId)
    (number : Int) : Stepwise Conforms (p.updateRows id number) :=
  .bind (EntityTable.conforming_update EntityTable.conforming_applications number _) fun _ =>
    .ite (.pure _) (.throw _)

namespace SectionUpdate

theorem conforming_requireProvider (id : ProviderId) (number : Int) :
    Stepwise Conforms (requireProvider id number) :=
  .bind (conforming_query _) fun _ => .ite (.pure _) (.throw _)

theorem conforming_continueMetadata (id : ProviderId) (number : Int) (m : Metadata)
    (stored : Option String) : Stepwise Conforms (continueMetadata id number m stored) := by
  cases stored with
  | none => exact .throw _
  | some name =>
    unfold continueMetadata
    dsimp only
    cases (ProviderKind.ofName name).checkMetadata m with
    | error err => exact .throw _
    | ok _ =>
      exact .bind (.lift _) fun dialect =>
        .bind (EntityTable.conforming_update EntityTable.conforming_providers number _) fun _ =>
          m.conforming_writeRows number

theorem conforming_writeRows (s : SectionUpdate) (id : ProviderId) (number : Int) :
    Stepwise Conforms (s.writeRows id number) := by
  cases s with
  | metadata m =>
    show Stepwise _ (writeMetadata id number m)
    rw [writeMetadata_eq]
    exact .bind (conforming_query _) (conforming_continueMetadata id number m)
  | authentication a =>
    exact .bind (conforming_requireProvider id number) fun _ =>
      Authentication.conforming_write number a.nonempty?
  | provisioning p =>
    exact .bind (conforming_requireProvider id number) fun _ => p.conforming_write number
  | properties delta =>
    exact .bind (conforming_requireProvider id number) fun _ =>
      delta.conforming_writeMerged number

end SectionUpdate

/-! ## Answers -/

/-- The engine refuses no statement whose rows all conform. -/
def Engine.Lenient (engine : Engine) : Prop :=
  ∀ n changes, (∀ c ∈ changes, c.conforms = true) → engine n changes = none

theorem Engine.Lenient.letsRead {engine : Engine} (h : engine.Lenient) : engine.LetsRead :=
  fun n => h n [] nofun

namespace Transaction

variable {α : Type} {engine : Engine}

theorem firstFailure?_of_lenient (h : engine.Lenient) {steps : List Step}
    (hsteps : ∀ s ∈ steps, s.Conforms) (n : Nat) :
    firstFailure? engine n steps = firstFailure? Engine.reliable n steps := by
  induction steps generalizing n with
  | nil => rfl
  | cons s ss ih =>
    have hpasses : engine n s.changes = none := h n s.changes (hsteps s (by simp))
    simp only [firstFailure?, hpasses, Engine.reliable]
    rw [ih fun s' hs' => hsteps s' (by simp [hs'])]

theorem commit_of_lenient (h : engine.Lenient) {body : Transaction α}
    (hbody : Stepwise Step.Conforms body) (t : Tables) :
    commit engine t body = commit Engine.reliable t body := by
  have := hbody.steady
  -- the marks around the body change no row
  have hmark : Stepwise Step.Conforms (step mark) := conforming_query _
  have hwhole : Stepwise Step.Conforms body.whole :=
    hmark.bind fun _ => hbody.bind fun _ => hmark.bind fun _ => .pure _
  obtain ⟨steps, hsteps, hmakes⟩ := hwhole t
  rw [commit_of_makes hmakes, commit_of_makes hmakes, firstFailure?_of_lenient h hsteps]

end Transaction

namespace Database

variable {engine : Engine}

theorem conforming_insert (e : Entity) (a : e.Aggregate) : Stepwise Conforms (insert e a) := by
  cases e with
  | identityProvider => exact IdentityProvider.conforming_insertRows a
  | serviceProvider => exact ServiceProvider.conforming_insertRows a

theorem conforming_update (e : Entity) (a : e.Aggregate) (id : Id e) (number : Int) :
    Stepwise Conforms (update e a id number) := by
  cases e with
  | identityProvider => exact IdentityProvider.conforming_updateRows a id number
  | serviceProvider => exact ServiceProvider.conforming_updateRows a id number

theorem conforming_deleteRow (e : Entity) (number : Int) :
    Stepwise Conforms (step (deleteRow e number)) := by
  cases e with
  | identityProvider => exact EntityTable.conforming_delete EntityTable.conforming_providers number
  | serviceProvider =>
    exact EntityTable.conforming_delete EntityTable.conforming_applications number

theorem conforming_switchRow (e : Entity) (number : Int) (enabled : Bool) :
    Stepwise Conforms (step (switchRow e number enabled)) := by
  cases e with
  | identityProvider =>
    exact EntityTable.conforming_update EntityTable.conforming_providers number _
  | serviceProvider =>
    exact EntityTable.conforming_update EntityTable.conforming_applications number _

theorem conforming_onRow {e : Entity} (id : Id e) {s : Statement Bool}
    (h : Stepwise Conforms (step s)) : Stepwise Conforms (onRow id s) :=
  .bind h fun _ => .ite (.pure _) (.throw _)

theorem writing_of_lenient {α : Type} (h : engine.Lenient) {body : Transaction α}
    (hbody : Stepwise Conforms body) (db : Database) (action : Action) (target : String) :
    db.writing engine action target body = db.writing Engine.reliable action target body := by
  rw [writing, writing, commit_of_lenient h hbody]

theorem writingAt_of_lenient {e : Entity} (h : engine.Lenient) {body : Int → Transaction Unit}
    (hbody : ∀ number, Stepwise Conforms (body number)) (db : Database) (action : Action)
    (id : Id e) :
    db.writingAt engine action id body = db.writingAt Engine.reliable action id body := by
  unfold writingAt
  cases id.rowNumber? with
  | none => rfl
  | some number => exact writing_of_lenient h (hbody number) db action _

/-- **No column refuses a row.** Whatever the tables hold and whatever the request writes, an engine
that refuses only rows that do not conform answers like one that refuses nothing. -/
theorem answerUnder_of_lenient (h : engine.Lenient) (db : Database) (r : Request) :
    db.answerUnder engine r = db.answerUnder Engine.reliable r := by
  cases r with
  | list | get | resolve | findByProperty | readiness =>
    exact answerUnder_of_letsRead h.letsRead db rfl
  -- a lenient engine takes every statement that conforms to the columns
  | create e a => exact writing_of_lenient h (conforming_insert e a) db _ _
  | update e a =>
    simp only [answerUnder]
    cases e.idOf a with
    | none => rfl
    | some id => exact writingAt_of_lenient h (conforming_update e a id) db _ id
  | updateSection id s =>
    simp only [answerUnder, updateSection]
    split
    · rfl
    · rw [writingSection_of_letsRead h.letsRead,
        writingSection_of_letsRead Engine.letsRead_reliable]
      exact writingAt_of_lenient h (s.conforming_writeRows id) db _ id
  | delete e id =>
    have hbody (number : Int) := conforming_onRow id (conforming_deleteRow e number)
    exact writingAt_of_lenient h hbody db _ id
  | switch e id enabled =>
    have hbody (number : Int) := conforming_onRow id (conforming_switchRow e number enabled)
    exact writingAt_of_lenient h hbody db _ id

end Database

end FederationRegistry
