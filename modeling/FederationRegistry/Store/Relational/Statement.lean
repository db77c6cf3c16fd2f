import FederationRegistry.RegistryError
import FederationRegistry.Store.Relational.Tables

/-!
# Statements and transactions

A *statement* reads or changes rows as one step. It says which rows it is about to change, so that
the engine may refuse it, and then either changes the tables or fails as a whole: no row repeats
the unique columns of another, and every owner is there.

A *transaction* is a sequence of statements. The engine is asked before every statement, with the
number of statements before it. A transaction that fails changes nothing.
-/

namespace FederationRegistry

/-! ## Row changes and engines -/

/-- What happens to a row. -/
inductive RowEvent where
  | insert
  | update
  | delete
deriving DecidableEq

/-- A change to a row, with the cells it gets or, when it is deleted, the cells it had. A row that
is to be inserted into a table with ascending numbers has no number yet. -/
structure RowChange where
  table : Table
  event : RowEvent
  cells : List Cell
deriving DecidableEq

/-- The cell of the changed row in a column. -/
def RowChange.cell? (c : RowChange) (column : String) : Option Cell :=
  (c.table.columns.zip c.cells).lookup column

/-- What refuses statements: given the number of statements before one and the row changes it is
about to make, the reason why it fails, if it does. -/
abbrev Engine := Nat → List RowChange → Option EngineFailure

/-- The engine that refuses nothing. -/
def Engine.reliable : Engine := fun _ _ => none

/-! ## Statements -/

/-- One step of a transaction. -/
structure Statement (α : Type) where
  /-- The rows it is about to change. -/
  changes : Tables → List RowChange
  /-- Its reply and the tables behind it. -/
  run : Tables → Except EngineFailure (α × Tables)

namespace Statement

/-- A statement that only reads. -/
def query {α : Type} (read : Tables → α) : Statement α where
  changes := fun _ => []
  run := fun t => .ok (read t, t)

end Statement

namespace OwnedTable

variable {κ α : Type} [Key κ] [DecidableEq κ]

/-- A change to a row of the table. -/
def change (t : OwnedTable κ α) (event : RowEvent) (owner : Int) (key : κ) (value : α) :
    RowChange :=
  ⟨t.table, event, .integer owner :: t.cells key value⟩

/-- The deletions of all rows of an owner. -/
def deletions (t : OwnedTable κ α) (owner : Int) (tables : Tables) : List RowChange :=
  ((t.rows tables).slice owner).entries.map fun e => t.change .delete owner e.1 e.2

/-- The columns that no two rows of the table share. -/
def uniqueColumns (t : OwnedTable κ α) : List String :=
  (t.table.columns.take 2).map t.table.qualified

/-- The tables with a row written, if its owner is there. -/
def write (t : OwnedTable κ α) (owner : Int) (key : κ) (value : α) (tables : Tables) :
    Except EngineFailure (Unit × Tables) :=
  if t.hasOwner tables owner then
    .ok ((), t.withRows tables ((t.rows tables).insert (owner, key) value))
  else .error .foreignKey

/-- Deletes all rows of an owner. -/
def clear (t : OwnedTable κ α) (owner : Int) : Statement Unit where
  changes := t.deletions owner
  run := fun tables => .ok ((), t.withRows tables ((t.rows tables).dropOwner owner))

/-- Inserts a row. -/
def insert (t : OwnedTable κ α) (owner : Int) (key : κ) (value : α) : Statement Unit where
  changes := fun _ => [t.change .insert owner key value]
  run := fun tables =>
    if (t.rows tables).contains (owner, key) then .error (.unique t.uniqueColumns)
    else t.write owner key value tables

/-- Inserts a row, or updates the one of the same owner and key. -/
def upsert (t : OwnedTable κ α) (owner : Int) (key : κ) (value : α) : Statement Unit where
  changes := fun tables =>
    t.change .insert owner key value ::
      if (t.rows tables).contains (owner, key) then [t.change .update owner key value] else []
  run := t.write owner key value

end OwnedTable

namespace Statement

/-! ### Connectors -/

/-- The deletions of the connectors of a provider, and of their properties. -/
def connectorDeletions (kind : ConnectorKind) (owner : Int) (t : Tables) : List RowChange :=
  ((t.connectors kind).ownedBy owner).entries.flatMap fun e =>
    ⟨.ofConnectors kind, .delete, e.2.cells e.1⟩ ::
      (OwnedTable.connectorProperties kind).deletions e.1 t

/-- Deletes the connectors of a provider, and with them their properties. -/
def clearConnectors (kind : ConnectorKind) (owner : Int) : Statement Unit where
  changes := connectorDeletions kind owner
  run := fun t => .ok ((), t.withConnectors kind ((t.connectors kind).dropOwner owner))

/-- Inserts the row of a connector and replies its number. -/
def insertConnector (kind : ConnectorKind) (row : ConnectorRow) : Statement Int where
  changes := fun _ => [⟨.ofConnectors kind, .insert, row.cells SerialTable.unnumbered⟩]
  run := fun t =>
    let all := t.connectors kind
    match all.connectors.next? with
    | none => .error .full
    | some number =>
      if (all.ownedBy row.owner).values.any fun other => other.name == row.name then
        .error (.unique (["idp_id", "name"].map (Table.ofConnectors kind).qualified))
      else if !t.providers.rows.contains row.owner then .error .foreignKey
      else
        .ok (number,
          t.withConnectors kind { all with connectors := all.connectors.append number row })

end Statement

/-! ### Rows of aggregates -/

/-- The tables without all that a provider owns. -/
def Tables.dropOwned (t : Tables) (owner : Int) : Tables where
  providers := t.providers
  certificates := t.certificates.dropOwner owner
  roleMappings := t.roleMappings.dropOwner owner
  properties := t.properties.dropOwner owner
  requestedClaims := t.requestedClaims.dropOwner owner
  authenticators := t.authenticators.dropOwner owner
  provisioningClaims := t.provisioningClaims.dropOwner owner
  provisioningRoles := t.provisioningRoles.dropOwner owner
  jitProviders := t.jitProviders.dropOwner owner
  provisioners := t.provisioners.dropOwner owner
  applications := t.applications

/-- The deletions of all that a provider owns. -/
def Tables.ownedDeletions (t : Tables) (owner : Int) : List RowChange :=
  OwnedTable.certificates.deletions owner t ++ OwnedTable.roleMappings.deletions owner t ++
    OwnedTable.properties.deletions owner t ++ OwnedTable.requestedClaims.deletions owner t ++
    Statement.connectorDeletions .authenticator owner t ++
    OwnedTable.provisioningClaims.deletions owner t ++
    OwnedTable.provisioningRoles.deletions owner t ++
    OwnedTable.jitProviders.deletions owner t ++
    Statement.connectorDeletions .provisioner owner t

/-- A table with one row for every aggregate of an entity, no two of one name. -/
structure EntityTable (ρ : Type) where
  table : Table
  rows : Tables → SerialTable ρ
  withRows : Tables → SerialTable ρ → Tables
  name : ρ → String
  cells : Int → ρ → List Cell
  /-- What goes with a row when it is deleted. -/
  ownedDeletions : Tables → Int → List RowChange
  dropOwned : Tables → Int → Tables

namespace EntityTable

variable {ρ : Type}

/-- The identity providers, which own rows in other tables. -/
def providers : EntityTable ProviderRow where
  table := .provider
  rows := Tables.providers
  withRows := fun t rows => { t with providers := rows }
  name := ProviderRow.name
  cells := fun number row => row.cells number
  ownedDeletions := Tables.ownedDeletions
  dropOwned := Tables.dropOwned

/-- The service providers, which own nothing. -/
def applications : EntityTable ApplicationRow where
  table := .application
  rows := Tables.applications
  withRows := fun t rows => { t with applications := rows }
  name := ApplicationRow.name
  cells := fun number row => row.cells number
  ownedDeletions := fun _ _ => []
  dropOwned := fun t _ => t

/-- The number of the row with a name. -/
def numberOf? (e : EntityTable ρ) (t : Tables) (name : String) : Option Int :=
  ((e.rows t).rows.entries.find? fun entry => e.name entry.2 == name).map (·.1)

/-- Another row than the one with the number has the name. -/
def isNameTaken (e : EntityTable ρ) (t : Tables) (number : Int) (name : String) : Bool :=
  (e.rows t).rows.entries.any fun entry => entry.1 != number && e.name entry.2 == name

/-- Another row has the name. -/
def nameTaken (e : EntityTable ρ) : EngineFailure := .unique [e.table.qualified "name"]

/-- Inserts a row and replies its number. -/
def insert (e : EntityTable ρ) (row : ρ) : Statement Int where
  changes := fun _ => [⟨e.table, .insert, e.cells SerialTable.unnumbered row⟩]
  run := fun t =>
    match (e.rows t).next? with
    | none => .error .full
    | some number =>
      if e.isNameTaken t number (e.name row) then .error e.nameTaken
      else .ok (number, e.withRows t ((e.rows t).append number row))

/-- Updates a row; the reply says whether it is there. -/
def update (e : EntityTable ρ) (number : Int) (change : ρ → ρ) : Statement Bool where
  changes := fun t =>
    ((e.rows t).rows.find? number).toList.map fun row =>
      ⟨e.table, .update, e.cells number (change row)⟩
  run := fun t =>
    match (e.rows t).rows.find? number with
    | none => .ok (false, t)
    | some row =>
      if e.isNameTaken t number (e.name (change row)) then .error e.nameTaken
      else
        .ok (true,
          e.withRows t ((e.rows t).withRows ((e.rows t).rows.insert number (change row))))

/-- Deletes a row and all that it owns; the reply says whether it was there. -/
def delete (e : EntityTable ρ) (number : Int) : Statement Bool where
  changes := fun t =>
    match (e.rows t).rows.find? number with
    | none => []
    | some row => ⟨e.table, .delete, e.cells number row⟩ :: e.ownedDeletions t number
  run := fun t =>
    if (e.rows t).rows.contains number then
      .ok (true,
        e.dropOwned (e.withRows t ((e.rows t).withRows ((e.rows t).rows.erase number))) number)
    else .ok (false, t)

end EntityTable

/-! ## Transactions -/

/-- The state inside a transaction. -/
structure Session where
  tables : Tables
  /-- The number of statements so far. -/
  executed : Nat := 0

/-- A sequence of statements under an engine. -/
abbrev Transaction := ReaderT Engine (StateT Session (Except RegistryError))

namespace Transaction

variable {α : Type}

/-- Runs a statement, with a failure of the engine reported by `report`. -/
def execute (report : EngineFailure → RegistryError) (s : Statement α) : Transaction α :=
  fun engine session =>
    match engine session.executed (s.changes session.tables) with
    | some failure => .error (report failure)
    | none =>
      match s.run session.tables with
      | .error failure => .error (report failure)
      | .ok (reply, tables) => .ok (reply, ⟨tables, session.executed + 1⟩)

/-- A failure of the engine as one of the data. -/
def dataFailure (failure : EngineFailure) : RegistryError := .ofStore (.engine failure)

/-- A failure of the statement that writes the row of an entity: a repeated column is a taken
name. -/
def rowFailure (e : Entity) (name : String) : EngineFailure → RegistryError
  | .unique _ => .nameTaken e name
  | failure => dataFailure failure

/-- Runs a statement, any failure of which is one of the data. -/
def step (s : Statement α) : Transaction α := execute dataFailure s

/-- Goes on with a value, or fails with the failure of the store. -/
def lift (value : Except StoreError α) : Transaction α :=
  match value with
  | .ok a => pure a
  | .error err => throw (.ofStore err)

/-- Reads the tables in one statement. -/
def select (read : Tables → α) : Transaction α := step (.query read)

/-- Reads the tables in one statement and goes on with what is made of the rows. -/
def fetch (read : Tables → Except StoreError α) : Transaction α := do
  let value ← select read
  lift value

/-- Runs a step for every element of a list. -/
def each {β : Type} (bs : List β) (step : β → Transaction Unit) : Transaction Unit :=
  match bs with
  | [] => pure ()
  | b :: bs => do
    step b
    each bs step

/-- Reads something for every element of a list. -/
def collect {β : Type} (bs : List β) (read : β → Transaction α) : Transaction (List α) :=
  match bs with
  | [] => pure []
  | b :: bs => do
    let a ← read b
    let rest ← collect bs read
    return a :: rest

/-- The marks of the beginning and the end of a transaction. -/
def mark : Statement Unit := .query fun _ => ()

/-- What a transaction has come to so far, when it began in the tables and goes on. -/
def soFar? (engine : Engine) (t : Tables) (body : Transaction α) : Option α :=
  let begun : Transaction α := do
    step mark
    body
  (begun engine ⟨t, 0⟩).toOption.map (·.1)

/-- The result of a whole transaction and the tables behind it, which are those before it when it
fails. -/
def commit (engine : Engine) (t : Tables) (body : Transaction α) :
    Except RegistryError α × Tables :=
  let whole : Transaction α := do
    step mark
    let a ← body
    step mark
    return a
  match whole engine ⟨t, 0⟩ with
  | .ok (a, session) => (.ok a, session.tables)
  | .error err => (.error err, t)

end Transaction

end FederationRegistry
