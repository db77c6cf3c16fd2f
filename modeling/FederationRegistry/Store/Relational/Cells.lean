import FederationRegistry.Store.Relational

/-!
# Setting cells by hand

Whoever can write to the file of a database can set a column of its rows past all rules of the
model. What the schema itself demands still holds: a value is what its column makes of it, numbers
of rows are integers and flags truth values, values that have to be there are, unique columns are,
and so are owners. Main definition: `Database.setCell`, which replies how many rows it changed.
-/

namespace FederationRegistry

/-! ## Rows from cells -/

namespace Cell

/-- An integer. -/
def toInteger? : Cell → Option Int
  | .integer i => some i
  | _ => none

/-- A text. -/
def toText? : Cell → Option String
  | .text s => some s
  | _ => none

/-- Any value that is not missing. -/
def toValue? (c : Cell) : Option Cell := if c = .null then none else some c

/-- A truth value. -/
def toFlag? : Cell → Option Bool
  | .integer 0 => some false
  | .integer 1 => some true
  | _ => none

/-- A value that may be missing. -/
def orNull {α : Type} (read : Cell → Option α) : Cell → Option (Option α)
  | .null => some none
  | c => (read c).map some

end Cell

/-- The row of a provider behind cells. -/
def ProviderRow.ofCells? : List Cell → Option (Int × ProviderRow)
  | [number, name, displayLabel, description, homeRealm, isHub, dialectId, dialectIsLocal,
      enabled] => do
    return (← number.toInteger?,
      { name := ← name.toText?
        displayLabel := ← displayLabel.orNull Cell.toText?
        description := ← description.orNull Cell.toText?
        homeRealm := ← homeRealm.orNull Cell.toText?
        isHub := ← isHub.toFlag?
        dialectId
        dialectIsLocal := ← dialectIsLocal.toFlag?
        enabled := ← enabled.toFlag? })
  | _ => none

/-- The row of a connector behind cells. -/
def ConnectorRow.ofCells? : List Cell → Option (Int × ConnectorRow)
  | [number, owner, name, enabled] => do
    return (← number.toInteger?,
      { owner := ← owner.toInteger?, name := ← name.toText?, enabled := ← enabled.toFlag? })
  | _ => none

/-- The row of a service provider behind cells. -/
def ApplicationRow.ofCells? : List Cell → Option (Int × ApplicationRow)
  | [number, name, displayLabel, description, enabled, sections] => do
    return (← number.toInteger?,
      { name := ← name.toText?
        displayLabel := ← displayLabel.orNull Cell.toText?
        description := ← description.orNull Cell.toText?
        enabled := ← enabled.toFlag?
        sections := ← sections.toText? })
  | _ => none

/-- A row with a key of its own behind cells. -/
def ownedRow? {κ α : Type} (key : Cell → Option κ) (value : Cell → Option α) :
    List Cell → Option ((Int × κ) × α)
  | [owner, k, v] => do return ((← owner.toInteger?, ← key k), ← value v)
  | _ => none

/-- A row that is nothing but its key behind cells. -/
def ownedKey? {κ : Type} (key : Cell → Option κ) : List Cell → Option ((Int × κ) × Unit)
  | [owner, k] => do return ((← owner.toInteger?, ← key k), ())
  | _ => none

/-! ## Tables of cells -/

/-- Rows under keys, seen as rows of cells. -/
structure CellTable (κ α : Type) where
  toCells : κ → α → List Cell
  ofCells? : List Cell → Option (κ × α)

/-- An owned table seen as rows of cells. -/
def OwnedTable.cellTable {κ α : Type} [Key κ] (t : OwnedTable κ α)
    (ofCells? : List Cell → Option ((Int × κ) × α)) : CellTable (Int × κ) α :=
  ⟨fun key value => .integer key.1 :: t.cells key.2 value, ofCells?⟩

/-- A change to one column of the rows that meet a condition. -/
structure CellEdit where
  column : String
  value : Cell
  /-- Only rows with this value in this column are changed. -/
  condition : Option (String × Cell)

namespace CellEdit

/-- The edit with the values that its columns make of its own. -/
def fit (edit : CellEdit) (columnType : String → ColumnType) : CellEdit :=
  { edit with
    value := (columnType edit.column).fit edit.value
    condition := edit.condition.map fun c => (c.1, (columnType c.1).fit c.2) }

/-- The edit touches a row. A missing value meets no condition. -/
def applies (edit : CellEdit) (columns : List String) (cells : List Cell) : Bool :=
  match edit.condition with
  | none => true
  | some (column, value) => ((columns.zip cells).lookup column).any value.same

/-- A row after the edit. -/
def editCells (edit : CellEdit) (columns : List String) (cells : List Cell) : List Cell :=
  (columns.zip cells).map fun c => if c.1 == edit.column then edit.value else c.2

/-- The failure of an edit that the types of the columns do not allow. -/
def typeFailure : EngineFailure := .other "datatype mismatch"

/-- The rows after the edit and how many it changed; no two may come to share a key. -/
def editRows {κ α : Type} [Key κ] (edit : CellEdit) (columns : List String)
    (table : CellTable κ α) (rows : Dict κ α) : Except EngineFailure (Nat × Dict κ α) := do
  unless columns.contains edit.column do throw (.other ("no such column: " ++ edit.column))
  let touched := rows.entries.map fun e =>
    let cells := table.toCells e.1 e.2
    if edit.applies columns cells then (true, edit.editCells columns cells) else (false, cells)
  match touched.mapM fun row => table.ofCells? row.2 with
  | none => throw typeFailure
  | some entries =>
    let edited := Dict.ofList entries
    if edited.size = rows.size then return ((touched.filter (·.1)).length, edited)
    else throw (.unique [edit.column])

/-- The rows of a numbered table after the edit. -/
def editSerial {ρ : Type} (edit : CellEdit) (columns : List String)
    (table : CellTable Int ρ) (t : SerialTable ρ) : Except EngineFailure (Nat × SerialTable ρ) :=
  (edit.editRows columns table t.rows).map fun out => (out.1, t.withRows out.2)

/-- The rows of an owned table after the edit. -/
def editOwned {κ α : Type} [Key κ] (edit : CellEdit) (t : OwnedTable κ α)
    (ofCells? : List Cell → Option ((Int × κ) × α)) (tables : Tables) :
    Except EngineFailure (Nat × Tables) :=
  (edit.editRows t.table.columns (t.cellTable ofCells?) (t.rows tables)).map fun out =>
    (out.1, t.withRows tables out.2)

/-- The connectors of a kind after the edit. -/
def editConnectors (edit : CellEdit) (kind : ConnectorKind) (t : Tables) :
    Except EngineFailure (Nat × Tables) :=
  let all := t.connectors kind
  (edit.editSerial (Table.ofConnectors kind).columns
      ⟨fun number row => row.cells number, ConnectorRow.ofCells?⟩ all.connectors).map fun out =>
    (out.1, t.withConnectors kind { all with connectors := out.2 })

/-- The tables after an edit of one of them, before what the schema demands across rows. -/
def editTable (edit : CellEdit) (table : Table) (t : Tables) :
    Except EngineFailure (Nat × Tables) :=
  let texts := ownedRow? Cell.toText? Cell.toText?
  let keys := ownedKey? Cell.toText?
  match table with
  | .provider =>
    (edit.editSerial table.columns
        ⟨fun number row => row.cells number, ProviderRow.ofCells?⟩ t.providers).map fun out =>
      (out.1, { t with providers := out.2 })
  | .application =>
    (edit.editSerial table.columns
        ⟨fun number row => row.cells number, ApplicationRow.ofCells?⟩ t.applications).map
      fun out => (out.1, { t with applications := out.2 })
  | .certificate => edit.editOwned .certificates texts t
  | .roleMapping => edit.editOwned .roleMappings (ownedRow? Cell.toValue? Cell.toText?) t
  | .property => edit.editOwned .properties texts t
  | .requestedClaim => edit.editOwned .requestedClaims keys t
  | .authenticator => edit.editConnectors .authenticator t
  | .authenticatorProperty => edit.editOwned (.connectorProperties .authenticator) texts t
  | .provisioningClaim =>
    edit.editOwned .provisioningClaims (ownedRow? Cell.toText? (Cell.orNull Cell.toText?)) t
  | .provisioningRole => edit.editOwned .provisioningRoles keys t
  | .jitProvider => edit.editOwned .jitProviders keys t
  | .provisioner => edit.editConnectors .provisioner t
  | .provisionerProperty => edit.editOwned (.connectorProperties .provisioner) texts t

end CellEdit

/-! ## Demands across rows -/

namespace Tables

/-- No name stands twice in a list of names. -/
def areDistinct {κ : Type} [Key κ] [DecidableEq κ] (names : List κ) : Bool :=
  (KeySet.ofList names).size == names.length

/-- Every owner in a table is there. -/
def hasOwners {κ α : Type} [Key κ] (t : OwnedTable κ α) (tables : Tables) : Bool :=
  (t.rows tables).keys.all fun key => t.hasOwner tables key.1

/-- Every row belongs to a row that is there. -/
def isReferential (t : Tables) : Bool :=
  hasOwners .certificates t && hasOwners .roleMappings t && hasOwners .properties t &&
    hasOwners .requestedClaims t && hasOwners .provisioningClaims t &&
    hasOwners .provisioningRoles t && hasOwners .jitProviders t &&
    hasOwners (.connectorProperties .authenticator) t &&
    hasOwners (.connectorProperties .provisioner) t &&
    [ConnectorKind.authenticator, .provisioner].all fun kind =>
      (t.connectors kind).connectors.rows.values.all fun row =>
        t.providers.rows.contains row.owner

/-- The table with a repeated name, if there is one. -/
def repeatedName? (t : Tables) : Option Table :=
  let connectorNames (kind : ConnectorKind) :=
    (t.connectors kind).connectors.rows.values.map fun row => (row.owner, row.name)
  if !areDistinct (t.providers.rows.values.map (·.name)) then some .provider
  else if !areDistinct (t.applications.rows.values.map (·.name)) then some .application
  else if !areDistinct (connectorNames .authenticator) then some .authenticator
  else if !areDistinct (connectorNames .provisioner) then some .provisioner
  else none

end Tables

/-! ## The edit -/

namespace Database

/-- The versions after an edit of the version table. -/
def setVersion (db : Database) (edit : CellEdit) : Except EngineFailure (Nat × Database) := do
  let edit := edit.fit fun _ => .integer
  unless edit.column == versionColumn do throw (.other ("no such column: " ++ edit.column))
  match edit.value.toValue? with
  | none => throw CellEdit.typeFailure
  | some value =>
    let versions := db.versions.getD []
    let hit := versions.map fun v => edit.applies [versionColumn] [v]
    let edited := (versions.zip hit).map fun v => if v.2 then value else v.1
    return ((hit.filter id).length, { db with versions := some edited })

/-- Sets a column of the rows that meet the condition, and replies how many rows that were. -/
def setCell (db : Database) (table : String) (edit : CellEdit) :
    Except EngineFailure (Nat × Database) :=
  if table == versionTable then db.setVersion edit
  else
    match Table.ofName? table with
    | none => .error (.noTable table)
    | some t => do
      let (count, tables) ← (edit.fit Table.columnType).editTable t db.tables
      match tables.repeatedName? with
      | some repeated => throw (.unique [repeated.qualified "name"])
      | none =>
        if db.tables.isReferential && !tables.isReferential then throw .foreignKey
        else return (count, { db with tables })

end Database

end FederationRegistry
