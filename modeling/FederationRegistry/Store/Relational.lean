import FederationRegistry.Store.Request
import FederationRegistry.Store.Relational.Read

/-!
# The relational store

A database holds the rows of a store, the version of its schema, and guards: rules that refuse
changes to certain rows. Every write and every read is one transaction, and the engine is asked
before each of its statements.

**Opening** (`prepare`). A database without a version gets the tables that it lacks and the current
version; one of another version is refused and left as it is.

**Failures.** A failure of the data says in which action and on what it arose. An identifier beyond
the range of row numbers is one that nothing has.
-/

namespace FederationRegistry

/-- A rule that refuses changes to the rows of a table that have a value in a column. -/
structure Guard where
  table : Table
  event : RowEvent
  column : String
  value : Cell
  /-- The failure in words. -/
  text : String

/-- The value that a guard looks for. The number of a row is compared as an integer, and any other
column with the value as it is, whatever the type of the column. -/
def Guard.wanted (g : Guard) : Cell :=
  if g.column == Table.numberColumn then ColumnType.integer.fit g.value else g.value

/-- The guard refuses a change. Nothing is equal to a missing value. -/
def Guard.refuses (g : Guard) (c : RowChange) : Bool :=
  g.table == c.table && g.event == c.event && (c.cell? g.column).any g.wanted.same

/-- A database. -/
structure Database where
  /-- The rows of the version table, if it is there. -/
  versions : Option (List Cell) := none
  /-- The tables that are not there; they have no rows. -/
  missing : List Table := Table.all
  tables : Tables := {}
  guards : List Guard := []

namespace Database

open Transaction

/-- The version of the schema that the store works with. -/
def schemaVersion : Int := 1

/-- The name of the version table. -/
def versionTable : String := "store_meta"

/-- The column of the version table. -/
def versionColumn : String := "version"

/-- Makes the database ready for use. -/
def prepare (db : Database) : Except StoreError Unit × Database :=
  match (db.versions.getD []).head? with
  | none => (.ok (), { db with versions := some [.integer schemaVersion], missing := [] })
  | some c =>
    match Tables.integerIn 0 versionColumn c with
    | .error err => (.error err, db)
    | .ok found =>
      if found = schemaVersion then (.ok (), db) else (.error (.version found), db)

/-- A new database, ready for use. -/
def fresh : Database := (prepare {}).2

/-- The engine that heeds the guards. -/
def engine (db : Database) : Engine := fun _ changes =>
  ((db.guards.find? fun g => changes.any g.refuses).map (·.text)).map EngineFailure.other

/-- The database with a further guard on the table of a name, if there is one. No request changes
the version table, so a guard of it refuses nothing. -/
def withGuard? (db : Database) (table : String) (guard : Table → Guard) : Option Database :=
  if table == versionTable then some db
  else (Table.ofName? table).map fun t => { db with guards := db.guards ++ [guard t] }

/-! ## What failures are about -/

/-- An entity as the target of an action. -/
def target (e : Entity) (reference : String) : String := e.label ++ " '" ++ reference ++ "'"

/-- A reference as the target of an action. -/
def refTarget {e : Entity} : Ref e → String
  | .id id => target e id.text
  | .name name => target e name

/-- A listing as the target of an action. -/
def listTarget (e : Entity) : String := e.label ++ "s"

/-- A look-up by property as the target of an action. -/
def propertyTarget (scope : PropertyScope) (key : String) : String :=
  "identity provider with " ++ scope.label ++ " property '" ++ key ++ "'"

/-! ## Answers -/

variable {α : Type}

/-- The answer to a read under an engine. -/
def reading (db : Database) (engine : Engine) (action : Action) (target : String)
    (body : Transaction α) (warnings : List Warning := []) : Answer Database α :=
  ⟨(body.commit engine db.tables).1.mapError (·.inContext action.label target), db, warnings⟩

/-- The answer to a write under an engine. -/
def writing (db : Database) (engine : Engine) (action : Action) (target : String)
    (body : Transaction α) : Answer Database α :=
  let (result, tables) := body.commit engine db.tables
  ⟨result.mapError (·.inContext action.label target), { db with tables }, []⟩

/-- The answer to a write that addresses an identifier. -/
def writingAt {e : Entity} (db : Database) (engine : Engine) (action : Action) (id : Id e)
    (body : Int → Transaction Unit) : Answer Database Unit :=
  match id.rowNumber? with
  | none => ⟨.error (.noSuchId id), db, []⟩
  | some number => db.writing engine action (target e id.text) (body number)

/-- Inserts an aggregate. -/
def insert : (e : Entity) → e.Aggregate → Transaction (Id e)
  | .identityProvider, p => p.insertRows
  | .serviceProvider, p => p.insertRows

/-- Replaces an aggregate. -/
def update : (e : Entity) → e.Aggregate → Id e → Int → Transaction Unit
  | .identityProvider, p, id, number => p.updateRows id number
  | .serviceProvider, p, id, number => p.updateRows id number

/-- Deletes an aggregate. -/
def deleteRow (e : Entity) (number : Int) : Statement Bool :=
  match e with
  | .identityProvider => EntityTable.providers.delete number
  | .serviceProvider => EntityTable.applications.delete number

/-- Switches an aggregate on or off. -/
def switchRow (e : Entity) (number : Int) (enabled : Bool) : Statement Bool :=
  match e with
  | .identityProvider => EntityTable.providers.update number fun row => { row with enabled }
  | .serviceProvider => EntityTable.applications.update number fun row => { row with enabled }

/-- Runs a statement on the row of an aggregate that has to be there. -/
def onRow {e : Entity} (id : Id e) (s : Statement Bool) : Transaction Unit := do
  let isThere ← Transaction.step s
  if isThere then return else throw (.noSuchId id)

/-- The answer to the question whether the store is there: a statement outside of transactions. -/
def readying (db : Database) (engine : Engine) : Answer Database Unit :=
  match step mark engine ⟨db.tables, 0⟩ with
  | .ok _ => ⟨.ok (), db, []⟩
  | .error err => ⟨.error (err.inContext "readiness" "sqlite store"), db, []⟩

/-- The answer to a request for an aggregate. There is no row for an identifier that is no row
number. -/
def get (db : Database) (engine : Engine) (e : Entity) :
    Ref e → Answer Database (Option e.Aggregate)
  | .id id =>
    match id.rowNumber? with
    | none => ⟨.ok none, db, []⟩
    | some number => db.reading engine (.get e) (refTarget (.id id)) (readAt e number)
  | .name name => db.reading engine (.get e) (refTarget (.name (e := e) name)) (readNamed e name)

/-- What is warned of when a look-up by property has found some providers. -/
def ambiguity (scope : PropertyScope) (key : String) (numbers : List Int) : List Warning :=
  if 1 < numbers.length then [.ambiguousLookup scope key numbers.length] else []

/-- The answer to a look-up by property. Values are compared by their canonical texts. A warning is
given as soon as the providers are known, so it stands if the one of them is not read. -/
def findByProperty (db : Database) (engine : Engine) (scope : PropertyScope) (key : String)
    (value : PropertyValue) : Answer Database (Option IdentityProvider) :=
  let search : Transaction (List Int) := select fun t => t.providersWith scope key value.text
  let body : Transaction (Option IdentityProvider) := do
    let numbers ← search
    readFound .identityProvider numbers.head?
  let warnings := ((search.soFar? engine db.tables).map (ambiguity scope key)).getD []
  db.reading engine .findByProperty (propertyTarget scope key) body warnings

/-- The answer to a write of new content. The transaction that writes metadata is for a row number;
one that writes another section begins before the identifier is looked at. -/
def writingSection (db : Database) (engine : Engine) (id : ProviderId) (s : SectionUpdate) :
    Answer Database Unit :=
  match s with
  | .metadata m =>
    db.writingAt engine (.updateSection .metadata) id fun number =>
      SectionUpdate.writeMetadata id number m
  | s =>
    db.writing engine (.updateSection s.target) (target .identityProvider id.text) (s.writeAt id)

/-- The answer to a section update. Content that breaks a rule by itself is refused before the
rows are looked at; metadata are checked against the stored name. -/
def updateSection (db : Database) (engine : Engine) (id : ProviderId) (s : SectionUpdate) :
    Answer Database Unit :=
  let early : Checked Unit :=
    match s with
    | .metadata _ => .ok ()
    | s => s.validate
  match early with
  | .error err => ⟨.error (.ofModel err), db, []⟩
  | .ok () => db.writingSection engine id s

/-- The answer to a request under an engine. -/
def answerUnder (engine : Engine) (db : Database) : (r : Request) → Answer Database r.Reply
  | .list e enabledOnly =>
    db.reading engine (.list e enabledOnly) (listTarget e) (select fun t => t.names e enabledOnly)
  | .create e a => db.writing engine (.create e) (target e (e.nameOf a)) (insert e a)
  | .get e ref => db.get engine e ref
  | .resolve e name =>
    db.reading engine (.resolve e) (target e name) (fetch fun t => t.resolve e name)
  | .findByProperty scope key value => db.findByProperty engine scope key value
  | .update e a =>
    match e.idOf a with
    | none => ⟨.error (.validation (.notStored e none)), db, []⟩
    | some id => db.writingAt engine (.update e) id (update e a id)
  | .updateSection id s => db.updateSection engine id s
  | .delete e id => db.writingAt engine (.delete e) id fun number => onRow id (deleteRow e number)
  | .switch e id enabled =>
    db.writingAt engine (.switch e enabled) id fun number =>
      onRow id (switchRow e number enabled)
  | .readiness => db.readying engine

/-- The answer to a request. -/
def answer (db : Database) (r : Request) : Answer Database r.Reply :=
  db.answerUnder db.engine r

instance : ProviderStore Database := ⟨answer⟩

end Database

end FederationRegistry
