import FederationRegistry.Settings.Location
import FederationRegistry.Store.Relational

/-!
# Opening a relational store

An open store has one connection that writes and a pool of connections that read, each in its
turn. A database in memory may be seen by the connection that writes alone; then every read finds
the tables missing. Every connection waits for a busy database as long as the settings say. The
engine keeps that time in milliseconds as a signed number of 32 bits, and a longer time stops the
program.

Main definitions: `StoreSettings.connect` and `OpenStore.answer`. Neither the waiting time nor what
is among the files is part of `StoreSettings.validate`, which looks at the path alone.
-/

namespace FederationRegistry

/-- The longest time in milliseconds that the engine can wait. -/
def maxBusyTimeoutMs : Nat := 2147483647

/-- The connections that read. -/
structure ReadPool where
  size : Nat
  /-- The number of reads so far, which wraps around. -/
  reads : UInt64 := 0
deriving DecidableEq

/-- The place of the connection that serves the next read, and the pool behind that read. A pool
without connections serves none. -/
def ReadPool.next? (p : ReadPool) : Option (Nat × ReadPool) :=
  if p.size = 0 then none
  else some (p.reads.toNat % p.size, { p with reads := p.reads + 1 })

/-- A database in use. -/
structure OpenStore where
  database : Database
  readers : ReadPool
  /-- The connections that read see the database. Otherwise each has one of its own, without
  tables. -/
  isShared : Bool := true

/-! ## Answers -/

/-- The table with the rows of an entity. -/
def Entity.table : Entity → Table
  | .identityProvider => .provider
  | .serviceProvider => .application

/-- The table with the properties of a scope. -/
def PropertyScope.table : PropertyScope → Table
  | .provider => .property
  | .authenticator => .authenticatorProperty
  | .provisioner => .provisionerProperty

/-- A read before it is done: the action, what it is about, and the table that it looks at first. -/
structure Look where
  action : Action
  target : String
  table : Table

/-- The read that a request asks for, if it asks for one. No row has an identifier beyond the range
of row numbers, so nothing is looked at for it. -/
def Request.look? : Request → Option Look
  | .list e enabledOnly => some ⟨.list e enabledOnly, Database.listTarget e, e.table⟩
  | .get e (.id id) =>
    id.rowNumber?.map fun _ => ⟨.get e, Database.refTarget (.id id), e.table⟩
  | .get e (.name name) => some ⟨.get e, Database.refTarget (.name (e := e) name), e.table⟩
  | .resolve e name => some ⟨.resolve e, Database.target e name, e.table⟩
  | .findByProperty scope key _ =>
    some ⟨.findByProperty, Database.propertyTarget scope key, scope.table⟩
  | _ => none

/-- The failure of a read that does not find its table. -/
def Look.failure (l : Look) : RegistryError :=
  (RegistryError.ofStore (.engine (.noTable l.table.name))).inContext l.action.label l.target

/-- The answer to a request. -/
def OpenStore.answer (s : OpenStore) (r : Request) : Answer OpenStore r.Reply :=
  match if s.isShared then none else r.look? with
  | some l => ⟨.error l.failure, s, []⟩
  | none => (s.database.answer r).mapStore fun database => { s with database }

instance : ProviderStore OpenStore := ⟨OpenStore.answer⟩

/-! ## Opening -/

/-- Why a store does not open. -/
inductive OpenFailure where
  | refused (reason : StoreError)
  /-- The program stops, since the engine cannot wait that long. -/
  | stopped
deriving DecidableEq

/-- The database opened as the settings say: they have to be valid, there has to be a database or
room for one among the files, the engine has to take the waiting time, and the schema has to be of
the right version. -/
def StoreSettings.connect (s : StoreSettings) (files : Files) (db : Database) :
    Except OpenFailure OpenStore := do
  (s.validate files.isDirectory).mapError fun reason => .refused (.unfit reason)
  let some location := Location.find? files s.journalMode s.path
    | throw (.refused (Location.failure files s.path))
  if maxBusyTimeoutMs < s.busyTimeoutMs then throw .stopped
  let (ready, db) := db.prepare
  ready.mapError .refused
  return { database := db, readers := { size := s.readPoolSize }, isShared := location.isShared }

end FederationRegistry
