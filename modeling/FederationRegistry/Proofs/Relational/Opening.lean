import FederationRegistry.Proofs.Validity
import FederationRegistry.Store.Relational.Connections

/-!
# Opening databases and using open stores

Opening a database changes no row, and what was opened once opens again, for that depends on the
version alone. A store whose connections all see the database answers like the database.

Main statements: `StoreSettings.connect_eq_ok_iff` and `OpenStore.answer_of_isShared`.
-/

namespace FederationRegistry

/-! ## Making a database ready -/

namespace Database

variable {db : Database}

/-- A database gets the current version and all tables, or is left as it is. -/
theorem prepare_cases (db : Database) :
    db.prepare = (.ok (), { db with versions := some [.integer schemaVersion], missing := [] }) ∨
      db.prepare.2 = db := by
  unfold prepare
  split
  · exact .inl rfl
  · split
    · exact .inr rfl
    · split <;> exact .inr rfl

theorem tables_prepare (db : Database) : db.prepare.2.tables = db.tables := by
  rcases prepare_cases db with hnew | hsame
  · rw [hnew]
  · rw [hsame]

theorem guards_prepare (db : Database) : db.prepare.2.guards = db.guards := by
  rcases prepare_cases db with hnew | hsame
  · rw [hnew]
  · rw [hsame]

/-- A database that was opened can be opened again. -/
theorem opens_prepare (h : db.prepare.1 = .ok ()) : db.prepare.2.prepare.1 = .ok () := by
  rcases prepare_cases db with hnew | hsame
  · rw [hnew]
    rfl
  · rw [hsame, h]

/-- Whether a database opens, its version alone tells. -/
theorem opens_of_versions {db' : Database} (h : db.prepare.1 = .ok ())
    (hversions : db'.versions = db.versions) : db'.prepare.1 = .ok () := by
  rw [← h, prepare, prepare, hversions]
  split
  · rfl
  · split
    · rfl
    · split <;> rfl

end Database

/-! ## Open stores -/

namespace StoreSettings

variable {s : StoreSettings} {files : Files}

/-- What valid settings come to when there is a database, or room for one. -/
theorem connect_of_location (hvalid : s.validate files.isDirectory = .ok ()) {location : Location}
    (hlocation : Location.find? files s.journalMode s.path = some location) (db : Database) :
    s.connect files db =
      if maxBusyTimeoutMs < s.busyTimeoutMs then .error .stopped
      else (db.prepare.1.mapError .refused).map fun _ =>
        { database := db.prepare.2, readers := { size := s.readPoolSize },
          isShared := location.isShared } := by
  rw [connect, hvalid, hlocation]
  simp only [bind, Except.bind, pure, Except.pure, throw, throwThe, MonadExceptOf.throw,
    mapError_ok]
  split
  · rfl
  · cases db.prepare.1 <;> rfl

theorem connect_of_no_location (hvalid : s.validate files.isDirectory = .ok ())
    (hlocation : Location.find? files s.journalMode s.path = none) (db : Database) :
    s.connect files db = .error (.refused (Location.failure files s.path)) := by
  rw [connect, hvalid, hlocation]
  rfl

/-- Where directories cannot be made there is no location, and their failure is reported as one of
the files. -/
theorem connect_of_no_way (hvalid : s.validate files.isDirectory = .ok ()) {failure : WayFailure}
    (hway : files.makeWay s.path = .error failure) (db : Database) :
    s.connect files db = .error (.refused (.files failure)) := by
  have hlocation : Location.find? files s.journalMode s.path = none := by
    simp only [Location.find?, hway, Except.toOption, Option.bind_none]
    split <;> rfl
  rw [connect_of_no_location hvalid hlocation, Location.failure, hway]

/-- A store opens on valid settings, at a location, with a time that the engine can wait, on a
database that can be made ready. -/
theorem connect_eq_ok_iff {db : Database} {store : OpenStore} :
    s.connect files db = .ok store ↔
      s.validate files.isDirectory = .ok () ∧
      ∃ location, Location.find? files s.journalMode s.path = some location ∧
        s.busyTimeoutMs ≤ maxBusyTimeoutMs ∧ db.prepare.1 = .ok () ∧
        store = { database := db.prepare.2, readers := { size := s.readPoolSize },
                  isShared := location.isShared } := by
  cases hvalid : s.validate files.isDirectory with
  | error reason => simp [connect, hvalid, bind, Except.bind]
  | ok _ =>
    cases hlocation : Location.find? files s.journalMode s.path with
    | none => simp [connect_of_no_location hvalid hlocation]
    | some location =>
      rw [connect_of_location hvalid hlocation]
      by_cases hlong : maxBusyTimeoutMs < s.busyTimeoutMs
      · simp [hlong, Nat.not_le.mpr hlong]
      · cases hready : db.prepare.1 with
        | error err => simp [hlong, Except.map]
        | ok _ => simp [hlong, Nat.not_lt.mp hlong, Except.map, eq_comm]

/-- A store that opens is one on the database made ready. -/
theorem connect_eq_ok {db : Database} {store : OpenStore} (h : s.connect files db = .ok store) :
    store.database = db.prepare.2 := by
  obtain ⟨-, location, -, -, -, rfl⟩ := connect_eq_ok_iff.mp h
  rfl

end StoreSettings

theorem OpenStore.answer_of_isShared {s : OpenStore} (h : s.isShared = true) (r : Request) :
    s.answer r = (s.database.answer r).mapStore fun database => { s with database } := by
  simp only [answer, h, if_true]

/-- A directory without files, in which a database can be made. -/
def Files.emptyDirectory : Files := ⟨fun path => path == "" || path == ".", fun _ => none⟩

end FederationRegistry
