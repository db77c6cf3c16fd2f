import FederationRegistry.Proofs.Relational.Lookup
import FederationRegistry.Proofs.Transcript

/-!
# The version of a schema, and databases that are closed and opened again

**Theorem (`opening_safe_and_transparent`).** A database without a version gets the current one and
the tables that it lacks, and keeps its rows; one of the current version stays as it is, and so does
every one that is refused. A database in a file that opens once can therefore be closed and opened
again anywhere in a run of requests: the results are those of the requests alone, and so is the
database that is left behind.

The run is by induction on its steps. A store works on a database of the current version
(`Database.IsCurrent`), which no request changes, and opening such a database changes nothing.
What was in a file when it was closed is found at the same place again; of a database in memory
nothing is left (`Disk.keep`).
-/

namespace FederationRegistry

/-! ## Versions -/

namespace Database

variable {db : Database}

/-- The cell of the version, if there is one. -/
def version? (db : Database) : Option Cell := (db.versions.getD []).head?

/-- The version is the current one. -/
def IsCurrent (db : Database) : Prop := db.version? = some (.integer schemaVersion)

theorem prepare_of_unversioned (h : db.version? = none) :
    db.prepare =
      (.ok (), { db with versions := some [.integer schemaVersion], missing := [] }) := by
  rw [version?] at h
  simp only [prepare, h]

theorem prepare_of_version {v : Int} (h : db.version? = some (.integer v)) :
    db.prepare = (if v = schemaVersion then .ok () else .error (.version v), db) := by
  rw [version?] at h
  simp only [prepare, h, Tables.integerIn]
  split <;> rfl

/-- A database of the current version is ready for use. -/
theorem prepare_of_isCurrent (h : db.IsCurrent) : db.prepare = (.ok (), db) :=
  (prepare_of_version h).trans (by rw [if_pos rfl])

/-- A database that was made ready has the current version. -/
theorem isCurrent_prepare (h : db.prepare.1 = .ok ()) : db.prepare.2.IsCurrent := by
  cases hversion : db.version? with
  | none =>
    rw [prepare_of_unversioned hversion]
    rfl
  | some c =>
    cases c with
    | integer v =>
      rw [prepare_of_version hversion] at h ⊢
      by_cases hv : v = schemaVersion
      · exact hversion.trans (congrArg (fun v => some (Cell.integer v)) hv)
      · rw [if_neg hv] at h
        cases h
    | null | real | text =>
      rw [version?] at hversion
      simp [prepare, hversion, Tables.integerIn] at h

theorem prepare_of_error {err : StoreError} (h : db.prepare.1 = .error err) :
    db.prepare.2 = db := by
  rcases prepare_cases db with hnew | hsame
  · rw [hnew] at h
    cases h
  · exact hsame

/-- What opening does to a database by its version, and when it fails. -/
structure OpensSafely (db : Database) : Prop where
  /-- Without a version a database gets the current one and the tables that it lacks, and keeps its
  rows. -/
  unversioned : db.versions = none ∨ db.versions = some [] →
    db.prepare = (.ok (), { db with versions := some [.integer 1], missing := [] })
  /-- A database of the current version is left as it is. -/
  current : ∀ rest, db.versions = some (.integer 1 :: rest) → db.prepare = (.ok (), db)
  /-- A database of another version is refused and left as it is. -/
  other : ∀ v rest, v ≠ 1 → db.versions = some (.integer v :: rest) →
    db.prepare = (.error (.version v), db)
  /-- A database that is refused for whatever reason is left as it is. -/
  refused : ∀ err, db.prepare.1 = .error err → db.prepare.2 = db

theorem opensSafely (db : Database) : db.OpensSafely where
  unversioned h := by
    refine prepare_of_unversioned ?_
    rcases h with h | h <;> rw [version?, h] <;> rfl
  current rest h := prepare_of_isCurrent (by rw [IsCurrent, version?, h]; rfl)
  other v rest hv h := by
    have hversion : db.version? = some (.integer v) := by
      rw [version?, h]
      rfl
    rw [prepare_of_version hversion, if_neg (show v ≠ schemaVersion from hv)]
  refused _ := prepare_of_error

/-! ### Requests -/

/-- No request changes the version: no statement of a write touches it. -/
theorem versions_answer (db : Database) (r : Request) :
    (db.answer r).store.versions = db.versions := by
  cases hwrite : r.isWrite with
  | false => exact congrArg Database.versions (store_of_reading hwrite db db.engine)
  | true =>
    obtain ⟨err, hanswer⟩ | ⟨_, _, body, hanswer⟩ := answerUnder_write_cases hwrite db db.engine
    · rw [answer, hanswer]
    · rw [answer, hanswer]
      rfl

theorem IsCurrent.answer (h : db.IsCurrent) (r : Request) : (db.answer r).store.IsCurrent := by
  rw [IsCurrent, version?, versions_answer]
  exact h

end Database

/-! ## Databases on a disk -/

/-- The databases in files, by their places. Where none was made there is a new one. -/
abbrev Disk := Place → Database

/-- A store in use, where its database is, and the disk as it was when the store was opened. -/
structure Mounted where
  location : Location
  store : OpenStore
  disk : Disk

namespace Disk

/-- The database that an opening finds. In memory it is a new one. -/
def find (disk : Disk) : Location → Database
  | .memory _ => {}
  | .file place => disk place

/-- The disk after a database was closed. One in memory is gone. -/
def keep (disk : Disk) (db : Database) : Location → Disk
  | .memory _ => disk
  | .file place => Function.update disk place db

/-- The store on the database that the settings lead to. -/
def connect (disk : Disk) (s : StoreSettings) (files : Files) : Except OpenFailure Mounted :=
  -- without a location the settings are refused, whatever database they are given
  let location := (Location.find? files s.journalMode s.path).getD (.memory false)
  (s.connect files (disk.find location)).map fun store => ⟨location, store, disk⟩

end Disk

namespace Mounted

/-- A step of a run: a request, or closing the database and opening it again. -/
inductive Step where
  | request (r : Request)
  | reopen (s : StoreSettings) (files : Files)

/-- The requests among steps. -/
def requests : List Step → List Request
  | [] => []
  | .request r :: steps => r :: requests steps
  | .reopen _ _ :: steps => requests steps

/-- The disk when the store is closed. -/
def close (x : Mounted) : Disk := x.disk.keep x.store.database x.location

/-- What is answered in a run, and the store in use at its end. -/
def run (x : Mounted) : List Step → Except OpenFailure (List Exchange × Mounted)
  | [] => .ok ([], x)
  | .request r :: steps =>
    let a := x.store.answer r
    (run { x with store := a.store } steps).map fun rest =>
      (⟨r, a.result, a.warnings⟩ :: rest.1, rest.2)
  | .reopen s files :: steps =>
    match x.close.connect s files with
    | .error err => .error err
    | .ok x => run x steps

end Mounted

/-- The settings are accepted and lead to a file. -/
structure StoreSettings.LeadsTo (s : StoreSettings) (files : Files) (place : Place) : Prop where
  valid : s.validate files.isDirectory = .ok ()
  location : Location.find? files s.journalMode s.path = some (.file place)
  waits : s.busyTimeoutMs ≤ maxBusyTimeoutMs

/-- A step that opens a database opens the one in a file. -/
def Mounted.Step.StaysAt (place : Place) : Mounted.Step → Prop
  | .request _ => True
  | .reopen s files => s.LeadsTo files place

/-! ## Runs -/

theorem Disk.connect_of_leadsTo {s : StoreSettings} {files : Files} {place : Place}
    (hs : s.LeadsTo files place) (disk : Disk) (hready : (disk place).prepare.1 = .ok ()) :
    disk.connect s files = .ok
      ⟨.file place, { database := (disk place).prepare.2, readers := { size := s.readPoolSize } },
        disk⟩ := by
  simp only [connect, hs.location, Option.getD_some, find]
  rw [StoreSettings.connect_of_location hs.valid hs.location, if_neg (Nat.not_lt.mpr hs.waits),
    hready]
  rfl

namespace Mounted

/-- The store works on a database of the current version in a file, which all connections see. -/
structure IsAt (x : Mounted) (place : Place) : Prop where
  location : x.location = .file place
  shared : x.store.isShared = true
  current : x.store.database.IsCurrent

theorem close_of_isAt {x : Mounted} {place : Place} (h : x.IsAt place) :
    x.close place = x.store.database := by
  rw [close, h.location, Disk.keep, Function.update_self]

/-- A run with requests and openings gives the results of the requests alone, and leaves the
database that they leave. -/
theorem run_of_isAt {place : Place} {x : Mounted} (h : x.IsAt place) {steps : List Step}
    (hsteps : ∀ step ∈ steps, step.StaysAt place) :
    ∃ last, x.run steps = .ok (transcript x.store.database (requests steps), last) ∧
      last.close place = ProviderStore.after x.store.database (requests steps) := by
  -- by induction on the steps; the invariant is that the store is open at the place
  induction steps generalizing x with
  | nil => exact ⟨x, rfl, close_of_isAt h⟩
  | cons step steps ih =>
    have hrest : ∀ step ∈ steps, step.StaysAt place := fun step hstep =>
      hsteps step (List.mem_cons_of_mem _ hstep)
    cases step with
    | request r =>
      have hanswer := OpenStore.answer_of_isShared h.shared r
      have hafter : ({ x with store := (x.store.answer r).store } : Mounted).IsAt place := by
        rw [hanswer]
        exact ⟨h.location, h.shared, h.current.answer r⟩
      obtain ⟨last, hrun, hlast⟩ := ih hafter hrest
      rw [hanswer] at hrun hlast
      refine ⟨last, ?_, hlast⟩
      dsimp only [run]
      rw [hanswer, hrun]
      rfl
    | reopen s files =>
      have hs : s.LeadsTo files place := hsteps _ List.mem_cons_self
      have hclosed := close_of_isAt h
      -- the database is current, so opening it again prepares nothing
      have hprepared := Database.prepare_of_isCurrent h.current
      have hopens := Disk.connect_of_leadsTo hs x.close (by rw [hclosed, hprepared])
      rw [hclosed, hprepared] at hopens
      obtain ⟨last, hrun, hlast⟩ := ih (x := ⟨.file place, ⟨x.store.database, _, true⟩, x.close⟩)
        ⟨rfl, rfl, h.current⟩ hrest
      exact ⟨last, by rw [run, hopens]; exact hrun, hlast⟩

end Mounted

theorem Disk.run_connect {disk : Disk} {s : StoreSettings} {files : Files} {place : Place}
    (hs : s.LeadsTo files place) (hready : (disk place).prepare.1 = .ok ()) :
    ∃ x, disk.connect s files = .ok x ∧ x.store.database = (disk place).prepare.2 ∧
      ∀ steps : List Mounted.Step, (∀ step ∈ steps, step.StaysAt place) →
        ∃ last, x.run steps = .ok (transcript x.store (Mounted.requests steps), last) ∧
          last.close place = (ProviderStore.after x.store (Mounted.requests steps)).database := by
  refine ⟨_, connect_of_leadsTo hs disk hready, rfl, fun steps hsteps => ?_⟩
  obtain ⟨last, hrun, hlast⟩ := Mounted.run_of_isAt
    (x := ⟨.file place, ⟨(disk place).prepare.2, { size := s.readPoolSize }, true⟩, disk⟩)
    ⟨rfl, rfl, Database.isCurrent_prepare hready⟩ hsteps
  refine ⟨last, ?_, ?_⟩
  · rw [Database.transcript_of_isShared rfl]
    exact hrun
  · rw [OpenStore.after_of_isShared rfl]
    exact hlast

/-- **Opening is safe, and nothing shows it.** Every database is opened safely. Settings that lead
to a file open what is there if it can be made ready, which a new database can. In a run of
requests, with the database closed and opened again anywhere in between, by any settings that lead
to the file, the requests have the results that they have on the store as it was opened first, and
leave the same database. -/
theorem opening_safe_and_transparent :
    (∀ db : Database, db.OpensSafely) ∧
    ∀ (disk : Disk) (s : StoreSettings) (files : Files) (place : Place),
      s.LeadsTo files place → (disk place).prepare.1 = .ok () →
      ∃ x, disk.connect s files = .ok x ∧ x.store.database = (disk place).prepare.2 ∧
        ∀ steps : List Mounted.Step, (∀ step ∈ steps, step.StaysAt place) →
          ∃ last, x.run steps = .ok (transcript x.store (Mounted.requests steps), last) ∧
            last.close place = (ProviderStore.after x.store (Mounted.requests steps)).database :=
  ⟨Database.opensSafely, fun _ _ _ _ => Disk.run_connect⟩

/-- The settings of a database in a file. -/
def registryFile : StoreSettings := { path := "registry.db" }

/-- The directory with the file in it. -/
def Files.withRegistry : Files := Files.emptyDirectory.touch "registry.db"

/-- Sample requests, the database opened again after each of them. -/
def sampleSteps : List Mounted.Step :=
  Database.sampleRequests.flatMap fun r => [.request r, .reopen registryFile .withRegistry]

/-- A file is made in an empty directory and opened again ten times, and the requests have the
results that they have without that. -/
theorem opening_safe_and_transparent_sampleSteps :
    registryFile.LeadsTo .emptyDirectory (.ofPath "registry.db") ∧
      (∀ step ∈ sampleSteps, step.StaysAt (.ofPath "registry.db")) ∧
      ∃ x last, Disk.connect (fun _ => {}) registryFile .emptyDirectory = .ok x ∧
        x.run sampleSteps = .ok (transcript x.store Database.sampleRequests, last) := by
  have hnew : registryFile.LeadsTo .emptyDirectory (.ofPath "registry.db") :=
    ⟨by decide +kernel, by decide +kernel, by decide⟩
  have hthere : registryFile.LeadsTo .withRegistry (.ofPath "registry.db") :=
    ⟨by decide +kernel, by decide +kernel, by decide⟩
  have hsteps : ∀ step ∈ sampleSteps, step.StaysAt (.ofPath "registry.db") := by
    intro step hstep
    obtain ⟨r, -, hr⟩ := List.mem_flatMap.mp hstep
    have hcases : step = .request r ∨ step = .reopen registryFile .withRegistry := by simpa using hr
    rcases hcases with rfl | rfl
    · trivial
    · exact hthere
  obtain ⟨x, hopens, -, hruns⟩ :=
    opening_safe_and_transparent.2 (fun _ => {}) registryFile .emptyDirectory _ hnew rfl
  obtain ⟨last, hrun, -⟩ := hruns sampleSteps hsteps
  exact ⟨hnew, hsteps, x, last, hopens, hrun⟩

end FederationRegistry
