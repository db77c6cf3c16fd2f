import FederationRegistry.Proofs.Relational.MirrorReads
import FederationRegistry.Proofs.Relational.Opening
import FederationRegistry.Proofs.Service.Consistency

/-!
# A database that is opened again and again

Every time a database is opened, a service serves calls on it until it is closed. The next opening
finds what the last one left behind, as it does with a file. A database in memory is gone when it
is closed, so that there a run is a single opening.

**Theorem (`consistent_runs`).** However a service is called, with either store behind it, what is
stored is consistent afterwards, and the identifiers of creations ascend over the whole run. In a
database the run reaches over any number of openings, those that fail included.

**Rows** are consistent because they mirror a store in memory that is (`Database.Kept`). A write for
which numbers run out fails and changes nothing, so that no number of creations is too many.
-/

namespace FederationRegistry

/-! ## Openings -/

/-- How a database is opened, and the calls until it is closed. -/
structure Opening (ε : Type) where
  settings : StoreSettings
  files : Files
  interceptors : List (Interceptor ε) := []
  calls : List Call

namespace Database

/-- The log of an opening, and the database afterwards. Where opening fails, nothing is served. -/
def serve {ε : Type} (db : Database) (o : Opening ε) : List Entry × Database :=
  match o.settings.connect o.files db with
  | .error _ => ([], db)
  | .ok store =>
    let served := Service.run ⟨store, o.interceptors⟩ o.calls
    (served.1, served.2.database)

/-- The log of openings, one after the other, and the database after the last. -/
def serveAll {ε : Type} (db : Database) : List (Opening ε) → List Entry × Database
  | [] => ([], db)
  | o :: os =>
    let served := db.serve o
    let rest := serveAll served.2 os
    (served.1 ++ rest.1, rest.2)

/-! ## What a database keeps -/

variable {d : Demand} {db : Database}

/-- The rows mirror a store in memory that is kept, no guard is on them, and the database opens. -/
structure Kept (d : Demand) (db : Database) : Prop where
  mirrors : ∃ m : MemoryStore, m.Kept d ∧ db.tables.Mirrors m
  guards : db.guards = []
  opens : db.prepare.1 = .ok ()

/-- The identifier given out last for an entity. -/
def last (db : Database) (e : Entity) : Nat := (db.tables.aggregates e).last.toNat

theorem last_of_mirrors {m : MemoryStore} (h : db.tables.Mirrors m) (e : Entity) :
    db.last e = (m.shelf e).last := by
  rw [last, (h.lists e).last]
  exact Int.toNat_natCast _

theorem kept_new : ({} : Database).Kept d where
  mirrors := ⟨{}, MemoryStore.kept_empty, Tables.Mirrors.empty⟩
  guards := rfl
  opens := rfl

/-! ### Opening -/

theorem kept_prepare (h : db.Kept d) : db.prepare.2.Kept d where
  mirrors := by rw [tables_prepare]; exact h.mirrors
  guards := (guards_prepare db).trans h.guards
  opens := opens_prepare h.opens

theorem kept_fresh : fresh.Kept d := kept_prepare kept_new

/-! ### Requests -/

theorem store_of_read {r : Request} (hr : r.isWrite = false) : (db.answer r).store = db :=
  store_of_reading hr db db.engine

theorem created_of_read {r : Request} (hr : r.isWrite = false) (e : Entity)
    (result : Except RegistryError r.Reply) : r.created e result = [] := by
  cases r with
  | list | get | resolve | findByProperty | readiness => rfl
  | create | update | updateSection | delete | switch => cases hr

theorem created_error (e : Entity) (r : Request) (err : RegistryError) :
    r.created e (.error err) = [] := by
  cases r <;> rfl

/-- A database that is left as it is has given out nothing. -/
theorem ascends_same (e : Entity) {ks : List Nat} (h : ks = []) :
    Ascends (db.last e) ks (db.last e) := by
  rw [h]
  exact .nil (Nat.le_refl _)

/-- A write keeps the database, and gives out what the store in memory gives out. -/
theorem kept_of_matches {m : MemoryStore} {r : Request} (h : db.Kept d) (hm : m.Kept d)
    (hmirrors : db.tables.Mirrors m) (hr : r.Admissible d) {answer : Answer Database r.Reply}
    (hmatches : db.Matches m r.inserts answer (m.answer r)) :
    answer.store.Kept d ∧
      ∀ e, Ascends (db.last e) (r.created e answer.result) (answer.store.last e) := by
  have hupholds := MemoryStore.upholds (d := d)
  have hkept := hupholds.keeps hm hr
  have hascends := hupholds.ascends hm hr
  change (m.answer r).store.Kept d at hkept
  change ∀ e, Ascends (m.shelf e).last (r.created e (m.answer r).result)
    ((m.answer r).store.shelf e).last at hascends
  generalize m.answer r = inMemory at hmatches hkept hascends
  cases hmatches with
  | agrees mirrors _ =>
    -- the rows mirror both stores, so the last identifiers are the same before and after
    refine ⟨⟨⟨_, hkept, mirrors⟩, h.guards, opens_of_versions h.opens rfl⟩, fun e => ?_⟩
    rw [last_of_mirrors hmirrors, last_of_mirrors mirrors]
    exact hascends e
  | refused err => exact ⟨h, fun e => ascends_same e (created_error e r err)⟩
  | exhausted err => exact ⟨h, fun e => ascends_same e (created_error e r err)⟩

/-- **Requests to a database** keep it. -/
theorem kept_answer (h : db.Kept d) {r : Request} (hr : r.Admissible d) :
    (db.answer r).store.Kept d ∧
      ∀ e, Ascends (db.last e) (r.created e (db.answer r).result) ((db.answer r).store.last e) := by
  cases hwrite : r.isWrite with
  | true =>
    obtain ⟨m, hm, hmirrors⟩ := h.mirrors
    exact kept_of_matches h hm hmirrors hr (matches_answer h.guards hm hmirrors hr hwrite)
  | false =>
    rw [store_of_read hwrite]
    exact ⟨h, fun e => ascends_same e (created_of_read hwrite e _)⟩

end Database

/-- Requests to an open store keep its database, also when it cannot be read. -/
theorem OpenStore.kept_answer {d : Demand} {s : OpenStore} (h : s.database.Kept d) {r : Request}
    (hr : r.Admissible d) :
    (s.answer r).store.database.Kept d ∧ ∀ e, Ascends (s.database.last e)
      (r.created e (s.answer r).result) ((s.answer r).store.database.last e) := by
  unfold answer
  split
  · exact ⟨h, fun e => Database.ascends_same e (Database.created_error e r _)⟩
  · exact Database.kept_answer h hr

theorem OpenStore.upholds {d : Demand} :
    Upholds d (fun s : OpenStore => s.database.Kept d) fun s e => s.database.last e where
  keeps hs hr := (kept_answer hs hr).1
  ascends hs hr := (kept_answer hs hr).2

/-! ### Runs -/

namespace Database

variable {d : Demand} {db : Database} {ε : Type}

theorem last_prepare (db : Database) (e : Entity) : db.prepare.2.last e = db.last e := by
  rw [last, tables_prepare, last]

theorem kept_serve (h : db.Kept d) {o : Opening ε} (ho : ∀ c ∈ o.calls, c.Admissible d) :
    (db.serve o).2.Kept d ∧
      ∀ e, Ascends (db.last e) (createdIds e (db.serve o).1) ((db.serve o).2.last e) := by
  unfold serve
  cases hconnect : o.settings.connect o.files db with
  | error err => exact ⟨h, fun e => ascends_same e rfl⟩
  | ok store =>
    have hstore := StoreSettings.connect_eq_ok hconnect
    have hkept : store.database.Kept d := hstore ▸ kept_prepare h
    have hrun := OpenStore.upholds.run ⟨store, o.interceptors⟩ ho hkept
    refine ⟨hrun.1, fun e => ?_⟩
    rw [← last_prepare db, ← hstore]
    exact hrun.2 e

/-- **What a database keeps over all openings.** -/
theorem kept_serveAll (h : db.Kept d) {os : List (Opening ε)}
    (hos : ∀ o ∈ os, ∀ c ∈ o.calls, c.Admissible d) :
    (db.serveAll os).2.Kept d ∧
      ∀ e, Ascends (db.last e) (createdIds e (db.serveAll os).1) ((db.serveAll os).2.last e) := by
  induction os generalizing db with
  | nil => exact ⟨h, fun e => ascends_same e rfl⟩
  | cons o os ih =>
    obtain ⟨hkept, hserve⟩ := kept_serve h (hos o (by simp))
    obtain ⟨hlast, hrest⟩ := ih hkept fun o ho => hos o (by simp [ho])
    refine ⟨hlast, fun e => ?_⟩
    have hlog : createdIds e (db.serveAll (o :: os)).1 =
        createdIds e (db.serve o).1 ++ createdIds e ((db.serve o).2.serveAll os).1 :=
      List.flatMap_append
    rw [hlog]
    exact (hserve e).append (hrest e)

/-! ### What the rows store -/

/-- The aggregate is what the rows under a number give. -/
def Stored (db : Database) (e : Entity) (k : Nat) (a : e.Aggregate) : Prop :=
  db.tables.load e k = .ok (some a)

/-- Every row is that of an aggregate. -/
def IsStored (db : Database) : Prop :=
  ∀ e number row, (db.tables.aggregates e).rows.find? number = some row →
    ∃ (k : Nat) (a : e.Aggregate), number = k ∧ db.Stored e k a

theorem Kept.consistent (hd : d.Readable) (h : db.Kept d) :
    db.IsStored ∧ Consistent db.Stored := by
  obtain ⟨m, hm, hmirrors⟩ := h.mirrors
  have hstored : db.Stored = m.Stored := by
    funext e k a
    rw [Stored, hmirrors.load_eq hd hm, MemoryStore.Stored]
    exact propext ⟨fun h => Except.ok.inj h, fun h => congrArg Except.ok h⟩
  rw [IsStored, hstored]
  refine ⟨fun e number row hrow => ?_, hm.consistent⟩
  obtain ⟨k, a, hnumber, hfind, -⟩ := (hmirrors.lists e).of_find?_row hrow
  exact ⟨k, a, hnumber, hfind⟩

end Database

/-- Values that are read back. -/
def Demand.readBack : Demand := ⟨PropertyValue.Readable, Sections.Readable⟩

theorem Demand.readable_readBack : readBack.Readable := ⟨fun _ h => h, fun _ h => h⟩

/-- **What is stored is consistent after all calls**, in memory and in a database that is opened
any number of times. Arguments are what builders make; those that a database stores are values that
it reads back. -/
theorem consistent_runs (ε : Type) :
    (∀ (interceptors : List (Interceptor ε)) (calls : List Call), (∀ c ∈ calls, c.Admissible {}) →
      let served := Service.run ⟨({} : MemoryStore), interceptors⟩ calls
      ConsistentAfter served.1 served.2.Stored) ∧
    (∀ openings : List (Opening ε),
      (∀ o ∈ openings, ∀ c ∈ o.calls, c.Admissible .readBack) →
      let served := ({} : Database).serveAll openings
      served.2.prepare.1 = .ok () ∧ served.2.IsStored ∧
        ConsistentAfter served.1 served.2.Stored) := by
  constructor
  · intro interceptors calls hcalls
    obtain ⟨hkept, hlog⟩ :=
      MemoryStore.upholds.run ⟨{}, interceptors⟩ hcalls MemoryStore.kept_empty
    exact .of_ascends hkept.consistent hlog
  · intro openings hopenings
    obtain ⟨hkept, hlog⟩ := Database.kept_serveAll Database.kept_new hopenings
    obtain ⟨hstored, hconsistent⟩ := hkept.consistent Demand.readable_readBack
    exact ⟨hkept.opens, hstored, .of_ascends hconsistent hlog⟩

/-- Calls about a sample provider, which is created again in vain and again after it is gone. -/
def sampleCalls : List Call :=
  [.operation (.create .identityProvider .acme),
    .operation (.create .identityProvider .acme),
    .operation (.updateSection (.name "acme")
      (.properties (PropertyMap.put ∅ "tier" (.ofJson (.string "silver"))))),
    .operation (.delete .identityProvider (.name "acme")),
    .find (.name "acme"),
    .operation (.create .identityProvider .acme)]

theorem admissible_sampleCalls_of_plain {d : Demand}
    (hd : ∀ v, PropertyValue.Plain v → d.property v) : ∀ c ∈ sampleCalls, c.Admissible d := by
  have hacme : Entity.identityProvider.Offered d IdentityProvider.acme :=
    ⟨IdentityProvider.built_acme, IdentityProvider.plain_acme.mono hd⟩
  have hdelta : (PropertyMap.put ∅ "tier" (.ofJson (.string "silver"))).HasValues d.property :=
    PropertyMap.hasValues_empty.put "tier" (hd _ (PropertyValue.plain_string "silver"))
  simp only [sampleCalls, List.forall_mem_cons]
  exact ⟨hacme, hacme, ⟨trivial, hdelta⟩, trivial, trivial, hacme, List.forall_mem_nil _⟩

theorem admissible_sampleCalls {d : Demand} (hd : ∀ v, PropertyValue.Readable v → d.property v) :
    ∀ c ∈ sampleCalls, c.Admissible d :=
  admissible_sampleCalls_of_plain fun v hv => hd v hv.readable

/-- A service in memory that nothing observes. -/
def sampleService : Service MemoryStore Unit := { store := {} }

/-- The calls in a file that is not there at first. -/
def sampleOpening : Opening Unit where
  settings := { path := "registry.db" }
  files := .emptyDirectory
  calls := sampleCalls

/-- In memory two creations succeed. In a database that is opened twice it is three, and the third
identifier is still a new one. -/
theorem consistent_runs_sampleCalls :
    (ConsistentAfter (sampleService.run sampleCalls).1 (sampleService.run sampleCalls).2.Stored ∧
      createdIds .identityProvider (sampleService.run sampleCalls).1 = [1, 2]) ∧
    ConsistentAfter (({} : Database).serveAll [sampleOpening, sampleOpening]).1
        (({} : Database).serveAll [sampleOpening, sampleOpening]).2.Stored ∧
      createdIds .identityProvider
        (({} : Database).serveAll [sampleOpening, sampleOpening]).1 = [1, 2, 3] := by
  obtain ⟨hmemory, hdatabase⟩ := consistent_runs Unit
  refine ⟨⟨hmemory [] sampleCalls (admissible_sampleCalls fun _ _ => trivial), by decide +kernel⟩,
    ?_, by decide +kernel⟩
  refine (hdatabase [sampleOpening, sampleOpening] fun o ho => ?_).2.2
  have hopening : o = sampleOpening := by simpa using ho
  rw [hopening]
  exact admissible_sampleCalls fun _ h => h

end FederationRegistry
