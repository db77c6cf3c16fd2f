import FederationRegistry.Proofs.Relational.Outcome
import FederationRegistry.Proofs.Relational.Reading

/-!
# What writes are answered with

A write is one transaction, unless it is refused before one begins
(`Database.answerUnder_write_cases`). Its answer is the outcome of that transaction in a context
(`Database.settled`), whatever the engine, unless the engine makes it fail; then the store stays as
it is (`Database.writing_cases`).
-/

namespace FederationRegistry

open Transaction

/-! ## Transactions of writes -/

namespace Database

variable {t : Tables} {number : Int}

instance steady_onRow {e : Entity} (id : Id e) (s : Statement Bool) : Steady (onRow id s) := by
  unfold onRow
  infer_instance

instance steady_insert (e : Entity) (a : e.Aggregate) : Steady (insert e a) := by
  cases e with
  | identityProvider => exact inferInstanceAs (Steady (IdentityProvider.insertRows a))
  | serviceProvider => exact inferInstanceAs (Steady (ServiceProvider.insertRows a))

instance steady_update (e : Entity) (a : e.Aggregate) (id : Id e) (number : Int) :
    Steady (update e a id number) := by
  cases e with
  | identityProvider => exact inferInstanceAs (Steady (IdentityProvider.updateRows a id number))
  | serviceProvider => exact inferInstanceAs (Steady (ServiceProvider.updateRows a id number))

theorem settle_onRow {e : Entity} (id : Id e) (s : Statement Bool) (t : Tables) :
    (onRow id s).settle t =
      ((s.run t).mapError dataFailure).bind fun out =>
        if out.1 then .ok ((), out.2) else .error (.noSuchId id) := by
  rw [onRow, settle_bind, settle_step]
  cases (s.run t).mapError dataFailure with
  | error err => rfl
  | ok out => simp only [Except.bind]; split <;> rfl

theorem settle_onRow_update_none {ρ : Type} (table : EntityTable ρ) {e : Entity} (id : Id e)
    {number : Int} {t : Tables} (h : (table.rows t).rows.find? number = none) (change : ρ → ρ) :
    (onRow id (table.update number change)).settle t = .error (.noSuchId id) := by
  rw [settle_onRow, ← settle_step]
  exact (bind_of_ok (table.settle_update_none dataFailure h change) _).trans rfl

theorem settle_onRow_update_some {ρ : Type} (table : EntityTable ρ) {e : Entity} (id : Id e)
    {number : Int} {t : Tables} {row : ρ} (h : (table.rows t).rows.find? number = some row)
    (change : ρ → ρ) :
    (onRow id (table.update number change)).settle t =
      if table.isNameTaken t number (table.name (change row)) then
        .error (dataFailure table.nameTaken)
      else
        .ok ((), table.withRows t
          ((table.rows t).withRows ((table.rows t).rows.insert number (change row)))) := by
  rw [settle_onRow, ← settle_step, step, table.settle_update_some dataFailure h change]
  split <;> rfl

/-- A provider that is there is switched. Its own name cannot be taken unless names repeat. -/
theorem settle_switchProvider (id : ProviderId) (number : Int) (enabled : Bool) (t : Tables) :
    (onRow id (switchRow .identityProvider number enabled)).settle t =
      match t.providers.rows.find? number with
      | none => .error (.noSuchId id)
      | some row =>
        if EntityTable.providers.isNameTaken t number row.name then
          .error (dataFailure EntityTable.providers.nameTaken)
        else .ok ((), t.putProvider number { row with enabled }) := by
  cases hrow : t.providers.rows.find? number with
  | none => exact settle_onRow_update_none EntityTable.providers id hrow _
  | some row => exact settle_onRow_update_some EntityTable.providers id hrow _

theorem settle_switchApplication (id : ServiceProviderId) (number : Int) (enabled : Bool)
    (t : Tables) :
    (onRow id (switchRow .serviceProvider number enabled)).settle t =
      match t.applications.rows.find? number with
      | none => .error (.noSuchId id)
      | some row =>
        if EntityTable.applications.isNameTaken t number row.name then
          .error (dataFailure EntityTable.applications.nameTaken)
        else .ok ((), t.putApplication number { row with enabled }) := by
  cases hrow : t.applications.rows.find? number with
  | none => exact settle_onRow_update_none EntityTable.applications id hrow _
  | some row => exact settle_onRow_update_some EntityTable.applications id hrow _

theorem settle_onRow_delete {ρ : Type} (table : EntityTable ρ) {e : Entity} (id : Id e)
    (number : Int) (t : Tables) :
    (onRow id (table.delete number)).settle t =
      if (table.rows t).rows.contains number then
        .ok ((), table.dropOwned
          (table.withRows t ((table.rows t).withRows ((table.rows t).rows.erase number))) number)
      else .error (.noSuchId id) := by
  rw [settle_onRow]
  simp only [EntityTable.delete]
  cases (table.rows t).rows.contains number <;> rfl

theorem settle_deleteProvider (id : ProviderId) (number : Int) (t : Tables) :
    (onRow id (deleteRow .identityProvider number)).settle t =
      if t.providers.rows.contains number then .ok ((), t.dropProvider number)
      else .error (.noSuchId id) :=
  settle_onRow_delete EntityTable.providers id number t

theorem settle_deleteApplication (id : ServiceProviderId) (number : Int) (t : Tables) :
    (onRow id (deleteRow .serviceProvider number)).settle t =
      if t.applications.rows.contains number then .ok ((), t.dropApplication number)
      else .error (.noSuchId id) :=
  settle_onRow_delete EntityTable.applications id number t

end Database

/-! ## Answers -/

namespace Database

variable {α : Type} {db : Database} {action : Action} {target : String} {body : Transaction α}

/-- The answer to a write that comes to an outcome. -/
def settled (db : Database) (action : Action) (target : String)
    (outcome : Except RegistryError (α × Tables)) : Answer Database α :=
  match outcome with
  | .ok (a, tables) => ⟨.ok a, { db with tables }, []⟩
  | .error err => ⟨.error (err.inContext action.label target), db, []⟩

/-- Under any engine a write is answered with a failure that leaves the store, or as if nothing
were refused. -/
theorem writing_cases (body : Transaction α) [Steady body] (db : Database) (engine : Engine)
    (action : Action) (target : String) :
    (∃ err, db.writing engine action target body = ⟨.error err, db, []⟩) ∨
      db.writing engine action target body = db.settled action target (body.settle db.tables) := by
  have hsettled : ∀ out, commit engine db.tables body = committed db.tables out →
      db.writing engine action target body = db.settled action target out := by
    intro out hcommit
    rw [writing, hcommit]
    cases out <;> rfl
  rcases commit_cases engine db.tables body with ⟨err, hcommit⟩ | hcommit
  · exact .inl ⟨_, hsettled (.error err) hcommit⟩
  · exact .inr (hsettled _ hcommit)

theorem writing_reliable [Steady body] (db : Database) (action : Action) (target : String) :
    db.writing Engine.reliable action target body =
      db.settled action target (body.settle db.tables) := by
  rw [writing, commit_reliable]
  cases body.settle db.tables <;> rfl

/-- An answer to a write under any engine, if it is a success, is that of the transaction with
nothing refused. -/
theorem settle_of_writing [Steady body] {engine : Engine} {a : α}
    (h : (db.writing engine action target body).result = .ok a) :
    body.settle db.tables = .ok (a, (db.writing engine action target body).store.tables) := by
  rcases writing_cases body db engine action target with ⟨err, hfailed⟩ | hsettled
  · rw [hfailed] at h
    cases h
  · rw [hsettled] at h ⊢
    cases hsettle : body.settle db.tables with
    | error err => rw [hsettle] at h; cases h
    | ok out =>
      rw [hsettle] at h
      cases h
      rfl

theorem writingAt_of_rowNumber {e : Entity} {id : Id e} {number : Int}
    (hnumber : id.rowNumber? = some number) (db : Database) (engine : Engine) (action : Action)
    (body : Int → Transaction Unit) :
    db.writingAt engine action id body =
      db.writing engine action (Database.target e id.text) (body number) := by
  rw [writingAt, hnumber]

theorem writingAt_of_none {e : Entity} {id : Id e} (hnumber : id.rowNumber? = none)
    (db : Database) (engine : Engine) (action : Action) (body : Int → Transaction Unit) :
    db.writingAt engine action id body = ⟨.error (.noSuchId id), db, []⟩ := by
  rw [writingAt, hnumber]

/-- Under any engine an aggregate is written at the row number of its identifier, if it has one. -/
theorem writingAt_cases {e : Entity} (db : Database) (engine : Engine) (action : Action) (id : Id e)
    (body : Int → Transaction Unit) :
    (∃ err, db.writingAt engine action id body = ⟨.error err, db, []⟩) ∨
      ∃ number, db.writingAt engine action id body =
        db.writing engine action (Database.target e id.text) (body number) := by
  cases hnumber : id.rowNumber? with
  | none => exact .inl ⟨_, writingAt_of_none hnumber db engine action body⟩
  | some number => exact .inr ⟨number, writingAt_of_rowNumber hnumber db engine action body⟩

/-- Under any engine a section is written at the row number of its identifier. Otherwise the write
fails and leaves the store. -/
theorem writingSection_cases (db : Database) (engine : Engine) (id : ProviderId)
    (s : SectionUpdate) :
    (∃ err, db.writingSection engine id s = ⟨.error err, db, []⟩) ∨
      ∃ number, id.rowNumber? = some number ∧
        db.writingSection engine id s =
          db.writing engine (.updateSection s.target) (Database.target .identityProvider id.text)
            (s.writeRows id number) := by
  cases hnumber : id.rowNumber? with
  | some number =>
    refine .inr ⟨number, rfl, ?_⟩
    cases s <;>
      simp only [writingSection, writingAt, SectionUpdate.writeAt, hnumber, SectionUpdate.target,
        SectionUpdate.writeRows]
  | none =>
    have hthrow (action : Action) (target : String) :
        ∃ err, db.writing engine action target (throw (.noSuchId id) : Transaction Unit) =
          ⟨.error err, db, []⟩ := by
      rcases writing_cases (throw (.noSuchId id)) db engine action target with h | h
      · exact h
      · exact ⟨_, h⟩
    left
    cases s <;> simp only [writingSection, writingAt, SectionUpdate.writeAt, hnumber]
    case metadata => exact ⟨_, rfl⟩
    all_goals exact hthrow _ _

/-- Where transactions begin, all sections are written alike. -/
theorem writingSection_of_letsRead {engine : Engine} (hengine : engine.LetsRead) (db : Database)
    (id : ProviderId) (s : SectionUpdate) :
    db.writingSection engine id s =
      db.writingAt engine (.updateSection s.target) id fun number => s.writeRows id number := by
  cases hnumber : id.rowNumber? with
  | some number =>
    cases s <;>
      simp only [writingSection, writingAt, SectionUpdate.writeAt, hnumber, SectionUpdate.target,
        SectionUpdate.writeRows]
  | none =>
    have hthrow (action : Action) (target : String) :
        db.writing engine action target (throw (.noSuchId id) : Transaction Unit) =
          ⟨.error (.noSuchId id), db, []⟩ := by
      rw [writing, commit_of_letsRead hengine (.throw _)]
      rfl
    cases s <;> simp only [writingSection, writingAt, SectionUpdate.writeAt, hnumber]
    all_goals exact hthrow _ _

/-- Content that builders make passes the check before the rows are looked at. -/
theorem updateSection_of_built {s : SectionUpdate} (hs : s.Built) (db : Database)
    (engine : Engine) (id : ProviderId) :
    db.updateSection engine id s = db.writingSection engine id s := by
  have hvalid := hs.valid
  cases s <;> simp only [updateSection, hvalid]

/-- **A write is one transaction**, unless it is refused before one begins. -/
theorem answerUnder_write_cases {r : Request} (hwrite : r.isWrite = true) (db : Database)
    (engine : Engine) :
    (∃ err, db.answerUnder engine r = ⟨.error err, db, []⟩) ∨
      ∃ action target body, db.answerUnder engine r = db.writing engine action target body := by
  have hwritingAt {e : Entity} (action : Action) (id : Id e) (body : Int → Transaction Unit) :
      (∃ err, db.writingAt engine action id body = ⟨.error err, db, []⟩) ∨
        ∃ action' target body', db.writingAt engine action id body =
          db.writing engine action' target body' := by
    obtain hrefused | ⟨number, hwriting⟩ := writingAt_cases db engine action id body
    · exact .inl hrefused
    · exact .inr ⟨_, _, _, hwriting⟩
  cases r with
  | create e a => exact .inr ⟨_, _, _, rfl⟩
  | update e a =>
    simp only [answerUnder]
    cases e.idOf a with
    | none => exact .inl ⟨_, rfl⟩
    | some id => exact hwritingAt _ id _
  | updateSection id s =>
    simp only [answerUnder, updateSection]
    split
    · exact .inl ⟨_, rfl⟩
    · obtain hrefused | ⟨number, -, hwriting⟩ := writingSection_cases db engine id s
      · exact .inl hrefused
      · exact .inr ⟨_, _, _, hwriting⟩
  | delete e id => exact hwritingAt _ id _
  | switch e id enabled => exact hwritingAt _ id _
  | list | get | resolve | findByProperty | readiness => cases hwrite

/-- Where transactions begin, content that builders make is written at its identifier. -/
theorem updateSection_of_letsRead {engine : Engine} (hengine : engine.LetsRead)
    {s : SectionUpdate} (hs : s.Built) (db : Database) (id : ProviderId) :
    db.updateSection engine id s =
      db.writingAt engine (.updateSection s.target) id fun number => s.writeRows id number :=
  (updateSection_of_built hs db engine id).trans (writingSection_of_letsRead hengine db id s)

end Database

end FederationRegistry
