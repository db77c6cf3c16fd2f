import FederationRegistry.Proofs.Relational.Answer
import FederationRegistry.Proofs.Relational.Opening

/-!
# How requests fail

A request makes the same steps under every engine until one of them fails, because the engine
refuses it or because it breaks a constraint. What is done so far is then undone, and the failure is
reported: as one of the data, with the failure of the engine as its cause, or as a taken name when
a column repeats in the row of the aggregate itself (`Reported`). A look-up that has warned already
when it fails has warned.

Main statements: `Database.failsCleanly_answer`, which says this of every request, and
`Database.leavesNoTrace_answer`, that nothing is left of a request that fails.
-/

set_option synthInstance.maxSize 1000

namespace FederationRegistry

open Transaction

/-! ## Traces -/

/-- If the answer is a failure, the store is as before. -/
def Answer.LeavesNoTrace {σ α : Type} (a : Answer σ α) (before : σ) : Prop :=
  ∀ err, a.result = .error err → a.store = before

namespace Database

variable {α : Type}

/-- Under every engine the answer is the same, unless one of these steps fails. The first that does
gives its report in a context, and the store is as before. -/
def FailsOnlyAt (db : Database) (answer : Engine → Answer Database α) (steps : List Step) : Prop :=
  ∃ (last : Answer Database α) (operation target : String), ∀ engine,
    answer engine =
      match firstFailure? engine 0 steps with
      | none => last
      | some (s, failure) => ⟨.error ((s.report failure).inContext operation target), db, []⟩

end Database

/-! ## Reports of steps -/

namespace Transaction.Step

/-- The step inserts or updates the row of an aggregate under a name. Only names repeat there, and
a column that repeats is reported as that name being taken. -/
structure Names (e : Entity) (name : String) (s : Step) : Prop where
  report : s.report = rowFailure e name
  own : ∀ c ∈ s.changes, c.table = e.table ∧ c.event ≠ .delete
  repeats : ∀ columns, s.failure = some (.unique columns) → columns = [e.table.qualified "name"]

/-- How the steps of a request report failures. -/
def IsHonest (named? : Option (Entity × String)) (s : Step) : Prop :=
  match named? with
  | none => s.report = dataFailure
  | some (e, name) => s.IsPlain ∨ s.Names e name

theorem IsPlain.isHonest {s : Step} (h : s.IsPlain) (named? : Option (Entity × String)) :
    s.IsHonest named? := by
  cases named? with
  | none => exact h.report
  | some n => exact .inl h

theorem Names.isHonest {e : Entity} {name : String} {s : Step} (h : s.Names e name) :
    s.IsHonest (some (e, name)) := .inr h

theorem run_of_failure {α : Type} {report : EngineFailure → RegistryError} {s : Statement α}
    {t : Tables} {failure : EngineFailure} (h : (of report s t).failure = some failure) :
    s.run t = .error failure := by
  simp only [of] at h
  split at h
  · cases h
  · rename_i hrun
    cases h
    exact hrun

theorem names_insert {ρ : Type} {table : EntityTable ρ} {e : Entity}
    (htable : table.table = e.table) (name : String) (row : ρ) (t : Tables) :
    (of (rowFailure e name) (table.insert row) t).Names e name where
  report := rfl
  own c hc := by
    obtain rfl := List.mem_singleton.mp hc
    exact ⟨htable, nofun⟩
  repeats columns h := by
    have hrun := run_of_failure h
    simp only [EntityTable.insert] at hrun
    split at hrun
    · cases hrun
    · split at hrun <;> cases hrun
      rw [htable]

theorem names_update {ρ : Type} {table : EntityTable ρ} {e : Entity}
    (htable : table.table = e.table) (name : String) (number : Int) (change : ρ → ρ) (t : Tables) :
    (of (rowFailure e name) (table.update number change) t).Names e name where
  report := rfl
  own c hc := by
    obtain ⟨row, -, rfl⟩ := List.mem_map.mp hc
    exact ⟨htable, nofun⟩
  repeats columns h := by
    have hrun := run_of_failure h
    simp only [EntityTable.update] at hrun
    split at hrun
    · cases hrun
    · split at hrun <;> cases hrun
      rw [htable]

end Transaction.Step

/-! ## Steps of writers -/

section Writers

open Transaction.Step

/-- A plain transaction reports failures honestly, whatever name is given. -/
theorem Transaction.Plain.honest {α : Type} (body : Transaction α) [hplain : Plain body]
    (named? : Option (Entity × String)) : Stepwise (IsHonest named?) body :=
  hplain.stepwise.mono fun _ h => h.isHonest named?

theorem IdentityProvider.honest_insertRows (p : IdentityProvider) :
    Stepwise (IsHonest (some (.identityProvider, p.name))) p.insertRows :=
  .bind (.lift _) fun row =>
    .bind (.execute fun t => (names_insert rfl p.name row t).isHonest) fun number =>
      .bind (Plain.honest (p.writeSections number) _) fun _ => .lift _

theorem IdentityProvider.honest_updateRows (p : IdentityProvider) (id : ProviderId)
    (number : Int) :
    Stepwise (IsHonest (some (.identityProvider, p.name))) (p.updateRows id number) :=
  .bind (.lift _) fun _ =>
    .bind (.execute fun t => (names_update rfl p.name number _ t).isHonest) fun _ =>
      .ite (Plain.honest (p.writeSections number) _) (.throw _)

theorem ServiceProvider.honest_insertRows (p : ServiceProvider) :
    Stepwise (IsHonest (some (.serviceProvider, p.name))) p.insertRows :=
  .bind (.execute fun t => (names_insert rfl p.name p.row t).isHonest) fun _ => .lift _

theorem ServiceProvider.honest_updateRows (p : ServiceProvider) (id : ServiceProviderId)
    (number : Int) :
    Stepwise (IsHonest (some (.serviceProvider, p.name))) (p.updateRows id number) :=
  .bind (.execute fun t => (names_update rfl p.name number _ t).isHonest) fun _ =>
    .ite (.pure _) (.throw _)

namespace SectionUpdate

/-- The name that a section update gives a provider: metadata have one. -/
def named? : SectionUpdate → Option (Entity × String)
  | .metadata m => some (.identityProvider, m.name)
  | _ => none

theorem honest_continueMetadata (id : ProviderId) (number : Int) (m : Metadata)
    (stored : Option String) :
    Stepwise (IsHonest (some (.identityProvider, m.name)))
      (continueMetadata id number m stored) := by
  cases stored with
  | none => exact .throw _
  | some name =>
    unfold continueMetadata
    dsimp only
    cases (ProviderKind.ofName name).checkMetadata m with
    | error err => exact .throw _
    | ok _ =>
      exact .bind (.lift _) fun dialect =>
        .bind (.execute fun t => (names_update rfl m.name number _ t).isHonest) fun _ =>
          Plain.honest (m.writeRows number) _

theorem honest_writeRows (s : SectionUpdate) (id : ProviderId) (number : Int) :
    Stepwise (IsHonest s.named?) (s.writeRows id number) := by
  have hplain (body : Transaction Unit) [Plain body] :
      Stepwise (IsHonest none) (requireProvider id number >>= fun _ => body) := Plain.honest _ _
  cases s with
  | metadata m =>
    show Stepwise _ (writeMetadata id number m)
    rw [writeMetadata_eq]
    exact .bind (Plain.honest _ _) (honest_continueMetadata id number m)
  | authentication a => exact hplain (Authentication.write number a.nonempty?)
  | provisioning p => exact hplain (p.write number)
  | properties delta => exact hplain (delta.writeMerged number)

theorem honest_writeAt (s : SectionUpdate) (id : ProviderId) :
    Stepwise (IsHonest s.named?) (s.writeAt id) := by
  unfold writeAt
  cases id.rowNumber? with
  | none => exact .throw _
  | some number => exact s.honest_writeRows id number

end SectionUpdate

namespace Database

/-- A statement on the row of an aggregate reports all failures as ones of the data. -/
theorem honest_onRow {e : Entity} (id : Id e) (s : Statement Bool) :
    Stepwise (IsHonest none) (onRow id s) :=
  .bind (.execute fun _ => rfl) fun _ => .ite (.pure _) (.throw _)

theorem honest_insert (e : Entity) (a : e.Aggregate) :
    Stepwise (IsHonest (some (e, e.nameOf a))) (insert e a) := by
  cases e with
  | identityProvider => exact IdentityProvider.honest_insertRows a
  | serviceProvider => exact ServiceProvider.honest_insertRows a

theorem honest_update (e : Entity) (a : e.Aggregate) (id : Id e) (number : Int) :
    Stepwise (IsHonest (some (e, e.nameOf a))) (update e a id number) := by
  cases e with
  | identityProvider => exact IdentityProvider.honest_updateRows a id number
  | serviceProvider => exact ServiceProvider.honest_updateRows a id number

end Database

end Writers

/-! ## Answers -/

/-- The name that a request gives an aggregate. -/
def Request.named? : Request → Option (Entity × String)
  | .create e a | .update e a => some (e, e.nameOf a)
  | .updateSection _ s => s.named?
  | _ => none

namespace Database

variable {α : Type} {db : Database} {named? : Option (Entity × String)}

/-- The answer comes from steps that report failures as clients see them. -/
def IsHonest (db : Database) (named? : Option (Entity × String))
    (answer : Engine → Answer Database α) : Prop :=
  ∃ steps, (∀ s ∈ steps, s.IsHonest named?) ∧ db.FailsOnlyAt answer steps

theorem isHonest_of_const {answer : Engine → Answer Database α}
    (h : ∀ engine, answer engine = answer Engine.reliable) : db.IsHonest named? answer :=
  ⟨[], fun _ hs => (nomatch hs), answer Engine.reliable, "", "", h⟩

theorem isHonest_writing {body : Transaction α} (h : Stepwise (Step.IsHonest named?) body)
    (db : Database) (action : Action) (target : String) :
    db.IsHonest named? fun engine => db.writing engine action target body := by
  have := h.steady
  obtain ⟨steps, hsteps, hmakes⟩ := h.whole (fun _ hs => hs.isHonest named?) db.tables
  refine ⟨steps, hsteps, db.settled action target (body.settle db.tables), action.label, target,
    fun engine => ?_⟩
  simp only [writing, commit_of_makes hmakes engine]
  cases firstFailure? engine 0 steps with
  | some failed => rfl
  | none => cases body.settle db.tables <;> rfl

theorem isHonest_writingAt {e : Entity} (id : Id e) {body : Int → Transaction Unit}
    (h : ∀ number, Stepwise (Step.IsHonest named?) (body number)) (db : Database)
    (action : Action) :
    db.IsHonest named? fun engine => db.writingAt engine action id body := by
  cases hnumber : id.rowNumber? with
  | none =>
    simp only [writingAt_of_none hnumber]
    exact isHonest_of_const fun _ => rfl
  | some number =>
    simp only [writingAt_of_rowNumber hnumber]
    exact isHonest_writing (h number) db action _

/-- Sections are written in a transaction of their own, whichever they are. -/
theorem isHonest_writingSection (db : Database) (id : ProviderId) (s : SectionUpdate) :
    db.IsHonest s.named? fun engine => db.writingSection engine id s := by
  cases s with
  | metadata m => exact isHonest_writingAt id ((SectionUpdate.metadata m).honest_writeRows id) db _
  | authentication a =>
    exact isHonest_writing ((SectionUpdate.authentication a).honest_writeAt id) db _ _
  | provisioning p =>
    exact isHonest_writing ((SectionUpdate.provisioning p).honest_writeAt id) db _ _
  | properties delta =>
    exact isHonest_writing ((SectionUpdate.properties delta).honest_writeAt id) db _ _

/-- **Writes fail at an honest step**, if they fail for the engine or a constraint. -/
theorem isHonest_write {r : Request} (hwrite : r.isWrite = true) (db : Database) :
    db.IsHonest r.named? fun engine => db.answerUnder engine r := by
  cases r with
  | create e a => exact isHonest_writing (honest_insert e a) db _ _
  | update e a =>
    simp only [answerUnder]
    cases e.idOf a with
    | none => exact isHonest_of_const fun _ => rfl
    | some id => exact isHonest_writingAt id (honest_update e a id) db _
  | updateSection id s =>
    simp only [answerUnder, updateSection]
    split
    · exact isHonest_of_const fun _ => rfl
    · exact isHonest_writingSection db id s
  | delete e id => exact isHonest_writingAt id (fun _ => honest_onRow id _) db _
  | switch e id enabled => exact isHonest_writingAt id (fun _ => honest_onRow id _) db _
  | list | get | resolve | findByProperty | readiness => cases hwrite

theorem leavesNoTrace_writing (db : Database) (engine : Engine) (action : Action) (target : String)
    (body : Transaction α) : (db.writing engine action target body).LeavesNoTrace db := by
  intro err herr
  rw [writing] at herr ⊢
  unfold commit at herr ⊢
  dsimp only at herr ⊢
  split at herr
  · cases herr
  · rfl

/-- **Nothing is left of a request that fails**, whatever the tables hold and whichever engine
refused it. -/
theorem leavesNoTrace_answer (db : Database) (engine : Engine) (r : Request) :
    (db.answerUnder engine r).LeavesNoTrace db := by
  cases hwrite : r.isWrite with
  | false => exact fun _ _ => store_of_reading hwrite db engine
  | true =>
    rcases answerUnder_write_cases hwrite db engine with ⟨err, hanswer⟩ | ⟨_, _, body, hanswer⟩
    · rw [hanswer]
      exact fun _ _ => rfl
    · rw [hanswer]
      exact leavesNoTrace_writing db engine _ _ body

end Database

end FederationRegistry
