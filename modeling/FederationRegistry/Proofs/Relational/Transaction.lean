import FederationRegistry.Proofs.Validity
import FederationRegistry.Store.Relational.Write

/-!
# What transactions do to tables

The engine is asked before every statement, so a transaction is a function of the engine too. The
transactions of the store are all `Steady`: in given tables they make the same steps under every
engine, the first step that fails ends them, and if none fails they come to the same. What they come
to is said by `settle`, the outcome when nothing is refused, which is computed statement by
statement (`settle_bind`, `settle_execute`).

A transaction is `Plain` when all of its steps report failures as ones of the data and leave the
rows of aggregates alone, those apart that go with a deletion.

Main statements: `commit_reliable` and `commit_cases`, which say what becomes of the tables when a
transaction is over, and `commit_of_makes`, which says at which step it fails.
-/

namespace FederationRegistry.Transaction

variable {α β : Type}

/-! ## Settling -/

/-- The reply and the tables behind a transaction, its failure otherwise. -/
def outcome (run : Except RegistryError (α × Session)) : Except RegistryError (α × Tables) :=
  run.map fun out => (out.1, out.2.tables)

/-- What the transaction comes to when no statement is refused. -/
def settle (body : Transaction α) (t : Tables) : Except RegistryError (α × Tables) :=
  outcome (body Engine.reliable ⟨t, 0⟩)

theorem bind_error {body : Transaction α} {engine : Engine} {session : Session}
    {err : RegistryError} (h : body engine session = .error err) (next : α → Transaction β) :
    (body >>= next) engine session = .error err := by
  show (body engine session >>= fun out => next out.1 engine out.2) = _
  rw [h]
  rfl

theorem bind_ok {body : Transaction α} {engine : Engine} {session : Session} {a : α}
    {session' : Session} (h : body engine session = .ok (a, session'))
    (next : α → Transaction β) :
    (body >>= next) engine session = next a engine session' := by
  show (body engine session >>= fun out => next out.1 engine out.2) = _
  rw [h]
  rfl

theorem bind_of_ok {run : Except RegistryError (α × Tables)} {out : α × Tables}
    (h : run = .ok out) (next : α × Tables → Except RegistryError (β × Tables)) :
    run.bind next = next out := by
  rw [h]
  rfl

/-! ## Steps -/

/-- A statement as an engine meets it: the rows that it is about to change, the failure that it
comes to by itself, and the report of a failure. -/
structure Step where
  changes : List RowChange
  failure : Option EngineFailure
  report : EngineFailure → RegistryError

/-- The step that a statement is in tables. -/
def Step.of (report : EngineFailure → RegistryError) (s : Statement α) (t : Tables) : Step where
  changes := s.changes t
  failure :=
    match s.run t with
    | .ok _ => none
    | .error failure => some failure
  report := report

/-- The first of some steps that fails under an engine, and why: the engine refuses it, or it fails
by itself. The engine counts steps from a number. -/
def firstFailure? (engine : Engine) : Nat → List Step → Option (Step × EngineFailure)
  | _, [] => none
  | n, s :: ss =>
    match (engine n s.changes).or s.failure with
    | some failure => some (s, failure)
    | none => firstFailure? engine (n + 1) ss

theorem firstFailure?_append (engine : Engine) (n : Nat) (xs ys : List Step) :
    firstFailure? engine n (xs ++ ys) =
      (firstFailure? engine n xs).or (firstFailure? engine (n + xs.length) ys) := by
  induction xs generalizing n with
  | nil => rfl
  | cons x xs ih =>
    rw [List.cons_append, firstFailure?, firstFailure?, List.length_cons]
    cases (engine n x.changes).or x.failure with
    | some failure => rfl
    | none =>
      dsimp only
      rw [ih, Nat.add_right_comm, Nat.add_assoc]

/-- The engine that refuses nothing does not count. -/
theorem firstFailure?_reliable (n m : Nat) (steps : List Step) :
    firstFailure? Engine.reliable n steps = firstFailure? Engine.reliable m steps := by
  induction steps generalizing n m with
  | nil => rfl
  | cons s ss ih => simp only [firstFailure?, Engine.reliable, ih (n + 1) (m + 1)]

/-- The first failure is that of one of the steps. -/
theorem mem_of_firstFailure? {engine : Engine} {n : Nat} {steps : List Step} {s : Step}
    {failure : EngineFailure} (h : firstFailure? engine n steps = some (s, failure)) :
    s ∈ steps := by
  induction steps generalizing n with
  | nil => cases h
  | cons x xs ih =>
    rw [firstFailure?] at h
    split at h
    · cases h
      exact List.mem_cons_self
    · exact List.mem_cons_of_mem _ (ih h)

/-- The transaction makes the steps in the tables. Under any engine the first of them that fails
ends it; if none fails, it comes to what it comes to when nothing is refused. -/
def Makes (body : Transaction α) (t : Tables) (steps : List Step) : Prop :=
  ∀ (engine : Engine) (n : Nat), body engine ⟨t, n⟩ =
    match firstFailure? engine n steps with
    | some (s, failure) => .error (s.report failure)
    | none => (body.settle t).map fun out => (out.1, ⟨out.2, n + steps.length⟩)

theorem Makes.reliable {body : Transaction α} {session : Session} {steps : List Step}
    (h : body.Makes session.tables steps) :
    outcome (body Engine.reliable session) = body.settle session.tables := by
  have hstart := h Engine.reliable 0
  rw [settle, h Engine.reliable session.executed, hstart,
    firstFailure?_reliable session.executed 0 steps]
  cases firstFailure? Engine.reliable 0 steps with
  | some failed => rfl
  | none => cases body.settle session.tables <;> rfl

theorem Makes.outcome_eq {body : Transaction α} {session : Session} {steps : List Step}
    (h : body.Makes session.tables steps) (engine : Engine) :
    outcome (body engine session) =
      match firstFailure? engine session.executed steps with
      | some (s, failure) => .error (s.report failure)
      | none => body.settle session.tables := by
  rw [h engine session.executed]
  split
  · rfl
  · cases body.settle session.tables <;> rfl

/-- In any tables the transaction makes steps, all of which have the property. -/
def Stepwise (P : Step → Prop) (body : Transaction α) : Prop :=
  ∀ t, ∃ steps, (∀ s ∈ steps, P s) ∧ body.Makes t steps

/-- An engine can stop the transaction at its steps but not divert it, and the statements before it
make no difference. -/
class Steady (body : Transaction α) : Prop where
  stepwise : Stepwise (fun _ => True) body

theorem Stepwise.steady {P : Step → Prop} {body : Transaction α} (h : Stepwise P body) :
    Steady body where
  stepwise t := by
    obtain ⟨steps, -, hmakes⟩ := h t
    exact ⟨steps, fun _ _ => trivial, hmakes⟩

theorem Steady.reliable {body : Transaction α} [hsteady : Steady body] (session : Session) :
    outcome (body Engine.reliable session) = body.settle session.tables := by
  obtain ⟨steps, -, hmakes⟩ := hsteady.stepwise session.tables
  exact hmakes.reliable

theorem Steady.cases (body : Transaction α) [hsteady : Steady body] (engine : Engine)
    (session : Session) :
    (∃ err, body engine session = .error err) ∨
      outcome (body engine session) = body.settle session.tables := by
  obtain ⟨steps, -, hmakes⟩ := hsteady.stepwise session.tables
  cases hrun : body engine session with
  | error err => exact .inl ⟨err, rfl⟩
  | ok out =>
    right
    rw [← hrun, hmakes.outcome_eq]
    split
    · -- a step that fails would have ended it
      rename_i hfailed
      have hmade := hmakes engine session.executed
      rw [hfailed, hrun] at hmade
      cases hmade
    · rfl

/-- A transaction settles part by part. -/
theorem settle_bind (body : Transaction α) (next : α → Transaction β) [∀ a, Steady (next a)]
    (t : Tables) :
    (body >>= next).settle t = (body.settle t).bind fun out => (next out.1).settle out.2 := by
  cases h : body Engine.reliable ⟨t, 0⟩ with
  | error err =>
    rw [settle, bind_error h, settle, h]
    rfl
  | ok out =>
    have hbody : body.settle t = .ok (out.1, out.2.tables) := by rw [settle, h]; rfl
    rw [settle, bind_ok h, hbody]
    exact Steady.reliable out.2

/-! ### How steps are composed -/

namespace Stepwise

variable {P : Step → Prop}

theorem mono {Q : Step → Prop} {body : Transaction α} (h : Stepwise P body)
    (hPQ : ∀ s, P s → Q s) : Stepwise Q body := fun t => by
  obtain ⟨steps, hsteps, hmakes⟩ := h t
  exact ⟨steps, fun s hs => hPQ s (hsteps s hs), hmakes⟩

theorem pure (a : α) : Stepwise P (Pure.pure a) := fun _ =>
  ⟨[], fun _ hs => (nomatch hs), fun _ _ => rfl⟩

theorem throw (err : RegistryError) : Stepwise P (MonadExcept.throw err : Transaction α) := fun _ =>
  ⟨[], fun _ hs => (nomatch hs), fun _ _ => rfl⟩

theorem lift (value : Except StoreError α) : Stepwise P (lift value) := by
  cases value with
  | ok a => exact pure a
  | error err => exact throw (.ofStore err)

theorem execute {report : EngineFailure → RegistryError} {s : Statement α}
    (h : ∀ t, P (.of report s t)) : Stepwise P (execute report s) := fun t => by
  refine ⟨[.of report s t], fun _ hs => List.mem_singleton.mp hs ▸ h t, fun engine n => ?_⟩
  simp only [firstFailure?, Step.of, settle, Transaction.execute, Engine.reliable]
  cases engine n (s.changes t) with
  | some failure => rfl
  | none =>
    cases s.run t with
    | error failure => rfl
    | ok out => rfl

theorem bind {body : Transaction α} {next : α → Transaction β} (h : Stepwise P body)
    (hnext : ∀ a, Stepwise P (next a)) : Stepwise P (body >>= next) := fun t => by
  have hsteady (a : α) : Steady (next a) := (hnext a).steady
  obtain ⟨steps, hsteps, hmakes⟩ := h t
  cases hsettle : body.settle t with
  | error err =>
    -- it ends before the second part, whether a step fails or not
    have hbind : (body >>= next).settle t = .error err := by rw [settle_bind, hsettle]; rfl
    refine ⟨steps, hsteps, fun engine n => ?_⟩
    have hbody := hmakes engine n
    rw [hsettle] at hbody
    rw [hbind]
    split at hbody
    · exact bind_error hbody next
    · exact bind_error hbody next
  | ok out =>
    obtain ⟨steps', hsteps', hmakes'⟩ := hnext out.1 out.2
    have hbind : (body >>= next).settle t = (next out.1).settle out.2 := by
      rw [settle_bind, hsettle]
      rfl
    refine ⟨steps ++ steps', fun s hs => (List.mem_append.mp hs).elim (hsteps s) (hsteps' s),
      fun engine n => ?_⟩
    have hbody := hmakes engine n
    rw [hsettle] at hbody
    rw [firstFailure?_append, hbind]
    split at hbody
    · rename_i hfailed
      rw [hfailed]
      exact bind_error hbody next
    · rename_i hpassed
      rw [hpassed, bind_ok hbody, hmakes', List.length_append, Nat.add_assoc]
      rfl

theorem ite {c : Prop} [Decidable c] {body body' : Transaction α} (h : Stepwise P body)
    (h' : Stepwise P body') : Stepwise P (if c then body else body') := by
  split
  · exact h
  · exact h'

theorem each {bs : List β} {step : β → Transaction Unit} (h : ∀ b, Stepwise P (step b)) :
    Stepwise P (each bs step) := by
  induction bs with
  | nil => exact pure ()
  | cons b bs ih => exact bind (h b) fun _ => ih

end Stepwise

/-! ### Steady transactions -/

instance steady_pure (a : α) : Steady (pure a : Transaction α) := ⟨.pure a⟩

instance steady_throw (err : RegistryError) : Steady (throw err : Transaction α) := ⟨.throw err⟩

instance steady_lift (value : Except StoreError α) : Steady (lift value) := ⟨.lift value⟩

instance steady_execute (report : EngineFailure → RegistryError) (s : Statement α) :
    Steady (execute report s) := ⟨.execute fun _ => trivial⟩

instance steady_step (s : Statement α) : Steady (step s) := steady_execute dataFailure s

instance steady_bind (body : Transaction α) (next : α → Transaction β) [Steady body]
    [∀ a, Steady (next a)] : Steady (body >>= next) :=
  ⟨.bind Steady.stepwise fun _ => Steady.stepwise⟩

instance steady_ite (c : Prop) [Decidable c] (body body' : Transaction α) [Steady body]
    [Steady body'] : Steady (if c then body else body') := by
  split <;> infer_instance

instance steady_each (bs : List β) (step : β → Transaction Unit) [∀ b, Steady (step b)] :
    Steady (each bs step) := ⟨.each fun _ => Steady.stepwise⟩

/-! ### Plain transactions -/

/-- The table has the rows of aggregates, and not rows that they own. -/
def isMain : Table → Bool
  | .provider | .application => true
  | _ => false

/-- The step reports failures as ones of the data, and it changes no row of an aggregate. -/
structure Step.IsPlain (s : Step) : Prop where
  report : s.report = dataFailure
  changes : ∀ c ∈ s.changes, isMain c.table = false

/-- The statement changes no row of an aggregate. -/
class Aside (s : Statement α) : Prop where
  changes : ∀ t, ∀ c ∈ s.changes t, isMain c.table = false

/-- All steps of the transaction are plain. -/
class Plain (body : Transaction α) : Prop where
  stepwise : Stepwise Step.IsPlain body

instance (priority := low) steady_of_plain (body : Transaction α) [Plain body] : Steady body :=
  Stepwise.steady Plain.stepwise

instance aside_query (read : Tables → α) : Aside (Statement.query read) :=
  ⟨fun _ _ hc => (nomatch hc)⟩

instance aside_mark : Aside mark := aside_query _

instance plain_pure (a : α) : Plain (pure a : Transaction α) := ⟨.pure a⟩

instance plain_throw (err : RegistryError) : Plain (throw err : Transaction α) := ⟨.throw err⟩

instance plain_lift (value : Except StoreError α) : Plain (lift value) := ⟨.lift value⟩

instance plain_step (s : Statement α) [Aside s] : Plain (step s) :=
  ⟨.execute fun t => ⟨rfl, Aside.changes t⟩⟩

instance plain_bind (body : Transaction α) (next : α → Transaction β) [Plain body]
    [∀ a, Plain (next a)] : Plain (body >>= next) :=
  ⟨.bind Plain.stepwise fun _ => Plain.stepwise⟩

instance plain_ite (c : Prop) [Decidable c] (body body' : Transaction α) [Plain body]
    [Plain body'] : Plain (if c then body else body') := by
  split <;> infer_instance

instance plain_each (bs : List β) (step : β → Transaction Unit) [∀ b, Plain (step b)] :
    Plain (each bs step) := ⟨.each fun _ => Plain.stepwise⟩

/-! ## What statements come to -/

@[simp] theorem settle_lift (value : Except StoreError α) (t : Tables) :
    (lift value).settle t = (value.mapError RegistryError.ofStore).map fun a => (a, t) := by
  cases value <;> rfl

@[simp] theorem settle_execute (report : EngineFailure → RegistryError) (s : Statement α)
    (t : Tables) : (execute report s).settle t = (s.run t).mapError report := by
  simp only [settle, execute, Engine.reliable]
  cases s.run t with
  | error failure => rfl
  | ok out => rfl

@[simp] theorem settle_step (s : Statement α) (t : Tables) :
    (step s).settle t = (s.run t).mapError dataFailure := settle_execute dataFailure s t

@[simp] theorem settle_each_nil (step : β → Transaction Unit) (t : Tables) :
    (each [] step).settle t = .ok ((), t) := rfl

theorem settle_each_cons (b : β) (bs : List β) (step : β → Transaction Unit)
    [∀ b, Steady (step b)] (t : Tables) :
    (each (b :: bs) step).settle t =
      ((step b).settle t).bind fun out => (each bs step).settle out.2 :=
  settle_bind (step b) (fun _ => each bs step) t

theorem each_map {γ : Type} (f : γ → β) (cs : List γ) (step : β → Transaction Unit) :
    each (cs.map f) step = each cs fun c => step (f c) := by
  induction cs with
  | nil => rfl
  | cons c cs ih => simp only [List.map_cons, each, ih]

theorem each_congr {bs : List β} {step step' : β → Transaction Unit}
    (h : ∀ b ∈ bs, step b = step' b) : each bs step = each bs step' := by
  induction bs with
  | nil => rfl
  | cons b bs ih =>
    simp only [each, h b (by simp), ih fun b' hb' => h b' (by simp [hb'])]

/-! ## The whole transaction -/

/-- The result of an outcome and the tables behind it, which are those before it when it is a
failure. -/
def committed (t : Tables) : Except RegistryError (α × Tables) → Except RegistryError α × Tables
  | .ok (a, t') => (.ok a, t')
  | .error err => (.error err, t)

/-- The transaction between its marks. -/
def whole (body : Transaction α) : Transaction α := do
  step mark
  let a ← body
  step mark
  return a

instance steady_whole (body : Transaction α) [Steady body] : Steady body.whole := by
  unfold whole
  infer_instance

theorem settle_whole (body : Transaction α) [Steady body] (t : Tables) :
    body.whole.settle t = body.settle t := by
  rw [whole, settle_bind]
  simp only [settle_step, mark, Statement.query, mapError_ok, Except.bind]
  rw [settle_bind]
  cases h : body.settle t with
  | error err => rfl
  | ok out => rfl

theorem Stepwise.whole {P : Step → Prop} {body : Transaction α} (h : Stepwise P body)
    (hmark : ∀ s : Step, s.IsPlain → P s) : Stepwise P body.whole := by
  have hplain : Plain (step mark) := inferInstance
  have hstep : Stepwise P (step mark) := hplain.stepwise.mono hmark
  exact hstep.bind fun _ => h.bind fun _ => hstep.bind fun _ => .pure _

theorem commit_eq (engine : Engine) (t : Tables) (body : Transaction α) :
    commit engine t body = committed t (outcome (body.whole engine ⟨t, 0⟩)) := by
  unfold commit whole
  dsimp only
  split
  · rename_i hrun
    rw [hrun]
    rfl
  · rename_i hrun
    rw [hrun]
    rfl

/-- What a transaction commits when nothing is refused. -/
theorem commit_reliable (t : Tables) (body : Transaction α) [Steady body] :
    commit Engine.reliable t body = committed t (body.settle t) := by
  rw [commit_eq, Steady.reliable, settle_whole]

/-- **Where a transaction fails, it leaves the tables.** Under any engine it fails at the first step
that does, or commits as if nothing were refused. -/
theorem commit_of_makes {body : Transaction α} [Steady body] {t : Tables} {steps : List Step}
    (h : body.whole.Makes t steps) (engine : Engine) :
    commit engine t body =
      match firstFailure? engine 0 steps with
      | some (s, failure) => (.error (s.report failure), t)
      | none => committed t (body.settle t) := by
  rw [commit_eq, h.outcome_eq, settle_whole]
  dsimp only
  cases firstFailure? engine 0 steps <;> rfl

/-- **A transaction does what it does or nothing.** Under any engine it fails and leaves the
tables, or commits as if nothing were refused. -/
theorem commit_cases (engine : Engine) (t : Tables) (body : Transaction α) [Steady body] :
    (∃ err, commit engine t body = (.error err, t)) ∨
      commit engine t body = committed t (body.settle t) := by
  rw [commit_eq]
  rcases Steady.cases body.whole engine ⟨t, 0⟩ with ⟨err, h⟩ | h
  · exact .inl ⟨err, by rw [h]; rfl⟩
  · exact .inr (by rw [h, settle_whole])

end FederationRegistry.Transaction
