import FederationRegistry.Proofs.Memory
import FederationRegistry.Service

/-!
# Runs of a service

A run puts calls to a service, one after the other, and logs their results.

**From requests to calls.** A call reaches the store as the requests of a plan, and all of them are
admissible when the call is (`Operation.asks_plan`). What every request upholds is therefore upheld
by plans, by calls and by runs.

**Identifiers.** Along with an invariant of the store goes the identifier given out last. A
creation answers with one beyond it, and nothing takes it back, so that the identifiers of a run
ascend (`Ascends`), failures and deletions in between or not.

Main statement: `Upholds.run`.
-/

namespace FederationRegistry

variable {d : Demand}

/-! ## Admissible calls -/

/-- The arguments of an operation are those that builders make, with values as demanded. -/
def Operation.Admissible (d : Demand) : Operation → Prop
  | .create e a | .update e a => e.Offered d a
  | .updateSection _ s => s.Built ∧ s.HasValues d.property
  | _ => True

/-- A look-up and a question for readiness have no such arguments. -/
def Call.Admissible (d : Demand) : Call → Prop
  | .operation op => op.Admissible d
  | _ => True

namespace Plan

variable {α : Type} {P : Request → Prop}

/-- Every request that the plan may come to has the property. -/
def Asks (P : Request → Prop) : Plan α → Prop
  | .done _ => True
  | .ask r next => P r ∧ ∀ reply, (next reply).Asks P

theorem asks_request {r : Request} (h : P r) : (request r).Asks P := ⟨h, fun _ => trivial⟩

theorem asks_require {next : Plan α} (h : next.Asks P) (check : Except RegistryError Unit) :
    (require check next).Asks P := by
  cases check with
  | error err => trivial
  | ok _ => exact h

theorem asks_resolve {e : Entity} {next : Id e → Plan α} (hname : ∀ name, P (.resolve e name))
    (h : ∀ i, (next i).Asks P) (target : Ref e) : (resolve target next).Asks P := by
  cases target with
  | id i => exact h i
  | name name =>
    refine ⟨hname name, fun reply => ?_⟩
    cases reply with
    | none => trivial
    | some i => exact h i

end Plan

/-- An admissible operation makes admissible requests only. -/
theorem Operation.asks_plan {op : Operation} (h : op.Admissible d) :
    op.plan.Asks (Request.Admissible d) := by
  cases op with
  | list e enabledOnly => exact Plan.asks_request trivial
  | create e a =>
    have hcreate : (Plan.request (.create e a)).Asks (Request.Admissible d) :=
      Plan.asks_request h
    exact Plan.asks_require (Plan.asks_require hcreate _) _
  -- behind the look-up nothing is asked any more, whatever it replied
  | get e target =>
    refine ⟨trivial, fun reply => ?_⟩
    cases reply <;> trivial
  | findByProperty scope key value => exact Plan.asks_request trivial
  | update e a =>
    have hupdate : (Plan.request (.update e a)).Asks (Request.Admissible d) :=
      Plan.asks_request h
    exact Plan.asks_require (Plan.asks_require hupdate _) _
  | updateSection target s =>
    have hupdate (i : ProviderId) :
        (Plan.request (.updateSection i s)).Asks (Request.Admissible d) := Plan.asks_request h
    exact Plan.asks_require (Plan.asks_resolve (fun _ => trivial) hupdate target) _
  | delete e target =>
    have hdelete (i : Id e) : (Plan.request (.delete e i)).Asks (Request.Admissible d) :=
      Plan.asks_request trivial
    exact Plan.asks_resolve (fun _ => trivial) hdelete target
  | switch e target enabled =>
    have hswitch (i : Id e) : (Plan.request (.switch e i enabled)).Asks (Request.Admissible d) :=
      Plan.asks_request trivial
    exact Plan.asks_resolve (fun _ => trivial) hswitch target

/-! ## Identifiers that ascend -/

/-- The numbers ascend, from beyond a first one up to a last one. -/
structure Ascends (first : Nat) (ks : List Nat) (last : Nat) : Prop where
  le : first ≤ last
  within : ∀ k ∈ ks, first < k ∧ k ≤ last
  sorted : ks.Pairwise (· < ·)

namespace Ascends

variable {i j k : Nat} {xs ys : List Nat}

theorem nil (h : i ≤ j) : Ascends i [] j := ⟨h, fun _ hk => (nomatch hk), .nil⟩

theorem single (h : i < j) (hk : j ≤ k) : Ascends i [j] k := by
  refine ⟨by omega, fun n hn => ?_, List.pairwise_singleton ..⟩
  obtain rfl := List.mem_singleton.mp hn
  exact ⟨h, hk⟩

theorem append (hx : Ascends i xs j) (hy : Ascends j ys k) : Ascends i (xs ++ ys) k := by
  have hle := hx.le
  have hle' := hy.le
  refine ⟨by omega, fun n hn => ?_, List.pairwise_append.mpr ⟨hx.sorted, hy.sorted, ?_⟩⟩
  · rcases List.mem_append.mp hn with hn | hn
    · have hwithin := hx.within n hn
      omega
    · have hwithin := hy.within n hn
      omega
  · intro a ha b hb
    have hbelow := (hx.within a ha).2
    have habove := (hy.within b hb).1
    omega

end Ascends

/-- The identifier that a request has created for an entity. -/
def Request.created (e : Entity) : (r : Request) → Except RegistryError r.Reply → List Nat
  | .create f _, .ok id => if f = e then [id.value] else []
  | _, _ => []

/-! ## The log of a run -/

/-- A call and what it resulted in. -/
structure Entry where
  call : Call
  result : Except RegistryError call.Reply

/-- The identifier that a call has created for an entity. -/
def Entry.created (e : Entity) : Entry → List Nat
  | ⟨.operation (.create f a), result⟩ => Request.created e (.create f a) result
  | _ => []

/-- The identifiers that were created for an entity, in order. -/
def createdIds (e : Entity) (log : List Entry) : List Nat := log.flatMap fun x => x.created e

/-- Puts calls to a service: the log and the store afterwards. -/
def Service.run {σ ε : Type} [ProviderStore σ] (s : Service σ ε) : List Call → List Entry × σ
  | [] => ([], s.store)
  | c :: cs =>
    let response := s.call c
    let rest := Service.run { s with store := response.store } cs
    (⟨c, response.result⟩ :: rest.1, rest.2)

/-! ## From requests to runs -/

/-- Requests keep an invariant of the store, and the identifiers that they create ascend from the
last one given out before to the last one given out after. -/
structure Upholds {σ : Type} [ProviderStore σ] (d : Demand) (Inv : σ → Prop)
    (last : σ → Entity → Nat) : Prop where
  keeps : ∀ {s : σ} {r : Request}, Inv s → r.Admissible d → Inv (ProviderStore.answer s r).store
  ascends : ∀ {s : σ} {r : Request}, Inv s → r.Admissible d → ∀ e,
    Ascends (last s e) (r.created e (ProviderStore.answer s r).result)
      (last (ProviderStore.answer s r).store e)

section Upholds

variable {σ ε : Type} [ProviderStore σ] {Inv : σ → Prop} {last : σ → Entity → Nat} {s : σ}

theorem Plan.run_request (r : Request) (s : σ) :
    (Plan.request r).run s = ProviderStore.answer s r := by
  simp only [Plan.request, Plan.run]
  cases hanswer : ProviderStore.answer s r with
  | mk result store warnings => cases result <;> simp

theorem Plan.run_require (check : Except RegistryError Unit) {α : Type} (next : Plan α) (s : σ) :
    (∃ err, (Plan.require check next).run s = ⟨.error err, s, []⟩) ∨
      (Plan.require check next).run s = next.run s := by
  cases check with
  | error err => exact .inl ⟨err, rfl⟩
  | ok _ => exact .inr rfl

/-- A missing aggregate as a failure. -/
def orNotFound {e : Entity} (target : Ref e) :
    Except RegistryError (Option e.Aggregate) → Except RegistryError e.Aggregate
  | .ok (some a) => .ok a
  | .ok none => .error (.noSuch target)
  | .error err => .error err

theorem Operation.run_get {e : Entity} (target : Ref e) (s : σ) :
    (Operation.get e target).plan.run s =
      ⟨orNotFound target (ProviderStore.answer s (.get e target)).result,
        (ProviderStore.answer s (.get e target)).store,
        (ProviderStore.answer s (.get e target)).warnings⟩ := by
  simp only [plan, Plan.run]
  cases hanswer : ProviderStore.answer s (.get e target) with
  | mk result store warnings => rcases result with err | _ | a <;> simp [orNotFound, Plan.run]

/-- A creation is refused before it reaches the store, or is a single request. -/
theorem Operation.run_create (e : Entity) (a : e.Aggregate) (s : σ) :
    (∃ err, (Operation.create e a).plan.run s = ⟨.error err, s, []⟩) ∨
      (Operation.create e a).plan.run s = ProviderStore.answer s (.create e a) := by
  rcases Plan.run_require (Operation.requireNew e a)
    (.requireValid (e.validate a) (.request (.create e a))) s with hfails | hgoes
  · exact .inl hfails
  · rcases Plan.run_require ((e.validate a).mapError RegistryError.ofModel)
      (.request (.create e a)) s with ⟨err, hfails⟩ | hruns
    · exact .inl ⟨err, hgoes.trans hfails⟩
    · exact .inr ((hgoes.trans hruns).trans (Plan.run_request _ s))

namespace Upholds

theorem plan (h : Upholds d Inv last) {α : Type} {p : Plan α}
    (hp : p.Asks (Request.Admissible d)) (hs : Inv s) :
    Inv (p.run s).store ∧ ∀ e, last s e ≤ last (p.run s).store e := by
  induction p generalizing s with
  | done result => exact ⟨hs, fun _ => Nat.le_refl _⟩
  | ask r next ih =>
    have hkept := h.keeps hs hp.1
    have hle (e : Entity) := (h.ascends hs hp.1 e).le
    rw [Plan.run]
    dsimp only
    split
    · -- a failure ends the plan
      exact ⟨hkept, hle⟩
    · rename_i reply hreply
      obtain ⟨hinv, hrest⟩ := ih reply (hp.2 reply) hkept
      exact ⟨hinv, fun e => Nat.le_trans (hle e) (hrest e)⟩

theorem operation (h : Upholds d Inv last) {op : Operation} (hop : op.Admissible d) (hs : Inv s) :
    Inv (op.plan.run s).store ∧ ∀ e, Ascends (last s e)
      (Entry.created e ⟨.operation op, (op.plan.run s).result⟩) (last (op.plan.run s).store e) := by
  obtain ⟨hinv, hle⟩ := h.plan (Operation.asks_plan hop) hs
  refine ⟨hinv, fun e => ?_⟩
  cases op with
  | create f a =>
    rcases Operation.run_create f a s with ⟨err, hrun⟩ | hrun
    · rw [hrun]
      exact .nil (Nat.le_refl _)
    · rw [hrun]
      exact h.ascends (r := .create f a) hs hop e
  | list | get | findByProperty | update | updateSection | delete | switch =>
    exact .nil (hle e)

theorem call (h : Upholds d Inv last) (service : Service σ ε) {c : Call} (hc : c.Admissible d)
    (hs : Inv service.store) :
    Inv (service.call c).store ∧ ∀ e, Ascends (last service.store e)
      (Entry.created e ⟨c, (service.call c).result⟩) (last (service.call c).store e) := by
  cases c with
  | operation op => exact h.operation hc hs
  | find target =>
    have hasks : (Operation.get .identityProvider target).plan.Asks (Request.Admissible d) :=
      Operation.asks_plan trivial
    obtain ⟨hinv, hle⟩ := h.plan hasks hs
    exact ⟨hinv, fun e => .nil (hle e)⟩
  | readiness =>
    exact ⟨h.keeps (r := .readiness) hs trivial, fun e =>
      .nil (h.ascends (r := .readiness) hs trivial e).le⟩

/-- **What requests uphold, runs uphold.** -/
theorem run (h : Upholds d Inv last) (service : Service σ ε) {cs : List Call}
    (hcs : ∀ c ∈ cs, c.Admissible d) (hs : Inv service.store) :
    Inv (service.run cs).2 ∧ ∀ e, Ascends (last service.store e)
      (createdIds e (service.run cs).1) (last (service.run cs).2 e) := by
  induction cs generalizing service with
  | nil => exact ⟨hs, fun _ => .nil (Nat.le_refl _)⟩
  | cons c cs ih =>
    obtain ⟨hinv, hcall⟩ := h.call service (hcs c (by simp)) hs
    obtain ⟨hlast, hrest⟩ := ih { service with store := (service.call c).store }
      (fun c hc => hcs c (by simp [hc])) hinv
    exact ⟨hlast, fun e => (hcall e).append (hrest e)⟩

end Upholds

end Upholds

end FederationRegistry
