import FederationRegistry.Proofs.Service.Failure

/-!
# Calls that race

Every request is one transaction, but a call may make two: one that resolves a name, and one that
addresses what it found. Between them the requests of another call may come.

**Theorem (`Plan.interleaved_race`).** Let two plans race, each of which makes one request at most
after it has resolved a name. Whoever comes first, what comes out is what comes out of one plan
behind the other, where the second may still act on the identifier that its name stood for at the
start.

Only requests that write change the store, and of these each plan makes one at most. The plan that
writes first thus runs as if it were alone. The other has resolved its name before that or does it
after, and in the second case it runs behind the first.

An outdated identifier makes no difference as long as the name stands for the same as before, or
stood for nothing (`Plan.serial_resolved_cases`).
-/

namespace FederationRegistry

variable {α β σ : Type} [ProviderStore σ]

/-- In the store the name stands for the identifier. -/
def StandsFor {e : Entity} (s : σ) (name : String) (i : Id e) : Prop :=
  (ProviderStore.answer s (.resolve e name)).result = .ok (some i)

/-! ## Races -/

/-- Two clients. -/
inductive Client where
  | first
  | second
deriving DecidableEq

/-- The request resolves a name. -/
def Request.isResolve : Request → Bool
  | .resolve .. => true
  | _ => false

/-- What the plans of two clients come to: the result of each and the store afterwards. -/
structure Joint (σ α β : Type) where
  first : Except RegistryError α
  second : Except RegistryError β
  store : σ

/-- The same with the clients exchanged. -/
def Joint.swap (j : Joint σ α β) : Joint σ β α := ⟨j.second, j.first, j.store⟩

namespace Plan

/-- The plan after its next request, and the store behind it. -/
def advance (p : Plan α) (s : σ) : Plan α × σ :=
  match p with
  | .done result => (.done result, s)
  | .ask r next =>
    let a := ProviderStore.answer s r
    match a.result with
    | .error err => (.done (.error err), a.store)
    | .ok reply => (next reply, a.store)

/-- One plan behind the other. -/
def serial (p : Plan α) (q : Plan β) (s : σ) : Joint σ α β :=
  let a := p.run s
  let b := q.run a.store
  ⟨a.result, b.result, b.store⟩

/-- Two plans that take turns, a request at a time. When no turns are left, the first one finishes
and then the other. -/
def race : List Client → Plan α → Plan β → σ → Joint σ α β
  | [], p, q, s => p.serial q s
  | .first :: turns, p, q, s =>
    let (p, s) := p.advance s
    race turns p q s
  | .second :: turns, p, q, s =>
    let (q, s) := q.advance s
    race turns p q s

theorem run_advance (p : Plan α) (s : σ) :
    ((p.advance s).1.run (p.advance s).2).result = (p.run s).result ∧
      ((p.advance s).1.run (p.advance s).2).store = (p.run s).store := by
  cases p with
  | done result => exact ⟨rfl, rfl⟩
  | ask r next =>
    simp only [advance, run]
    cases (ProviderStore.answer s r).result with
    | error err => exact ⟨rfl, rfl⟩
    | ok reply => exact ⟨rfl, rfl⟩

/-- What a plan comes to behind another depends on the result and the store of that alone. -/
theorem serial_congr {p p' : Plan α} {s s' : σ} (hresult : (p.run s).result = (p'.run s').result)
    (hstore : (p.run s).store = (p'.run s').store) (q : Plan β) :
    p.serial q s = p'.serial q s' := by
  simp only [serial, hresult, hstore]

theorem race_done_first (turns : List Client) (x : Except RegistryError α) (q : Plan β) (s : σ) :
    race turns (.done x) q s = ⟨x, (q.run s).result, (q.run s).store⟩ := by
  induction turns generalizing q s with
  | nil => rfl
  | cons turn turns ih =>
    cases turn with
    | first => exact ih q s
    | second =>
      obtain ⟨hresult, hstore⟩ := run_advance q s
      simp only [race, ih, hresult, hstore]

theorem race_done_second (turns : List Client) (p : Plan α) (y : Except RegistryError β) (s : σ) :
    race turns p (.done y) s = ⟨(p.run s).result, y, (p.run s).store⟩ := by
  induction turns generalizing p s with
  | nil => rfl
  | cons turn turns ih =>
    cases turn with
    | first =>
      obtain ⟨hresult, hstore⟩ := run_advance p s
      simp only [race, ih, hresult, hstore]
    | second => exact ih p s

/-! ## Brief plans -/

/-- The plan makes one request at most, and that does not resolve a name. -/
def IsSingle : Plan α → Prop
  | .done _ => True
  | .ask r next => r.isResolve = false ∧ ∀ reply, ∃ result, next reply = .done result

/-- The plan makes one request at most, after it has resolved a name if it has one. A name that
stands for nothing ends it. -/
inductive IsBrief : Plan α → Prop
  | single {p : Plan α} (h : p.IsSingle) : IsBrief p
  | named {e : Entity} {name : String} {next : Option (Id e) → Plan α}
      (h : ∀ reply, (next reply).IsSingle) (hnone : ∃ result, next none = .done result) :
      IsBrief (.ask (.resolve e name) next)

/-- The plan once its name, if it has one, was resolved in a store. -/
def resolved (p : Plan α) (s : σ) : Plan α :=
  match p with
  | .ask (.resolve e name) next => ((Plan.ask (.resolve e name) next).advance s).1
  | p => p

/-- The second plan resolves a name, and the first takes that name from what it stands for. -/
def Outdates (p : Plan α) (q : Plan β) (s : σ) : Prop :=
  ∃ (e : Entity) (name : String) (i : Id e) (next : Option (Id e) → Plan β),
    q = .ask (.resolve e name) next ∧ StandsFor s name i ∧ ¬StandsFor (p.run s).store name i

theorem resolved_of_single {p : Plan α} (h : p.IsSingle) (s : σ) : p.resolved s = p := by
  cases p with
  | done result => rfl
  | ask r next =>
    cases r with
    | resolve e name => cases h.1
    | list | create | get | findByProperty | update | updateSection | delete | switch
    | readiness => rfl

theorem advance_of_single {p : Plan α} (h : p.IsSingle) (s : σ) :
    p.advance s = (.done (p.run s).result, (p.run s).store) := by
  cases p with
  | done result => rfl
  | ask r next =>
    simp only [advance, run]
    cases (ProviderStore.answer s r).result with
    | error err => rfl
    | ok reply =>
      obtain ⟨result, hdone⟩ := h.2 reply
      simp only [hdone, run]

theorem single_resolved {p : Plan α} (h : p.IsBrief) (s : σ) : (p.resolved s).IsSingle := by
  cases h with
  | single h => rwa [resolved_of_single h]
  | named h hnone =>
    simp only [resolved, advance]
    split
    · trivial
    · exact h _

/-- Where resolving the name has ended a plan, the plan may as well have come first. -/
theorem serial_of_done {p : Plan α} {q : Plan β} {s : σ} {y : Except RegistryError β}
    (hresult : (q.run s).result = y) (hstore : (q.run s).store = s) :
    p.serial (.done y) s = (q.serial p s).swap := by
  simp only [serial, run, Joint.swap, hresult, hstore]

theorem resolved_of_standsFor {e : Entity} {name : String} {i : Id e} {s : σ}
    (h : StandsFor s name i) (next : Option (Id e) → Plan α) :
    (Plan.ask (.resolve e name) next).resolved s = next (some i) := by
  simp only [resolved, advance, show (ProviderStore.answer s (.resolve e name)).result = _ from h]

/-- What two plans come to one behind the other, where the second may have resolved its name
before. -/
inductive Interleaved (p : Plan α) (q : Plan β) (s : σ) : Joint σ α β → Prop
  | inTurn : Interleaved p q s (p.serial q s)
  | reversed : Interleaved p q s (q.serial p s).swap
  | late : Interleaved p q s (p.serial (q.resolved s) s)
  | lateReversed : Interleaved p q s (q.serial (p.resolved s) s).swap

theorem Interleaved.swap {p : Plan α} {q : Plan β} {s : σ} {j : Joint σ α β}
    (h : Interleaved p q s j) : Interleaved q p s j.swap := by
  cases h with
  | inTurn => exact .reversed
  | reversed => exact .inTurn
  | late => exact .lateReversed
  | lateReversed => exact .late

variable [Atomic σ]

theorem advance_named {e : Entity} {name : String} (next : Option (Id e) → Plan α) (s : σ) :
    (Plan.ask (.resolve e name) next).advance s =
      ((Plan.ask (.resolve e name) next).resolved s, s) := by
  have hstore := Atomic.read s (.resolve e name) rfl
  simp only [resolved, advance]
  cases (ProviderStore.answer s (.resolve e name)).result with
  | error err => rw [hstore]
  | ok reply => rw [hstore]

/-- A plan whose name was resolved runs as before. -/
theorem run_resolved {p : Plan α} (h : p.IsBrief) (s : σ) :
    ((p.resolved s).run s).result = (p.run s).result ∧
      ((p.resolved s).run s).store = (p.run s).store := by
  cases h with
  | single h =>
    rw [resolved_of_single h]
    exact ⟨rfl, rfl⟩
  | @named e name next h hnone =>
    have hadvance := run_advance (Plan.ask (.resolve e name) next) s
    rwa [advance_named] at hadvance

/-- A plan that has resolved its name at once is no different from one that resolves it late. -/
theorem Interleaved.of_resolved {p : Plan α} {q : Plan β} {s : σ} {j : Joint σ α β} (hp : p.IsBrief)
    (h : Interleaved (p.resolved s) q s j) : Interleaved p q s j := by
  have hsame (r : Plan β) : (p.resolved s).serial r s = p.serial r s :=
    let ⟨hresult, hstore⟩ := run_resolved hp s
    serial_congr hresult hstore r
  cases h with
  | inTurn =>
    rw [hsame]
    exact .inTurn
  | reversed => exact .lateReversed
  | late =>
    rw [hsame]
    exact .late
  | lateReversed =>
    rw [resolved_of_single (single_resolved hp s)]
    exact .lateReversed

/-- **Races of brief plans.** The plans run one behind the other, where the second may have resolved
its name before. -/
theorem interleaved_race (turns : List Client) {p : Plan α} {q : Plan β} (hp : p.IsBrief)
    (hq : q.IsBrief) (s : σ) : Interleaved p q s (race turns p q s) := by
  -- the store stays what it was until one of the plans makes its last request
  induction turns generalizing p q with
  | nil => exact .inTurn
  | cons turn turns ih =>
    cases turn with
    | first =>
      cases hp with
      | single hp =>
        simp only [race, advance_of_single hp, race_done_first]
        exact .inTurn
      | @named e name next hnext hnone =>
        have hbrief : (Plan.ask (.resolve e name) next).IsBrief := .named hnext hnone
        simp only [race, advance_named]
        exact .of_resolved hbrief (ih (.single (single_resolved hbrief s)) hq)
    | second =>
      cases hq with
      | single hq =>
        simp only [race, advance_of_single hq, race_done_second]
        exact .reversed
      | @named e name next hnext hnone =>
        have hbrief : (Plan.ask (.resolve e name) next).IsBrief := .named hnext hnone
        simp only [race, advance_named]
        have hrest := ih hp (.single (single_resolved hbrief s))
        exact (hrest.swap.of_resolved hbrief).swap

/-! ## Outdated identifiers -/

/-- **What an outdated identifier is good for.** The second plan runs as if it had resolved its name
behind the first one, or before it, unless the first plan has taken the name from what it stood
for. -/
theorem serial_resolved_cases (p : Plan α) {q : Plan β} (hq : q.IsBrief) (s : σ) :
    p.serial (q.resolved s) s = p.serial q s ∨
      p.serial (q.resolved s) s = (q.serial p s).swap ∨ p.Outdates q s := by
  cases hq with
  | single hq => exact .inl (by rw [resolved_of_single hq])
  | @named e name next hnext hnone =>
    have hbrief : (Plan.ask (.resolve e name) next).IsBrief := .named hnext hnone
    obtain ⟨hresult, hstore⟩ := run_resolved hbrief s
    cases hfound : (ProviderStore.answer s (.resolve e name)).result with
    | error err =>
      have hresolved : (Plan.ask (.resolve e name) next).resolved s = .done (.error err) := by
        simp only [resolved, advance, hfound]
      rw [hresolved] at hresult hstore ⊢
      exact .inr (.inl (serial_of_done hresult.symm hstore.symm))
    | ok found =>
      cases found with
      | none =>
        obtain ⟨result, hdone⟩ := hnone
        have hresolved : (Plan.ask (.resolve e name) next).resolved s = .done result := by
          simp only [resolved, advance, hfound, hdone]
        rw [hresolved] at hresult hstore ⊢
        exact .inr (.inl (serial_of_done hresult.symm hstore.symm))
      | some i =>
        by_cases hstays : StandsFor (p.run s).store name i
        · -- the name stands for the same behind the first plan
          obtain ⟨hresult, hstore⟩ := run_resolved hbrief (p.run s).store
          rw [resolved_of_standsFor hstays] at hresult hstore
          rw [resolved_of_standsFor hfound]
          left
          simp only [serial, hresult, hstore]
        · exact .inr (.inr ⟨e, name, i, next, rfl, hfound, hstays⟩)

/-- **Races of brief plans**, in which identifiers are outdated only by the other plan. -/
theorem race_explained (turns : List Client) {p : Plan α} {q : Plan β} (hp : p.IsBrief)
    (hq : q.IsBrief) (s : σ) :
    race turns p q s = p.serial q s ∨ race turns p q s = (q.serial p s).swap ∨
      (p.Outdates q s ∧ race turns p q s = p.serial (q.resolved s) s) ∨
      (q.Outdates p s ∧ race turns p q s = (q.serial (p.resolved s) s).swap) := by
  have hrace := interleaved_race turns hp hq s
  generalize race turns p q s = raced at hrace ⊢
  -- a plan that resolved early runs late: nothing was overtaken, or its resolution is outdated
  cases hrace with
  | inTurn => exact .inl rfl
  | reversed => exact .inr (.inl rfl)
  | late =>
    obtain h | h | houtdates := serial_resolved_cases p hq s
    · exact .inl h
    · exact .inr (.inl h)
    · exact .inr (.inr (.inl ⟨houtdates, rfl⟩))
  | lateReversed =>
    obtain h | h | houtdates := serial_resolved_cases q hp s
    · exact .inr (.inl (congrArg Joint.swap h))
    · exact .inl (congrArg Joint.swap h)
    · exact .inr (.inr (.inr ⟨houtdates, rfl⟩))

end Plan

end FederationRegistry
