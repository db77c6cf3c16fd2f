import FederationRegistry.Proofs.Service.Serializability

/-!
# Interceptors observe everything and change nothing

**Theorem (`Service.watched_calls`).** Let calls come to a service in any state, with interceptors
around whose hooks may do something else at every call, and may fail there.

* The results and the store are those of the same calls without interceptors.
* Every call but a question for readiness is told to every interceptor, in order: the operation to
  all `before` hooks, then its outcome to all `after` hooks, whichever hooks fail in between. The
  outcome is a failure exactly when the operation fails, and a look-up that finds nothing counts as
  one.
* What an audit interceptor records is determined by the names of the operations, by what they are
  about and by the kinds of their failures. Calls that differ in content only leave the same audit
  trail.

The log of a run without interceptors determines what the hooks are told (`Entry.Tells`), and the
events of a chain are those of its hooks, one after the other (`Service.events_watch`).
-/

namespace FederationRegistry

/-! ## Runs under interceptors -/

/-- An interceptor whose hooks may do something else at every call. The calls are numbered. -/
abbrev Watcher (ε : Type) := Nat → Interceptor ε

/-- What calls under interceptors come to. -/
structure Watched (σ ε : Type) where
  log : List Entry
  store : σ
  trace : Trace ε

/-- Puts calls to a store under interceptors, the first of them as a call of a number. -/
def Service.watch {σ ε : Type} [ProviderStore σ] (watchers : List (Watcher ε)) :
    Nat → σ → List Call → Watched σ ε
  | _, s, [] => ⟨[], s, {}⟩
  | number, s, c :: cs =>
    let response := Service.call ⟨s, watchers.map fun w => w number⟩ c
    let rest := Service.watch watchers (number + 1) response.store cs
    ⟨⟨c, response.result⟩ :: rest.log, rest.store, response.trace ++ rest.trace⟩

/-- A service without interceptors. -/
abbrev Service.bare {σ : Type} (s : σ) : Service σ Empty := ⟨s, []⟩

section Watch

variable {σ ε : Type} [ProviderStore σ]

/-- The result of a call and the store behind it do not depend on the interceptors. -/
theorem Service.call_unwatched (s : σ) (chain : List (Interceptor ε)) (c : Call) :
    (Service.call ⟨s, chain⟩ c).result = ((Service.bare s).call c).result ∧
      (Service.call ⟨s, chain⟩ c).store = ((Service.bare s).call c).store := by
  cases c <;> exact ⟨rfl, rfl⟩

/-- **Interceptors change nothing.** -/
theorem Service.watch_unwatched (watchers : List (Watcher ε)) (number : Nat) (s : σ)
    (calls : List Call) :
    (Service.watch watchers number s calls).log = ((Service.bare s).run calls).1 ∧
      (Service.watch watchers number s calls).store = ((Service.bare s).run calls).2 := by
  induction calls generalizing number s with
  | nil => exact ⟨rfl, rfl⟩
  | cons c cs ih =>
    obtain ⟨hresult, hstore⟩ := Service.call_unwatched s (watchers.map fun w => w number) c
    obtain ⟨hlog, hlast⟩ := ih (number + 1) ((Service.bare s).call c).store
    simp only [Service.watch, Service.run, hresult, hstore, hlog, hlast, and_self]

/-- Interceptors whose hooks stay the same change nothing either. -/
theorem Service.run_unwatched (s : σ) (chain : List (Interceptor ε)) (calls : List Call) :
    Service.run ⟨s, chain⟩ calls = (Service.bare s).run calls := by
  induction calls generalizing s with
  | nil => rfl
  | cons c cs ih =>
    obtain ⟨hresult, hstore⟩ := Service.call_unwatched s chain c
    simp only [Service.run, hresult, hstore, ih]

end Watch

/-! ## Observations and the log -/

/-- What interceptors are told of a call: the operation and, behind it, the outcome. -/
structure Observation where
  op : Operation
  outcome : Outcome

/-- Interceptors are told of the call. -/
def Entry.isObserved (x : Entry) : Bool := x.call.observed?.isSome

/-- The kind of failure that interceptors are told of. A look-up that finds nothing is one that
fails. -/
def Entry.errorKind? : Entry → Option ErrorKind
  | ⟨.operation _, .error err⟩ | ⟨.find _, .error err⟩ | ⟨.readiness, .error err⟩ => some err.kind
  | ⟨.find _, .ok found⟩ => if found.isSome then none else some .notFound
  | ⟨.operation _, .ok _⟩ | ⟨.readiness, .ok _⟩ => none

/-- What interceptors are told of a call that has come to a result. -/
inductive Entry.Tells : Entry → Observation → Prop
  | operation (op : Operation) (result : Except RegistryError op.Reply) :
      Tells ⟨.operation op, result⟩ ⟨op, .ofResult op result⟩
  | found (target : ProviderRef) (p : IdentityProvider) :
      Tells ⟨.find target, .ok (some p)⟩
        ⟨.get .identityProvider target, .found .identityProvider (some p)⟩
  | missing (target : ProviderRef) (e : Entity) (reference : String) :
      Tells ⟨.find target, .ok none⟩
        ⟨.get .identityProvider target, .failed (.notFound e reference)⟩
  | failed (target : ProviderRef) (err : RegistryError) :
      Tells ⟨.find target, .error err⟩ ⟨.get .identityProvider target, .failed err⟩

theorem Outcome.errorKind?_ofResult (op : Operation) (result : Except RegistryError op.Reply) :
    (Outcome.ofResult op result).errorKind? = Entry.errorKind? ⟨.operation op, result⟩ := by
  cases op <;> cases result <;> rfl

namespace Entry.Tells

variable {x : Entry} {o : Observation}

theorem observed? (h : x.Tells o) : x.call.observed? = some o.op := by
  cases h <;> rfl

theorem errorKind? (h : x.Tells o) : o.outcome.errorKind? = x.errorKind? := by
  cases h with
  | operation op result => exact Outcome.errorKind?_ofResult op result
  | found | missing | failed => rfl

end Entry.Tells

/-- The observation of a look-up is that of the operation that it makes. -/
theorem Entry.tells_find (target : ProviderRef) (result : Except RegistryError IdentityProvider) :
    Entry.Tells ⟨.find target, foundOrNone result⟩
      ⟨.get .identityProvider target, .ofResult (.get .identityProvider target) result⟩ := by
  cases result with
  | ok p => exact .found target p
  | error err =>
    cases err with
    | notFound e reference => exact .missing target e reference
    | validation refusal => exact .failed target (.validation refusal)
    | nameTaken e name => exact .failed target (.nameTaken e name)
    | dataAccess place cause => exact .failed target (.dataAccess place cause)

section Observations

variable {σ ε : Type} [ProviderStore σ]

/-- The observation that a call gives in a store. -/
def Call.observation? (c : Call) (s : σ) : Option Observation :=
  c.observed?.map fun op => ⟨op, .ofResult op (op.plan.run s).result⟩

/-- The observations that calls give, one after the other. -/
def Service.observations (s : σ) : List Call → List Observation
  | [] => []
  | c :: cs =>
    (c.observation? s).toList ++ Service.observations ((Service.bare s).call c).store cs

/-- A call that is observed tells its result, and no other call is observed. -/
theorem Call.observation?_cases (c : Call) (s : σ) :
    (∃ o, c.observation? s = some o ∧ Entry.Tells ⟨c, ((Service.bare s).call c).result⟩ o) ∨
      (c.observation? s = none ∧
        Entry.isObserved ⟨c, ((Service.bare s).call c).result⟩ = false) := by
  cases c with
  | operation op => exact .inl ⟨_, rfl, .operation op _⟩
  | find target => exact .inl ⟨_, rfl, Entry.tells_find target _⟩
  | readiness => exact .inr ⟨rfl, rfl⟩

/-- **Every observed call is told, in order.** -/
theorem Service.tells_observations (s : σ) (calls : List Call) :
    List.Forall₂ Entry.Tells (((Service.bare s).run calls).1.filter Entry.isObserved)
      (Service.observations s calls) := by
  induction calls generalizing s with
  | nil => exact .nil
  | cons c cs ih =>
    have hrest := ih ((Service.bare s).call c).store
    simp only [Service.run, Service.observations]
    obtain ⟨o, hsome, htells⟩ | ⟨hnone, hunseen⟩ := c.observation?_cases s
    · have hseen : Entry.isObserved ⟨c, ((Service.bare s).call c).result⟩ = true := by
        rw [Entry.isObserved, htells.observed?]
        rfl
      rw [hsome, List.filter_cons_of_pos hseen]
      exact .cons htells hrest
    · rw [hnone, List.filter_cons_of_neg (by simp [hunseen])]
      exact hrest

end Observations

/-! ## Events of a chain -/

namespace Trace

variable {ε : Type}

@[simp] theorem events_append (s t : Trace ε) : (s ++ t).events = s.events ++ t.events := rfl

end Trace

namespace Interceptor

variable {ε : Type}

theorem events_runBefore (chain : List (Interceptor ε)) (op : Operation) :
    (runBefore chain op).events = chain.flatMap fun i => (i.before op).emitted := by
  induction chain with
  | nil => rfl
  | cons i is ih => simp only [runBefore, Trace.events_append, ih, trace, List.flatMap_cons]

theorem events_runAfter (chain : List (Interceptor ε)) (op : Operation) (o : Outcome) :
    (runAfter chain op o).events = chain.flatMap fun i => (i.after op o).emitted := by
  induction chain with
  | nil => rfl
  | cons i is ih => simp only [runAfter, Trace.events_append, ih, trace, List.flatMap_cons]

/-- The events of all hooks of a chain around an observation. -/
def eventsAround (chain : List (Interceptor ε)) (o : Observation) : List ε :=
  (chain.flatMap fun i => (i.before o.op).emitted) ++
    chain.flatMap fun i => (i.after o.op o.outcome).emitted

end Interceptor

section Events

variable {σ ε : Type} [ProviderStore σ]

/-- The events of a call are those of the hooks around its observation. -/
theorem Service.events_call (service : Service σ ε) (c : Call) :
    (service.call c).trace.events =
      (c.observation? service.store).toList.flatMap
        (Interceptor.eventsAround service.interceptors) := by
  have hperform (op : Operation) :
      (service.perform op).trace.events = Interceptor.eventsAround service.interceptors
        ⟨op, .ofResult op (op.plan.run service.store).result⟩ := by
    simp only [Service.perform, Trace.events_append, Interceptor.events_runBefore,
      Interceptor.events_runAfter, List.append_nil, Interceptor.eventsAround]
  cases c with
  | operation op => exact (hperform op).trans (List.append_nil _).symm
  | find target => exact (hperform _).trans (List.append_nil _).symm
  | readiness => rfl

/-- Where the hooks say the same of an observation at every call, a run says it of every
observation. -/
theorem Service.events_watch {watchers : List (Watcher ε)} {said : Observation → List ε}
    (h : ∀ number, Interceptor.eventsAround (watchers.map fun w => w number) = said)
    (number : Nat) (s : σ) (calls : List Call) :
    (Service.watch watchers number s calls).trace.events =
      (Service.observations s calls).flatMap said := by
  induction calls generalizing number s with
  | nil => rfl
  | cons c cs ih =>
    obtain ⟨-, hstore⟩ := Service.call_unwatched s (watchers.map fun w => w number) c
    simp only [Service.watch, Trace.events_append, Service.events_call, Service.observations,
      List.flatMap_append, hstore, ih, h]

end Events

/-! ## The calls of hooks -/

/-- A call of a hook: where its interceptor stands, and what it is told. A `before` hook is told no
outcome. -/
structure HookCall where
  place : Nat
  op : Operation
  outcome? : Option Outcome

/-- An interceptor that tells the calls of its hooks, which fail as those of another one. -/
def Interceptor.recording {ε : Type} (i : Interceptor ε) (place : Nat) : Interceptor HookCall where
  name := i.name
  before op := ⟨[⟨place, op, none⟩], (i.before op).failure⟩
  after op o := ⟨[⟨place, op, some o⟩], (i.after op o).failure⟩

/-- The interceptors at their places, telling the calls of their hooks. -/
def recordings {ε : Type} (watchers : List (Watcher ε)) : List (Watcher HookCall) :=
  watchers.zipIdx.map fun (w, place) number => (w number).recording place

/-- The calls of hooks around an observation: one `before` at every place, then one `after`. -/
def Observation.hookCalls (places : Nat) (o : Observation) : List HookCall :=
  (List.range places).map (fun place => ⟨place, o.op, none⟩) ++
    (List.range places).map fun place => ⟨place, o.op, some o.outcome⟩

theorem eventsAround_recordings {ε : Type} (watchers : List (Watcher ε)) (number : Nat) :
    Interceptor.eventsAround ((recordings watchers).map fun w => w number) =
      Observation.hookCalls watchers.length := by
  have hplaces : List.range watchers.length = watchers.zipIdx.map Prod.snd := by
    rw [List.zipIdx_map_snd, List.range_eq_range']
  funext o
  simp only [Interceptor.eventsAround, recordings, Observation.hookCalls, hplaces, List.map_map,
    List.flatMap_map, Function.comp_def, Interceptor.recording]
  simp only [List.map_eq_flatMap]

/-! ## Audit trails -/

/-- An interceptor without events, which fails as another one. -/
def Interceptor.silenced {ε : Type} (i : Interceptor ε) : Interceptor AuditRecord where
  name := i.name
  before op := ⟨[], (i.before op).failure⟩
  after op o := ⟨[], (i.after op o).failure⟩

/-- A sink that shows the records that reach it, and may fail to keep them. -/
def AuditSink.showing (failure : AuditRecord → Option String) : AuditSink AuditRecord :=
  fun record => ([record], failure record)

/-- An audit interceptor with others before and behind it. -/
structure Auditing (ε : Type) where
  first : List (Watcher ε) := []
  last : List (Watcher ε) := []
  failure : AuditRecord → Option String := fun _ => none

/-- The chain, of which only the audit interceptor has events. -/
def Auditing.watchers {ε : Type} (a : Auditing ε) : List (Watcher AuditRecord) :=
  let silenced (w : Watcher ε) : Watcher AuditRecord := fun number => (w number).silenced
  a.first.map silenced ++ (fun _ => .audit (.showing a.failure)) :: a.last.map silenced

/-- The audit records of calls. -/
def Auditing.trail {σ ε : Type} [ProviderStore σ] (a : Auditing ε) (s : σ) (calls : List Call) :
    List AuditRecord := (Service.watch a.watchers 0 s calls).trace.events

/-- What is recorded of a call that has come to a result. -/
def Entry.auditRecord? (x : Entry) : Option AuditRecord :=
  x.call.observed?.map fun op => ⟨op.label, op.target?, x.errorKind?⟩

theorem eventsAround_auditing {ε : Type} (a : Auditing ε) (number : Nat) :
    Interceptor.eventsAround (a.watchers.map fun w => w number) =
      fun o => [AuditRecord.of o.op o.outcome] := by
  have hquiet (watchers : List (Watcher ε)) :
      watchers.flatMap (fun _ => ([] : List AuditRecord)) = [] :=
    List.flatMap_eq_nil_iff.mpr fun _ _ => rfl
  funext o
  simp [Interceptor.eventsAround, Auditing.watchers, Interceptor.silenced, Interceptor.audit,
    AuditSink.showing, List.flatMap_map, hquiet]

theorem Entry.Tells.auditRecord? {x : Entry} {o : Observation} (h : x.Tells o) :
    x.auditRecord? = some (.of o.op o.outcome) := by
  rw [Entry.auditRecord?, h.observed?, AuditRecord.of, h.errorKind?]
  rfl

/-- What is observed, and nothing else, is recorded. -/
theorem Entry.filterMap_auditRecord? (log : List Entry) :
    (log.filter Entry.isObserved).filterMap Entry.auditRecord? =
      log.filterMap Entry.auditRecord? := by
  rw [List.filterMap_filter]
  refine List.filterMap_congr fun x _ => ?_
  cases hseen : x.call.observed? <;> simp [isObserved, auditRecord?, hseen]

theorem Entry.Tells.auditRecords {log : List Entry} {observations : List Observation}
    (h : List.Forall₂ Entry.Tells log observations) :
    log.filterMap Entry.auditRecord? =
      observations.map fun o => AuditRecord.of o.op o.outcome := by
  induction h with
  | nil => rfl
  | cons hx _ ih => rw [List.filterMap_cons_some hx.auditRecord?, List.map_cons, ih]

/-- The log determines the records. -/
theorem Auditing.trail_eq {σ ε : Type} [ProviderStore σ] (a : Auditing ε) (s : σ)
    (calls : List Call) :
    a.trail s calls = ((Service.bare s).run calls).1.filterMap Entry.auditRecord? := by
  have htells := Service.tells_observations s calls
  rw [trail, Service.events_watch (eventsAround_auditing a), ← Entry.filterMap_auditRecord?,
    Entry.Tells.auditRecords htells, List.map_eq_flatMap]

/-! ## Calls that differ in content -/

/-- The operations do the same to the same entity, and may differ in what they put there or look
for. -/
inductive Operation.SameButContent : Operation → Operation → Prop
  | list (e : Entity) (enabledOnly : Bool) :
      SameButContent (.list e enabledOnly) (.list e enabledOnly)
  | create {e : Entity} {a b : e.Aggregate} (hname : e.nameOf a = e.nameOf b) :
      SameButContent (.create e a) (.create e b)
  | get {e : Entity} (target : Ref e) : SameButContent (.get e target) (.get e target)
  | findByProperty (scope : PropertyScope) (key : String) (v w : PropertyValue) :
      SameButContent (.findByProperty scope key v) (.findByProperty scope key w)
  | update {e : Entity} {a b : e.Aggregate} (hname : e.nameOf a = e.nameOf b) :
      SameButContent (.update e a) (.update e b)
  | updateSection (target : ProviderRef) {s t : SectionUpdate} (hsection : s.target = t.target) :
      SameButContent (.updateSection target s) (.updateSection target t)
  | delete {e : Entity} (target : Ref e) : SameButContent (.delete e target) (.delete e target)
  | switch {e : Entity} (target : Ref e) (enabled : Bool) :
      SameButContent (.switch e target enabled) (.switch e target enabled)

/-- The calls differ in content only. -/
inductive Call.SameButContent : Call → Call → Prop
  | operation {op op' : Operation} (h : op.SameButContent op') :
      SameButContent (.operation op) (.operation op')
  | find (target : ProviderRef) : SameButContent (.find target) (.find target)
  | readiness : SameButContent .readiness .readiness

theorem Operation.SameButContent.shown {op op' : Operation} (h : op.SameButContent op') :
    op.label = op'.label ∧ op.target? = op'.target? := by
  cases h with
  | create hname => exact ⟨rfl, by simp only [target?, hname]⟩
  | update hname => exact ⟨rfl, by simp only [target?, hname]⟩
  | updateSection target hsection => exact ⟨by simp only [label, action, hsection], rfl⟩
  | list | get | findByProperty | delete | switch => exact ⟨rfl, rfl⟩

theorem Call.SameButContent.auditRecord? {x y : Entry} (h : x.call.SameButContent y.call)
    (hkind : x.errorKind? = y.errorKind?) : x.auditRecord? = y.auditRecord? := by
  obtain ⟨c, result⟩ := x
  obtain ⟨c', result'⟩ := y
  cases h with
  | operation h =>
    obtain ⟨hlabel, htarget⟩ := h.shown
    simp only [Entry.auditRecord?, Call.observed?, Option.map_some, hlabel, htarget, hkind]
  | find | readiness => simp only [Entry.auditRecord?, hkind]

/-- Logs of calls that differ in content only and fail alike have the same records. -/
theorem Call.SameButContent.auditRecords {σ τ : Type} [ProviderStore σ] [ProviderStore τ]
    {calls calls' : List Call} (h : List.Forall₂ Call.SameButContent calls calls') {s : σ} {t : τ}
    (hkinds : ((Service.bare s).run calls).1.map Entry.errorKind? =
      ((Service.bare t).run calls').1.map Entry.errorKind?) :
    ((Service.bare s).run calls).1.filterMap Entry.auditRecord? =
      ((Service.bare t).run calls').1.filterMap Entry.auditRecord? := by
  induction h generalizing s t with
  | nil => rfl
  | cons hc _ ih =>
    simp only [Service.run, List.map_cons, List.cons.injEq] at hkinds
    obtain ⟨hkind, hrest⟩ := hkinds
    simp only [Service.run, List.filterMap_cons, auditRecord? hc hkind, ih hrest]

/-! ## The theorem -/

/-- **Interceptors observe everything and change nothing.** -/
theorem Service.watched_calls {σ ε : Type} [ProviderStore σ] (watchers : List (Watcher ε)) (s : σ)
    (calls : List Call) :
    let log := ((Service.bare s).run calls).1
    ((Service.watch watchers 0 s calls).log = log ∧
      (Service.watch watchers 0 s calls).store = ((Service.bare s).run calls).2) ∧
    (∀ chain : List (Interceptor ε),
      Service.run ⟨s, chain⟩ calls = (Service.bare s).run calls) ∧
    (∃ observations : List Observation,
      List.Forall₂ (fun x o => x.Tells o ∧ o.outcome.errorKind? = x.errorKind?)
        (log.filter Entry.isObserved) observations ∧
      (Service.watch (recordings watchers) 0 s calls).trace.events =
        observations.flatMap fun o => o.hookCalls watchers.length) ∧
    (∀ a : Auditing ε, a.trail s calls = log.filterMap Entry.auditRecord?) ∧
    ∀ {τ ε' : Type} [ProviderStore τ] (t : τ) (calls' : List Call) (a : Auditing ε)
      (b : Auditing ε'), List.Forall₂ Call.SameButContent calls calls' →
        log.map Entry.errorKind? = ((Service.bare t).run calls').1.map Entry.errorKind? →
        a.trail s calls = b.trail t calls' := by
  refine ⟨Service.watch_unwatched watchers 0 s calls, fun chain => run_unwatched s chain calls,
    ⟨Service.observations s calls, ?_, ?_⟩, fun a => a.trail_eq s calls, ?_⟩
  · exact (Service.tells_observations s calls).imp fun _ _ htells => ⟨htells, htells.errorKind?⟩
  · exact Service.events_watch (eventsAround_recordings watchers) 0 s calls
  · -- the trail is a function of what the two runs are said to have in common
    intro τ ε' _ t calls' a b hcalls hkinds
    rw [a.trail_eq, b.trail_eq]
    exact Call.SameButContent.auditRecords hcalls hkinds

/-- Calls about a sample provider, which gets a property with a value, and about a missing one. -/
def tierCalls (tier : String) : List Call :=
  [.operation (.create .identityProvider .acme),
    .operation (.updateSection (.name "acme")
      (.properties (PropertyMap.put ∅ "tier" (.ofJson (.string tier))))),
    .readiness,
    .find (.name "nobody")]

/-- An audit interceptor behind one whose hooks all fail. -/
def sampleAuditing : Auditing Empty where
  first :=
    [fun _ => {
      name := "probe"
      before := fun _ => { failure := some ⟨"probe", "refused"⟩ }
      after := fun _ _ => { failure := some ⟨"probe", "refused"⟩ } }]

/-- A value in memory and another one in a database leave the same records: neither of them is in
there. -/
theorem Service.watched_calls_tierCalls :
    List.Forall₂ Call.SameButContent (tierCalls "silver") (tierCalls "gold") ∧
      sampleAuditing.trail ({} : MemoryStore) (tierCalls "silver") =
        sampleAuditing.trail Database.fresh (tierCalls "gold") ∧
      sampleAuditing.trail ({} : MemoryStore) (tierCalls "silver") =
        [⟨"create_identity_provider", some "name 'acme'", none⟩,
          ⟨"update_idp_properties", some "name 'acme'", none⟩,
          ⟨"get_identity_provider", some "name 'nobody'", some .notFound⟩] := by
  have hcalls : List.Forall₂ Call.SameButContent (tierCalls "silver") (tierCalls "gold") :=
    .cons (.operation (.create rfl)) (.cons (.operation (.updateSection _ rfl))
      (.cons .readiness (.cons (.find _) .nil)))
  have hkinds : ((Service.bare ({} : MemoryStore)).run (tierCalls "silver")).1.map
      Entry.errorKind? =
        ((Service.bare Database.fresh).run (tierCalls "gold")).1.map Entry.errorKind? := by
    decide +kernel
  obtain ⟨-, -, -, -, htrails⟩ :=
    Service.watched_calls ([] : List (Watcher Empty)) ({} : MemoryStore) (tierCalls "silver")
  exact ⟨hcalls, htrails Database.fresh (tierCalls "gold") sampleAuditing sampleAuditing hcalls
    hkinds, by decide +kernel⟩

end FederationRegistry
