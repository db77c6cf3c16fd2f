import FederationRegistry.Service.Interceptor

/-!
# The registry service

A service answers calls over a store of any kind. Around every operation it runs the hooks of its
interceptors: all `before` hooks, then the operation, then all `after` hooks with its outcome.

A call is an operation, a look-up that takes a missing identity provider for an answer (`find`,
observed as the `get` it makes), or a question whether the store is there (`readiness`, which is
not observed).
-/

namespace FederationRegistry

/-- A call of the service. -/
inductive Call where
  | operation (op : Operation)
  | find (target : ProviderRef)
  | readiness

namespace Call

/-- What a call results in. -/
abbrev Reply : Call → Type
  | .operation op => op.Reply
  | .find _ => Option IdentityProvider
  | .readiness => Unit

/-- The operation that interceptors see of a call. -/
def observed? : Call → Option Operation
  | .operation op => some op
  | .find target => some (.get .identityProvider target)
  | .readiness => none

end Call

/-- A missing entity as an answer; any other failure stays one. -/
def foundOrNone {α : Type} : Except RegistryError α → Except RegistryError (Option α)
  | .ok a => .ok (some a)
  | .error (.notFound ..) => .ok none
  | .error err => .error err

/-- A store with the interceptors around it. -/
structure Service (σ ε : Type) where
  store : σ
  interceptors : List (Interceptor ε) := []

/-- What the service answers. -/
structure Response (σ ε α : Type) where
  result : Except RegistryError α
  store : σ
  trace : Trace ε := {}

namespace Service

variable {σ ε : Type} [ProviderStore σ]

/-- The answer to an operation, with the hooks around it. -/
def perform (s : Service σ ε) (op : Operation) : Response σ ε op.Reply :=
  let before := Interceptor.runBefore s.interceptors op
  let answer := op.plan.run s.store
  let after := Interceptor.runAfter s.interceptors op (.ofResult op answer.result)
  ⟨answer.result, answer.store, before ++ ⟨[], answer.warnings.map .store⟩ ++ after⟩

/-- The answer to a call. -/
def call (s : Service σ ε) : (c : Call) → Response σ ε c.Reply
  | .operation op => s.perform op
  | .find target =>
    let response := s.perform (.get .identityProvider target)
    ⟨foundOrNone response.result, response.store, response.trace⟩
  | .readiness =>
    let answer := ProviderStore.answer s.store .readiness
    ⟨answer.result, answer.store, ⟨[], answer.warnings.map .store⟩⟩

end Service

end FederationRegistry
