import FederationRegistry.Store.Request

/-!
# Operations of the service

An *operation* is what a client asks of the registry and what interceptors observe. Its *plan* says
which requests it makes of the store: a reference by name is resolved first, and the request that
follows addresses the entity by identifier. Input that breaks a rule never reaches the store.

**Order of checks.** An aggregate to create must be new, one to update must not be; then it must be
valid. A section must be valid before its target is resolved.
-/

namespace FederationRegistry

/-- An operation with its arguments. -/
inductive Operation where
  | list (e : Entity) (enabledOnly : Bool)
  | create (e : Entity) (a : e.Aggregate)
  | get (e : Entity) (target : Ref e)
  | findByProperty (scope : PropertyScope) (key : String) (value : PropertyValue)
  | update (e : Entity) (a : e.Aggregate)
  | updateSection (target : ProviderRef) (s : SectionUpdate)
  | delete (e : Entity) (target : Ref e)
  | switch (e : Entity) (target : Ref e) (enabled : Bool)

/-- A sequence of requests, each of which may depend on the replies so far. -/
inductive Plan (α : Type) where
  | done (result : Except RegistryError α)
  /-- Makes a request and goes on with the reply; a failure of the store ends the plan. -/
  | ask (r : Request) (next : r.Reply → Plan α)

namespace Plan

variable {α : Type}

/-- A single request. -/
def request (r : Request) : Plan r.Reply := .ask r fun reply => .done (.ok reply)

/-- Goes on if a check holds. -/
def require (check : Except RegistryError Unit) (next : Plan α) : Plan α :=
  match check with
  | .ok () => next
  | .error err => .done (.error err)

/-- Goes on if a value keeps the rules of the model. -/
def requireValid (check : Checked Unit) (next : Plan α) : Plan α :=
  require (check.mapError RegistryError.ofModel) next

/-- Goes on with the identifier that a reference stands for. -/
def resolve {e : Entity} (target : Ref e) (next : Id e → Plan α) : Plan α :=
  match target with
  | .id i => next i
  | .name n =>
    .ask (.resolve e n) fun
      | some i => next i
      | none => .done (.error (.noSuch target))

/-- The answer of a store to a plan. -/
def run {σ : Type} [ProviderStore σ] : Plan α → σ → Answer σ α
  | .done result, s => ⟨result, s, []⟩
  | .ask r next, s =>
    let a := ProviderStore.answer s r
    match a.result with
    | .error err => ⟨.error err, a.store, a.warnings⟩
    | .ok reply =>
      let b := (next reply).run a.store
      ⟨b.result, b.store, a.warnings ++ b.warnings⟩

end Plan

namespace Operation

/-- What an operation results in. -/
abbrev Reply : Operation → Type
  | .list .. => List String
  | .create e _ => Id e
  | .get e _ => e.Aggregate
  | .findByProperty .. => Option IdentityProvider
  | .update .. | .updateSection .. | .delete .. | .switch .. => Unit

/-- The operation without its arguments. -/
def action : Operation → Action
  | .list e enabledOnly => .list e enabledOnly
  | .create e _ => .create e
  | .get e _ => .get e
  | .findByProperty .. => .findByProperty
  | .update e _ => .update e
  | .updateSection _ s => .updateSection s.target
  | .delete e _ => .delete e
  | .switch e _ enabled => .switch e enabled

/-- The name of the operation. -/
def label (op : Operation) : String := op.action.label

/-- What the operation is about, in words; a listing is about nothing in particular. -/
def target? : Operation → Option String
  | .list .. => none
  | .create e a | .update e a => some (Ref.name (e := e) (e.nameOf a)).text
  | .findByProperty scope key _ => some (scope.label ++ " property '" ++ key ++ "'")
  | .updateSection target _ => some target.text
  | .get _ target | .delete _ target | .switch _ target _ => some target.text

/-- An aggregate to create has not been stored. -/
def requireNew (e : Entity) (a : e.Aggregate) : Except RegistryError Unit :=
  match e.idOf a with
  | none => .ok ()
  | some id => .error (.validation (.alreadyStored e (e.nameOf a) id.value))

/-- An identity provider to update has been stored; of a service provider the store makes
sure. -/
def requireStored : (e : Entity) → e.Aggregate → Except RegistryError Unit
  | .identityProvider, p =>
    if p.isUnsaved then .error (.validation (.notStored .identityProvider (some p.name)))
    else .ok ()
  | .serviceProvider, _ => .ok ()

/-- The requests of an operation. -/
def plan : (op : Operation) → Plan op.Reply
  | .list e enabledOnly => .request (.list e enabledOnly)
  | .create e a =>
    .require (requireNew e a) (.requireValid (e.validate a) (.request (.create e a)))
  | .get e target =>
    .ask (.get e target) fun
      | some a => .done (.ok a)
      | none => .done (.error (.noSuch target))
  | .findByProperty scope key value => .request (.findByProperty scope key value)
  | .update e a =>
    .require (requireStored e a) (.requireValid (e.validate a) (.request (.update e a)))
  | .updateSection target s =>
    .requireValid s.validate (.resolve target fun i => .request (.updateSection i s))
  | .delete e target => .resolve target fun i => .request (.delete e i)
  | .switch e target enabled => .resolve target fun i => .request (.switch e i enabled)

end Operation

/-- The result of an operation as interceptors see it. -/
inductive Outcome where
  | names (names : List String)
  | created (e : Entity) (id : Id e)
  | found (e : Entity) (a : Option e.Aggregate)
  | completed
  | failed (error : RegistryError)

namespace Outcome

/-- The outcome of a result. -/
def ofResult : (op : Operation) → Except RegistryError op.Reply → Outcome
  | _, .error err => .failed err
  | .list .., .ok listed => .names listed
  | .create e _, .ok id => .created e id
  | .get e _, .ok a => .found e (some a)
  | .findByProperty .., .ok match? => .found .identityProvider match?
  | .update .., .ok _ | .updateSection .., .ok _ | .delete .., .ok _ | .switch .., .ok _ =>
    .completed

/-- The kind of failure, if the operation failed. -/
def errorKind? : Outcome → Option ErrorKind
  | .failed err => some err.kind
  | _ => none

/-- Success or failure, in a word. -/
def label (o : Outcome) : String := if o.errorKind?.isSome then "failure" else "success"

end Outcome

end FederationRegistry
