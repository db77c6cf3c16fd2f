import FederationRegistry.Aggregate
import FederationRegistry.RegistryError

/-!
# What a store is asked

A store keeps identity providers and service providers. It is asked one request at a time, and each
request is one transaction: the answer holds the result, the store afterwards and the warnings
that arose on the way.

**Actions** are the requests without their arguments, and have the names under which failures and
audit records show them.
-/

namespace FederationRegistry

/-! ## Actions -/

/-- The entity inside the name of an action. -/
def Entity.word : Entity → String
  | .identityProvider => "identity_provider"
  | .serviceProvider => "service_provider"

/-- The section inside the name of an action. -/
def ProviderSection.word : ProviderSection → String
  | .metadata => "metadata"
  | .authentication => "authentication_config"
  | .provisioning => "provisioning_config"
  | .properties => "properties"

/-- What is done. -/
inductive Action where
  | list (e : Entity) (enabledOnly : Bool)
  | create (e : Entity)
  | get (e : Entity)
  | resolve (e : Entity)
  | findByProperty
  | update (e : Entity)
  | updateSection (s : ProviderSection)
  | delete (e : Entity)
  | switch (e : Entity) (enabled : Bool)
deriving DecidableEq

/-- The name of the action. -/
def Action.label : Action → String
  | .list e false => "list_" ++ e.word ++ "s"
  | .list e true => "list_enabled_" ++ e.word ++ "s"
  | .create e => "create_" ++ e.word
  | .get e => "get_" ++ e.word
  | .resolve e => "resolve_" ++ e.word ++ "_id"
  | .findByProperty => "get_identity_provider_by_property"
  | .update e => "update_" ++ e.word
  | .updateSection s => "update_idp_" ++ s.word
  | .delete e => "delete_" ++ e.word
  | .switch e true => "enable_" ++ e.word
  | .switch e false => "disable_" ++ e.word

/-! ## Requests -/

/-- A request to a store. Reads and look-ups may name an entity, writes address it by
identifier. -/
inductive Request where
  /-- The names of all entities, or of the enabled ones, by ascending identifier. -/
  | list (e : Entity) (enabledOnly : Bool)
  | create (e : Entity) (a : e.Aggregate)
  | get (e : Entity) (target : Ref e)
  /-- The identifier behind a name. -/
  | resolve (e : Entity) (name : String)
  /-- The provider that has an equal property somewhere in a scope; of several the one with the
  lowest identifier. -/
  | findByProperty (scope : PropertyScope) (key : String) (value : PropertyValue)
  | update (e : Entity) (a : e.Aggregate)
  | updateSection (id : ProviderId) (s : SectionUpdate)
  | delete (e : Entity) (id : Id e)
  | switch (e : Entity) (id : Id e) (enabled : Bool)
  /-- Whether the store answers at all. -/
  | readiness

/-- What a request is answered with. -/
abbrev Request.Reply : Request → Type
  | .list .. => List String
  | .create e _ => Id e
  | .get e _ => Option e.Aggregate
  | .resolve e _ => Option (Id e)
  | .findByProperty .. => Option IdentityProvider
  | .update .. | .updateSection .. | .delete .. | .switch .. | .readiness => Unit

/-! ## Answers -/

/-- A condition that is reported and changes no result. -/
inductive Warning where
  /-- Several providers have the property of a look-up. -/
  | ambiguousLookup (scope : PropertyScope) (key : String) (count : Nat)
deriving DecidableEq

/-- The words of the warning. -/
def Warning.message : Warning → String
  | .ambiguousLookup .. =>
    "property lookup matched several identity providers; using lowest id"

/-- The answer of a store in state `σ`. -/
structure Answer (σ α : Type) where
  result : Except RegistryError α
  store : σ
  warnings : List Warning := []

/-- The answer with the store inside a larger one. -/
def Answer.mapStore {σ τ α : Type} (a : Answer σ α) (f : σ → τ) : Answer τ α :=
  ⟨a.result, f a.store, a.warnings⟩

/-- The stores with states of a type. -/
class ProviderStore (σ : Type) where
  /-- The answer to a request. -/
  answer : σ → (r : Request) → Answer σ r.Reply

end FederationRegistry
