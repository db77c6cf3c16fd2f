import FederationRegistry.Store.Error

/-!
# Why an operation of the registry fails

Operations fail in four ways: their input breaks a rule, what they address does not exist, a name
is taken, or the data cannot be reached. Only the last has a cause below it, and only the last
says in which operation and on what it arose (`inContext`).
-/

namespace FederationRegistry

/-- Why input is refused. -/
inductive Refusal where
  /-- The input breaks a rule of the model. -/
  | rule (error : ModelError)
  | alreadyStored (entity : Entity) (name : String) (id : Nat)
  /-- The aggregate has no identifier; its name is given where the caller can tell it. -/
  | notStored (entity : Entity) (name : Option String)
  | other (text : String)
deriving DecidableEq

namespace Refusal

/-- The refusal in words. -/
def message : Refusal → String
  | .rule error => error.message
  | .alreadyStored entity name id =>
    entity.label ++ " '" ++ name ++ "' is already persisted with id " ++ Decimal.text id
  | .notStored entity (some name) => entity.label ++ " '" ++ name ++ "' has not been created"
  | .notStored entity none => entity.label ++ " has not been created"
  | .other text => text

end Refusal

/-- What lies below a failure to reach data. -/
inductive Cause where
  | store (error : StoreError)
  | idsExhausted
  | other (text : String)
deriving DecidableEq

namespace Cause

/-- The cause in words. -/
def message : Cause → String
  | .store error => error.message
  | .idsExhausted => "id space exhausted"
  | .other text => text

end Cause

/-- A failure of an operation. -/
inductive RegistryError where
  | validation (refusal : Refusal)
  | notFound (entity : Entity) (reference : String)
  /-- Another entity of the kind has the name. -/
  | nameTaken (entity : Entity) (name : String)
  | dataAccess (place : String) (cause : Cause)
deriving DecidableEq

/-- The kinds of failure. -/
inductive ErrorKind where
  | validation
  | notFound
  | conflict
  | dataAccess
deriving DecidableEq

/-- The name of the kind. -/
def ErrorKind.label : ErrorKind → String
  | .validation => "validation"
  | .notFound => "not_found"
  | .conflict => "conflict"
  | .dataAccess => "data_access"

namespace RegistryError

/-- The kind of the failure. -/
def kind : RegistryError → ErrorKind
  | .validation _ => .validation
  | .notFound .. => .notFound
  | .nameTaken .. => .conflict
  | .dataAccess .. => .dataAccess

/-- The taken name in words. The reserved name belongs to the resident provider, so a second
provider of that name is a second resident one. -/
def conflictMessage (entity : Entity) (name : String) : String :=
  match entity, ProviderKind.ofName name with
  | .identityProvider, .resident => "resident identity provider already exists"
  | entity, _ => entity.label ++ " '" ++ name ++ "' already exists"

/-- The failure in words. -/
def message : RegistryError → String
  | .validation refusal => "validation failed: " ++ refusal.message
  | .notFound entity reference => entity.label ++ " not found: " ++ reference
  | .nameTaken entity name => "conflict: " ++ conflictMessage entity name
  | .dataAccess place _ => "data access error: " ++ place

/-- What lies below the failure. -/
def cause? : RegistryError → Option Cause
  | .dataAccess _ cause => some cause
  | _ => none

/-- A failure to reach data, with the operation in which and the target on which it arose; any
other failure as it is. -/
def inContext (operation target : String) : RegistryError → RegistryError
  | .dataAccess place cause => .dataAccess (operation ++ " on " ++ target ++ ": " ++ place) cause
  | e => e

/-- Nothing has the identifier. -/
def noSuchId {e : Entity} (id : Id e) : RegistryError := .notFound e id.text

/-- Nothing has the identifier or the name. -/
def noSuch {e : Entity} (target : Ref e) : RegistryError := .notFound e target.text

/-- A broken rule of the model as a failure. -/
def ofModel (e : ModelError) : RegistryError := .validation (.rule e)

/-- A failure of a relational store as a failure of the operation. -/
def ofStore (e : StoreError) : RegistryError := .dataAccess "sqlite provider store" (.store e)

end RegistryError

end FederationRegistry
