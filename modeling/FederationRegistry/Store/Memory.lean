import FederationRegistry.Store.Request

/-!
# The store in memory

Aggregates on two *shelves*, one for each entity. A shelf gives out ascending identifiers and
never the same twice, and no two aggregates on it share a name. A look-up by property compares
values as values.
-/

namespace FederationRegistry

/-- The aggregates of one entity by identifier. -/
structure Shelf (e : Entity) where
  /-- The identifier given out last, or zero. -/
  last : Nat := 0
  items : Dict Nat e.Aggregate := ∅

namespace Shelf

variable {e : Entity}

/-- The place where an aggregate of the name stands. -/
def place? (s : Shelf e) (name : String) : Option Nat :=
  (s.items.entries.find? fun entry => e.nameOf entry.2 == name).map (·.1)

/-- The aggregate that a reference names. -/
def get? (s : Shelf e) : Ref e → Option e.Aggregate
  | .id i => s.items.find? i.value
  | .name n => (s.place? n).bind s.items.find?

/-- The names on the shelf, or those of the enabled aggregates. -/
def names (s : Shelf e) (enabledOnly : Bool) : List String :=
  (s.items.values.filter fun a => !enabledOnly || e.isEnabled a).map e.nameOf

/-- No aggregate but the one at `owner` has the name. -/
def checkName (s : Shelf e) (name : String) (owner : Option Nat) : Except RegistryError Unit :=
  match s.place? name with
  | none => .ok ()
  | some place => if owner = some place then .ok () else .error (.nameTaken e name)

/-- The shelf with one more aggregate, and the identifier it got. -/
def create (s : Shelf e) (a : e.Aggregate) : Except RegistryError (Id e × Shelf e) := do
  s.checkName (e.nameOf a) none
  match Id.ofNat? (e := e) (s.last + 1) with
  | none => throw (.dataAccess (e.label ++ " id allocation") .idsExhausted)
  | some id => return (id, ⟨id.value, s.items.insert id.value (e.withId a id)⟩)

/-- The shelf with the aggregate at an identifier changed. -/
def modify (s : Shelf e) (id : Id e) (change : e.Aggregate → Checked e.Aggregate) :
    Except RegistryError (Shelf e) :=
  match s.items.find? id.value with
  | none => .error (.noSuchId id)
  | some current => do
    let next ← (change current).mapError RegistryError.ofModel
    s.checkName (e.nameOf next) (some id.value)
    return { s with items := s.items.insert id.value (e.withId next id) }

/-- The shelf with the aggregate at an identifier changed, whatever name it has. -/
def amend (s : Shelf e) (id : Id e) (change : e.Aggregate → e.Aggregate) :
    Except RegistryError (Shelf e) :=
  match s.items.find? id.value with
  | none => .error (.noSuchId id)
  | some current => .ok { s with items := s.items.insert id.value (change current) }

/-- The shelf without the aggregate at an identifier. -/
def delete (s : Shelf e) (id : Id e) : Except RegistryError (Shelf e) :=
  if s.items.contains id.value then .ok { s with items := s.items.erase id.value }
  else .error (.noSuchId id)

end Shelf

namespace IdentityProvider

/-- The property maps of the provider in a scope. -/
def propertiesIn (p : IdentityProvider) : PropertyScope → List PropertyMap
  | .provider => [p.properties]
  | .authenticator =>
    match p.authentication with
    | none => []
    | some a => a.authenticators.values.map (·.properties)
  | .provisioner => p.provisioning.provisioners.values.map (·.properties)

/-- The provider has an equal property in a scope. -/
def hasProperty (p : IdentityProvider) (scope : PropertyScope) (key : String)
    (value : PropertyValue) : Bool :=
  (p.propertiesIn scope).any fun m => (m.find? key).any fun v => v.same value

end IdentityProvider

/-- A store that lives in memory. -/
structure MemoryStore where
  providers : Shelf .identityProvider := {}
  applications : Shelf .serviceProvider := {}

namespace MemoryStore

/-- The shelf of an entity. -/
def shelf (m : MemoryStore) : (e : Entity) → Shelf e
  | .identityProvider => m.providers
  | .serviceProvider => m.applications

/-- The store with another shelf for an entity. -/
def withShelf (m : MemoryStore) : (e : Entity) → Shelf e → MemoryStore
  | .identityProvider, s => { m with providers := s }
  | .serviceProvider, s => { m with applications := s }

/-- An answer that reads a result and leaves the store alone. -/
def reply {α : Type} (m : MemoryStore) (a : α) : Answer MemoryStore α := ⟨.ok a, m, []⟩

/-- An answer to a write, which leaves the store alone when it fails. -/
def written (m : MemoryStore) (e : Entity) (next : Except RegistryError (Shelf e)) :
    Answer MemoryStore Unit :=
  match next with
  | .ok s => ⟨.ok (), m.withShelf e s, []⟩
  | .error err => ⟨.error err, m, []⟩

/-- The answer to a look-up by property. -/
def findByProperty (m : MemoryStore) (scope : PropertyScope) (key : String)
    (value : PropertyValue) : Answer MemoryStore (Option IdentityProvider) :=
  let found := m.providers.items.values.filter fun p => p.hasProperty scope key value
  let warnings :=
    if 1 < found.length then [.ambiguousLookup scope key found.length] else []
  ⟨.ok found.head?, m, warnings⟩

/-- The shelf of an entity with an aggregate switched on or off. The name of an identity provider is
looked at again, that of a service provider is not. -/
def switch (m : MemoryStore) (enabled : Bool) :
    (e : Entity) → Id e → Except RegistryError (Shelf e)
  | .identityProvider, id => m.providers.modify id fun p => .ok (p.withEnabled enabled)
  | .serviceProvider, id => m.applications.amend id fun p => p.withEnabled enabled

/-- The answer to a request. -/
def answer (m : MemoryStore) : (r : Request) → Answer MemoryStore r.Reply
  | .list e enabledOnly => m.reply ((m.shelf e).names enabledOnly)
  | .create e a =>
    match (m.shelf e).create a with
    | .ok (id, s) => ⟨.ok id, m.withShelf e s, []⟩
    | .error err => ⟨.error err, m, []⟩
  | .get e target => m.reply ((m.shelf e).get? target)
  | .resolve e name => m.reply (((m.shelf e).place? name).bind Id.ofNat?)
  | .findByProperty scope key value => m.findByProperty scope key value
  | .update e a =>
    match e.idOf a with
    | none => ⟨.error (.validation (.notStored e none)), m, []⟩
    | some id => m.written e ((m.shelf e).modify id fun _ => .ok a)
  | .updateSection id s =>
    m.written .identityProvider (m.providers.modify id fun p => p.withSection s)
  | .delete e id => m.written e ((m.shelf e).delete id)
  | .switch e id enabled => m.written e (m.switch enabled e id)
  | .readiness => m.reply ()

instance : ProviderStore MemoryStore := ⟨answer⟩

end MemoryStore

end FederationRegistry
