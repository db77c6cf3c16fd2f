import FederationRegistry.Proofs.Relational.Legible
import FederationRegistry.Proofs.Service.Serializability

/-!
# Names and identifiers address alike

**Theorem (`Service.addressing`).** In every store that calls can reach, in memory or in a database,
a call that addresses an entity by its name comes to the same as the call that addresses it by its
identifier: the same result, but for the reference in the text of a failure of the data, and the
same store. A call by a name that nothing has does not find it and changes nothing.

There are three ways to the entity. A read by identifier goes to its place, a read by name looks
for the place first, and a write by name is two requests, of which the first resolves the name. In
memory they agree because no two aggregates on a shelf share a name, and every one of them has the
identifier of its place. The rows of a database mirror such shelves, and reads of the rows go where
reads of the shelf go, also where a row does not load.
-/

namespace FederationRegistry

/-! ## Calls that address an entity -/

/-- A call that addresses an entity, without the reference. -/
inductive Addressed : Entity → Type where
  | get (e : Entity) : Addressed e
  | find : Addressed .identityProvider
  | delete (e : Entity) : Addressed e
  | switch (e : Entity) (enabled : Bool) : Addressed e
  | updateSection (s : SectionUpdate) : Addressed .identityProvider

namespace Addressed

variable {e : Entity}

/-- What the call results in. -/
abbrev Reply : {e : Entity} → Addressed e → Type
  | _, .get e => e.Aggregate
  | _, .find => Option IdentityProvider
  | _, .delete _ | _, .switch .. | _, .updateSection _ => Unit

/-- The section of the call, if it has one, is made by a builder. -/
def Built : Addressed e → Prop
  | .updateSection s => s.Built
  | _ => True

/-- What the call comes to where nothing has the name. -/
def missing : {e : Entity} → (a : Addressed e) → String → Except RegistryError a.Reply
  | _, .find, _ => .ok none
  | _, .get e, name | _, .delete e, name | _, .switch e _, name =>
    .error (.noSuch (.name (e := e) name))
  | _, .updateSection _, name => .error (.noSuch (.name (e := .identityProvider) name))

end Addressed

/-- The answer of a service to a call under a reference. -/
def Service.address {σ ε : Type} [ProviderStore σ] (service : Service σ ε) {e : Entity} :
    (a : Addressed e) → Ref e → Response σ ε a.Reply
  | .get e, target => service.call (.operation (.get e target))
  | .find, target => service.call (.find target)
  | .delete e, target => service.call (.operation (.delete e target))
  | .switch e enabled, target => service.call (.operation (.switch e target enabled))
  | .updateSection s, target => service.call (.operation (.updateSection target s))

/-- Results by a name and by an identifier are the same, or the same failure of the data in two
wordings. -/
inductive SameResult {e : Entity} (name : String) (i : Id e) {α : Type} :
    Except RegistryError α → Except RegistryError α → Prop
  | same (result : Except RegistryError α) : SameResult name i result result
  | worded (action : Action) (place : String) (cause : Cause) :
      SameResult name i
        (.error ((RegistryError.dataAccess place cause).inContext action.label
          (Database.refTarget (.name (e := e) name))))
        (.error ((RegistryError.dataAccess place cause).inContext action.label
          (Database.refTarget (.id i))))

/-- Calls by name and by identifier come to the same where the name is that of the identifier, and
to nothing where the name is that of nothing. -/
structure AddressesAlike {σ : Type} [ProviderStore σ] (s : σ)
    (Named : (e : Entity) → Nat → String → Prop) : Prop where
  found : ∀ {ε : Type} (chain : List (Interceptor ε)) {e : Entity} (a : Addressed e)
    (name : String) (i : Id e), Named e i.value name →
      let byName := Service.address ⟨s, chain⟩ a (.name name)
      let byId := Service.address ⟨s, chain⟩ a (.id i)
      SameResult name i byName.result byId.result ∧ byName.store = byId.store
  missing : ∀ {ε : Type} (chain : List (Interceptor ε)) {e : Entity} (a : Addressed e)
    (name : String), a.Built → (∀ k, ¬Named e k name) →
      let byName := Service.address ⟨s, chain⟩ a (.name name)
      byName.result = a.missing name ∧ byName.store = s

/-! ## From requests to calls -/

section Requests

variable {σ α : Type} [ProviderStore σ] {s : σ} {e : Entity} {name : String} {i : Id e}

/-- Reads by the name and by the identifier are the same and find something, or fail alike. -/
def ReadsAlike (s : σ) (name : String) (i : Id e) : Prop :=
  SameResult name i (ProviderStore.answer s (.get e (.name name))).result
      (ProviderStore.answer s (.get e (.id i))).result ∧
    (ProviderStore.answer s (.get e (.id i))).result ≠ .ok none

theorem ReadsAlike.orNotFound (h : ReadsAlike s name i) :
    SameResult name i
      (orNotFound (.name name) (ProviderStore.answer s (.get e (.name name))).result)
      (orNotFound (.id i) (ProviderStore.answer s (.get e (.id i))).result) := by
  obtain ⟨hsame, hthere⟩ := h
  generalize (ProviderStore.answer s (.get e (.name name))).result = byName at hsame ⊢
  generalize (ProviderStore.answer s (.get e (.id i))).result = byId at hsame hthere ⊢
  cases hsame with
  | same =>
    rcases byName with err | _ | a
    · exact .same _
    · exact absurd rfl hthere
    · exact .same _
  | worded action place cause => exact .worded action place cause

theorem SameResult.foundOrNone {name : String} {i : ProviderId}
    {x y : Except RegistryError IdentityProvider} (h : SameResult name i x y) :
    SameResult name i (foundOrNone x) (foundOrNone y) := by
  cases h with
  | same => exact .same _
  | worded action place cause => exact .worded action place cause

variable [Atomic σ]

/-- A plan by name runs as the plan by the identifier that the name stands for. -/
theorem Plan.run_resolve_of_standsFor (h : StandsFor s name i) (next : Id e → Plan α) :
    ((Plan.resolve (.name name) next).run s).result = ((Plan.resolve (.id i) next).run s).result ∧
      ((Plan.resolve (.name name) next).run s).store =
        ((Plan.resolve (.id i) next).run s).store := by
  have hstore := Atomic.read s (.resolve e name) rfl
  have hresult : (ProviderStore.answer s (.resolve e name)).result = .ok (some i) := h
  simp only [Plan.resolve, Plan.run, hresult, hstore, and_self]

theorem Plan.run_resolve_of_none
    (h : (ProviderStore.answer s (.resolve e name)).result = .ok none) (next : Id e → Plan α) :
    ((Plan.resolve (.name name) next).run s).result = .error (.noSuch (.name (e := e) name)) ∧
      ((Plan.resolve (.name name) next).run s).store = s := by
  have hstore := Atomic.read s (.resolve e name) rfl
  simp only [Plan.resolve, Plan.run, h, hstore, and_self]

/-- **A name that stands for an identifier** is as good as it. -/
theorem Service.address_found {ε : Type} (chain : List (Interceptor ε)) (a : Addressed e)
    (hstands : StandsFor s name i) (hreads : ReadsAlike s name i) :
    SameResult name i (Service.address ⟨s, chain⟩ a (.name name)).result
        (Service.address ⟨s, chain⟩ a (.id i)).result ∧
      (Service.address ⟨s, chain⟩ a (.name name)).store =
        (Service.address ⟨s, chain⟩ a (.id i)).store := by
  have hread (target : Ref e) : (ProviderStore.answer s (.get e target)).store = s :=
    Atomic.read s (.get e target) rfl
  -- to get by a name and by an identifier are two reads, so their failures tell them apart
  have hget : SameResult name i ((Operation.get e (.name name)).plan.run s).result
      ((Operation.get e (.id i)).plan.run s).result := by
    rw [Operation.run_get, Operation.run_get]
    exact hreads.orNotFound
  have hstore : ((Operation.get e (.name name)).plan.run s).store =
      ((Operation.get e (.id i)).plan.run s).store := by
    rw [Operation.run_get, Operation.run_get, hread, hread]
  -- a write by a name becomes, behind the resolution, the write by the identifier
  have hwrite (next : Id e → Plan Unit) :
      SameResult name i ((Plan.resolve (.name name) next).run s).result
          ((Plan.resolve (.id i) next).run s).result ∧
        ((Plan.resolve (.name name) next).run s).store =
          ((Plan.resolve (.id i) next).run s).store := by
    obtain ⟨hresult, hstore⟩ := Plan.run_resolve_of_standsFor hstands next
    exact ⟨hresult ▸ .same _, hstore⟩
  cases a with
  | get => exact ⟨hget, hstore⟩
  | find => exact ⟨hget.foundOrNone, hstore⟩
  | delete => exact hwrite fun i => .request (.delete e i)
  | switch _ enabled => exact hwrite fun i => .request (.switch e i enabled)
  | updateSection content =>
    show SameResult name i ((Operation.updateSection (.name name) content).plan.run s).result
        ((Operation.updateSection (.id i) content).plan.run s).result ∧
      ((Operation.updateSection (.name name) content).plan.run s).store =
        ((Operation.updateSection (.id i) content).plan.run s).store
    simp only [Operation.plan]
    cases content.validate with
    | error err => exact ⟨.same _, rfl⟩
    | ok _ => exact hwrite fun i => .request (.updateSection i content)

/-- **A name that stands for nothing** is not found. -/
theorem Service.address_missing {ε : Type} (chain : List (Interceptor ε)) {a : Addressed e}
    (ha : a.Built) (hresolve : (ProviderStore.answer s (.resolve e name)).result = .ok none)
    (hreads : (ProviderStore.answer s (.get e (.name name))).result = .ok none) :
    (Service.address ⟨s, chain⟩ a (.name name)).result = a.missing name ∧
      (Service.address ⟨s, chain⟩ a (.name name)).store = s := by
  have hread (target : Ref e) : (ProviderStore.answer s (.get e target)).store = s :=
    Atomic.read s (.get e target) rfl
  have hget : ((Operation.get e (.name name)).plan.run s).result =
        .error (.noSuch (.name (e := e) name)) ∧
      ((Operation.get e (.name name)).plan.run s).store = s := by
    rw [Operation.run_get, hreads, hread]
    exact ⟨rfl, rfl⟩
  have hwrite (next : Id e → Plan Unit) := Plan.run_resolve_of_none hresolve next
  cases a with
  | get => exact hget
  | find => exact ⟨congrArg foundOrNone hget.1, hget.2⟩
  | delete => exact hwrite fun i => .request (.delete e i)
  | switch _ enabled => exact hwrite fun i => .request (.switch e i enabled)
  | updateSection content =>
    show ((Operation.updateSection (.name name) content).plan.run s).result = _ ∧
      ((Operation.updateSection (.name name) content).plan.run s).store = s
    have hvalid : content.validate = .ok () := SectionUpdate.Built.valid ha
    -- a built section passes its check, so the name is resolved first here too
    simp only [Operation.plan, hvalid]
    exact hwrite fun i => .request (.updateSection i content)

end Requests

/-! ## The stores -/

namespace MemoryStore

variable {d : Demand} {m : MemoryStore} {e : Entity} {name : String}

theorem place?_eq_none_of_names (h : ∀ k, ¬m.Names e k name) : (m.shelf e).place? name = none :=
  Shelf.place?_eq_none_iff.mpr fun k a hfind hname => h k ⟨a, hfind, hname⟩

/-- **In memory** names and identifiers address alike. -/
theorem addressesAlike (hm : m.Kept d) : AddressesAlike m m.Names where
  found chain e a name i hnames := by
    have hplace : (m.shelf e).place? name = some i.value :=
      (Shelf.place?_eq_some_iff (hm e).toOrdered).mpr hnames
    have hstands := (standsFor_iff hm).mpr hnames
    obtain ⟨b, hfind, -⟩ := hnames
    have hget : (m.shelf e).get? (.name name) = some b := by
      rw [Shelf.get?, hplace, Option.bind_some, hfind]
    refine Service.address_found chain a hstands ⟨?_, ?_⟩
    · show SameResult name i (.ok ((m.shelf e).get? (.name name))) (.ok ((m.shelf e).get? (.id i)))
      rw [hget, Shelf.get?, hfind]
      exact .same _
    · show Except.ok ((m.shelf e).get? (.id i)) ≠ Except.ok none
      rw [Shelf.get?, hfind]
      simp
  missing chain e a name ha hnone := by
    have hplace := place?_eq_none_of_names hnone
    refine Service.address_missing chain ha ?_ ?_
    · show Except.ok (((m.shelf e).place? name).bind Id.ofNat?) = Except.ok none
      rw [hplace, Option.bind_none]
    · show Except.ok ((m.shelf e).get? (.name name)) = Except.ok none
      rw [Shelf.get?, hplace, Option.bind_none]

end MemoryStore

namespace Tables

variable {d : Demand} {t : Tables} {m : MemoryStore} {e : Entity} {name : String} {i : Id e}

/-- Rows by name and by identifier are the same. -/
theorem Mirrors.get_of_names (hm : m.Kept d) (h : t.Mirrors m) (hnames : m.Names e i.value name) :
    t.get e (.name name) = t.load e i.value ∧ t.get e (.id i) = t.load e i.value := by
  have hplace : (m.shelf e).place? name = some i.value :=
    (Shelf.place?_eq_some_iff (hm e).toOrdered).mpr hnames
  obtain ⟨b, hfind, -⟩ := hnames
  have hnumber := (h.lists e).rowNumber?_of_find? (hm e).toOrdered hfind
  constructor
  · rw [get, h.numberOf?_eq, hplace]
    rfl
  · rw [get, hnumber]

end Tables

namespace Database

variable {d : Demand} {db : Database}

/-- A row of the name stands under the number. -/
def Names (db : Database) (e : Entity) (k : Nat) (name : String) : Prop :=
  ∃ row, (db.tables.aggregates e).rows.find? (k : Int) = some row ∧ e.rows.name row = name

theorem names_iff {m : MemoryStore} (h : db.tables.Mirrors m) {e : Entity} {k : Nat}
    {name : String} : db.Names e k name ↔ m.Names e k name := by
  simp only [Names, (h.lists e).find?_row, Option.map_eq_some_iff, MemoryStore.Names]
  constructor
  · rintro ⟨row, ⟨a, hfind, rfl⟩, hname⟩
    exact ⟨a, hfind, (Entity.name_toRow a).symm.trans hname⟩
  · rintro ⟨a, hfind, hname⟩
    exact ⟨_, ⟨a, hfind, rfl⟩, (Entity.name_toRow a).trans hname⟩

/-- **In a database** names and identifiers address alike, also where a row does not load. -/
theorem addressesAlike (hdb : db.Kept d) : AddressesAlike db db.Names where
  found chain e a name i hrow := by
    obtain ⟨m, hm, hmirrors⟩ := hdb.mirrors
    have hnames := (names_iff hmirrors).mp hrow
    have hstands := (standsFor_iff hm hmirrors).mpr ((MemoryStore.standsFor_iff hm).mpr hnames)
    obtain ⟨hbyName, hbyId⟩ := hmirrors.get_of_names hm hnames
    have hthere : db.tables.load e i.value ≠ .ok none := by
      obtain ⟨row, hfind, -⟩ := hrow
      rw [Ne, Tables.load_eq_none_iff, hfind]
      exact nofun
    have hread (target : Ref e) : (ProviderStore.answer db (.get e target)).result =
        (db.tables.get e target).mapError fun err =>
          (RegistryError.ofStore err).inContext (Action.get e).label (refTarget target) :=
      congrArg Answer.result (db.answer_get target)
    refine Service.address_found chain a hstands ?_
    rw [ReadsAlike, hread, hread, hbyName, hbyId]
    cases hload : db.tables.load e i.value with
    | error err => exact ⟨.worded (.get e) _ _, nofun⟩
    | ok found =>
      exact ⟨.same _, fun hnone => hthere (hload.trans ((mapError_eq_ok_iff _).mp hnone))⟩
  missing chain e a name ha hnone := by
    obtain ⟨m, hm, hmirrors⟩ := hdb.mirrors
    have hplace : (m.shelf e).place? name = none :=
      MemoryStore.place?_eq_none_of_names fun k hnames => hnone k ((names_iff hmirrors).mpr hnames)
    refine Service.address_missing chain ha ?_ ?_
    · show (db.answer (.resolve e name)).result = .ok none
      rw [result_resolve hm hmirrors, hplace]
      rfl
    · show (db.answer (.get e (.name name))).result = .ok none
      rw [answer_get, hmirrors.get_of_none (by rw [Shelf.get?, hplace, Option.bind_none])]
      rfl

end Database

/-! ## The theorem -/

/-- **Names and identifiers address alike** in every store that calls can reach. -/
theorem Service.addressing (ε : Type) :
    (∀ (interceptors : List (Interceptor ε)) (calls : List Call), (∀ c ∈ calls, c.Admissible {}) →
      let reached := (Service.run ⟨({} : MemoryStore), interceptors⟩ calls).2
      AddressesAlike reached reached.Names) ∧
    (∀ openings : List (Opening ε), (∀ o ∈ openings, ∀ c ∈ o.calls, c.Admissible {}) →
      let reached := (({} : Database).serveAll openings).2
      AddressesAlike reached reached.Names) := by
  constructor
  · intro interceptors calls hcalls
    exact MemoryStore.addressesAlike
      (MemoryStore.upholds.run ⟨{}, interceptors⟩ hcalls MemoryStore.kept_empty).1
  · intro openings hopenings
    exact Database.addressesAlike (Database.kept_serveAll Database.kept_new hopenings).1

/-- A store in memory with the sample provider. -/
def MemoryStore.withAcme : MemoryStore :=
  (Service.run (⟨{}, []⟩ : Service MemoryStore Empty) createAcme).2

/-- The sample provider is created in a new file. -/
def openAcme : Opening Empty where
  settings := { path := "registry.db" }
  files := .emptyDirectory
  calls := createAcme

/-- A file with the sample provider. -/
def Database.openedAcme : Database := (({} : Database).serveAll [openAcme]).2

/-- The name and the identifier of the sample provider delete the same, in memory and in a database,
and a name that nothing has finds nothing. -/
theorem Service.addressing_createAcme :
    (∀ c ∈ createAcme, c.Admissible {}) ∧
      MemoryStore.withAcme.Names .identityProvider 1 "acme" ∧
      (Service.address (ε := Empty) ⟨MemoryStore.withAcme, []⟩ (.delete .identityProvider)
          (.name "acme")).store =
        (Service.address (ε := Empty) ⟨MemoryStore.withAcme, []⟩ (.delete .identityProvider)
          (.id Id.first)).store ∧
      (Service.address (ε := Empty) ⟨MemoryStore.withAcme, []⟩ .find (.name "zenith")).result =
        .ok none ∧
      Database.openedAcme.Names .identityProvider 1 "acme" ∧
      (Service.address (ε := Empty) ⟨Database.openedAcme, []⟩ (.delete .identityProvider)
          (.name "acme")).store =
        (Service.address (ε := Empty) ⟨Database.openedAcme, []⟩ (.delete .identityProvider)
          (.id Id.first)).store := by
  have hacme : ∀ c ∈ createAcme, c.Admissible {} := fun c hc =>
    admissible_renameTwice c (by simp [hc])
  have hmemory : AddressesAlike MemoryStore.withAcme MemoryStore.withAcme.Names :=
    (Service.addressing Empty).1 [] createAcme hacme
  have hrows : AddressesAlike Database.openedAcme Database.openedAcme.Names := by
    refine (Service.addressing Empty).2 [openAcme] fun o ho => ?_
    obtain rfl := List.mem_singleton.mp ho
    exact hacme
  have hinMemory : MemoryStore.withAcme.Names .identityProvider 1 "acme" :=
    Option.map_eq_some_iff.mp (by decide +kernel)
  have hinRows : Database.openedAcme.Names .identityProvider 1 "acme" :=
    Option.map_eq_some_iff.mp (by decide +kernel)
  have hplace : (MemoryStore.withAcme.shelf .identityProvider).place? "zenith" = none := by
    decide +kernel
  have hnobody (k : Nat) : ¬MemoryStore.withAcme.Names .identityProvider k "zenith" :=
    fun ⟨a, hfind, hname⟩ => Shelf.place?_eq_none_iff.mp hplace k a hfind hname
  exact ⟨hacme, hinMemory, (hmemory.found [] (.delete _) "acme" Id.first hinMemory).2,
    (hmemory.missing [] .find "zenith" trivial hnobody).1, hinRows,
    (hrows.found [] (.delete _) "acme" Id.first hinRows).2⟩

end FederationRegistry
