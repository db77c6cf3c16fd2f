import FederationRegistry.Proofs.Relational.Lookup
import FederationRegistry.Proofs.Relational.Resemblance
import Mathlib.Data.List.Forall2

/-!
# Listings and look-ups describe one set

A store lists names, lists the names of what is enabled, resolves names, and gets aggregates by name
and by identifier.

**Theorem (`listings_coherent`).** In every state that requests lead to from an empty store, these
answers describe one list of aggregates, each under its identifier (`ProviderStore.Presents`): the
identifiers ascend, the names differ, and every answer can be read off the list. So it is in memory
always, and in a database whenever aggregates can be got by their identifiers at all.

What stands on a shelf in order is such a list. A store *reflects* the shelf when its answers are
those of the shelf up to resemblance (`ProviderStore.Reflects`), and no answer in question tells
apart aggregates that resemble each other.
-/

namespace FederationRegistry

/-! ## Lists of partners -/

section Partners

variable {α β γ : Type} {R : α → β → Prop} {l : List α} {l' : List β}

theorem exists_forall₂ (h : ∀ x ∈ l, ∃ y, R x y) : ∃ l', List.Forall₂ R l l' := by
  induction l with
  | nil => exact ⟨[], .nil⟩
  | cons x l ih =>
    obtain ⟨y, hy⟩ := h x (by simp)
    obtain ⟨l', hl'⟩ := ih fun x hx => h x (by simp [hx])
    exact ⟨y :: l', .cons hy hl'⟩

theorem exists_of_mem_forall₂ (h : List.Forall₂ R l l') {x : α} (hx : x ∈ l) : ∃ y ∈ l', R x y := by
  induction h with
  | nil => cases hx
  | cons hxy _ ih =>
    rcases List.mem_cons.mp hx with rfl | hx
    · exact ⟨_, List.mem_cons_self, hxy⟩
    · obtain ⟨y, hy, hr⟩ := ih hx
      exact ⟨y, List.mem_cons_of_mem _ hy, hr⟩

theorem map_filter_of_forall₂ (h : List.Forall₂ R l l') {p : α → Bool} {q : β → Bool} {f : α → γ}
    {g : β → γ} (hpq : ∀ x y, R x y → p x = q y) (hfg : ∀ x y, R x y → f x = g y) :
    (l.filter p).map f = (l'.filter q).map g := by
  have hfiltered : List.Forall₂ R (l.filter p) (l'.filter q) :=
    List.rel_filter (fun _ _ hxy => by simp [hpq _ _ hxy]) h
  have hmapped : List.Forall₂ (· = ·) ((l.filter p).map f) ((l'.filter q).map g) :=
    List.rel_map (fun _ _ hxy => hfg _ _ hxy) hfiltered
  rwa [List.forall₂_eq_eq_eq] at hmapped

theorem map_of_forall₂ (h : List.Forall₂ R l l') {f : α → γ} {g : β → γ}
    (hfg : ∀ x y, R x y → f x = g y) : l.map f = l'.map g := by
  have hmapped : List.Forall₂ (· = ·) (l.map f) (l'.map g) :=
    List.rel_map (fun _ _ hxy => hfg _ _ hxy) h
  rwa [List.forall₂_eq_eq_eq] at hmapped

end Partners

/-! ## What a store says about an entity -/

namespace ProviderStore

variable {σ : Type} [ProviderStore σ]

/-- The names that the store lists. -/
def listed (s : σ) (e : Entity) (enabledOnly : Bool) : Except RegistryError (List String) :=
  (answer s (.list e enabledOnly)).result

/-- The identifier that the store has for a name. -/
def resolved (s : σ) (e : Entity) (name : String) : Except RegistryError (Option (Id e)) :=
  (answer s (.resolve e name)).result

/-- The aggregate that the store has for a reference. -/
def found (s : σ) {e : Entity} (target : Ref e) : Except RegistryError (Option e.Aggregate) :=
  (answer s (.get e target)).result

/-- The answers of the store about an entity are those about the aggregates of a list. -/
structure Presents (s : σ) (e : Entity) (stored : List (Id e × e.Aggregate)) : Prop where
  ascending : stored.Pairwise fun x y => x.1.value < y.1.value
  distinct : (stored.map fun x => e.nameOf x.2).Nodup
  mem_iff : ∀ i a, (i, a) ∈ stored ↔ found s (.id i) = .ok (some a)
  listed : listed s e false = .ok (stored.map fun x => e.nameOf x.2)
  enabled : ProviderStore.listed s e true =
    .ok ((stored.filter fun x => e.isEnabled x.2).map fun x => e.nameOf x.2)
  resolved_iff : ∀ n i, resolved s e n = .ok (some i) ↔
    ∃ a, found s (.id i) = .ok (some a) ∧ e.nameOf a = n
  named_iff : ∀ n i, (∃ a, found s (.name n) = .ok (some a) ∧ e.idOf a = some i) ↔
    ∃ a, found s (.id i) = .ok (some a) ∧ e.nameOf a = n
  listed_iff : ∀ n, (n ∈ stored.map fun x => e.nameOf x.2) ↔
    ∃ i, resolved s e n = .ok (some i)
  /-- Looking a name up does not fail. -/
  answered : ∀ n, (∃ i, resolved s e n = .ok i) ∧ ∃ a, found s (.name (e := e) n) = .ok a

/-- Every identifier of the entity is answered with an aggregate or with nothing. -/
def ReadsBack (s : σ) (e : Entity) : Prop :=
  ∀ i : Id e, ∃ a, found s (.id i) = .ok a

/-- The answers about an entity describe one list of aggregates. -/
def Coherent (s : σ) (e : Entity) : Prop := ∃ stored, Presents s e stored

/-! ## Stores that reflect a shelf -/

variable {s : σ} {e : Entity} {shelf : Shelf e}

/-- The answers are those of the shelf, except that aggregates may be others that resemble those on
the shelf. -/
structure Reflects (s : σ) (shelf : Shelf e) : Prop where
  listed : ∀ enabledOnly, listed s e enabledOnly = .ok (shelf.names enabledOnly)
  resolved : ∀ n, resolved s e n = .ok ((shelf.place? n).bind Id.ofNat?)
  found : ∀ target, ∃ a, found s target = .ok a ∧ Option.Rel e.Resembles (shelf.get? target) a

/-- A reference finds an aggregate of a property that resembling ones share exactly when there is
one on the shelf. -/
theorem Reflects.found_iff (h : Reflects s shelf) {P : e.Aggregate → Prop}
    (hP : ∀ a b, e.Resembles a b → (P b ↔ P a)) (target : Ref e) :
    (∃ b, ProviderStore.found s target = .ok (some b) ∧ P b) ↔
      ∃ a, shelf.get? target = some a ∧ P a := by
  obtain ⟨found, hfound, hrel⟩ := h.found target
  rw [hfound]
  generalize shelf.get? target = standing at hrel
  cases hrel with
  | none => simp
  | some hresembles => simp [hP _ _ hresembles]

theorem place?_bind_ofNat?_iff (hs : shelf.Ordered) {n : String} {i : Id e} :
    (shelf.place? n).bind Id.ofNat? = some i ↔
      ∃ a, shelf.get? (.id i) = some a ∧ e.nameOf a = n := by
  rw [Option.bind_eq_some_iff]
  simp only [Shelf.place?_eq_some_iff hs, Id.ofNat?_eq_some_iff, Shelf.get?]
  constructor
  · rintro ⟨_, ha, rfl⟩
    exact ha
  · rintro ha
    exact ⟨i.value, ha, rfl⟩

theorem get?_name_iff (hs : shelf.Ordered) {n : String} {i : Id e} :
    (∃ a, shelf.get? (.name n) = some a ∧ e.idOf a = some i) ↔
      ∃ a, shelf.get? (.id i) = some a ∧ e.nameOf a = n := by
  simp only [Shelf.get?, Option.bind_eq_some_iff, Shelf.place?_eq_some_iff hs]
  constructor
  · rintro ⟨a, ⟨k, ⟨b, hb, hname⟩, ha⟩, hid⟩
    obtain rfl : b = a := Option.some.inj (hb.symm.trans ha)
    obtain ⟨id, hid', rfl⟩ := hs.stamped k b ha
    obtain rfl : id = i := Option.some.inj (hid'.symm.trans hid)
    exact ⟨b, ha, hname⟩
  · rintro ⟨a, ha, hname⟩
    obtain ⟨id, hid, hvalue⟩ := hs.stamped i.value a ha
    obtain rfl : id = i := Id.ext hvalue
    exact ⟨a, ⟨id.value, ⟨a, ha, hname⟩, ha⟩, hid⟩

/-- Stores with the same results reflect the same shelves. -/
theorem Reflects.congr {τ : Type} [ProviderStore τ] {s' : τ} (h : Reflects s shelf)
    (hsame : ∀ r, (answer s' r).result = (answer s r).result) : Reflects s' shelf where
  listed enabledOnly := (hsame _).trans (h.listed enabledOnly)
  resolved n := (hsame _).trans (h.resolved n)
  found target := (h.found target).imp fun _ ha => ⟨(hsame _).trans ha.1, ha.2⟩

/-- An aggregate of the shelf and the one that the store has for its identifier. -/
structure Shows (s : σ) (e : Entity) (entry : Nat × e.Aggregate) (x : Id e × e.Aggregate) :
    Prop where
  key : x.1.value = entry.1
  resembles : e.Resembles entry.2 x.2
  found : ProviderStore.found s (.id x.1) = .ok (some x.2)

variable {stored : List (Id e × e.Aggregate)}

theorem Reflects.exists_shown (h : Reflects s shelf) (hs : shelf.Ordered) :
    ∃ stored, List.Forall₂ (Shows s e) shelf.items.entries stored := by
  refine exists_forall₂ fun entry hentry => ?_
  have hfind := Dict.mem_entries_iff.mp hentry
  obtain ⟨id, -, hid⟩ := hs.stamped entry.1 entry.2 hfind
  obtain ⟨found, hfound, hrel⟩ := h.found (.id id)
  rw [Shelf.get?, hid, hfind] at hrel
  cases hrel with
  | some hresembles => exact ⟨(id, _), hid, hresembles, hfound⟩

theorem names_of_shown (hshown : List.Forall₂ (Shows s e) shelf.items.entries stored)
    (enabledOnly : Bool) : shelf.names enabledOnly =
      (stored.filter fun x => !enabledOnly || e.isEnabled x.2).map fun x => e.nameOf x.2 := by
  rw [Shelf.names, Dict.values, List.filter_map, List.map_map]
  exact map_filter_of_forall₂ hshown (fun _ _ hxy => by simp [hxy.resembles.enabled])
    fun _ _ hxy => hxy.resembles.name.symm

theorem ascending_of_shown (hshown : List.Forall₂ (Shows s e) shelf.items.entries stored) :
    stored.Pairwise fun x y => x.1.value < y.1.value := by
  have hkeys : shelf.items.entries.map (·.1) = stored.map fun x => x.1.value :=
    map_of_forall₂ hshown fun _ _ hxy => hxy.key.symm
  have hsorted : (shelf.items.entries.map (·.1)).Pairwise (· < ·) := by
    refine List.pairwise_map.mpr (shelf.items.increasing.imp fun hab => ?_)
    simpa [Key.before] using hab
  rw [hkeys] at hsorted
  exact List.pairwise_map.mp hsorted

theorem distinct_of_shown (hs : shelf.Ordered)
    (hshown : List.Forall₂ (Shows s e) shelf.items.entries stored) :
    (stored.map fun x => e.nameOf x.2).Nodup := by
  have hnames : (shelf.items.entries.map fun entry => e.nameOf entry.2) =
      stored.map fun x => e.nameOf x.2 :=
    map_of_forall₂ hshown fun _ _ hxy => hxy.resembles.name.symm
  rw [← hnames, List.Nodup, List.pairwise_map]
  refine shelf.items.increasing.imp_of_mem fun ha hb hab hname => ?_
  have hsame := hs.distinct _ _ _ _ (Dict.mem_entries_iff.mp ha) (Dict.mem_entries_iff.mp hb) hname
  exact Key.ne_of_before hab hsame

theorem Reflects.mem_shown_iff (h : Reflects s shelf)
    (hshown : List.Forall₂ (Shows s e) shelf.items.entries stored) {i : Id e} {a : e.Aggregate} :
    (i, a) ∈ stored ↔ ProviderStore.found s (.id i) = .ok (some a) := by
  constructor
  · intro hx
    obtain ⟨entry, -, hxy⟩ := exists_of_mem_forall₂ hshown.flip hx
    exact hxy.found
  · intro hfound
    obtain ⟨b, hb, -⟩ := (h.found_iff (P := fun _ => True) (fun _ _ _ => Iff.rfl) (.id i)).mp
      ⟨a, hfound, trivial⟩
    obtain ⟨⟨i', a'⟩, hx, hxy⟩ := exists_of_mem_forall₂ hshown (Dict.mem_entries_iff.mpr hb)
    obtain rfl : i' = i := Id.ext hxy.key
    obtain rfl : a' = a := Option.some.inj (Except.ok.inj (hxy.found.symm.trans hfound))
    exact hx

theorem Reflects.resolved_iff (h : Reflects s shelf) (hs : shelf.Ordered) (n : String)
    (i : Id e) : ProviderStore.resolved s e n = .ok (some i) ↔
      ∃ a, ProviderStore.found s (.id i) = .ok (some a) ∧ e.nameOf a = n := by
  rw [h.resolved, Except.ok.injEq, place?_bind_ofNat?_iff hs]
  exact (h.found_iff (fun _ _ hab => by rw [hab.name]) _).symm

theorem Reflects.named_iff (h : Reflects s shelf) (hs : shelf.Ordered) (n : String) (i : Id e) :
    (∃ a, ProviderStore.found s (.name n) = .ok (some a) ∧ e.idOf a = some i) ↔
      ∃ a, ProviderStore.found s (.id i) = .ok (some a) ∧ e.nameOf a = n := by
  rw [h.found_iff (fun _ _ hab => by rw [hab.id]), get?_name_iff hs]
  exact (h.found_iff (fun _ _ hab => by rw [hab.name]) _).symm

/-- **A store that reflects a shelf in order is coherent.** -/
theorem Reflects.coherent (h : Reflects s shelf) (hs : shelf.Ordered) : Coherent s e := by
  obtain ⟨stored, hshown⟩ := h.exists_shown hs
  exact ⟨stored,
    { ascending := ascending_of_shown hshown
      distinct := distinct_of_shown hs hshown
      mem_iff := fun _ _ => h.mem_shown_iff hshown
      listed := by rw [h.listed, names_of_shown hshown]; simp
      enabled := by rw [h.listed, names_of_shown hshown]; simp
      resolved_iff := h.resolved_iff hs
      named_iff := h.named_iff hs
      listed_iff := fun n => by
        simp only [h.resolved_iff hs, List.mem_map, Prod.exists, h.mem_shown_iff hshown]
      answered := fun n =>
        ⟨⟨_, h.resolved n⟩, (h.found (.name n)).imp fun _ hfound => hfound.1⟩ }⟩

end ProviderStore

open ProviderStore

/-! ## Stores -/

theorem MemoryStore.reflects (m : MemoryStore) (e : Entity) : Reflects m (m.shelf e) where
  listed _ := rfl
  resolved _ := rfl
  found target := by
    refine ⟨(m.shelf e).get? target, rfl, ?_⟩
    cases (m.shelf e).get? target with
    | none => exact .none
    | some a => exact .some (.refl a)

/-- What is found by its name is found by its identifier. -/
theorem Tables.Mirrors.get_name {d : Demand} {t : Tables} {m : MemoryStore} (hm : m.Kept d)
    (h : t.Mirrors m) {e : Entity} {n : String} {a : e.Aggregate}
    (hget : (m.shelf e).get? (.name n) = some a) :
    ∃ id : Id e, t.get e (.name n) = t.get e (.id id) := by
  obtain ⟨k, hfind, hload⟩ := h.get_of_some hm hget
  obtain ⟨id, -, rfl⟩ := (hm e).stamped k a hfind
  refine ⟨id, hload.trans ?_⟩
  simp only [get, (h.lists e).rowNumber?_of_find? (hm e).toOrdered hfind]

namespace Database

variable {d : Demand} {db : Database} {m : MemoryStore} {e : Entity}

theorem found_eq_ok_iff {target : Ref e} {a : Option e.Aggregate} :
    found db target = .ok a ↔ db.tables.get e target = .ok a := by
  show (db.answer (.get e target)).result = .ok a ↔ _
  rw [answer_get]
  exact mapError_eq_ok_iff _

theorem reflects (hm : m.Kept d) (h : db.tables.Mirrors m) (hreads : ReadsBack db e) :
    Reflects db (m.shelf e) where
  listed enabledOnly := by
    show (db.answer (.list e enabledOnly)).result = _
    rw [answer_list, (h.lists e).names_eq]
    rfl
  resolved n := result_resolve hm h e n
  found target := by
    have hanswered : ∃ a, db.tables.get e target = .ok a := by
      cases target with
      | id id => exact (hreads id).imp fun _ => found_eq_ok_iff.mp
      | name n =>
        cases hget : (m.shelf e).get? (.name n) with
        | none => exact ⟨none, h.get_of_none hget⟩
        | some a =>
          obtain ⟨id, hid⟩ := h.get_name hm hget
          rw [hid]
          exact (hreads id).imp fun _ => found_eq_ok_iff.mp
    obtain ⟨a, ha⟩ := hanswered
    rcases h.get_cases hm target with ⟨err, herr⟩ | ⟨found, hfound, hrel⟩
    · rw [ha] at herr
      cases herr
    · exact ⟨found, found_eq_ok_iff.mpr hfound, hrel⟩

/-- A database in which every aggregate can be got reflects a shelf in order. -/
theorem exists_reflects (hdb : db.Kept d) (hreads : ReadsBack db e) :
    ∃ shelf : Shelf e, shelf.Ordered ∧ Reflects db shelf := by
  obtain ⟨m, hm, hmirrors⟩ := hdb.mirrors
  exact ⟨m.shelf e, (hm e).toOrdered, reflects hm hmirrors hreads⟩

theorem readsBack_of_kept (hdb : db.Kept .readBack) (e : Entity) : ReadsBack db e := by
  obtain ⟨m, hm, hmirrors⟩ := hdb.mirrors
  exact fun id => ⟨_, found_eq_ok_iff.mpr (hmirrors.get_eq Demand.readable_readBack hm (.id id))⟩

end Database

namespace OpenStore

variable {s : OpenStore} {e : Entity}

theorem readsBack_iff (h : s.isShared = true) : ReadsBack s e ↔ ReadsBack s.database e := by
  simp only [ReadsBack, found, result_of_isShared h]

end OpenStore

/-- **Listings and look-ups are coherent**, in every state that requests lead to from an empty store
in memory, or from a new database if aggregates can be got by their identifiers. They can if all
values in them are read back. -/
theorem listings_coherent (rs : List Request) (hrs : ∀ r ∈ rs, r.Admissible {}) :
    (∀ e, Coherent (after ({} : MemoryStore) rs) e) ∧
    (∀ e, ReadsBack (after Database.fresh rs) e → Coherent (after Database.fresh rs) e) ∧
    (∀ (settings : StoreSettings) (files : Files) (store : OpenStore),
      settings.connect files {} = .ok store → store.isShared = true →
        ∀ e, ReadsBack (after store rs) e → Coherent (after store rs) e) ∧
    ((∀ r ∈ rs, r.Admissible .readBack) →
      (∀ e, ReadsBack (after Database.fresh rs) e) ∧
      ∀ (settings : StoreSettings) (files : Files) (store : OpenStore),
        settings.connect files {} = .ok store → store.isShared = true →
          ∀ e, ReadsBack (after store rs) e) := by
  refine ⟨fun e => ?_, fun e hreads => ?_, fun settings files store hopen hshared e hreads => ?_,
    fun hreadBack => ⟨Database.readsBack_of_kept (Database.kept_after_fresh hreadBack),
      fun settings files store hopen hshared e => ?_⟩⟩
  · have hkept := MemoryStore.kept_after MemoryStore.kept_empty hrs
    exact (MemoryStore.reflects _ e).coherent (hkept e).toOrdered
  · -- the shelf is one that the rows resemble, not the one they were written from
    obtain ⟨shelf, hordered, hreflects⟩ :=
      Database.exists_reflects (Database.kept_after_fresh hrs) hreads
    exact hreflects.coherent hordered
  · obtain ⟨hshared, hdatabase⟩ := OpenStore.after_connect hopen hshared rs
    -- an open store reads what its database does
    rw [OpenStore.readsBack_iff hshared, hdatabase] at hreads
    obtain ⟨shelf, hordered, hreflects⟩ :=
      Database.exists_reflects (Database.kept_after_fresh hrs) hreads
    rw [← hdatabase] at hreflects
    exact (hreflects.congr (OpenStore.result_of_isShared hshared)).coherent hordered
  · obtain ⟨hshared, hdatabase⟩ := OpenStore.after_connect hopen hshared rs
    rw [OpenStore.readsBack_iff hshared, hdatabase]
    exact Database.readsBack_of_kept (Database.kept_after_fresh hreadBack) e

/-- A provider is renamed, another switched off, and a third takes the name that became free. -/
def renamingRequests : List Request :=
  [.create .identityProvider .acme,
    .create .identityProvider { metadata := { name := "zenith" }, variant := .federated {} },
    .create .serviceProvider { name := "portal" },
    .updateSection (.nth 0) (.metadata { name := "zulu" }),
    .switch .identityProvider (.nth 1) false,
    .create .identityProvider .acme]

theorem admissible_renamingRequests {d : Demand}
    (hproperty : ∀ v, PropertyValue.Plain v → d.property v)
    (hsections : ∀ s, Sections.Plain s → d.sections s) :
    ∀ r ∈ renamingRequests, r.Admissible d := by
  have hacme : Entity.identityProvider.Offered d IdentityProvider.acme :=
    ⟨IdentityProvider.built_acme, IdentityProvider.plain_acme.mono hproperty⟩
  have hzenith : Entity.identityProvider.Offered d
      ({ metadata := { name := "zenith" }, variant := .federated {} } : IdentityProvider) :=
    ⟨.build (.federated "zenith") (by decide +kernel), PropertyMap.hasValues_empty, nofun,
      ConnectorMap.hasValues_empty⟩
  have hportal : Entity.serviceProvider.Offered d ({ name := "portal" } : ServiceProvider) :=
    ⟨.build (d := { name := "portal" }) (by decide +kernel), hsections _ Sections.plain_empty⟩
  have hzulu : Metadata.Built { name := "zulu" } := by
    unfold Metadata.Built
    decide +kernel
  simp only [renamingRequests, List.forall_mem_cons]
  exact ⟨hacme, hzenith, hportal, ⟨hzulu, trivial⟩, trivial, hacme, List.forall_mem_nil _⟩

/-- The names come in the order of the identifiers, and the free name stands for the third
provider. -/
theorem listings_coherent_renamingRequests :
    (∀ r ∈ renamingRequests, r.Admissible .readBack) ∧
      Coherent (after ({} : MemoryStore) renamingRequests) .identityProvider ∧
      Coherent (after Database.fresh renamingRequests) .identityProvider ∧
      listed (after Database.fresh renamingRequests) .identityProvider false =
        .ok ["zulu", "zenith", "acme"] ∧
      listed (after Database.fresh renamingRequests) .identityProvider true =
        .ok ["zulu", "acme"] ∧
      resolved (after Database.fresh renamingRequests) .identityProvider "acme" =
        .ok (some (.nth 2)) := by
  have hreadBack : ∀ r ∈ renamingRequests, r.Admissible .readBack :=
    admissible_renamingRequests (fun _ h => h.readable) fun _ h => h.readable
  obtain ⟨hmemory, hdatabase, -, hreads⟩ := listings_coherent renamingRequests
    (admissible_renamingRequests (fun _ _ => trivial) fun _ _ => trivial)
  exact ⟨hreadBack, hmemory _, hdatabase _ ((hreads hreadBack).1 _), by decide +kernel,
    by decide +kernel, by decide +kernel⟩

end FederationRegistry
