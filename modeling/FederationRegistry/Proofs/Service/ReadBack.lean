import FederationRegistry.Proofs.Relational.Legible
import FederationRegistry.Proofs.Service.Reopening
import FederationRegistry.Proofs.Transcript

/-!
# What can be read after calls

**Theorem (`Service.lookups_after_run`).** Let calls be served on a new database, with values that
have no doubles but may nest as deep as they like. A look-up that follows finds the aggregate that
was stored, as on a store in memory, if the aggregate is shallow. If it is not, the look-up fails
on the data: the writers took what the readers do not. Values that were plain leave nothing that
cannot be read.

A database in memory whose readers do not see it is the other case in which a look-up fails on the
data, whatever is stored.

The rows mirror a store in memory after every call (`Database.Kept`), so that a look-up is a
question about that store: which aggregate is meant, and whether it is shallow
(`MemoryStore.Legible`). A single deep value that is merged makes its provider unreadable
(`Service.failsOnData_of_merged`).
-/

namespace FederationRegistry

open PropertyValue (maxDepth)

/-- The result is a failure to reach data. -/
def FailsOnData {α : Type} : Except RegistryError α → Prop
  | .ok _ => False
  | .error err => err.kind = .dataAccess

instance {α : Type} : DecidablePred (FailsOnData (α := α))
  | .ok _ => inferInstanceAs (Decidable False)
  | .error err => inferInstanceAs (Decidable (err.kind = .dataAccess))

/-! ## Look-ups -/

/-- The request that a call makes which looks for an aggregate. -/
def Call.lookup? : Call → Option Request
  | .operation (.get e target) => some (.get e target)
  | .operation (.findByProperty scope key value) => some (.findByProperty scope key value)
  | .find target => some (.get .identityProvider target)
  | _ => none

theorem failsOnData_orNotFound {e : Entity} (target : Ref e)
    (result : Except RegistryError (Option e.Aggregate)) :
    FailsOnData (orNotFound target result) ↔ FailsOnData result := by
  rcases result with err | _ | a
  · exact Iff.rfl
  · exact ⟨nofun, nofun⟩
  · exact Iff.rfl

theorem failsOnData_foundOrNone {α : Type} (result : Except RegistryError α) :
    FailsOnData (foundOrNone result) ↔ FailsOnData result := by
  rcases result with err | a
  · cases err <;> simp [foundOrNone, FailsOnData, RegistryError.kind]
  · exact Iff.rfl

/-- A look-up makes of the answer of the store what does not depend on the store, and fails on the
data where the store does. -/
theorem Call.lookup_cases (ε : Type) {c : Call} {r : Request} (h : c.lookup? = some r) :
    r.isWrite = false ∧ ∃ conclude : Except RegistryError r.Reply → Except RegistryError c.Reply,
      (∀ (σ : Type) [ProviderStore σ] (s : Service σ ε),
        (s.call c).result = conclude (ProviderStore.answer s.store r).result) ∧
      ∀ result, FailsOnData (conclude result) ↔ FailsOnData result := by
  cases c with
  | operation op =>
    cases op with
    -- a get says that nobody was found as an error, a find as no result
    | get e target =>
      obtain rfl := Option.some.inj h
      exact ⟨rfl, orNotFound target,
        fun σ _ s => congrArg Answer.result (Operation.run_get target s.store),
        failsOnData_orNotFound target⟩
    | findByProperty scope key value =>
      obtain rfl := Option.some.inj h
      exact ⟨rfl, id, fun σ _ s => congrArg Answer.result (Plan.run_request _ s.store),
        fun _ => Iff.rfl⟩
    | list | create | update | updateSection | delete | switch => cases h
  | find target =>
    obtain rfl := Option.some.inj h
    exact ⟨rfl, foundOrNone ∘ orNotFound target,
      fun σ _ s =>
        congrArg foundOrNone (congrArg Answer.result (Operation.run_get target s.store)),
      fun result => (failsOnData_foundOrNone _).trans (failsOnData_orNotFound target result)⟩
  | readiness => cases h

/-! ## Reads of rows that mirror a store -/

/-- What a request looks for is shallow, or not there. -/
def MemoryStore.Legible (m : MemoryStore) : Request → Prop
  | .get e target => ∀ a, (m.shelf e).get? target = some a → e.Shallow a
  | .findByProperty scope key value =>
    ∀ p, (m.findByProperty scope key value).result = .ok (some p) →
      Entity.identityProvider.Shallow p
  | _ => True

/-- In memory no read fails. -/
theorem MemoryStore.not_failsOnData_of_read (m : MemoryStore) {r : Request}
    (hr : r.isWrite = false) : ¬FailsOnData (m.answer r).result := by
  cases r with
  | list | get | resolve | findByProperty | readiness => exact id
  | create | update | updateSection | delete | switch => cases hr

namespace Database

variable {d : Demand} {db : Database} {m : MemoryStore}

/-- A read that fails does so on the data. -/
theorem failsOnData_readout {α : Type} {value : Except StoreError α}
    (h : ∃ err, value = .error err) (action : Action) (target : String)
    (warnings : List Warning) :
    FailsOnData (db.readout action target value warnings).result := by
  obtain ⟨err, rfl⟩ := h
  rfl

/-- **What is legible is read as from memory.** -/
theorem result_of_legible (hd : d.DoubleFree) (hm : m.Kept d) (h : db.tables.Mirrors m)
    {r : Request} (hr : r.isWrite = false) (hlegible : m.Legible r) :
    (db.answer r).result = (m.answer r).result := by
  cases r with
  | list e enabledOnly =>
    rw [answer_list, (h.lists e).names_eq]
    rfl
  | get e target =>
    have hget : db.tables.get e target = .ok ((m.shelf e).get? target) := by
      cases hfound : (m.shelf e).get? target with
      | none => exact h.get_of_none hfound
      | some a =>
        obtain ⟨k, hfind, hload⟩ := h.get_of_some hm hfound
        rw [hload, h.load_of_shallow hd hm hfind (hlegible a hfound)]
    rw [answer_get, hget]
    rfl
  | resolve e name => exact result_resolve hm h e name
  | findByProperty scope key value =>
    obtain ⟨found, loaded, warnings, hmemory, hrows, hcases⟩ :=
      findByProperty_cases h.holdProviders
        (MemoryStore.comparable_of_doubleFree hd.property hm scope key value)
    -- only the first match is loaded, so only its values have to be legible
    have hloaded : loaded = .ok found := by
      obtain ⟨rfl, rfl⟩ | ⟨k, p, rfl, hfind, rfl⟩ := hcases
      · rfl
      · exact h.load_of_shallow hd hm (e := .identityProvider) hfind
          (hlegible p (by rw [hmemory]))
    show _ = (m.findByProperty scope key value).result
    rw [hmemory, hrows, hloaded]
    rfl
  | readiness => exact congrArg Answer.result (answer_readiness db)
  | create | update | updateSection | delete | switch => cases hr

/-- **What is not legible fails on the data.** -/
theorem failsOnData_of_not_legible (hd : d.DoubleFree) (hm : m.Kept d) (h : db.tables.Mirrors m)
    {r : Request} (hdeep : ¬m.Legible r) : FailsOnData (db.answer r).result := by
  cases r with
  | get e target =>
    simp only [MemoryStore.Legible, not_forall] at hdeep
    obtain ⟨a, hfound, ha⟩ := hdeep
    obtain ⟨k, hfind, hload⟩ := h.get_of_some hm hfound
    obtain ⟨err, herr⟩ := h.load_of_deep hd hm hfind ha
    rw [answer_get]
    exact failsOnData_readout ⟨err, hload.trans herr⟩ _ _ _
  | findByProperty scope key value =>
    simp only [MemoryStore.Legible, not_forall] at hdeep
    obtain ⟨p, hfound, hp⟩ := hdeep
    obtain ⟨found, loaded, warnings, hmemory, hrows, hcases⟩ :=
      findByProperty_cases h.holdProviders
        (MemoryStore.comparable_of_doubleFree hd.property hm scope key value)
    rw [hmemory] at hfound
    obtain rfl := Except.ok.inj hfound
    obtain ⟨hnone, -⟩ | ⟨k, q, hsome, hfind, rfl⟩ := hcases
    · cases hnone
    · obtain rfl := Option.some.inj hsome
      rw [hrows]
      exact failsOnData_readout (h.load_of_deep hd hm (e := .identityProvider) hfind hp) _ _ _
  -- all other requests read no values
  | list | create | resolve | update | updateSection | delete | switch | readiness =>
    exact absurd trivial hdeep

end Database

/-- Among plain values everything is legible. -/
theorem MemoryStore.legible_of_plain {m : MemoryStore} (hm : m.Kept .plain) (r : Request) :
    m.Legible r := by
  have hshallow {e : Entity} {k : Nat} {a : e.Aggregate}
      (hfind : (m.shelf e).items.find? k = some a) : e.Shallow a := by
    have hmeets := (hm e).meets k a hfind
    cases e with
    | identityProvider => exact hmeets.2.mono fun v hv => hv.shallow
    | serviceProvider => exact hmeets.2.shallow
  -- every provider a look-up can show is one of the shelf
  cases r with
  | get e target =>
    intro a hget
    cases target with
    | id id => exact hshallow hget
    | name name =>
      obtain ⟨k, -, hfind⟩ := Option.bind_eq_some_iff.mp hget
      exact hshallow hfind
  | findByProperty scope key value =>
    intro p hfound
    have hmem := List.mem_of_mem_head? (Option.mem_def.mpr (Except.ok.inj hfound))
    obtain ⟨k, hfind⟩ := Dict.mem_values_iff.mp ((List.mem_filter.mp hmem).1)
    exact hshallow (e := .identityProvider) hfind
  | list | create | resolve | update | updateSection | delete | switch | readiness => trivial

/-! ## Open stores -/

namespace OpenStore

variable {d : Demand} {s : OpenStore}

/-- The readers see the tables that a read looks at, if it looks at any. -/
def Reaches (s : OpenStore) (r : Request) : Prop := s.isShared = true ∨ r.look? = none

theorem answer_of_reaches {r : Request} (h : s.Reaches r) :
    s.answer r = (s.database.answer r).mapStore fun database => { s with database } := by
  rcases h with hshared | hlook
  · exact answer_of_isShared hshared r
  · simp only [answer, hlook, ite_self]

theorem failsOnData_of_not_reaches {r : Request} (h : ¬s.Reaches r) :
    FailsOnData (s.answer r).result := by
  simp only [Reaches, not_or, Bool.not_eq_true] at h
  obtain ⟨l, hl⟩ := Option.ne_none_iff_exists'.mp h.2
  simp only [answer, h.1, hl]
  rfl

theorem isShared_answer (s : OpenStore) (r : Request) :
    (s.answer r).store.isShared = s.isShared := by
  unfold answer
  split <;> rfl

/-- Requests keep the database and who sees it. -/
theorem upholds_isShared (b : Bool) :
    Upholds d (fun s : OpenStore => s.database.Kept d ∧ s.isShared = b)
      fun s e => s.database.last e where
  keeps hs hr := ⟨upholds.keeps hs.1 hr, (isShared_answer _ _).trans hs.2⟩
  ascends hs hr := upholds.ascends hs.1 hr

/-- A read fails on the data exactly when the readers do not see the rows, or what it looks for
nests too deep. -/
theorem failsOnData_iff (hd : d.DoubleFree) {m : MemoryStore} (hm : m.Kept d)
    (h : s.database.tables.Mirrors m) {r : Request} (hr : r.isWrite = false) :
    FailsOnData (s.answer r).result ↔ ¬(s.Reaches r ∧ m.Legible r) := by
  by_cases hreaches : s.Reaches r
  · rw [answer_of_reaches hreaches]
    by_cases hlegible : m.Legible r
    · have hresult := Database.result_of_legible hd hm h hr hlegible
      show FailsOnData (s.database.answer r).result ↔ _
      rw [hresult]
      exact iff_of_false (m.not_failsOnData_of_read hr) (not_not_intro ⟨hreaches, hlegible⟩)
    · exact iff_of_true (Database.failsOnData_of_not_legible hd hm h hlegible)
        fun both => hlegible both.2
  · exact iff_of_true (failsOnData_of_not_reaches hreaches) fun both => hreaches both.1

end OpenStore

/-! ## Runs -/

/-- **Look-ups after calls.** What was stored is found as in memory, unless it nests too deep for a
reader. -/
theorem Service.lookups_after_run {ε : Type} (settings : StoreSettings) (files : Files)
    (store : OpenStore) (hopen : settings.connect files {} = .ok store)
    (interceptors : List (Interceptor ε)) (calls : List Call)
    (hcalls : ∀ c ∈ calls, c.Admissible .doubleFree) :
    let after := (Service.run ⟨store, interceptors⟩ calls).2
    (∃ m : MemoryStore, m.Kept .doubleFree ∧ after.database.tables.Mirrors m ∧
      ∀ c r, c.lookup? = some r →
        (FailsOnData (Service.call ⟨after, interceptors⟩ c).result ↔
          ¬((store.isShared = true ∨ r.look? = none) ∧ m.Legible r)) ∧
        (store.isShared = true → m.Legible r →
          (Service.call ⟨after, interceptors⟩ c).result =
            (Service.call ⟨m, interceptors⟩ c).result)) ∧
    (store.isShared = true → (∀ c ∈ calls, c.Admissible .plain) →
      ∀ c, c.lookup?.isSome = true →
        ¬FailsOnData (Service.call ⟨after, interceptors⟩ c).result) := by
  intro after
  have hkept {d : Demand} (hcalls : ∀ c ∈ calls, c.Admissible d) :
      after.database.Kept d ∧ after.isShared = store.isShared :=
    ((OpenStore.upholds_isShared store.isShared).run ⟨store, interceptors⟩ hcalls
      ⟨StoreSettings.connect_eq_ok hopen ▸ Database.kept_fresh, rfl⟩).1
  constructor
  · -- the database after the run mirrors a memory store, and that store says what is legible
    obtain ⟨hafter, hshared⟩ := hkept hcalls
    obtain ⟨m, hm, hmirrors⟩ := hafter.mirrors
    refine ⟨m, hm, hmirrors, fun c r hc => ?_⟩
    obtain ⟨hread, conclude, hresult, hfails⟩ := Call.lookup_cases ε hc
    rw [hresult, hresult, hfails, ← hshared]
    refine ⟨OpenStore.failsOnData_iff Demand.doubleFree_doubleFree hm hmirrors hread,
      fun hsees hlegible => congrArg conclude ?_⟩
    show (after.answer r).result = (m.answer r).result
    rw [OpenStore.answer_of_reaches (.inl hsees)]
    exact Database.result_of_legible Demand.doubleFree_doubleFree hm hmirrors hread hlegible
  · -- plain values are shallow, so nothing the run stored is illegible
    intro hsees hplain c hlookup
    obtain ⟨hafter, hshared⟩ := hkept hplain
    obtain ⟨m, hm, hmirrors⟩ := hafter.mirrors
    obtain ⟨r, hr⟩ := Option.isSome_iff_exists.mp hlookup
    obtain ⟨hread, conclude, hresult, hfails⟩ := Call.lookup_cases ε hr
    rw [hresult, hfails]
    show ¬FailsOnData (after.answer r).result
    rw [OpenStore.failsOnData_iff Demand.doubleFree_plain hm hmirrors hread]
    exact not_not_intro ⟨.inl (hshared.trans hsees), MemoryStore.legible_of_plain hm r⟩

/-- The store on a file that is not there at first. -/
def sampleStore : Except OpenFailure OpenStore :=
  StoreSettings.connect { path := "registry.db" } .emptyDirectory {}

theorem isShared_sampleStore : ∃ store, sampleStore = .ok store ∧ store.isShared = true := by
  have hopens : sampleStore.map (·.isShared) = .ok true := by decide +kernel
  cases hstore : sampleStore with
  | error err =>
    rw [hstore] at hopens
    cases hopens
  | ok store =>
    rw [hstore] at hopens
    exact ⟨store, rfl, Except.ok.inj hopens⟩

/-- What the calls leave in a store, behind a service that nothing observes. -/
def OpenStore.serving (s : OpenStore) (calls : List Call) : Service OpenStore Unit :=
  ⟨(Service.run (ε := Unit) ⟨s, []⟩ calls).2, []⟩

/-- After the sample calls every look-up reaches the data. -/
theorem Service.lookups_after_sampleCalls :
    ∃ store, sampleStore = .ok store ∧ store.isShared = true ∧
      (∀ c ∈ sampleCalls, c.Admissible .doubleFree) ∧ (∀ c ∈ sampleCalls, c.Admissible .plain) ∧
      ∀ c, c.lookup?.isSome = true →
        ¬FailsOnData ((store.serving sampleCalls).call c).result := by
  obtain ⟨store, hopen, hshared⟩ := isShared_sampleStore
  have hfree : ∀ c ∈ sampleCalls, c.Admissible .doubleFree :=
    admissible_sampleCalls_of_plain fun _ hv => hv.doubleFree
  have hplain : ∀ c ∈ sampleCalls, c.Admissible .plain :=
    admissible_sampleCalls_of_plain fun _ hv => hv
  exact ⟨store, hopen, hshared, hfree, hplain,
    (Service.lookups_after_run _ _ store hopen [] sampleCalls hfree).2 hshared hplain⟩

/-! ## Deep values -/

/-- A deep value that was merged is not legible. -/
theorem MemoryStore.not_legible_of_merged {m : MemoryStore} {id : ProviderId}
    {delta : PropertyMap} {key : String} {v : PropertyValue} (hfind : delta.find? key = some v)
    (hset : PropertyMap.settable key v = true) (hdeep : maxDepth < v.json.depth)
    (hok : (m.answer (.updateSection id (.properties delta))).result = .ok ()) :
    ¬(m.answer (.updateSection id (.properties delta))).store.Legible
      (.get .identityProvider (.id id)) := by
  rw [answer] at hok ⊢
  cases hmodify : m.providers.modify id fun p => p.withSection (.properties delta) with
  | error err =>
    rw [hmodify] at hok
    cases hok
  | ok s =>
    obtain ⟨p, q, -, hq, -, rfl⟩ := Shelf.modify_eq_ok_iff.mp hmodify
    obtain rfl := Except.ok.inj hq
    intro hlegible
    -- were the provider legible, the merged value would be shallow
    have hshallow := hlegible _ ((Dict.find?_insert ..).trans (if_pos rfl))
    refine Nat.not_le_of_lt hdeep (hshallow.properties key v ?_)
    show (p.properties.absorb delta).find? key = some v
    rw [PropertyMap.find?_absorb, hfind, Option.filter_some, if_pos hset]
    rfl

/-- Once a deep value was merged, the provider fails to load. -/
theorem Database.failsOnData_of_merged {d : Demand} {db : Database} (hd : d.DoubleFree)
    (h : db.Kept d) {id : ProviderId} {delta : PropertyMap}
    (hr : (Request.updateSection id (.properties delta)).Admissible d) {key : String}
    {v : PropertyValue} (hfind : delta.find? key = some v)
    (hset : PropertyMap.settable key v = true) (hdeep : maxDepth < v.json.depth)
    (hok : (db.answer (.updateSection id (.properties delta))).result = .ok ()) :
    FailsOnData ((db.answer (.updateSection id (.properties delta))).store.answer
      (.get .identityProvider (.id id))).result := by
  obtain ⟨m, hm, hmirrors⟩ := h.mirrors
  have hmatches := matches_answer h.guards hm hmirrors hr rfl
  have hkept := MemoryStore.kept_answer hm hr
  have hmerged : (m.answer (.updateSection id (.properties delta))).result = .ok () → _ :=
    MemoryStore.not_legible_of_merged hfind hset hdeep
  generalize m.answer (.updateSection id (.properties delta)) = inMemory at hmatches hkept hmerged
  generalize db.answer (.updateSection id (.properties delta)) = inRows at hmatches hok
  cases hmatches with
  | agrees mirrors _ => exact failsOnData_of_not_legible hd hkept mirrors (hmerged rfl)
  | refused err => cases hok
  | exhausted err => cases hok

/-- **A deep value makes its provider unreadable.** Where a merge of it succeeds, the look-up that
follows fails on the data. -/
theorem Service.failsOnData_of_merged {ε : Type} {d : Demand} (hd : d.DoubleFree)
    {service : Service OpenStore ε} (h : service.store.database.Kept d)
    (hshared : service.store.isShared = true) {id : ProviderId} {delta : PropertyMap}
    (hdelta : (Call.operation (.updateSection (.id id) (.properties delta))).Admissible d)
    {key : String} {v : PropertyValue} (hfind : delta.find? key = some v)
    (hset : PropertyMap.settable key v = true) (hdeep : maxDepth < v.json.depth)
    (hok : (service.call (.operation (.updateSection (.id id) (.properties delta)))).result =
      .ok ()) :
    FailsOnData (Service.call { service with
      store := (service.call (.operation (.updateSection (.id id) (.properties delta)))).store }
      (.operation (.get .identityProvider (.id id)))).result := by
  have hmerge : (Operation.updateSection (.id id) (.properties delta)).plan.run service.store =
      service.store.answer (.updateSection id (.properties delta)) :=
    Plan.run_request _ service.store
  have hstays := (OpenStore.isShared_answer service.store
    (.updateSection id (.properties delta))).trans hshared
  obtain ⟨-, conclude, hresult, hfails⟩ := Call.lookup_cases ε
    (c := .operation (.get .identityProvider (.id id))) rfl
  change ((Operation.updateSection (.id id) (.properties delta)).plan.run
    service.store).result = .ok () at hok
  rw [hresult, hfails]
  show FailsOnData (((Operation.updateSection (.id id) (.properties delta)).plan.run
    service.store).store.answer (.get .identityProvider (.id id))).result
  -- on a shared store the merge and the look-up are those of the database
  rw [hmerge] at hok ⊢
  rw [OpenStore.answer_of_isShared hstays]
  rw [OpenStore.answer_of_isShared hshared] at hok ⊢
  exact Database.failsOnData_of_merged hd h hdelta hfind hset hdeep hok

/-- What is accepted need not be read back: a provider is stored, a property of it that nests 128
deep as well, and from then on the provider does not load. -/
theorem Service.not_read_back_nested :
    ∃ store, sampleStore = .ok store ∧
      let stored := store.serving [.operation (.create .identityProvider .acme)]
      let merge : Call := .operation (.updateSection (.id ⟨1, by decide⟩)
        (.properties (PropertyMap.put ∅ "tree" (.nested 128))))
      merge.Admissible .doubleFree ∧ (stored.call merge).result = .ok () ∧
        FailsOnData (Service.call { stored with store := (stored.call merge).store }
          (.operation (.get .identityProvider (.id ⟨1, by decide⟩)))).result := by
  obtain ⟨store, hopen, hshared⟩ := isShared_sampleStore
  have hacme : Entity.identityProvider.Offered .doubleFree IdentityProvider.acme :=
    ⟨IdentityProvider.built_acme, IdentityProvider.plain_acme.mono fun _ hv => hv.doubleFree⟩
  have hdelta : (PropertyMap.put ∅ "tree" (.nested 128)).HasValues Demand.doubleFree.property :=
    PropertyMap.hasValues_empty.put "tree" (PropertyValue.doubleFree_nested 128)
  have hcreate : ∀ c ∈ [Call.operation (.create .identityProvider .acme)],
      c.Admissible .doubleFree := List.forall_mem_singleton.mpr hacme
  have hstored := ((OpenStore.upholds_isShared true).run (ε := Unit) ⟨store, []⟩ hcreate
    ⟨StoreSettings.connect_eq_ok hopen ▸ Database.kept_fresh, hshared⟩).1
  have hok : sampleStore.map (fun store => ((store.serving
      [.operation (.create .identityProvider .acme)]).call (.operation
        (.updateSection (.id ⟨1, by decide⟩)
          (.properties (PropertyMap.put ∅ "tree" (.nested 128)))))).result) =
      Except.ok (Except.ok ()) := by
    decide +kernel
  rw [hopen] at hok
  have hok := Except.ok.inj hok
  have hfind : (PropertyMap.put ∅ "tree" (.nested 128)).find? "tree" = some (.nested 128) := rfl
  have hdeep : maxDepth < (PropertyValue.nested 128).json.depth := by
    rw [PropertyValue.depth_nested]
    decide
  refine ⟨store, hopen, ⟨trivial, hdelta⟩, hok, ?_⟩
  refine Service.failsOnData_of_merged Demand.doubleFree_doubleFree hstored.1 hstored.2
    ⟨trivial, hdelta⟩ hfind rfl hdeep hok

end FederationRegistry
