import FederationRegistry.Proofs.Service.Interleaving

/-!
# How far calls are serializable

**Theorem (`Service.interleavings_explained`).** However the transactions of two calls are
interleaved, the results and the store are those of one call behind the other, with one exception:
a call that is addressed by a name may have resolved it before the other call deletes or renames
the provider. It then acts behind the other call on the provider that the name stood for.

The exception is real (`Service.not_serializable`). A provider is renamed by its identifier while a
call by its old name is under way, and that call goes through, although behind the renaming the name
stands for nothing.

A name is taken from an aggregate by nothing else than a request that deletes or renames it
(`MemoryStore.keepsNames` and `Database.keepsNames`), and only a name that is taken makes the
identifier outdated.
-/

namespace FederationRegistry

/-! ## Plans of calls -/

namespace Plan

variable {α : Type}

theorem single_request (r : Request) (hr : r.isResolve = false) :
    (request r).IsSingle := ⟨hr, fun reply => ⟨.ok reply, rfl⟩⟩

theorem brief_require {next : Plan α} (h : next.IsBrief) (check : Except RegistryError Unit) :
    (require check next).IsBrief := by
  cases check with
  | error err => exact .single trivial
  | ok _ => exact h

theorem brief_resolve {e : Entity} {next : Id e → Plan α} (h : ∀ i, (next i).IsSingle)
    (target : Ref e) : (resolve target next).IsBrief := by
  cases target with
  | id i => exact .single (h i)
  | name name =>
    refine .named (fun reply => ?_) ⟨_, rfl⟩
    cases reply with
    | none => trivial
    | some i => exact h i

end Plan

/-- The transactions of a call. -/
def Call.plan : (c : Call) → Plan c.Reply
  | .operation op => op.plan
  | .find target => .request (.get .identityProvider target)
  | .readiness => .request .readiness

/-- A call makes one request at most, after it has resolved a name. -/
theorem Call.brief_plan (c : Call) : c.plan.IsBrief := by
  have hrequest (r : Request) (hr : r.isResolve = false) : (Plan.request r).IsBrief :=
    .single (Plan.single_request r hr)
  cases c with
  | operation op =>
    -- a check or a resolution may come first, and then one request
    cases op with
    | list e enabledOnly => exact hrequest (.list e enabledOnly) rfl
    | findByProperty scope key value => exact hrequest (.findByProperty scope key value) rfl
    | create e a =>
      exact Plan.brief_require (Plan.brief_require (hrequest (.create e a) rfl) _) _
    | get e target =>
      refine .single ⟨rfl, fun reply => ?_⟩
      cases reply <;> exact ⟨_, rfl⟩
    | update e a =>
      exact Plan.brief_require (Plan.brief_require (hrequest (.update e a) rfl) _) _
    | updateSection target s =>
      exact Plan.brief_require
        (Plan.brief_resolve (fun i => Plan.single_request (.updateSection i s) rfl) target) _
    | delete e target =>
      exact Plan.brief_resolve (fun i => Plan.single_request (.delete e i) rfl) target
    | switch e target enabled =>
      exact Plan.brief_resolve (fun i => Plan.single_request (.switch e i enabled) rfl) target
  | find target => exact hrequest (.get .identityProvider target) rfl
  | readiness => exact hrequest .readiness rfl

/-- An admissible call makes admissible requests only. -/
theorem Call.asks_plan {d : Demand} {c : Call} (h : c.Admissible d) :
    c.plan.Asks (Request.Admissible d) := by
  cases c with
  | operation op => exact Operation.asks_plan h
  | find target => exact Plan.asks_request trivial
  | readiness => exact Plan.asks_request trivial

/-! ## Calls in turn -/

/-- The stores in which a look-up that finds nothing is not a failure. -/
class FindsOrNot (σ : Type) [ProviderStore σ] : Prop where
  kind : ∀ (s : σ) (target : ProviderRef) (err : RegistryError),
    (ProviderStore.answer s (.get .identityProvider target)).result = .error err →
      err.kind ≠ .notFound

instance findsOrNot_memoryStore : FindsOrNot MemoryStore where
  kind m target err h := by
    have hfound : Except.ok ((m.shelf .identityProvider).get? target) = Except.error err := h
    cases hfound

instance findsOrNot_database : FindsOrNot Database where
  kind db target err h := by
    change (db.answer (.get .identityProvider target)).result = .error err at h
    rw [Database.answer_get, Database.readout] at h
    cases hget : db.tables.get .identityProvider target with
    | error failure =>
      rw [hget] at h
      cases h
      exact nofun
    | ok found =>
      rw [hget] at h
      cases h

section InTurn

variable {σ ε : Type} [ProviderStore σ]

/-- A service answers a call as its plan runs. -/
theorem Service.call_eq_run [FindsOrNot σ] (service : Service σ ε) (c : Call) :
    (service.call c).result = (c.plan.run service.store).result ∧
      (service.call c).store = (c.plan.run service.store).store := by
  cases c with
  | operation op => exact ⟨rfl, rfl⟩
  | readiness =>
    have hrun : (Call.plan .readiness).run service.store =
        ProviderStore.answer service.store .readiness := Plan.run_request _ _
    rw [hrun]
    exact ⟨rfl, rfl⟩
  -- a look-up turns a missing provider into no result; the plan already replies so
  | find target =>
    have hrun : (Call.plan (.find target)).run service.store =
        ProviderStore.answer service.store (.get .identityProvider target) := Plan.run_request _ _
    have hget := Operation.run_get target service.store
    have hkind := FindsOrNot.kind service.store target
    rw [hrun]
    show foundOrNone ((Operation.get .identityProvider target).plan.run service.store).result = _ ∧
      ((Operation.get .identityProvider target).plan.run service.store).store = _
    rw [hget]
    refine ⟨?_, rfl⟩
    generalize (ProviderStore.answer service.store (.get .identityProvider target)).result =
      result at hkind
    rcases result with err | _ | p
    · cases err with
      | notFound e reference => exact absurd rfl (hkind _ rfl)
      | validation | nameTaken | dataAccess => rfl
    · rfl
    · rfl

/-- One call behind the other. -/
def Service.inTurn (c d : Call) (s : σ) : Joint σ c.Reply d.Reply :=
  let a := Service.call (⟨s, []⟩ : Service σ Empty) c
  let b := Service.call (⟨a.store, []⟩ : Service σ Empty) d
  ⟨a.result, b.result, b.store⟩

theorem Service.inTurn_eq_serial [FindsOrNot σ] (c d : Call) (s : σ) :
    Service.inTurn c d s = c.plan.serial d.plan s := by
  obtain ⟨hresult, hstore⟩ := Service.call_eq_run (⟨s, []⟩ : Service σ Empty) c
  obtain ⟨hresult', hstore'⟩ := Service.call_eq_run
    (⟨(Service.call (⟨s, []⟩ : Service σ Empty) c).store, []⟩ : Service σ Empty) d
  dsimp only at hresult hstore hresult' hstore'
  simp only [inTurn, Plan.serial]
  rw [hresult', hstore', hresult, hstore]

end InTurn

/-! ## Names that are taken -/

/-- The request deletes what the identifier stands for, or gives it another name. -/
def Request.Displaces {e : Entity} (i : Id e) (name : String) : Request → Prop
  | .delete f j => f = e ∧ j.value = i.value
  | .update f a => f = e ∧ (f.idOf a).map (·.value) = some i.value ∧ f.nameOf a ≠ name
  | .updateSection j (.metadata m) =>
    .identityProvider = e ∧ j.value = i.value ∧ m.name ≠ name
  | _ => False

namespace Shelf

variable {d : Demand} {e : Entity} {s s' : Shelf e} {k : Nat} {a : e.Aggregate}

/-- What stands on a shelf keeps its place and name when another is changed, or when it is changed
itself without its name. -/
theorem find?_modify {id : Id e} {change : e.Aggregate → Checked e.Aggregate}
    (hmodify : s.modify id change = .ok s') (hfind : s.items.find? k = some a)
    (hname : id.value = k → ∀ next, change a = .ok next → e.nameOf next = e.nameOf a) :
    ∃ b, s'.items.find? k = some b ∧ e.nameOf b = e.nameOf a := by
  obtain ⟨current, next, hcurrent, hnext, -, rfl⟩ := modify_eq_ok_iff.mp hmodify
  by_cases hk : id.value = k
  · subst hk
    obtain rfl := Option.some.inj (hcurrent.symm.trans hfind)
    refine ⟨e.withId next id, (Dict.find?_insert ..).trans (if_pos rfl), ?_⟩
    rw [Entity.nameOf_withId, hname rfl next hnext]
  · exact ⟨a, by rw [Dict.find?_insert, if_neg hk, hfind], rfl⟩

theorem find?_create (h : s.Ordered) {b : e.Aggregate} {id : Id e}
    (hcreate : s.create b = .ok (id, s')) (hfind : s.items.find? k = some a) :
    s'.items.find? k = some a := by
  obtain ⟨-, hid, rfl⟩ := create_eq_ok_iff.mp hcreate
  have hle := h.bounded k a hfind
  rw [Dict.find?_insert, if_neg (by omega), hfind]

theorem find?_delete {id : Id e} (hdelete : s.delete id = .ok s')
    (hfind : s.items.find? k = some a) (hne : id.value ≠ k) : s'.items.find? k = some a := by
  obtain ⟨-, rfl⟩ := delete_eq_ok_iff.mp hdelete
  rw [Dict.find?_erase, if_neg hne, hfind]

end Shelf

/-- Only metadata give a provider a name. -/
theorem IdentityProvider.name_withSection {p q : IdentityProvider} {s : SectionUpdate}
    (h : p.withSection s = .ok q) :
    q.name = p.name ∨ ∃ m, s = .metadata m ∧ q.name = m.name := by
  cases s with
  | metadata m =>
    obtain ⟨-, rfl⟩ := Checked.map_eq_ok_iff.mp h
    exact .inr ⟨m, rfl, rfl⟩
  | authentication a =>
    obtain ⟨-, rfl⟩ := Checked.map_eq_ok_iff.mp h
    exact .inl rfl
  | provisioning v =>
    obtain ⟨-, rfl⟩ := Checked.map_eq_ok_iff.mp h
    exact .inl rfl
  | properties delta =>
    obtain rfl := Except.ok.inj h
    exact .inl rfl

/-- Among the stores that satisfy an invariant, names are taken by nothing but a request that
displaces what they stand for. -/
def KeepsNames {σ : Type} [ProviderStore σ] (d : Demand) (Inv : σ → Prop) : Prop :=
  ∀ (s : σ) (r : Request) (e : Entity) (name : String) (i : Id e), Inv s → r.Admissible d →
    StandsFor s name i → ¬r.Displaces i name → StandsFor (ProviderStore.answer s r).store name i

namespace MemoryStore

variable {d : Demand} {m : MemoryStore} {e : Entity} {k : Nat} {name : String}

/-- An aggregate of the name stands at the place. -/
def Names (m : MemoryStore) (e : Entity) (k : Nat) (name : String) : Prop :=
  ∃ a, (m.shelf e).items.find? k = some a ∧ e.nameOf a = name

theorem standsFor_iff (hm : m.Kept d) {i : Id e} :
    StandsFor m name i ↔ m.Names e i.value name := by
  have hplace : StandsFor m name i ↔ (m.shelf e).place? name = some i.value := by
    show Except.ok (((m.shelf e).place? name).bind Id.ofNat?) = Except.ok (some i) ↔ _
    rw [Except.ok.injEq, Option.bind_eq_some_iff]
    constructor
    · rintro ⟨k, hk, hi⟩
      rw [hk, Id.ofNat?_eq_some_iff.mp hi]
    · exact fun hk => ⟨_, hk, Id.ofNat?_eq_some_iff.mpr rfl⟩
  rw [hplace, Shelf.place?_eq_some_iff (hm e).toOrdered, Names]

/-- A write to the other shelf takes no name. -/
theorem Names.withShelf (h : m.Names e k name) {f : Entity} {s : Shelf f}
    (hs : f = e → (m.withShelf f s).Names e k name) : (m.withShelf f s).Names e k name := by
  by_cases hf : f = e
  · exact hs hf
  · rw [Names, shelf_withShelf_of_ne m (Ne.symm hf)]
    exact h

theorem Names.written (h : m.Names e k name) {f : Entity} {next : Except RegistryError (Shelf f)}
    (hnext : ∀ s, next = .ok s → f = e → (m.withShelf f s).Names e k name) :
    (m.written f next).store.Names e k name := by
  cases next with
  | error err => exact h
  | ok s => exact h.withShelf (hnext s rfl)

theorem Names.modify (h : m.Names e k name) {id : Id e}
    {change : e.Aggregate → Checked e.Aggregate} {s : Shelf e}
    (hmodify : (m.shelf e).modify id change = .ok s)
    (hname : id.value = k → ∀ a next, e.nameOf a = name → change a = .ok next →
      e.nameOf next = name) : (m.withShelf e s).Names e k name := by
  obtain ⟨a, hfind, ha⟩ := h
  obtain ⟨b, hb, hsame⟩ := Shelf.find?_modify hmodify hfind fun hk next hnext =>
    (hname hk a next ha hnext).trans ha.symm
  rw [Names, shelf_withShelf_self]
  exact ⟨b, hb, hsame.trans ha⟩

/-- **In memory** a name stays with its aggregate until that is deleted or renamed. -/
theorem names_answer (hm : m.Kept d) {r : Request} {i : Id e} (h : m.Names e i.value name)
    (hr : ¬r.Displaces i name) : (m.answer r).store.Names e i.value name := by
  cases r with
  | list | get | resolve | findByProperty | readiness => exact h
  -- a creation takes a number that is not in use, so it displaces nobody
  | create f b =>
    cases hcreate : (m.shelf f).create b with
    | error err => simp only [answer, hcreate]; exact h
    | ok out =>
      simp only [answer, hcreate]
      refine h.withShelf fun hf => ?_
      subst hf
      obtain ⟨a, hfind, ha⟩ := h
      rw [Names, shelf_withShelf_self]
      exact ⟨a, Shelf.find?_create (hm f).toOrdered hcreate hfind, ha⟩
  | update f b =>
    cases hid : f.idOf b with
    | none => simp only [answer, hid]; exact h
    | some id =>
      simp only [answer, hid]
      refine h.written fun s hs hf => ?_
      subst hf
      refine h.modify hs fun hk a next _ hnext => ?_
      obtain rfl := Except.ok.inj hnext
      -- an update takes the name away only if it displaces, which it is said not to
      by_contra hne
      exact hr ⟨rfl, by rw [hid, Option.map_some, hk], hne⟩
  | updateSection j s =>
    refine h.written fun t ht hf => ?_
    subst hf
    refine h.modify ht fun hk p q hp hq => ?_
    obtain hsame | ⟨metadata, rfl, hnew⟩ := IdentityProvider.name_withSection hq
    · exact hsame.trans hp
    · by_contra hne
      exact hr ⟨rfl, hk, fun hname => hne (hnew.trans hname)⟩
  | delete f j =>
    refine h.written fun s hs hf => ?_
    subst hf
    obtain ⟨a, hfind, ha⟩ := h
    rw [Names, shelf_withShelf_self]
    exact ⟨a, Shelf.find?_delete hs hfind fun hj => hr ⟨rfl, hj⟩, ha⟩
  | switch f j enabled =>
    rw [answer_switch (hm f).toOrdered]
    refine h.written fun s hs hf => ?_
    subst hf
    refine h.modify hs fun _ a next ha hnext => ?_
    obtain rfl := Except.ok.inj hnext
    exact (f.nameOf_withEnabled a enabled).trans ha

theorem keepsNames : KeepsNames d (Kept d) := by
  intro m r e name i hm hr h hdisplaces
  have hkept := kept_answer hm hr
  exact (standsFor_iff hkept).mpr (names_answer hm ((standsFor_iff hm).mp h) hdisplaces)

end MemoryStore

namespace Database

variable {d : Demand} {db : Database} {m : MemoryStore}

/-- A name stands for the same in the rows as in a store that they mirror. -/
theorem standsFor_iff (hm : m.Kept d) (h : db.tables.Mirrors m) {e : Entity} {name : String}
    {i : Id e} : StandsFor db name i ↔ StandsFor m name i := by
  have hresult : (db.answer (.resolve e name)).result = (m.answer (.resolve e name)).result :=
    result_resolve hm h e name
  exact Eq.congr_left hresult

/-- **In a database** a name stays with its aggregate just as long. -/
theorem keepsNames : KeepsNames d (Kept d) := by
  intro db r e name i hdb hr h hdisplaces
  show StandsFor (db.answer r).store name i
  cases hwrite : r.isWrite with
  | false =>
    rw [store_of_read hwrite]
    exact h
  | true =>
    obtain ⟨m, hm, hmirrors⟩ := hdb.mirrors
    have hmatches := matches_answer hdb.guards hm hmirrors hr hwrite
    have hkept := MemoryStore.kept_answer hm hr
    have hstays := MemoryStore.keepsNames m r e name i hm hr ((standsFor_iff hm hmirrors).mp h)
      hdisplaces
    change StandsFor (m.answer r).store name i at hstays
    generalize m.answer r = inMemory at hmatches hkept hstays
    generalize db.answer r = inRows at hmatches ⊢
    cases hmatches with
    | agrees mirrors _ => exact (standsFor_iff hkept mirrors).mpr hstays
    | refused err => exact h
    | exhausted err => exact h

end Database

/-! ## Races of calls -/

namespace Plan

variable {α β σ : Type} [ProviderStore σ]

/-- The second plan resolves a name, and the first deletes what the name stands for or gives it
another name. -/
def Displaces (p : Plan α) (q : Plan β) (s : σ) : Prop :=
  ∃ (e : Entity) (name : String) (i : Id e) (next : Option (Id e) → Plan β) (r : Request)
    (rest : r.Reply → Plan α),
    q = .ask (.resolve e name) next ∧ StandsFor s name i ∧ p.resolved s = .ask r rest ∧
      r.Displaces i name

theorem asks_resolved {P : Request → Prop} {p : Plan α} (hp : p.IsBrief) (h : p.Asks P) (s : σ) :
    (p.resolved s).Asks P := by
  cases hp with
  | single hp => rwa [resolved_of_single hp]
  | named hnext hnone =>
    simp only [resolved, advance]
    split
    · trivial
    · exact h.2 _

/-- Only a name that is taken makes an identifier outdated. -/
theorem displaces_of_outdates [Atomic σ] {d : Demand} {Inv : σ → Prop} (hkeeps : KeepsNames d Inv)
    {p : Plan α} {q : Plan β} (hp : p.IsBrief) (hasks : p.Asks (Request.Admissible d)) {s : σ}
    (hs : Inv s) (h : p.Outdates q s) : p.Displaces q s := by
  obtain ⟨e, name, i, next, hq, hstands, htaken⟩ := h
  have hsingle := single_resolved hp s
  have hadmissible := asks_resolved hp hasks s
  rw [← (run_resolved hp s).2] at htaken
  cases hresolved : p.resolved s with
  | done result =>
    rw [hresolved] at htaken
    exact absurd hstands htaken
  | ask r rest =>
    rw [hresolved] at htaken hsingle hadmissible
    have hstore : ((Plan.ask r rest).run s).store = (ProviderStore.answer s r).store := by
      simp only [run]
      cases (ProviderStore.answer s r).result with
      | error err => rfl
      | ok reply =>
        obtain ⟨result, hdone⟩ := hsingle.2 reply
        simp only [hdone, run]
    rw [hstore] at htaken
    refine ⟨e, name, i, next, r, rest, hq, hstands, hresolved, ?_⟩
    -- a request that does not displace keeps the name, so the name would still stand
    by_contra hdisplaces
    exact htaken (hkeeps s r e name i hs hadmissible.1 hstands hdisplaces)

end Plan

/-- What two calls come to that race. -/
inductive Service.Explained {σ : Type} [ProviderStore σ] (s : σ) (c d : Call) :
    Joint σ c.Reply d.Reply → Prop
  /-- The second call comes behind the first one. -/
  | inTurn : Explained s c d (Service.inTurn c d s)
  /-- The first call comes behind the second one. -/
  | reversed : Explained s c d (Service.inTurn d c s).swap
  /-- The second call comes behind the first one, which takes the name from what it stood for. It
  acts on that all the same. -/
  | outdated (h : c.plan.Displaces d.plan s) :
    Explained s c d (c.plan.serial (d.plan.resolved s) s)
  /-- The same with the calls exchanged. -/
  | outdatedReversed (h : d.plan.Displaces c.plan s) :
    Explained s c d (d.plan.serial (c.plan.resolved s) s).swap

theorem Service.explained_race {σ : Type} [ProviderStore σ] [Atomic σ] [FindsOrNot σ] {d : Demand}
    {Inv : σ → Prop} (hkeeps : KeepsNames d Inv) {s : σ} (hs : Inv s) {a b : Call}
    (ha : a.Admissible d) (hb : b.Admissible d) (turns : List Client) :
    Service.Explained s a b (Plan.race turns a.plan b.plan s) := by
  obtain h | h | ⟨houtdates, h⟩ | ⟨houtdates, h⟩ :=
    Plan.race_explained turns a.brief_plan b.brief_plan s
  · rw [h, ← Service.inTurn_eq_serial]
    exact .inTurn
  · rw [h, ← Service.inTurn_eq_serial]
    exact .reversed
  · rw [h]
    exact .outdated
      (Plan.displaces_of_outdates hkeeps a.brief_plan (Call.asks_plan ha) hs houtdates)
  · rw [h]
    exact .outdatedReversed
      (Plan.displaces_of_outdates hkeeps b.brief_plan (Call.asks_plan hb) hs houtdates)

/-- **Interleavings of calls.** In every store that calls can reach, in memory or in a database, the
transactions of two calls may be interleaved in whatever way: the results and the store are those of
one call behind the other, except that a name which is taken while a call by that name is under way
may still stand for the same. -/
theorem Service.interleavings_explained {ε : Type} :
    (∀ (interceptors : List (Interceptor ε)) (calls : List Call) (a b : Call)
      (turns : List Client), (∀ c ∈ a :: b :: calls, c.Admissible {}) →
      let reached := (Service.run ⟨({} : MemoryStore), interceptors⟩ calls).2
      Service.Explained reached a b (Plan.race turns a.plan b.plan reached)) ∧
    (∀ (openings : List (Opening ε)) (a b : Call) (turns : List Client),
      (∀ o ∈ openings, ∀ c ∈ o.calls, c.Admissible {}) → a.Admissible {} → b.Admissible {} →
      let reached := (({} : Database).serveAll openings).2
      Service.Explained reached a b (Plan.race turns a.plan b.plan reached)) := by
  constructor
  · intro interceptors calls a b turns hcalls
    obtain ⟨ha, hb, hcalls⟩ : a.Admissible {} ∧ b.Admissible {} ∧ ∀ c ∈ calls, c.Admissible {} := by
      simpa only [List.forall_mem_cons] using hcalls
    have hkept := (MemoryStore.upholds.run ⟨{}, interceptors⟩ hcalls MemoryStore.kept_empty).1
    exact Service.explained_race MemoryStore.keepsNames hkept ha hb turns
  · intro openings a b turns hopenings ha hb
    have hkept := (Database.kept_serveAll Database.kept_new hopenings).1
    exact Service.explained_race Database.keepsNames hkept ha hb turns

/-- The call that gives a provider another name, and plain metadata with it. -/
def Call.rename (target : ProviderRef) (name : String) : Call :=
  .operation (.updateSection target (.metadata { name }))

theorem Call.admissible_rename (target : ProviderRef) {name : String}
    (hname : Text.isBlank name = false) : (Call.rename target name).Admissible {} :=
  ⟨Metadata.check_eq_ok_iff.mpr
    ⟨Metadata.validate_ok_iff.mpr ⟨hname, nofun, nofun, nofun⟩, rfl⟩, trivial⟩

/-- A provider is created. -/
def createAcme : List Call := [.operation (.create .identityProvider .acme)]

/-- The provider is renamed by its name. -/
def renameByName : Call := .rename (.name "acme") "zenith"

/-- The provider is renamed by its identifier. -/
def renameById : Call := .rename (.id Id.first) "apex"

theorem admissible_renameTwice :
    ∀ c ∈ renameByName :: renameById :: createAcme, c.Admissible {} := by
  have hacme : Entity.identityProvider.Offered {} IdentityProvider.acme :=
    ⟨IdentityProvider.built_acme, IdentityProvider.plain_acme.mono fun _ _ => trivial⟩
  simp only [createAcme, List.forall_mem_cons]
  exact ⟨Call.admissible_rename _ (by decide +kernel), Call.admissible_rename _ (by decide +kernel),
    hacme, List.forall_mem_nil _⟩

/-- The renaming by the identifier comes while the one by the name is under way. -/
theorem Service.interleavings_explained_rename :
    (∀ c ∈ renameByName :: renameById :: createAcme, c.Admissible {}) ∧
      let reached := (Service.run (⟨{}, []⟩ : Service MemoryStore Empty) createAcme).2
      Service.Explained reached renameByName renameById
        (Plan.race [.first, .second] renameByName.plan renameById.plan reached) :=
  ⟨admissible_renameTwice, Service.interleavings_explained.1 [] createAcme renameByName renameById
    [.first, .second] admissible_renameTwice⟩

/-- Calls are not serializable: both renamings succeed, and the one by the name comes last although
the name was gone by then. -/
theorem Service.not_serializable :
    ¬∀ (calls : List Call) (a b : Call) (turns : List Client),
      (∀ c ∈ a :: b :: calls, c.Admissible {}) →
      let reached := (Service.run (⟨{}, []⟩ : Service MemoryStore Empty) calls).2
      Plan.race turns a.plan b.plan reached = Service.inTurn a b reached ∨
        Plan.race turns a.plan b.plan reached = (Service.inTurn b a reached).swap := by
  intro h
  have hraced := h createAcme renameByName renameById [.first, .second] admissible_renameTwice
  obtain hserial | hserial := hraced
  · -- behind the renaming by the name, the one by the identifier would have the last word
    have hnames := congrArg (fun joint => joint.store.providers.names false) hserial
    revert hnames
    decide +kernel
  · -- behind the renaming by the identifier, nothing has the name
    have hfirst := congrArg (fun joint => joint.first.isOk) hserial
    revert hfirst
    decide +kernel

end FederationRegistry
