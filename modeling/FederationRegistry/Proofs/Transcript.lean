import FederationRegistry.Proofs.Relational.MirrorReads
import FederationRegistry.Proofs.Relational.Opening

/-!
# Both stores answer alike

**Theorem (`Database.transcript_fresh`).** Put any requests to an empty store in memory and to a new
database. As long as the values in what is stored are plain and numbers for rows last, both give
the same results and the same warnings, request by request. So does a store that was opened on a
new database, unless the database is one that its connections do not share.

Both stores start out empty, so the tables mirror the store in memory; every request is answered
alike on tables that mirror it and leaves tables that do (`Database.agrees_answer`). Values in
look-ups need not be plain, for they are not stored.

Only a request that succeeds inserts rows, so the numbers that are used up are counted over the
exchanges of the store in memory.
-/

namespace FederationRegistry

/-! ## Exchanges -/

/-- A request and what it was answered. -/
structure Exchange where
  request : Request
  result : Except RegistryError request.Reply
  warnings : List Warning

/-- What a store answers to requests, one after the other. -/
def transcript {σ : Type} [ProviderStore σ] : σ → List Request → List Exchange
  | _, [] => []
  | s, r :: rs =>
    let a := ProviderStore.answer s r
    ⟨r, a.result, a.warnings⟩ :: transcript a.store rs

/-- The store after requests, one after the other. -/
def ProviderStore.after {σ : Type} [ProviderStore σ] (s : σ) (rs : List Request) : σ :=
  rs.foldl (fun s r => (answer s r).store) s

/-- The rows that the request has inserted into the table of a series. -/
def Exchange.inserted (x : Exchange) (series : Series) : Nat :=
  if x.result.isOk then x.request.inserts series else 0

/-- The rows that requests have inserted into the table of a series. -/
def insertedBy : List Exchange → Series → Nat
  | [], _ => 0
  | x :: xs, series => x.inserted series + insertedBy xs series

/-- Values without doubles that nest no deeper than a reader goes. -/
def Demand.plain : Demand := ⟨PropertyValue.Plain, Sections.Plain⟩

theorem Demand.readable_plain : plain.Readable :=
  ⟨fun _ hv => hv.readable, fun _ hs => hs.readable⟩

/-! ## One request -/

theorem Request.inserts_of_read {r : Request} (h : r.isWrite = false) (series : Series) :
    r.inserts series = 0 := by
  cases r with
  | list | get | resolve | findByProperty | readiness => rfl
  | create | update | updateSection | delete | switch => cases h

namespace Database

variable {d : Demand} {db : Database} {m : MemoryStore}

/-- The stores answer a request alike, and the rows mirror the store in memory again. -/
structure Agrees (db : Database) (r : Request) (b : Answer Database r.Reply)
    (a : Answer MemoryStore r.Reply) : Prop where
  result : b.result = a.result
  warnings : b.warnings = a.warnings
  mirrors : b.store.tables.Mirrors a.store
  guards : b.store.guards = db.guards
  counted : ∀ series, b.store.tables.lastOf series =
    db.tables.lastOf series + Exchange.inserted ⟨r, a.result, a.warnings⟩ series

theorem agrees_of_matches {r : Request} {b : Answer Database r.Reply}
    {a : Answer MemoryStore r.Reply} (h : db.tables.Mirrors m)
    (hmatches : db.Matches m r.inserts b a)
    (hroom : ¬db.tables.RunsOut r.inserts a.result.isOk) : db.Agrees r b a := by
  cases hmatches with
  | agrees mirrors counted => exact ⟨rfl, rfl, mirrors, rfl, counted⟩
  | refused err => exact ⟨rfl, rfl, h, rfl, fun _ => (Int.add_zero _).symm⟩
  | exhausted err short => exact absurd short hroom

/-- **Requests agree**, as long as numbers for rows are left. -/
theorem agrees_answer (hd : d.Readable) (hfree : ∀ v, d.property v → v.json.DoubleFree)
    (hguards : db.guards = []) (hm : m.Kept d) (h : db.tables.Mirrors m) {r : Request}
    (hr : r.Admissible d)
    (hroom : ∀ series, db.tables.lastOf series +
      Exchange.inserted ⟨r, (m.answer r).result, (m.answer r).warnings⟩ series <
        maxColumnInteger) :
    db.Agrees r (db.answer r) (m.answer r) := by
  cases hwrite : r.isWrite with
  | true =>
    exact agrees_of_matches h (matches_answer hguards hm h hr hwrite)
      (Tables.not_runsOut_of_lt hroom)
  | false =>
    obtain ⟨hanswer, hstore⟩ := answer_of_read hd hfree hm h hwrite
    rw [hanswer]
    refine ⟨rfl, rfl, by rw [hstore]; exact h, rfl, fun series => ?_⟩
    rw [Exchange.inserted, Request.inserts_of_read hwrite, ite_self]
    exact (Int.add_zero _).symm

/-! ## Runs -/

/-- Tables that mirror a store in memory answer like it, request by request. -/
theorem transcript_eq (hd : d.Readable) (hfree : ∀ v, d.property v → v.json.DoubleFree)
    {rs : List Request} (hguards : db.guards = []) (hm : m.Kept d) (h : db.tables.Mirrors m)
    (hrs : ∀ r ∈ rs, r.Admissible d)
    (hroom : ∀ series, db.tables.lastOf series + insertedBy (transcript m rs) series <
      maxColumnInteger) : transcript db rs = transcript m rs := by
  induction rs generalizing db m with
  | nil => rfl
  | cons r rs ih =>
    have hr := hrs r (by simp)
    have hsplit (series : Series) : insertedBy (transcript m (r :: rs)) series =
        Exchange.inserted ⟨r, (m.answer r).result, (m.answer r).warnings⟩ series +
          insertedBy (transcript (m.answer r).store rs) series := rfl
    have hagrees : db.Agrees r (db.answer r) (m.answer r) := by
      refine agrees_answer hd hfree hguards hm h hr fun series => ?_
      have hlt := hroom series
      rw [hsplit] at hlt
      omega
    -- the numbers that the first exchange has used up are no longer needed
    have hrest : transcript (db.answer r).store rs = transcript (m.answer r).store rs := by
      refine ih (hagrees.guards.trans hguards) (MemoryStore.kept_answer hm hr) hagrees.mirrors
        (fun r hr => hrs r (by simp [hr])) fun series => ?_
      have hlt := hroom series
      rw [hsplit] at hlt
      rw [hagrees.counted]
      omega
    show Exchange.mk r (db.answer r).result (db.answer r).warnings ::
        transcript (db.answer r).store rs =
      Exchange.mk r (m.answer r).result (m.answer r).warnings :: transcript (m.answer r).store rs
    rw [hagrees.result, hagrees.warnings, hrest]

/-- An open store whose connections share the database answers like the database. -/
theorem transcript_of_isShared {s : OpenStore} (h : s.isShared = true) (rs : List Request) :
    transcript s rs = transcript s.database rs := by
  induction rs generalizing s with
  | nil => rfl
  | cons r rs ih =>
    have hanswer : ProviderStore.answer s r =
        (s.database.answer r).mapStore fun database => { s with database } :=
      OpenStore.answer_of_isShared h r
    rw [transcript, hanswer]
    exact congrArg (Exchange.mk r (s.database.answer r).result (s.database.answer r).warnings :: ·)
      (ih h)

/-- **A new database answers like an empty store in memory.** The arguments of the requests are
what builders make, with plain values in all that is to be stored, and no more rows are inserted
into a table than there are numbers. -/
theorem transcript_fresh (rs : List Request) (hrs : ∀ r ∈ rs, r.Admissible .plain)
    (hroom : ∀ series,
      (insertedBy (transcript ({} : MemoryStore) rs) series : Int) < maxColumnInteger) :
    transcript fresh rs = transcript ({} : MemoryStore) rs ∧
      ∀ (settings : StoreSettings) (files : Files) (store : OpenStore),
        settings.connect files {} = .ok store → store.isShared = true →
          transcript store rs = transcript ({} : MemoryStore) rs := by
  have hfresh : transcript fresh rs = transcript ({} : MemoryStore) rs := by
    refine transcript_eq Demand.readable_plain (fun _ hv => hv.doubleFree) rfl
      MemoryStore.kept_empty Tables.Mirrors.empty hrs fun series => ?_
    have hzero : fresh.tables.lastOf series = 0 := by
      cases series with
      | aggregates e => cases e <;> rfl
      | connectors kind => cases kind <;> rfl
    rw [hzero, Int.zero_add]
    exact hroom series
  refine ⟨hfresh, fun settings files store hopen hshared => ?_⟩
  rw [transcript_of_isShared hshared, StoreSettings.connect_eq_ok hopen]
  exact hfresh

/-- Requests about a sample provider, one of them with an identifier that is no row number. -/
def sampleRequests : List Request :=
  [.create .identityProvider .acme,
    .create .identityProvider .acme,
    .updateSection ⟨1, by decide⟩
      (.properties (PropertyMap.put ∅ "tier" (.ofJson (.string "silver")))),
    .findByProperty .provider "tier" (.ofJson (.string "silver")),
    .findByProperty .authenticator "digits" (.ofJson (.string "six")),
    .switch .identityProvider ⟨Word.signedLimit, by decide⟩ false,
    .delete .identityProvider ⟨1, by decide⟩,
    .create .serviceProvider { name := "portal" },
    .get .serviceProvider (.name "portal"),
    .list .identityProvider false]

theorem admissible_sampleRequests : ∀ r ∈ sampleRequests, r.Admissible .plain := by
  have hacme : Entity.identityProvider.Offered .plain IdentityProvider.acme :=
    ⟨IdentityProvider.built_acme, IdentityProvider.plain_acme⟩
  have hportal : Entity.serviceProvider.Offered .plain ({ name := "portal" } : ServiceProvider) :=
    ⟨.build (d := { name := "portal" }) (by decide +kernel), Sections.plain_empty⟩
  have hdelta : (PropertyMap.put ∅ "tier" (.ofJson (.string "silver"))).HasValues
      PropertyValue.Plain :=
    PropertyMap.hasValues_empty.put "tier" (PropertyValue.plain_string "silver")
  simp only [sampleRequests, List.forall_mem_cons]
  exact ⟨hacme, hacme, ⟨trivial, hdelta⟩, trivial, trivial, trivial, trivial, hportal, trivial,
    trivial, List.forall_mem_nil _⟩

/-- A provider is created, created again in vain, updated, found and deleted, with the same answers
from all stores. -/
theorem transcript_fresh_sampleRequests :
    (∀ r ∈ sampleRequests, r.Admissible .plain) ∧
      (∀ series, (insertedBy (transcript ({} : MemoryStore) sampleRequests) series : Int) <
        maxColumnInteger) ∧
      transcript fresh sampleRequests = transcript ({} : MemoryStore) sampleRequests ∧
      ∃ store, StoreSettings.connect { path := "registry.db" } .emptyDirectory {} = .ok store ∧
        transcript store sampleRequests = transcript ({} : MemoryStore) sampleRequests := by
  have hroom (series : Series) :
      (insertedBy (transcript ({} : MemoryStore) sampleRequests) series : Int) <
        maxColumnInteger := by
    cases series with
    | aggregates e => cases e <;> decide +kernel
    | connectors kind => cases kind <;> decide +kernel
  obtain ⟨hfresh, hopened⟩ := transcript_fresh sampleRequests admissible_sampleRequests hroom
  have hopens : (StoreSettings.connect { path := "registry.db" } .emptyDirectory {}).map
      (·.isShared) = .ok true := by decide +kernel
  cases hstore : StoreSettings.connect { path := "registry.db" } .emptyDirectory {} with
  | error err =>
    rw [hstore] at hopens
    cases hopens
  | ok store =>
    rw [hstore] at hopens
    exact ⟨admissible_sampleRequests, hroom, hfresh, store, rfl,
      hopened _ _ store hstore (Except.ok.inj hopens)⟩

end Database

end FederationRegistry
