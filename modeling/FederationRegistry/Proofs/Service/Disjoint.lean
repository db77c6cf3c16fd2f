import FederationRegistry.Proofs.Relational.Lookup
import FederationRegistry.Proofs.Service.Interleaving
import FederationRegistry.Proofs.Service.Parts

/-!
# Clients that update different parts

Two clients send updates of parts of providers to a database, each a sequence of its own, and the
updates come to the database in any order that keeps both sequences.

**Theorem (`Database.undisturbed`).** Let no part of a provider be updated by both clients, and let
one of them at most update metadata. As long as there are numbers for the connectors that are
written, every client gets the results, and the providers come out, as if all of one client's
updates had come first.

In memory updates of different parts commute, so that those of one client can be moved in front
one by one (`MemoryStore.inTurn_eq`). The database does as the store in memory that it mirrors
(`Database.Follows.results_eq`). The rows of connectors get other numbers then, but aggregates do
not show them.

Numbers are what the clients share: they are given out once to whoever comes first
(`Database.Rationed.allotted_results`), and when few are left the order shows
(`Database.disturbed`).
-/

namespace FederationRegistry

/-! ## Schedules -/

/-- Updates of two clients in the order in which they come. -/
abbrev Schedule := List (Client × AddressedUpdate)

/-- What is of a client, in order. -/
def Client.share {α : Type} (c : Client) (l : List (Client × α)) : List α :=
  (l.filter fun e => e.1 == c).map (·.2)

/-- All of one client first, and then all of the other. -/
def inTurn {α : Type} (leader : Client) (l : List (Client × α)) : List (Client × α) :=
  l.filter (fun e => e.1 == leader) ++ l.filter fun e => !(e.1 == leader)

theorem inTurn_cons_of_eq {α : Type} {leader : Client} {e : Client × α} (h : e.1 = leader)
    (l : List (Client × α)) : inTurn leader (e :: l) = e :: inTurn leader l := by
  simp [inTurn, h]

/-- What is not of the leader comes behind all that is. -/
theorem inTurn_cons_of_ne {α : Type} {leader : Client} {e : Client × α} (h : e.1 ≠ leader)
    (l : List (Client × α)) :
    inTurn leader (e :: l) =
      l.filter (fun f => f.1 == leader) ++ e :: l.filter fun f => !(f.1 == leader) := by
  simp [inTurn, h]

theorem perm_inTurn {α : Type} (leader : Client) (l : List (Client × α)) :
    (inTurn leader l).Perm l :=
  List.filter_append_perm _ l

/-- No part of a provider is updated by both clients, and one of them at most updates metadata. -/
structure Schedule.Separate (s : Schedule) : Prop where
  parts : ∀ u ∈ Client.first.share s, ∀ v ∈ Client.second.share s,
    u.id = v.id → u.update.part ≠ v.update.part
  metadata : ∃ c : Client, ∀ u ∈ c.share s, ¬u.update.IsMetadata

namespace ProviderStore

variable {σ : Type} [ProviderStore σ]

/-- The store after updates, one after the other. -/
def afterUpdates : σ → Schedule → σ
  | s, [] => s
  | s, e :: l => afterUpdates (perform s e.2).store l

/-- The results of updates, each with its client. -/
def results : σ → Schedule → List (Client × Except RegistryError Unit)
  | _, [] => []
  | s, e :: l => (e.1, (perform s e.2).result) :: results (perform s e.2).store l

theorem results_append (s : σ) (l l' : Schedule) :
    results s (l ++ l') = results s l ++ results (afterUpdates s l) l' := by
  induction l generalizing s with
  | nil => rfl
  | cons e l ih => exact congrArg (_ :: ·) (ih _)

theorem afterUpdates_append (s : σ) (l l' : Schedule) :
    afterUpdates s (l ++ l') = afterUpdates (afterUpdates s l) l' := by
  induction l generalizing s with
  | nil => rfl
  | cons e l ih => exact ih _

theorem clients_results (s : σ) (l : Schedule) : (results s l).map (·.1) = l.map (·.1) := by
  induction l generalizing s with
  | nil => rfl
  | cons e l ih => exact congrArg (_ :: ·) (ih _)

end ProviderStore

namespace Client

variable {α : Type} {c : Client}

theorem mem_share_iff {l : List (Client × α)} {a : α} : a ∈ c.share l ↔ (c, a) ∈ l := by
  simp [share]

theorem share_cons (a : Client × α) (l : List (Client × α)) :
    c.share (a :: l) = if a.1 = c then a.2 :: c.share l else c.share l := by
  simp only [share, List.filter_cons, beq_iff_eq]
  split <;> rfl

/-- No share shows whether something came before or after what is of the other client. -/
theorem share_move {a : Client × α} {l : List (Client × α)} (h : ∀ d ∈ l.map (·.1), d ≠ a.1)
    (l' : List (Client × α)) : c.share (a :: (l ++ l')) = c.share (l ++ a :: l') := by
  induction l with
  | nil => rfl
  | cons b l ih =>
    have hb : b.1 ≠ a.1 := h b.1 (by simp)
    have hrest := ih fun d hd => h d (by simpa using Or.inr (by simpa using hd))
    rw [List.cons_append, List.cons_append, share_cons, share_cons, share_cons, ← hrest, share_cons]
    by_cases ha : a.1 = c
    · simp only [if_pos ha, if_neg (ha ▸ hb)]
    · simp only [if_neg ha]

end Client

/-- Updates of different clients are apart. -/
theorem Schedule.Separate.apart {s : Schedule} (h : s.Separate) {e f : Client × AddressedUpdate}
    (he : e ∈ s) (hf : f ∈ s) (hne : e.1 ≠ f.1) : e.2.Apart f.2 := by
  have hfirst {u v : AddressedUpdate} (hu : (Client.first, u) ∈ s)
      (hv : (Client.second, v) ∈ s) : u.Apart v := by
    refine ⟨h.parts u (Client.mem_share_iff.mpr hu) v (Client.mem_share_iff.mpr hv), ?_⟩
    rintro ⟨humeta, hvmeta⟩
    obtain ⟨c, hc⟩ := h.metadata
    cases c with
    | first => exact hc u (Client.mem_share_iff.mpr hu) humeta
    | second => exact hc v (Client.mem_share_iff.mpr hv) hvmeta
  obtain ⟨c, u⟩ := e
  obtain ⟨c', v⟩ := f
  cases c <;> cases c'
  case first.second => exact hfirst he hf
  case second.first => exact (hfirst hf he).symm
  all_goals exact absurd rfl hne

/-! ## In memory -/

namespace MemoryStore

open ProviderStore

variable {m : MemoryStore}

/-- **An update is put off** behind updates that are apart from it. -/
theorem put_off (hm : m.Kept {}) {u : AddressedUpdate} (hu : u.update.Built) {l : Schedule}
    (hl : ∀ e ∈ l, e.2.update.Built) (hapart : ∀ e ∈ l, u.Apart e.2) :
    results (perform m u).store l = results m l ∧
      (perform (afterUpdates m l) u).result = (perform m u).result ∧
      (perform (afterUpdates m l) u).store = afterUpdates (perform m u).store l := by
  induction l generalizing m with
  | nil => exact ⟨rfl, rfl, rfl⟩
  | cons e l ih =>
    have he := hl e List.mem_cons_self
    have hue := hapart e List.mem_cons_self
    obtain ⟨hresult, hstore⟩ := perform_comm hm hu he hue
    obtain ⟨hresult', -⟩ := perform_comm hm he hu hue.symm
    obtain ⟨hresults, hlast, hbehind⟩ := ih (kept_perform hm he)
      (fun f hf => hl f (List.mem_cons_of_mem _ hf))
      fun f hf => hapart f (List.mem_cons_of_mem _ hf)
    refine ⟨?_, hlast.trans hresult', ?_⟩
    · rw [results, results, hresult, hstore, hresults]
    · rw [afterUpdates, afterUpdates, hstore, hbehind]

/-- **In memory** it makes no difference to either client in which order the updates come. The
induction goes along the schedule; an update that is not of the leader is put off behind those of
the leader that are left. -/
theorem inTurn_eq (hm : m.Kept {}) {s : Schedule} (hs : ∀ e ∈ s, e.2.update.Built)
    (hapart : ∀ e ∈ s, ∀ f ∈ s, e.1 ≠ f.1 → e.2.Apart f.2) (leader : Client) :
    (∀ c : Client, c.share (results m s) = c.share (results m (inTurn leader s))) ∧
      afterUpdates m s = afterUpdates m (inTurn leader s) := by
  -- by induction on the schedule: an update of another client moves behind those of the leader
  induction s generalizing m with
  | nil => exact ⟨fun _ => rfl, rfl⟩
  | cons e s ih =>
    have he := hs e List.mem_cons_self
    obtain ⟨hshare, hafter⟩ := ih (kept_perform hm he)
      (fun f hf => hs f (List.mem_cons_of_mem _ hf))
      fun f hf g hg => hapart f (List.mem_cons_of_mem _ hf) g (List.mem_cons_of_mem _ hg)
    by_cases hleader : e.1 = leader
    · rw [inTurn_cons_of_eq hleader]
      refine ⟨fun c => ?_, hafter⟩
      rw [results, results, Client.share_cons, Client.share_cons, hshare]
    · have hmem {f : Client × AddressedUpdate} (hf : f ∈ s.filter fun f => f.1 == leader) :
          f ∈ s ∧ f.1 = leader := by simpa using hf
      obtain ⟨hresults, hresult, hstore⟩ := put_off hm he
        (fun f hf => hs f (List.mem_cons_of_mem _ (hmem hf).1)) fun f hf =>
          hapart e List.mem_cons_self f (List.mem_cons_of_mem _ (hmem hf).1)
            fun hsame => hleader (hsame.trans (hmem hf).2)
      rw [inTurn_cons_of_ne hleader, results, afterUpdates, afterUpdates_append, results_append,
        afterUpdates, results, hresult, hstore, hafter, inTurn, afterUpdates_append]
      refine ⟨fun c => ?_, rfl⟩
      rw [Client.share_cons, hshare, ← Client.share_cons, inTurn, results_append, hresults]
      -- no update of the leader is one of this client, so the shares stay as they are
      refine Client.share_move (fun d hd => ?_) _
      rw [clients_results] at hd
      obtain ⟨f, hf, rfl⟩ := List.mem_map.mp hd
      exact fun hsame => hleader (hsame.symm.trans (hmem hf).2)

end MemoryStore

/-! ## In a database -/

/-- How many connectors of a kind an update writes: none where the provider is not there. -/
def Tables.demandOf (t : Tables) (u : AddressedUpdate) (kind : ConnectorKind) : Nat :=
  if t.providers.rows.contains (u.id.value : Int) then u.update.count kind else 0

/-- How many connectors of a kind updates write. -/
def Tables.demand (t : Tables) (s : Schedule) (kind : ConnectorKind) : Nat :=
  (s.map fun e => t.demandOf e.2 kind).sum

/-- Numbers are left for all connectors that the updates write. -/
def Tables.Suffices (t : Tables) (s : Schedule) : Prop :=
  ∀ kind, t.lastOf (.connectors kind) + t.demand s kind ≤ maxColumnInteger

namespace Database

open ProviderStore

variable {db : Database} {m : MemoryStore} {u : AddressedUpdate}

/-- The rows mirror a store in memory, and no guard is on them. -/
structure Follows (db : Database) (m : MemoryStore) : Prop where
  guards : db.guards = []
  kept : m.Kept {}
  mirrors : db.tables.Mirrors m

theorem Follows.contains_eq (h : db.Follows m) (id : ProviderId) :
    db.tables.providers.rows.contains (id.value : Int) = m.providers.items.contains id.value := by
  have hrow : db.tables.providers.rows.find? (id.value : Int) = _ :=
    (h.mirrors.lists .identityProvider).find?_row id.value
  rw [Dict.contains, Dict.contains, hrow, Option.isSome_map]
  rfl

/-- A write of no aggregate of its own agrees if there are numbers for its connectors. -/
theorem Follows.agrees (h : db.Follows m) {r : Request} (hr : r.Admissible {})
    (hwrite : r.isWrite = true) (hnew : ∀ e, r.inserts (.aggregates e) = 0)
    (hroom : (m.answer r).result.isOk = true → ∀ kind,
      db.tables.lastOf (.connectors kind) + r.inserts (.connectors kind) ≤ maxColumnInteger) :
    db.Agrees r (db.answer r) (m.answer r) := by
  refine agrees_of_matches h.mirrors (matches_answer h.guards h.kept h.mirrors hr hwrite) ?_
  rintro (⟨e, hpos, -⟩ | ⟨hok, series, hshort⟩)
  · rw [hnew] at hpos
    exact absurd hpos (Nat.lt_irrefl 0)
  · cases series with
    | aggregates e =>
      have hlast : db.tables.lastOf (.aggregates e) = _ := (h.mirrors.lists e).last
      have hbounded := (h.mirrors.lists e).bounded
      rw [hnew, hlast] at hshort
      omega
    | connectors kind => exact absurd hshort (Int.not_lt.mpr (hroom hok kind))

/-- **One update**: the database does as the store that it follows, if there are numbers for the
connectors. -/
theorem Follows.step (h : db.Follows m) (hu : u.update.Built)
    (hroom : ∀ kind, db.tables.lastOf (.connectors kind) + db.tables.demandOf u kind ≤
      maxColumnInteger) :
    (perform db u).result = (perform m u).result ∧
      (perform db u).store.Follows (perform m u).store ∧
      ∀ kind, (perform db u).store.tables.lastOf (.connectors kind) =
        db.tables.lastOf (.connectors kind) + db.tables.demandOf u kind := by
  have hkept := MemoryStore.kept_perform h.kept hu
  have hdemand (kind : ConnectorKind) : db.tables.demandOf u kind =
      if (perform m u).result.isOk then u.update.count kind else 0 := by
    rw [MemoryStore.result_perform h.kept, MemoryStore.count_eq h.kept hu, Tables.demandOf,
      h.contains_eq]
  have hleft (hok : (perform m u).result.isOk = true) (kind : ConnectorKind) :
      db.tables.lastOf (.connectors kind) + u.update.count kind ≤ maxColumnInteger := by
    have hkind := hroom kind
    rwa [hdemand, if_pos hok] at hkind
  obtain ⟨id, update⟩ := u
  cases update with
  | content s =>
    have hagrees : db.Agrees (.updateSection id s) _ _ :=
      h.agrees (SectionUpdate.admissible hu id) rfl (fun _ => rfl) hleft
    refine ⟨hagrees.result, ⟨hagrees.guards.trans h.guards, hkept, hagrees.mirrors⟩, fun kind => ?_⟩
    rw [hdemand]
    exact hagrees.counted (.connectors kind)
  | switch enabled =>
    have hagrees : db.Agrees (.switch .identityProvider id enabled) _ _ :=
      h.agrees trivial rfl (fun _ => rfl) hleft
    refine ⟨hagrees.result, ⟨hagrees.guards.trans h.guards, hkept, hagrees.mirrors⟩, fun kind => ?_⟩
    rw [hdemand]
    exact hagrees.counted (.connectors kind)

/-- What updates write does not depend on what other updates wrote before them. -/
theorem Follows.demandOf_perform {db' : Database} (h : db.Follows m)
    (h' : db'.Follows (perform m u).store) (v : AddressedUpdate) (kind : ConnectorKind) :
    db'.tables.demandOf v kind = db.tables.demandOf v kind := by
  rw [Tables.demandOf, Tables.demandOf, h'.contains_eq, h.contains_eq,
    MemoryStore.contains_perform h.kept]

/-- **Updates one after the other**: the database does as the store that it follows, if there are
numbers for all connectors. -/
theorem Follows.results_eq (h : db.Follows m) {s : Schedule} (hs : ∀ e ∈ s, e.2.update.Built)
    (hroom : db.tables.Suffices s) :
    results db s = results m s ∧ (afterUpdates db s).Follows (afterUpdates m s) := by
  induction s generalizing db m with
  | nil => exact ⟨rfl, h⟩
  | cons e s ih =>
    have hsplit (kind : ConnectorKind) : db.tables.demand (e :: s) kind =
        db.tables.demandOf e.2 kind + db.tables.demand s kind := List.sum_cons
    obtain ⟨hresult, hnext, hlast⟩ := h.step (hs e List.mem_cons_self) fun kind => by
      have hall := hroom kind
      rw [hsplit] at hall
      omega
    have hrest : (perform db e.2).store.tables.Suffices s := fun kind => by
      have hsame : (perform db e.2).store.tables.demand s kind = db.tables.demand s kind :=
        congrArg List.sum (List.map_congr_left fun f _ => h.demandOf_perform hnext f.2 kind)
      have hall := hroom kind
      have hnow := hlast kind
      rw [hsplit] at hall
      rw [hsame]
      omega
    obtain ⟨hresults, hafter⟩ := ih hnext (fun f hf => hs f (List.mem_cons_of_mem _ hf)) hrest
    exact ⟨by rw [results, results, hresult, hresults], hafter⟩

theorem suffices_inTurn {t : Tables} {s : Schedule} (h : t.Suffices s) (leader : Client) :
    t.Suffices (inTurn leader s) := fun kind => by
  have hsame : t.demand (inTurn leader s) kind = t.demand s kind :=
    ((perm_inTurn leader s).map fun e : Client × AddressedUpdate => t.demandOf e.2 kind).sum_eq
  rw [hsame]
  exact h kind

/-- What requests lead to from a new database follows a store in memory. -/
theorem exists_follows {rs : List Request} (hrs : ∀ r ∈ rs, r.Admissible {}) :
    ∃ m, (after fresh rs).Follows m := by
  have hkept := kept_after_fresh hrs
  obtain ⟨m, hm, hmirrors⟩ := hkept.mirrors
  exact ⟨m, hkept.guards, hm, hmirrors⟩

/-- **Clients that update different parts do not disturb each other**, in any state that requests
lead to from a new database, as long as there are numbers for the connectors that they write. In
whatever order their updates come, each of them gets the results that it gets when all updates of
one of them come first, and so does whoever gets a provider afterwards. -/
theorem undisturbed (rs : List Request) (hrs : ∀ r ∈ rs, r.Admissible {}) (s : Schedule)
    (hs : ∀ e ∈ s, e.2.update.Built) (hseparate : s.Separate)
    (hroom : (after fresh rs).tables.Suffices s) (leader : Client) :
    (∀ c : Client, c.share (results (after fresh rs) s) =
        c.share (results (after fresh rs) (inTurn leader s))) ∧
      ∀ target : ProviderRef,
        (answer (afterUpdates (after fresh rs) s) (.get .identityProvider target)).result =
          (answer (afterUpdates (after fresh rs) (inTurn leader s))
            (.get .identityProvider target)).result := by
  obtain ⟨m, hm⟩ := exists_follows hrs
  have hturn : ∀ e ∈ inTurn leader s, e.2.update.Built := fun e he =>
    hs e ((perm_inTurn leader s).mem_iff.mp he)
  obtain ⟨hresults, hafter⟩ := hm.results_eq hs hroom
  obtain ⟨hresults', hafter'⟩ := hm.results_eq hturn (suffices_inTurn hroom leader)
  obtain ⟨hshare, hstore⟩ := MemoryStore.inTurn_eq hm.kept hs
    (fun e he f hf => hseparate.apart he hf) leader
  refine ⟨fun c => ?_, fun target => ?_⟩
  · rw [hresults, hresults', hshare]
  · rw [← hstore] at hafter'
    have hget := hafter.mirrors.get_congr hafter'.mirrors target
    show (Database.answer _ _).result = (Database.answer _ _).result
    rw [answer_get, answer_get, readout, readout, hget]

end Database

/-- New authentication of a provider, with a single authenticator. -/
def AddressedUpdate.renewal (id : ProviderId) : AddressedUpdate :=
  ⟨id, .content (.authentication .byTotp)⟩

/-- Two providers are created. -/
def pairRequests : List Request :=
  [.create .identityProvider (.bare "acme"), .create .identityProvider (.bare "apex")]

theorem admissible_pairRequests : ∀ r ∈ pairRequests, r.Admissible {} := by
  have hbare (name : String) (hname : name = "acme" ∨ name = "apex") :
      Request.Admissible {} (.create .identityProvider (.bare name)) := by
    refine ⟨IdentityProvider.built_bare ?_, IdentityProvider.hasValues_bare name _⟩
    rcases hname with rfl | rfl <;> decide +kernel
  simp only [pairRequests, List.forall_mem_cons]
  exact ⟨hbare _ (.inl rfl), hbare _ (.inr rfl), List.forall_mem_nil _⟩

/-- One client renames both providers to the same name, while the other works on other parts of them
and of a provider that is not there. -/
def mixedSchedule : Schedule :=
  [(.first, ⟨.nth 0, .content (.metadata { name := "zenith" })⟩),
    (.second, .renewal (.nth 0)),
    (.second, ⟨.nth 1, .switch false⟩),
    (.first, ⟨.nth 1, .content (.metadata { name := "zenith" })⟩),
    (.second, .renewal (.nth 2))]

/-- The second renaming is refused and so is the update of the provider that is not there, in this
order as in that in which one client comes behind the other. -/
theorem Database.undisturbed_mixedSchedule :
    (∀ r ∈ pairRequests, r.Admissible {}) ∧ (∀ e ∈ mixedSchedule, e.2.update.Built) ∧
      mixedSchedule.Separate ∧
      (ProviderStore.after fresh pairRequests).tables.Suffices mixedSchedule ∧
      (ProviderStore.results (ProviderStore.after fresh pairRequests) mixedSchedule).map
          (fun e => (e.1, e.2.isOk)) =
        [(.first, true), (.second, true), (.second, true), (.first, false), (.second, false)] ∧
      ∀ c : Client,
        c.share (ProviderStore.results (ProviderStore.after fresh pairRequests) mixedSchedule) =
          c.share (ProviderStore.results (ProviderStore.after fresh pairRequests)
            (inTurn .second mixedSchedule)) := by
  have hbuilt : ∀ e ∈ mixedSchedule, e.2.update.Built := by
    have hrenewal (id : ProviderId) : (AddressedUpdate.renewal id).update.Built :=
      Authentication.built_byTotp
    have hmetadata : (PartialUpdate.content (.metadata { name := "zenith" })).Built := by
      show Metadata.check { name := "zenith" } = .ok { name := "zenith" }
      decide +kernel
    simp only [mixedSchedule, List.forall_mem_cons]
    exact ⟨hmetadata, hrenewal _, trivial, hmetadata, hrenewal _, List.forall_mem_nil _⟩
  have hseparate : mixedSchedule.Separate :=
    ⟨by decide +kernel, .second, by decide +kernel⟩
  have hroom : (ProviderStore.after fresh pairRequests).tables.Suffices mixedSchedule :=
    fun kind => by cases kind <;> decide +kernel
  exact ⟨admissible_pairRequests, hbuilt, hseparate, hroom, by decide +kernel,
    (undisturbed pairRequests admissible_pairRequests mixedSchedule hbuilt hseparate hroom
      .second).1⟩

/-! ## Few numbers left -/

/-- Whose updates get a number when so many are left: those that come first. -/
def allotted : Nat → List Client → List (Client × Bool)
  | _, [] => []
  | 0, c :: cs => (c, false) :: allotted 0 cs
  | left + 1, c :: cs => (c, true) :: allotted left cs

/-- Two providers are created, and the first of them gets new authenticators over and over. -/
def scarceRequests (n : Nat) : List Request :=
  pairRequests ++ List.replicate n (.updateSection (.nth 0) (.authentication .byTotp))

/-- Two clients take turns, each with a provider of its own. -/
def contestedSchedule : Schedule :=
  [(.first, .renewal (.nth 0)), (.second, .renewal (.nth 1)), (.first, .renewal (.nth 0)),
    (.second, .renewal (.nth 1))]

theorem Client.share_map {α β : Type} (c : Client) (f : α → β) (l : List (Client × α)) :
    c.share (l.map fun e => (e.1, f e.2)) = (c.share l).map f := by
  simp [share, List.filter_map, Function.comp_def]

namespace Database

open ProviderStore

variable {db : Database} {m : MemoryStore} {id : ProviderId} {left : Nat}

/-- The database follows a store in memory, and so many numbers are left for authenticators. -/
structure Rationed (db : Database) (m : MemoryStore) (left : Nat) : Prop extends db.Follows m where
  authenticators : db.tables.lastOf (.connectors .authenticator) + left = maxColumnInteger
  provisioners : db.tables.lastOf (.connectors .provisioner) ≤ maxColumnInteger

/-- A renewal takes a number that is left. -/
theorem Rationed.renew (h : db.Rationed m (left + 1))
    (hid : m.providers.items.contains id.value = true) :
    (perform db (.renewal id)).result = .ok () ∧
      (perform db (.renewal id)).store.Rationed (perform m (.renewal id)).store left := by
  have hbuilt : (AddressedUpdate.renewal id).update.Built := Authentication.built_byTotp
  have hother : ¬(AddressedUpdate.renewal id).update.IsMetadata :=
    fun hpart : ProviderPart.content .authentication = .content .metadata => nomatch hpart
  have hcount (kind : ConnectorKind) : (AddressedUpdate.renewal id).update.count kind =
      if kind = .authenticator then 1 else 0 := by
    show (PartialUpdate.content (.authentication .byTotp)).count kind = _
    cases kind <;> decide +kernel
  have hdemand (kind : ConnectorKind) : db.tables.demandOf (.renewal id) kind =
      if kind = .authenticator then 1 else 0 := by
    rw [Tables.demandOf, h.contains_eq, ← hcount]
    exact if_pos hid
  have hnumbers := h.authenticators
  have hothers := h.provisioners
  obtain ⟨hresult, hfollows, hlast⟩ := h.toFollows.step hbuilt fun kind => by
    rw [hdemand]
    cases kind with
    | authenticator => simp only [if_true]; omega
    | provisioner => simpa using hothers
  refine ⟨?_, hfollows, ?_, ?_⟩
  · rw [hresult, MemoryStore.result_perform h.kept,
      MemoryStore.verdict_of_not_isMetadata h.kept hbuilt hother]
    exact if_pos hid
  · rw [hlast, hdemand, if_pos rfl]
    omega
  · rw [hlast, hdemand]
    simpa using hothers

/-- Without a number a renewal fails and leaves the database as it is. -/
theorem Rationed.refuse (h : db.Rationed m 0) (hid : m.providers.items.contains id.value = true) :
    (perform db (.renewal id)).result.isOk = false ∧ (perform db (.renewal id)).store = db := by
  obtain ⟨p, hfind⟩ := Dict.contains_iff.mp hid
  have hbuilt : (SectionUpdate.authentication .byTotp).Built := Authentication.built_byTotp
  have hnumber := (h.mirrors.lists .identityProvider).rowNumber?_of_find?
    (h.kept .identityProvider).toOrdered hfind
  have hfull : db.tables.authenticators.connectors.last = maxColumnInteger :=
    (Int.add_zero _).symm.trans h.authenticators
  -- the section needs one number for its authenticator, and the last one is given out
  have hput :
      Authentication.putRows? Authentication.byTotp.nonempty? db.tables id.value = none := by
    have hvalues : (Authentication.byTotp.nonempty?.getD {}).authenticators.values = [.totp] := by
      decide +kernel
    have htight : db.tables.authenticators.connectors.Tight := h.mirrors.tight .authenticator
    rw [Authentication.putRows?, hvalues, ConnectorTables.replace?_eq_none htight hfull]
    rfl
  have hanswer : perform db (.renewal id) = db.writingAt Engine.reliable
      (.updateSection .authentication) id fun number =>
        (SectionUpdate.authentication .byTotp).writeRows id number := by
    rw [← engine_of_guards h.guards]
    exact updateSection_of_letsRead db.letsRead_engine hbuilt db id
  rw [writingAt_of_rowNumber hnumber, writing_reliable,
    SectionUpdate.settle_writeRows hbuilt h.mirrors.referential.rooted,
    h.mirrors.find?_providerRow hfind] at hanswer
  dsimp only [SectionUpdate.refusal?, SectionUpdate.putRows?] at hanswer
  rw [hanswer, hput]
  exact ⟨rfl, rfl⟩

/-- **Numbers go to those who come first.** -/
theorem Rationed.allotted_results (h : db.Rationed m left) {s : Schedule}
    (hs : ∀ e ∈ s, ∃ id, e.2 = .renewal id ∧ m.providers.items.contains id.value = true) :
    (results db s).map (fun e => (e.1, e.2.isOk)) = allotted left (s.map (·.1)) := by
  induction s generalizing db m left with
  | nil => cases left <;> rfl
  | cons e s ih =>
    obtain ⟨id, hrenewal, hid⟩ := hs e List.mem_cons_self
    rw [results, hrenewal, List.map_cons, List.map_cons]
    cases left with
    | zero =>
      obtain ⟨hresult, hstore⟩ := h.refuse hid
      rw [hresult, hstore, ih h fun f hf => hs f (List.mem_cons_of_mem _ hf), allotted]
    | succ left =>
      obtain ⟨hresult, hnext⟩ := h.renew hid
      rw [hresult, ih hnext fun f hf => ?_, allotted]
      · rfl
      · obtain ⟨i, hf, hi⟩ := hs f (List.mem_cons_of_mem _ hf)
        exact ⟨i, hf, by rw [MemoryStore.contains_perform h.kept, hi]⟩

/-- Renewals use up numbers one by one. -/
theorem Rationed.after_renewals {n : Nat} (h : db.Rationed m (n + left)) (id : ProviderId)
    (hid : m.providers.items.contains id.value = true) :
    ∃ m', (after db (List.replicate n (.updateSection id (.authentication .byTotp)))).Rationed
        m' left ∧ ∀ k, m'.providers.items.contains k = m.providers.items.contains k := by
  induction n generalizing db m with
  | zero => exact ⟨m, by rwa [Nat.zero_add] at h, fun _ => rfl⟩
  | succ n ih =>
    have hsame := MemoryStore.contains_perform h.kept (.renewal id)
    have hmore : db.Rationed m (n + left + 1) := by rwa [Nat.add_right_comm] at h
    obtain ⟨-, hnext⟩ := hmore.renew hid
    obtain ⟨m', hafter, hcontains⟩ := ih hnext (by rw [hsame, hid])
    exact ⟨m', hafter, fun k => (hcontains k).trans (hsame k)⟩

/-- All numbers but a few can be used up by requests. -/
theorem exists_rationed {n : Nat} (left : Nat) (hn : (n : Int) + left = maxColumnInteger) :
    ∃ m, (after fresh (scarceRequests n)).Rationed m left ∧ ∀ id : ProviderId,
      (after fresh pairRequests).tables.providers.rows.contains (id.value : Int) = true →
        m.providers.items.contains id.value = true := by
  obtain ⟨m, hm⟩ := exists_follows admissible_pairRequests
  have hstart : (after fresh pairRequests).Rationed m (n + left) := by
    refine ⟨hm, ?_, by decide +kernel⟩
    rw [show (after fresh pairRequests).tables.lastOf (.connectors .authenticator) = 0 by
      decide +kernel]
    omega
  obtain ⟨m', hafter, hsame⟩ := hstart.after_renewals (.nth 0)
    ((hm.contains_eq (.nth 0)).symm.trans (by decide +kernel))
  refine ⟨m', ?_, fun id hid => ?_⟩
  · rw [scarceRequests, after, List.foldl_append]
    exact hafter
  · rw [hsame, ← hm.contains_eq id, hid]

/-- When numbers are left for two of four renewals, both clients get one if they take turns. -/
theorem disturbed_of_few {n : Nat} (hn : (n : Int) + 2 = maxColumnInteger) (leader : Client) :
    leader.share (results (after fresh (scarceRequests n)) contestedSchedule) ≠
      leader.share
        (results (after fresh (scarceRequests n)) (inTurn leader contestedSchedule)) := by
  obtain ⟨m, h, hthere⟩ := exists_rationed 2 hn
  have hrenewals : ∀ e ∈ contestedSchedule, ∃ id : ProviderId, e.2 = .renewal id ∧
      m.providers.items.contains id.value = true := by
    simp only [contestedSchedule, List.forall_mem_cons]
    have hzero := hthere (.nth 0) (by decide +kernel)
    have hone := hthere (.nth 1) (by decide +kernel)
    exact ⟨⟨_, rfl, hzero⟩, ⟨_, rfl, hone⟩, ⟨_, rfl, hzero⟩, ⟨_, rfl, hone⟩,
      List.forall_mem_nil _⟩
  have hallotted := h.allotted_results hrenewals
  have hturn := h.allotted_results (s := inTurn leader contestedSchedule) fun e he =>
    hrenewals e ((perm_inTurn leader _).mem_iff.mp he)
  intro hsame
  have hoks := congrArg (List.map fun r : Except RegistryError Unit => r.isOk) hsame
  rw [← Client.share_map, ← Client.share_map, hallotted, hturn] at hoks
  cases leader <;> exact absurd hoks (by decide)

/-- **Clients can disturb each other** when all numbers but two are used up: each is served once
when they take turns, and whichever comes first would have been served twice. -/
theorem disturbed :
    (∀ r ∈ scarceRequests 9223372036854775805, r.Admissible {}) ∧
      (∀ e ∈ contestedSchedule, e.2.update.Built) ∧ contestedSchedule.Separate ∧
      ∀ leader : Client,
        leader.share (results (after fresh (scarceRequests 9223372036854775805))
            contestedSchedule) ≠
          leader.share (results (after fresh (scarceRequests 9223372036854775805))
            (inTurn leader contestedSchedule)) := by
  have hrenewal (id : ProviderId) : (AddressedUpdate.renewal id).update.Built :=
    Authentication.built_byTotp
  refine ⟨fun r hr => ?_, ?_, ⟨by decide +kernel, .first, by decide +kernel⟩,
    disturbed_of_few (by decide +kernel)⟩
  · rcases List.mem_append.mp hr with hr | hr
    · exact admissible_pairRequests r hr
    · rw [List.eq_of_mem_replicate hr]
      exact SectionUpdate.admissible (s := .authentication .byTotp) Authentication.built_byTotp _
  · simp only [contestedSchedule, List.forall_mem_cons]
    exact ⟨hrenewal _, hrenewal _, hrenewal _, hrenewal _, List.forall_mem_nil _⟩

end Database

end FederationRegistry
