import FederationRegistry.Proofs.Listing

/-!
# Variants are stable

The variant of a provider is its kind with, for a federated one, the home realm and the hub flag. A
row does not say which variant it holds: the kind is told from the name each time it is read.

**Theorem (`variants_stable`).** Once a creation or a full update has set the variant of a provider,
the provider has it, whenever it is got by its identifier, until it is fully updated again or
deleted, whatever else is asked meanwhile and whether it succeeds or fails. And all along it is
resident exactly if it has the reserved name.

On the shelf every other request leaves the variant alone (`MemoryStore.hasVariant_answer`): section
updates and switches do not touch it, requests that address another provider leave this one as it
is, and an identifier is not given out twice. A database mirrors such a shelf, and what loads has
the variant of what stands there.
-/

namespace FederationRegistry

open ProviderStore

/-! ## Requests that concern the variant -/

/-- The variant that the request has set for a provider, if it has. -/
def Request.variantSet? (id : ProviderId) :
    (r : Request) → Except RegistryError r.Reply → Option ProviderVariant
  | .create .identityProvider p, .ok i => if i = id then some p.variant else none
  | .update .identityProvider p, .ok _ => if p.id = some id then some p.variant else none
  | _, _ => none

/-- The request has replaced the provider as a whole, or deleted it. -/
def Request.replaces (id : ProviderId) : (r : Request) → Except RegistryError r.Reply → Bool
  | .update .identityProvider p, .ok _ => p.id == some id
  | .delete .identityProvider i, .ok _ => i == id
  | _, _ => false

theorem Request.variantSet?_error (id : ProviderId) (r : Request) (err : RegistryError) :
    r.variantSet? id (.error err) = none := by
  cases r with
  | create e a | update e a => cases e <;> rfl
  | list | get | resolve | findByProperty | updateSection | delete | switch | readiness => rfl

theorem Request.variantSet?_of_read {r : Request} (h : r.isWrite = false) (id : ProviderId)
    (result : Except RegistryError r.Reply) : r.variantSet? id result = none := by
  cases r with
  | list | get | resolve | findByProperty | readiness => rfl
  | create | update | updateSection | delete | switch => cases h

namespace ProviderStore

variable {σ : Type} [ProviderStore σ]

/-- After the requests `before` the request `r` sets the variant of the provider, and none of those
between replaces the provider. -/
structure SetLast (s : σ) (before : List Request) (r : Request) (between : List Request)
    (id : ProviderId) (v : ProviderVariant) : Prop where
  set : r.variantSet? id (answer (after s before) r).result = some v
  kept : ∀ x ∈ transcript (answer (after s before) r).store between,
    x.request.replaces id x.result = false

/-- The provider is found under its identifier with the variant, and is resident exactly if it has
the reserved name. -/
def Shown (s : σ) (id : ProviderId) (v : ProviderVariant) : Prop :=
  ∃ p : IdentityProvider, found s (.id id) = .ok (some p) ∧ p.variant = v ∧
    (p.name = residentName ↔ p.kind = .resident)

/-- What a request keeps unless it replaces the provider, requests keep that do not. -/
theorem holds_after {I : σ → Prop} {P : Request → Prop} {id : ProviderId}
    (hkeep : ∀ s r, I s → P r → r.replaces id (answer s r).result = false → I (answer s r).store)
    {rs : List Request} (hrs : ∀ r ∈ rs, P r) {s : σ} (hs : I s)
    (hkept : ∀ x ∈ transcript s rs, x.request.replaces id x.result = false) : I (after s rs) := by
  induction rs generalizing s with
  | nil => exact hs
  | cons r rs ih =>
    obtain ⟨hr, hrs⟩ := List.forall_mem_cons.mp hrs
    obtain ⟨hfirst, hrest⟩ := List.forall_mem_cons.mp hkept
    exact ih hrs (hkeep s r hs hr hfirst) hrest

/-- What the setting request establishes, and every request keeps that does not replace the
provider, holds in the end. -/
theorem SetLast.holds {I : σ → Prop} {P : Request → Prop} {s : σ} {before between : List Request}
    {r : Request} {id : ProviderId} {v : ProviderVariant} (h : SetLast s before r between id v)
    (hset : r.variantSet? id (answer (after s before) r).result = some v →
      I (answer (after s before) r).store)
    (hkeep : ∀ s r, I s → P r → r.replaces id (answer s r).result = false → I (answer s r).store)
    (hbetween : ∀ r ∈ between, P r) : I (after s (before ++ r :: between)) := by
  rw [after, List.foldl_append, List.foldl_cons]
  exact holds_after hkeep hbetween (hset h.set) h.kept

end ProviderStore

/-! ## One request in memory -/

theorem IdentityProvider.variant_withSection {p q : IdentityProvider} {s : SectionUpdate}
    (h : p.withSection s = .ok q) : q.variant = p.variant := by
  cases s with
  | metadata m =>
    obtain ⟨-, rfl⟩ := Checked.map_eq_ok_iff.mp h
    rfl
  | authentication a =>
    obtain ⟨-, rfl⟩ := Checked.map_eq_ok_iff.mp h
    rfl
  | provisioning s =>
    obtain ⟨-, rfl⟩ := Checked.map_eq_ok_iff.mp h
    rfl
  | properties delta =>
    cases h
    rfl

/-- The provider stands on the shelf with the variant. -/
def Shelf.HasVariant (s : Shelf .identityProvider) (id : ProviderId) (v : ProviderVariant) : Prop :=
  ∃ p : IdentityProvider, s.items.find? id.value = some p ∧ p.variant = v

namespace Shelf

variable {s s' : Shelf .identityProvider} {id : ProviderId} {v : ProviderVariant}

theorem hasVariant_insert {last : Nat} {p : IdentityProvider} {i : ProviderId}
    (h : i ≠ id → s.HasVariant id v) (hp : i = id → p.variant = v) :
    HasVariant ⟨last, s.items.insert i.value (p.withId i)⟩ id v := by
  unfold HasVariant
  rw [Dict.find?_insert]
  split
  · rename_i hi
    exact ⟨p.withId i, rfl, hp (Id.ext hi)⟩
  · rename_i hi
    exact h fun hsame => hi (congrArg Id.value hsame)

theorem hasVariant_create (hs : s.Ordered) {p : IdentityProvider} {i : ProviderId}
    (hcreate : s.create p = .ok (i, s')) (h : s.HasVariant id v) : s'.HasVariant id v := by
  obtain ⟨-, hi, rfl⟩ := create_eq_ok_iff.mp hcreate
  refine hasVariant_insert (fun _ => h) fun hsame => ?_
  -- what is on the shelf has an identifier that was given out before
  obtain ⟨q, hq, -⟩ := h
  have hbound := hs.bounded _ _ hq
  subst hsame
  omega

theorem hasVariant_modify {i : ProviderId} {change : IdentityProvider → Checked IdentityProvider}
    (hchange : i = id → ∀ p q, change p = .ok q → q.variant = p.variant)
    (hmodify : s.modify i change = .ok s') (h : s.HasVariant id v) : s'.HasVariant id v := by
  obtain ⟨current, next, hfind, hnext, -, rfl⟩ := modify_eq_ok_iff.mp hmodify
  refine hasVariant_insert (fun _ => h) fun hsame => ?_
  obtain ⟨p, hp, rfl⟩ := h
  obtain rfl : current = p := Option.some.inj (hfind.symm.trans (hsame ▸ hp))
  exact hchange hsame current next hnext

theorem hasVariant_delete {i : ProviderId} (hi : i ≠ id) (hdelete : s.delete i = .ok s')
    (h : s.HasVariant id v) : s'.HasVariant id v := by
  obtain ⟨-, rfl⟩ := delete_eq_ok_iff.mp hdelete
  obtain ⟨p, hp, hv⟩ := h
  refine ⟨p, ?_, hv⟩
  rw [Dict.find?_erase, if_neg fun hsame => hi (Id.ext hsame)]
  exact hp

end Shelf

namespace MemoryStore

variable {d : Demand} {m : MemoryStore} {id : ProviderId} {v : ProviderVariant}

/-- A write of the other shelf leaves that of the providers. -/
theorem providers_written_application (m : MemoryStore)
    (next : Except RegistryError (Shelf .serviceProvider)) :
    (m.written .serviceProvider next).store.providers = m.providers := by
  cases next <;> rfl

theorem hasVariant_written {next : Except RegistryError (Shelf .identityProvider)}
    (h : m.providers.HasVariant id v) (hnext : ∀ s, next = .ok s → s.HasVariant id v) :
    (m.written .identityProvider next).store.providers.HasVariant id v := by
  cases next with
  | error err => exact h
  | ok s => exact hnext s rfl

/-- A request that sets the variant leaves the provider with it. -/
theorem hasVariant_of_set {r : Request} (h : r.variantSet? id (m.answer r).result = some v) :
    (m.answer r).store.providers.HasVariant id v := by
  cases r with
  | list | get | resolve | findByProperty | updateSection | delete | switch | readiness => cases h
  | create e a =>
    cases e with
    | serviceProvider => cases h
    | identityProvider =>
      simp only [answer] at h ⊢
      cases hcreate : (m.shelf .identityProvider).create a with
      | error err => simp [hcreate, Request.variantSet?] at h
      | ok out =>
        obtain ⟨i, s⟩ := out
        simp only [hcreate, Request.variantSet?, Option.ite_none_right_eq_some,
          Option.some.injEq] at h ⊢
        obtain ⟨-, -, rfl⟩ := Shelf.create_eq_ok_iff.mp hcreate
        exact Shelf.hasVariant_insert (fun hne => absurd h.1 hne) fun _ => h.2
  | update e a =>
    cases e with
    | serviceProvider => cases h
    | identityProvider =>
      cases hid : Entity.identityProvider.idOf a with
      | none =>
        simp only [answer, hid] at h
        cases h
      | some i =>
        simp only [answer, hid] at h ⊢
        cases hmodify : (m.shelf .identityProvider).modify i fun _ => .ok a with
        | error err => simp [hmodify, written, Request.variantSet?] at h
        | ok s =>
          have hid : a.id = some i := hid
          simp only [hmodify, written, Request.variantSet?, Option.ite_none_right_eq_some,
            Option.some.injEq, hid] at h ⊢
          -- the update succeeded, so the provider it was given stands there now
          obtain ⟨current, next, -, ⟨⟩, -, rfl⟩ := Shelf.modify_eq_ok_iff.mp hmodify
          exact Shelf.hasVariant_insert (fun hne => absurd h.1 hne) fun _ => h.2

theorem replaces_update {p : IdentityProvider} (hid : p.id = some id) {s : Shelf .identityProvider}
    (hmodify : (m.shelf .identityProvider).modify id (fun _ => .ok p) = .ok s) :
    let r := Request.update .identityProvider p
    r.replaces id (m.answer r).result = true := by
  have hresult : (m.answer (.update .identityProvider p)).result = .ok () := by
    simp only [answer, show Entity.identityProvider.idOf p = some id from hid, hmodify, written]
  simp [hresult, Request.replaces, hid]

theorem replaces_delete {s : Shelf .identityProvider}
    (hdelete : (m.shelf .identityProvider).delete id = .ok s) :
    let r := Request.delete .identityProvider id
    r.replaces id (m.answer r).result = true := by
  have hresult : (m.answer (.delete .identityProvider id)).result = .ok () := by
    simp only [answer, hdelete, written]
  simp [hresult, Request.replaces]

/-- **A request that does not replace the provider** leaves it with its variant. -/
theorem hasVariant_answer (hm : m.Kept d) {r : Request}
    (hr : r.replaces id (m.answer r).result = false) (h : m.providers.HasVariant id v) :
    (m.answer r).store.providers.HasVariant id v := by
  cases r with
  | list | get | resolve | findByProperty | readiness => exact h
  | create e a =>
    cases hcreate : (m.shelf e).create a with
    | error err => simpa only [answer, hcreate] using h
    | ok out =>
      simp only [answer, hcreate]
      cases e with
      | serviceProvider => exact h
      | identityProvider => exact Shelf.hasVariant_create (hm .identityProvider).toOrdered hcreate h
  | update e a =>
    cases hid : e.idOf a with
    | none => simpa only [answer, hid] using h
    | some i =>
      simp only [answer, hid]
      cases e with
      | serviceProvider => exact (providers_written_application m _).symm ▸ h
      | identityProvider =>
        refine hasVariant_written h fun s hs => Shelf.hasVariant_modify (fun hsame => ?_) hs h
        -- an update of this very provider would have set its variant
        subst hsame
        rw [replaces_update hid hs] at hr
        cases hr
  | updateSection i s =>
    exact hasVariant_written h fun s' hs' =>
      Shelf.hasVariant_modify (fun _ _ _ => IdentityProvider.variant_withSection) hs' h
  | switch e i enabled =>
    cases e with
    | serviceProvider => exact (providers_written_application m _).symm ▸ h
    | identityProvider =>
      refine hasVariant_written h fun s hs => Shelf.hasVariant_modify (fun _ p q hq => ?_) hs h
      cases hq
      rfl
  | delete e i =>
    cases e with
    | serviceProvider => exact (providers_written_application m _).symm ▸ h
    | identityProvider =>
      refine hasVariant_written h fun s hs => Shelf.hasVariant_delete (fun hsame => ?_) hs h
      subst hsame
      rw [replaces_delete hs] at hr
      cases hr

theorem shown (hm : m.Kept d) (h : m.providers.HasVariant id v) : Shown m id v := by
  obtain ⟨p, hp, hv⟩ := h
  exact ⟨p, congrArg Except.ok hp, hv, (IdentityProvider.resident_iff (hm.sound hp).valid).symm⟩

end MemoryStore

/-! ## One request to a database -/

/-- Property values that are read back, and any sections of service providers. -/
def Demand.readableProperties : Demand := ⟨PropertyValue.Readable, fun _ => True⟩

namespace Database

variable {d : Demand} {db : Database} {m : MemoryStore} {id : ProviderId} {v : ProviderVariant}

/-- A database answers a write as the store in memory that its rows mirror, or fails and stays as it
is. -/
theorem answer_of_write (hguards : db.guards = []) (hm : m.Kept d) (h : db.tables.Mirrors m)
    {r : Request} (hr : r.Admissible d) (hwrite : r.isWrite = true) :
    ((db.answer r).result = (m.answer r).result ∧
        (db.answer r).store.tables.Mirrors (m.answer r).store) ∨
      ∃ err, (db.answer r).result = .error err ∧ (db.answer r).store = db := by
  have hmatches := matches_answer hguards hm h hr hwrite
  generalize db.answer r = inRows at hmatches ⊢
  generalize m.answer r = inMemory at hmatches ⊢
  cases hmatches with
  | agrees mirrors _ => exact .inl ⟨rfl, mirrors⟩
  | refused err => exact .inr ⟨err, rfl, rfl⟩
  | exhausted err => exact .inr ⟨err, rfl, rfl⟩

/-- The rows mirror a store in memory in which the provider has the variant. -/
structure HasVariant (d : Demand) (id : ProviderId) (v : ProviderVariant) (db : Database) :
    Prop where
  mirrors : ∃ m : MemoryStore, m.Kept d ∧ db.tables.Mirrors m ∧ m.providers.HasVariant id v
  kept : db.Kept d

theorem hasVariant_of_set (hdb : db.Kept d) {r : Request} (hr : r.Admissible d)
    (h : r.variantSet? id (db.answer r).result = some v) :
    HasVariant d id v (db.answer r).store := by
  refine ⟨?_, (kept_answer hdb hr).1⟩
  obtain ⟨m, hm, hmirrors⟩ := hdb.mirrors
  cases hwrite : r.isWrite with
  | false =>
    rw [Request.variantSet?_of_read hwrite] at h
    cases h
  | true =>
    rcases answer_of_write hdb.guards hm hmirrors hr hwrite with
      ⟨hresult, hnext⟩ | ⟨err, hresult, -⟩
    · rw [hresult] at h
      exact ⟨_, MemoryStore.kept_answer hm hr, hnext, MemoryStore.hasVariant_of_set h⟩
    · rw [hresult, Request.variantSet?_error] at h
      cases h

theorem hasVariant_answer (h : HasVariant d id v db) {r : Request} (hr : r.Admissible d)
    (hkeeps : r.replaces id (db.answer r).result = false) :
    HasVariant d id v (db.answer r).store := by
  refine ⟨?_, (kept_answer h.kept hr).1⟩
  obtain ⟨m, hm, hmirrors, hvariant⟩ := h.mirrors
  cases hwrite : r.isWrite with
  | false =>
    rw [store_of_read hwrite]
    exact h.mirrors
  | true =>
    rcases answer_of_write h.kept.guards hm hmirrors hr hwrite with
      ⟨hresult, hnext⟩ | ⟨-, -, hsame⟩
    · rw [hresult] at hkeeps
      exact ⟨_, MemoryStore.kept_answer hm hr, hnext,
        MemoryStore.hasVariant_answer hm hkeeps hvariant⟩
    · rw [hsame]
      exact h.mirrors

/-- What is found is what stands on the shelf or resembles it. -/
theorem shown (h : HasVariant d id v db) (hfound : ∃ a, found db (.id id) = .ok a) :
    Shown db id v := by
  obtain ⟨m, hm, hmirrors, p, hp, rfl⟩ := h.mirrors
  obtain ⟨a, ha⟩ := hfound
  have hget : (m.shelf .identityProvider).get? (.id id) = some p := hp
  rcases hmirrors.get_cases hm (.id id) with ⟨err, herr⟩ | ⟨found, hfound, hrel⟩
  · rw [found_eq_ok_iff.mp ha] at herr
    cases herr
  · rw [hget] at hrel
    cases hrel with
    | some hresembles =>
      rename_i q
      have hvariant : q.variant = p.variant := Option.some.inj hresembles.variant
      have hname : q.name = p.name := hresembles.name
      refine ⟨q, found_eq_ok_iff.mpr hfound, hvariant, ?_⟩
      rw [hname, IdentityProvider.kind, hvariant]
      exact (IdentityProvider.resident_iff (hm.sound hp).valid).symm

/-- A provider whose values are readable is found. -/
theorem found_of_readable (hdb : db.Kept .readableProperties) (id : ProviderId) :
    ∃ a, found db (.id id) = .ok a := by
  obtain ⟨m, hm, hmirrors⟩ := hdb.mirrors
  suffices hloads : ∃ a, db.tables.get .identityProvider (.id id) = .ok a from
    hloads.imp fun _ => found_eq_ok_iff.mpr
  cases hget : (m.shelf .identityProvider).get? (.id id) with
  | none => exact ⟨none, hmirrors.get_of_none hget⟩
  | some p =>
    obtain ⟨k, hfind, hload⟩ := hmirrors.get_of_some hm hget
    obtain ⟨-, hvalues⟩ := (hm .identityProvider).meets k p hfind
    exact ⟨some p, hload.trans (hmirrors.loadProvider_of_readable hm hfind hvalues)⟩

end Database

/-! ## Runs -/

section Runs

variable {d : Demand} {before between : List Request} {r : Request} {id : ProviderId}
  {v : ProviderVariant}

theorem MemoryStore.shown_after {m : MemoryStore} (hm : m.Kept d)
    (hrs : ∀ q ∈ before ++ r :: between, q.Admissible d) (h : SetLast m before r between id v) :
    Shown (after m (before ++ r :: between)) id v := by
  obtain ⟨hbefore, hr, hbetween⟩ :=
    (List.forall_mem_append.trans (and_congr_right' List.forall_mem_cons)).mp hrs
  obtain ⟨hkept, hvariant⟩ := h.holds
    (I := fun m : MemoryStore => m.Kept d ∧ m.providers.HasVariant id v) (P := Request.Admissible d)
    (fun hset => ⟨kept_answer (kept_after hm hbefore) hr, hasVariant_of_set hset⟩)
    (fun m q hI hq hkeeps => ⟨kept_answer hI.1 hq, hasVariant_answer hI.1 hkeeps hI.2⟩) hbetween
  exact shown hkept hvariant

theorem Database.hasVariant_after {db : Database} (hdb : db.Kept d)
    (hrs : ∀ q ∈ before ++ r :: between, q.Admissible d) (h : SetLast db before r between id v) :
    HasVariant d id v (after db (before ++ r :: between)) := by
  obtain ⟨hbefore, hr, hbetween⟩ :=
    (List.forall_mem_append.trans (and_congr_right' List.forall_mem_cons)).mp hrs
  exact h.holds (fun hset => hasVariant_of_set (kept_after hdb hbefore) hr hset)
    (fun _ _ hI hq hkeeps => hasVariant_answer hI hq hkeeps) hbetween

/-- What is set last in an open store is set last in the database that its connections share. -/
theorem OpenStore.setLast {s : OpenStore} (hshared : s.isShared = true)
    (h : SetLast s before r between id v) : SetLast s.database before r between id v := by
  have hanswer (database : Database) :
      ProviderStore.answer (⟨database, s.readers, s.isShared⟩ : OpenStore) r =
        (ProviderStore.answer database r).mapStore fun next => ⟨next, s.readers, s.isShared⟩ :=
    answer_of_isShared (s := ⟨database, s.readers, s.isShared⟩) hshared r
  have htranscript (database : Database) :
      transcript (⟨database, s.readers, s.isShared⟩ : OpenStore) between =
        transcript database between :=
    Database.transcript_of_isShared (s := ⟨database, s.readers, s.isShared⟩) hshared between
  obtain ⟨hset, hkept⟩ := h
  rw [after_of_isShared hshared, hanswer] at hset hkept
  simp only [Answer.mapStore, htranscript] at hset hkept
  exact ⟨hset, hkept⟩

/-- **Variants are stable.** In memory and in a new database, the provider that is found has the
variant that was set last and the reserved name exactly if it is resident, provided that it can be
found. It can if all property values are read back. -/
theorem variants_stable (before between : List Request) (r : Request)
    (hrs : ∀ q ∈ before ++ r :: between, q.Admissible {}) (id : ProviderId)
    (v : ProviderVariant) :
    (SetLast ({} : MemoryStore) before r between id v →
      Shown (after ({} : MemoryStore) (before ++ r :: between)) id v) ∧
    (SetLast Database.fresh before r between id v →
      (∃ a, found (after Database.fresh (before ++ r :: between)) (.id id) = .ok a) →
        Shown (after Database.fresh (before ++ r :: between)) id v) ∧
    (∀ (settings : StoreSettings) (files : Files) (store : OpenStore),
      settings.connect files {} = .ok store → store.isShared = true →
        SetLast store before r between id v →
          (∃ a, found (after store (before ++ r :: between)) (.id id) = .ok a) →
            Shown (after store (before ++ r :: between)) id v) ∧
    ((∀ q ∈ before ++ r :: between, q.Admissible .readableProperties) →
      (∃ a, found (after Database.fresh (before ++ r :: between)) (.id id) = .ok a) ∧
      ∀ (settings : StoreSettings) (files : Files) (store : OpenStore),
        settings.connect files {} = .ok store → store.isShared = true →
          ∃ a, found (after store (before ++ r :: between)) (.id id) = .ok a) := by
  have hfound {store : OpenStore} (hshared : store.isShared = true) :
      found store (.id id) = found store.database (.id id) :=
    OpenStore.result_of_isShared hshared _
  refine ⟨MemoryStore.shown_after MemoryStore.kept_empty hrs, fun hset hreads => ?_,
    fun settings files store hopen hshared hset hreads => ?_, fun hreadable => ⟨?_, ?_⟩⟩
  · exact Database.shown (Database.hasVariant_after Database.kept_fresh hrs hset) hreads
  · obtain ⟨hshared', hdatabase⟩ := OpenStore.after_connect hopen hshared (before ++ r :: between)
    rw [hfound hshared', hdatabase] at hreads
    -- the results of an open store are those of its database, so the variant was set there
    have hset := OpenStore.setLast hshared hset
    rw [StoreSettings.connect_eq_ok hopen] at hset
    obtain ⟨p, hp, hshown⟩ :=
      Database.shown (Database.hasVariant_after Database.kept_fresh hrs hset) hreads
    refine ⟨p, ?_, hshown⟩
    rw [hfound hshared', hdatabase]
    exact hp
  · exact Database.found_of_readable (Database.kept_after_fresh hreadable) id
  · intro settings files store hopen hshared
    obtain ⟨hshared', hdatabase⟩ := OpenStore.after_connect hopen hshared (before ++ r :: between)
    rw [hfound hshared', hdatabase]
    exact Database.found_of_readable (Database.kept_after_fresh hreadable) id

end Runs

/-! ## A hub that is renamed -/

/-- A federation hub with a home realm. -/
def IdentityProvider.hub : IdentityProvider where
  metadata := { name := "hub" }
  variant := .federated { homeRealm := some "emea", isHub := true }

/-- The resident provider. -/
def IdentityProvider.registry : IdentityProvider where
  metadata := { name := residentName }
  variant := .resident

/-- The hub is renamed, in vain also to the reserved name, and switched off, while other providers
come and go. -/
def hubRequests : List Request :=
  [.updateSection (.nth 1) (.metadata { name := "zulu" }),
    .updateSection (.nth 1) (.metadata { name := residentName }),
    .create .identityProvider .registry,
    .switch .identityProvider (.nth 1) false,
    .delete .identityProvider (.nth 0)]

theorem admissible_hubRequests {d : Demand} (hd : ∀ v, PropertyValue.Plain v → d.property v) :
    ∀ r ∈ [.create .identityProvider .acme] ++ .create .identityProvider .hub :: hubRequests,
      Request.Admissible d r := by
  have hacme : Entity.identityProvider.Offered d IdentityProvider.acme :=
    ⟨IdentityProvider.built_acme, IdentityProvider.plain_acme.mono hd⟩
  have hhub : Entity.identityProvider.Offered d IdentityProvider.hub := by
    refine ⟨.build (d := (IdentityProvider.Draft.federated "hub").edits
      [.setHomeRealm "emea", .setHub true]) ?_ (by decide +kernel),
      PropertyMap.hasValues_empty, nofun, ConnectorMap.hasValues_empty⟩
    exact .edit (e := .setHub true) (.edit (e := .setHomeRealm "emea") (.federated "hub") trivial)
      trivial
  have hregistry : Entity.identityProvider.Offered d IdentityProvider.registry :=
    ⟨.build .resident (by decide +kernel), PropertyMap.hasValues_empty, nofun,
      ConnectorMap.hasValues_empty⟩
  have hrenamed (name : String) (hname : name = "zulu" ∨ name = residentName) :
      Metadata.Built { name } := by
    unfold Metadata.Built
    rcases hname with rfl | rfl <;> decide +kernel
  simp only [hubRequests, List.cons_append, List.nil_append, List.forall_mem_cons]
  exact ⟨hacme, hhub, ⟨hrenamed _ (.inl rfl), trivial⟩, ⟨hrenamed _ (.inr rfl), trivial⟩, hregistry,
    trivial, trivial, List.forall_mem_nil _⟩

/-- The hub stays a hub of its realm in both stores. -/
theorem variants_stable_hub :
    SetLast Database.fresh [.create .identityProvider .acme] (.create .identityProvider .hub)
        hubRequests (.nth 1) IdentityProvider.hub.variant ∧
      Shown (after ({} : MemoryStore)
        ([.create .identityProvider .acme] ++ .create .identityProvider .hub :: hubRequests))
        (.nth 1) IdentityProvider.hub.variant ∧
      Shown (after Database.fresh
        ([.create .identityProvider .acme] ++ .create .identityProvider .hub :: hubRequests))
        (.nth 1) IdentityProvider.hub.variant := by
  have hmemory : SetLast ({} : MemoryStore) [.create .identityProvider .acme]
      (.create .identityProvider .hub) hubRequests (.nth 1) IdentityProvider.hub.variant :=
    ⟨by decide +kernel, by decide +kernel⟩
  have hdatabase : SetLast Database.fresh [.create .identityProvider .acme]
      (.create .identityProvider .hub) hubRequests (.nth 1) IdentityProvider.hub.variant :=
    ⟨by decide +kernel, by decide +kernel⟩
  obtain ⟨hinMemory, hinRows, -, hreadable⟩ := variants_stable [.create .identityProvider .acme]
    hubRequests (.create .identityProvider .hub) (admissible_hubRequests fun _ _ => trivial)
    (.nth 1) IdentityProvider.hub.variant
  exact ⟨hdatabase, hinMemory hmemory,
    hinRows hdatabase (hreadable (admissible_hubRequests fun _ hv => hv.readable)).1⟩

end FederationRegistry
