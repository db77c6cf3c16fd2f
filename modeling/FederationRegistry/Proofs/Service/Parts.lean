import FederationRegistry.Proofs.Relational.Sections
import FederationRegistry.Proofs.Relational.Shelf

/-!
# Updates of different parts

**Theorem (`MemoryStore.perform_comm`).** Two updates of different parts have the same results
and leave the same store in memory, whichever of them comes first, as long as one of them at most
updates metadata.

An update is granted or refused by what others of another part do not touch: whether the provider
is there, what its kind is and, where the name may change, which names there are
(`verdict_put`). Where it is granted it writes its own part, and writes of different parts commute
(`PartialUpdate.put_comm`).

Two updates of metadata are another matter: of two that take the same name the first succeeds.
-/

namespace FederationRegistry

/-! ## Parts -/

/-- A part of a provider that is updated on its own. -/
inductive ProviderPart where
  | content (s : ProviderSection)
  | switch
deriving DecidableEq

namespace PartialUpdate

/-- The part that is updated. -/
def part : PartialUpdate → ProviderPart
  | .content s => .content s.target
  | .switch _ => .switch

/-- The update is one of metadata, which may change the name. -/
def IsMetadata (u : PartialUpdate) : Prop := u.part = .content .metadata

instance (u : PartialUpdate) : Decidable u.IsMetadata :=
  inferInstanceAs (Decidable (u.part = .content .metadata))

/-- The first rule that the update breaks for a provider of a kind. -/
def check : PartialUpdate → ProviderKind → Checked Unit
  | .content (.metadata m), kind => kind.checkMetadata m
  | .content (.authentication a), _ => a.validate
  | .content (.provisioning p), _ => p.validate
  | .content (.properties _), _ => .ok ()
  | .switch _, _ => .ok ()

/-- The provider with the part as updated. -/
def put : PartialUpdate → IdentityProvider → IdentityProvider
  | .content (.metadata m), p => { p with metadata := m }
  | .content (.authentication a), p => { p with authentication := a.nonempty? }
  | .content (.provisioning s), p => { p with provisioning := s }
  | .content (.properties delta), p => p.withMergedProperties delta
  | .switch enabled, p => p.withEnabled enabled

/-- The provider after the update, or the first rule that would break. -/
def change : PartialUpdate → IdentityProvider → Checked IdentityProvider
  | .content s, p => p.withSection s
  | .switch enabled, p => .ok (p.withEnabled enabled)

theorem change_eq (u : PartialUpdate) (p : IdentityProvider) :
    u.change p = (u.check p.kind).map fun _ => u.put p := by
  cases u with
  | content s => cases s <;> rfl
  | switch enabled => rfl

variable {u v : PartialUpdate}

theorem kind_put (u : PartialUpdate) (p : IdentityProvider) : (u.put p).kind = p.kind := by
  cases u with
  | content s => cases s <;> rfl
  | switch enabled => rfl

theorem name_put (h : ¬u.IsMetadata) (p : IdentityProvider) : (u.put p).name = p.name := by
  cases u with
  | content s =>
    cases s with
    | metadata m => exact absurd rfl h
    | authentication | provisioning | properties => rfl
  | switch enabled => rfl

/-- New metadata bring a name, whatever the provider was called before. -/
theorem name_put_of_isMetadata (h : u.IsMetadata) (p q : IdentityProvider) :
    (u.put p).name = (u.put q).name := by
  cases u with
  | content s =>
    cases s with
    | metadata m => rfl
    | authentication | provisioning | properties => cases h
  | switch enabled => cases h

/-- Built content of another part than metadata breaks no rule. -/
theorem check_of_built (hu : u.Built) (h : ¬u.IsMetadata) (kind : ProviderKind) :
    u.check kind = .ok () := by
  cases u with
  | content s =>
    cases s with
    | metadata m => exact absurd rfl h
    | authentication a => exact Authentication.Built.valid hu
    | provisioning p => exact Provisioning.Built.valid hu
    | properties delta => rfl
  | switch enabled => rfl

/-- Metadata have no connectors. -/
theorem count_of_isMetadata (h : u.IsMetadata) (kind : ConnectorKind) : u.count kind = 0 := by
  cases u with
  | content s =>
    cases s with
    | metadata m => rfl
    | authentication | provisioning | properties => cases h
  | switch enabled => cases h

theorem put_withId (u : PartialUpdate) (p : IdentityProvider) (id : ProviderId) :
    u.put (p.withId id) = (u.put p).withId id := by
  cases u with
  | content s => cases s <;> rfl
  | switch enabled => rfl

/-- Writes of different parts commute. -/
theorem put_comm (h : u.part ≠ v.part) (p : IdentityProvider) :
    u.put (v.put p) = v.put (u.put p) := by
  cases u with
  | content s =>
    cases v with
    | content s' => cases s <;> cases s' <;> first | rfl | exact absurd rfl h
    | switch enabled => cases s <;> rfl
  | switch enabled =>
    cases v with
    | content s => cases s <;> rfl
    | switch enabled' => exact absurd rfl h

end PartialUpdate

/-! ## Addressed updates -/

/-- An update of a part of the provider with an identifier. -/
structure AddressedUpdate where
  id : ProviderId
  update : PartialUpdate

namespace AddressedUpdate

variable {u v : AddressedUpdate}

/-- The updates write different parts, and one of them at most is of metadata. -/
structure Apart (u v : AddressedUpdate) : Prop where
  parts : u.id = v.id → u.update.part ≠ v.update.part
  metadata : ¬(u.update.IsMetadata ∧ v.update.IsMetadata)

theorem Apart.symm (h : u.Apart v) : v.Apart u where
  parts hid hpart := h.parts hid.symm hpart.symm
  metadata hboth := h.metadata hboth.symm

/-- What becomes of the provider at a place. -/
def rewrite (u : AddressedUpdate) (k : Nat) (p : IdentityProvider) : IdentityProvider :=
  if k = u.id.value then u.update.put p else p

theorem kind_rewrite (u : AddressedUpdate) (k : Nat) (p : IdentityProvider) :
    (u.rewrite k p).kind = p.kind := by
  unfold rewrite
  split
  · exact u.update.kind_put p
  · rfl

theorem name_rewrite (h : ¬u.update.IsMetadata) (k : Nat) (p : IdentityProvider) :
    (u.rewrite k p).name = p.name := by
  unfold rewrite
  split
  · exact PartialUpdate.name_put h p
  · rfl

/-- Updates of different parts rewrite providers in either order. -/
theorem rewrite_comm (h : u.Apart v) (k : Nat) (p : IdentityProvider) :
    u.rewrite k (v.rewrite k p) = v.rewrite k (u.rewrite k p) := by
  unfold rewrite
  by_cases hu : k = u.id.value
  · by_cases hv : k = v.id.value
    · simp only [if_pos hu, if_pos hv]
      exact PartialUpdate.put_comm (h.parts (Id.ext (hu.symm.trans hv))) p
    · simp only [if_pos hu, if_neg hv]
  · simp only [if_neg hu]

end AddressedUpdate

/-- The answer of a store to an addressed update. -/
def ProviderStore.perform {σ : Type} [ProviderStore σ] (s : σ) (u : AddressedUpdate) :
    Answer σ Unit :=
  match u.update with
  | .content c => answer s (.updateSection u.id c)
  | .switch enabled => answer s (.switch .identityProvider u.id enabled)

/-- Where nothing is demanded of values, an update with built content is admissible. -/
theorem SectionUpdate.admissible {s : SectionUpdate} (h : s.Built) (id : ProviderId) :
    Request.Admissible {} (.updateSection id s) := by
  refine ⟨h, ?_⟩
  cases s with
  | metadata m => trivial
  | authentication a => exact fun _ _ _ _ _ _ => trivial
  | provisioning p => exact fun _ _ _ _ _ _ => trivial
  | properties delta => exact fun _ _ _ => trivial

/-! ## In memory -/

/-- Names that stay are where they were. -/
theorem Shelf.place?_mapValues {e : Entity} (s : Shelf e) {f : Nat → e.Aggregate → e.Aggregate}
    (h : ∀ k a, e.nameOf (f k a) = e.nameOf a) (name : String) :
    ({ s with items := s.items.mapValues f } : Shelf e).place? name = s.place? name := by
  simp only [place?, Dict.mapValues, List.find?_map, Function.comp_def, h, Option.map_map]

namespace MemoryStore

variable {d : Demand} {m : MemoryStore} {u v : AddressedUpdate}

/-- What an update is answered with. -/
def verdict (m : MemoryStore) (u : AddressedUpdate) : Except RegistryError Unit :=
  match m.providers.items.find? u.id.value with
  | none => .error (.noSuchId u.id)
  | some p =>
    match u.update.check p.kind with
    | .error err => .error (.ofModel err)
    | .ok () => m.providers.checkName (u.update.put p).name (some u.id.value)

/-- The store with the part written. -/
def put (m : MemoryStore) (u : AddressedUpdate) : MemoryStore :=
  { m with providers := { m.providers with items := m.providers.items.mapValues u.rewrite } }

theorem perform_eq_written (m : MemoryStore) (u : AddressedUpdate) :
    ProviderStore.perform m u =
      m.written .identityProvider (m.providers.modify u.id u.update.change) := by
  obtain ⟨id, update⟩ := u
  cases update <;> rfl

theorem find?_put (m : MemoryStore) (u : AddressedUpdate) (k : Nat) :
    (m.put u).providers.items.find? k = (m.providers.items.find? k).map (u.rewrite k) :=
  Dict.find?_mapValues _ _ _

/-- An aggregate that stands under its identifier is rewritten in its place. -/
theorem insert_put (hm : m.Kept d) {p : IdentityProvider}
    (hfind : m.providers.items.find? u.id.value = some p) :
    m.providers.items.insert u.id.value ((u.update.put p).withId u.id) =
      m.providers.items.mapValues u.rewrite := by
  refine Dict.ext_find? fun k => ?_
  rw [Dict.find?_insert, Dict.find?_mapValues]
  split
  · rename_i hk
    obtain ⟨id, hid, hvalue⟩ := (hm .identityProvider).stamped _ _ hfind
    obtain rfl : id = u.id := Id.ext hvalue
    subst hk
    rw [hfind, Option.map_some, AddressedUpdate.rewrite, if_pos rfl, ← PartialUpdate.put_withId]
    exact congrArg (fun q => some (u.update.put q)) (Entity.withId_of_idOf hid)
  · rename_i hk
    have hsame : u.rewrite k = id := funext fun p => if_neg (Ne.symm hk)
    rw [hsame, Option.map_id, id]

/-- **What an update comes to**: it is answered by its verdict, and where that is favourable its
part is written. -/
theorem perform_eq (hm : m.Kept d) (u : AddressedUpdate) :
    ProviderStore.perform m u =
      m.written .identityProvider ((m.verdict u).map fun _ => (m.put u).providers) := by
  rw [perform_eq_written, Shelf.modify, verdict]
  cases hfind : m.providers.items.find? u.id.value with
  | none => rfl
  | some p =>
    have hinsert := insert_put hm hfind
    simp only [PartialUpdate.change_eq]
    cases u.update.check p.kind with
    | error err => rfl
    | ok _ =>
      show m.written .identityProvider
        ((m.providers.checkName (u.update.put p).name (some u.id.value)).bind fun _ =>
          .ok { m.providers with
            items := m.providers.items.insert u.id.value ((u.update.put p).withId u.id) }) = _
      rw [hinsert]
      cases m.providers.checkName (u.update.put p).name (some u.id.value) <;> rfl

theorem result_perform (hm : m.Kept d) (u : AddressedUpdate) :
    (ProviderStore.perform m u).result = m.verdict u := by
  rw [perform_eq hm]
  cases m.verdict u <;> rfl

theorem store_perform (hm : m.Kept d) (u : AddressedUpdate) :
    (ProviderStore.perform m u).store = if (m.verdict u).isOk then m.put u else m := by
  rw [perform_eq hm]
  cases m.verdict u <;> rfl

theorem kept_perform (hm : m.Kept {}) (hu : u.update.Built) :
    (ProviderStore.perform m u).store.Kept {} := by
  obtain ⟨id, update⟩ := u
  cases update with
  | content s => exact kept_answer (r := .updateSection id s) hm (SectionUpdate.admissible hu id)
  | switch enabled => exact kept_answer (r := .switch .identityProvider id enabled) hm trivial

/-- Only metadata are ever refused to a provider that is there. -/
theorem verdict_of_not_isMetadata (hm : m.Kept d) (hu : u.update.Built)
    (h : ¬u.update.IsMetadata) :
    m.verdict u =
      if m.providers.items.contains u.id.value then .ok () else .error (.noSuchId u.id) := by
  rw [verdict, Dict.contains]
  cases hfind : m.providers.items.find? u.id.value with
  | none => rfl
  | some p =>
    simp only [PartialUpdate.check_of_built hu h, PartialUpdate.name_put h]
    exact Shelf.checkName_self (hm .identityProvider).toOrdered hfind

/-- An update writes connectors where it is granted, and would write none where it is not. -/
theorem count_eq (hm : m.Kept d) (hu : u.update.Built) (kind : ConnectorKind) :
    (if (m.verdict u).isOk then u.update.count kind else 0) =
      if m.providers.items.contains u.id.value then u.update.count kind else 0 := by
  by_cases h : u.update.IsMetadata
  · rw [PartialUpdate.count_of_isMetadata h, ite_self, ite_self]
  · rw [verdict_of_not_isMetadata hm hu h]
    cases m.providers.items.contains u.id.value <;> rfl

/-- No update brings or removes a provider. -/
theorem contains_perform (hm : m.Kept d) (u : AddressedUpdate) (k : Nat) :
    (ProviderStore.perform m u).store.providers.items.contains k =
      m.providers.items.contains k := by
  rw [store_perform hm]
  split
  · rw [Dict.contains, Dict.contains, find?_put, Option.isSome_map]
  · rfl

/-! ### Two updates -/

/-- An update of another part leaves the verdict as it is. -/
theorem verdict_put (hm : m.Kept d) (hput : (m.put u).Kept d) (h : u.Apart v) :
    (m.put u).verdict v = m.verdict v := by
  unfold verdict
  rw [find?_put]
  cases hfind : m.providers.items.find? v.id.value with
  | none => rfl
  | some p =>
    have hfind' : (m.put u).providers.items.find? v.id.value = some (u.rewrite v.id.value p) := by
      rw [find?_put, hfind]
      rfl
    simp only [Option.map_some, AddressedUpdate.kind_rewrite]
    cases v.update.check p.kind with
    | error err => rfl
    | ok _ =>
      dsimp only
      by_cases hv : v.update.IsMetadata
      · -- the other update changes no name, so that the new one is free or taken as before
        have hu : ¬u.update.IsMetadata := fun hu => h.metadata ⟨hu, hv⟩
        have hplace := m.providers.place?_mapValues (AddressedUpdate.name_rewrite hu)
        rw [PartialUpdate.name_put_of_isMetadata hv _ p]
        unfold Shelf.checkName
        rw [show (m.put u).providers.place? _ = _ from hplace _]
      · -- the name is the provider's own before and after
        rw [PartialUpdate.name_put hv, PartialUpdate.name_put hv]
        have hbefore := Shelf.checkName_self (hm .identityProvider).toOrdered hfind
        have hafter := Shelf.checkName_self (hput .identityProvider).toOrdered hfind'
        exact hafter.trans hbefore.symm

theorem put_comm (m : MemoryStore) (h : u.Apart v) : (m.put u).put v = (m.put v).put u := by
  have hitems : (m.providers.items.mapValues u.rewrite).mapValues v.rewrite =
      (m.providers.items.mapValues v.rewrite).mapValues u.rewrite :=
    Dict.ext_find? fun k => by
      simp only [Dict.find?_mapValues, Option.map_map, Function.comp_def,
        AddressedUpdate.rewrite_comm h]
  simp only [put, hitems]

/-- An update of another part that came before makes no difference to the verdict. -/
theorem verdict_perform (hm : m.Kept {}) (hu : u.update.Built) (h : u.Apart v) :
    (ProviderStore.perform m u).store.verdict v = m.verdict v := by
  have hkept := kept_perform hm hu
  rw [store_perform hm] at hkept ⊢
  cases hverdict : (m.verdict u).isOk with
  | true =>
    simp only [hverdict, if_true] at hkept ⊢
    exact verdict_put hm hkept h
  | false => rfl

/-- **Updates of different parts commute.** Each is answered as if it came first, and what they
leave is the same in either order. -/
theorem perform_comm (hm : m.Kept {}) (hu : u.update.Built) (hv : v.update.Built)
    (h : u.Apart v) :
    (ProviderStore.perform (ProviderStore.perform m u).store v).result =
        (ProviderStore.perform m v).result ∧
      (ProviderStore.perform (ProviderStore.perform m u).store v).store =
        (ProviderStore.perform (ProviderStore.perform m v).store u).store := by
  have hkeptu := kept_perform hm hu
  have hkeptv := kept_perform hm hv
  refine ⟨?_, ?_⟩
  · rw [result_perform hkeptu, result_perform hm, verdict_perform hm hu h]
  · rw [store_perform hkeptu, store_perform hkeptv, verdict_perform hm hu h,
      verdict_perform hm hv h.symm, store_perform hm, store_perform hm]
    cases (m.verdict u).isOk <;> cases (m.verdict v).isOk
    case true.true => exact put_comm m h
    all_goals rfl

end MemoryStore

end FederationRegistry
