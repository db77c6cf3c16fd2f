import FederationRegistry.Proofs.Dict
import FederationRegistry.Proofs.Drafts.Parts

/-!
# Entries of a draft

Nine collections of a draft are kept by key. Each holds at most one entry in a *slot*, which is
the collection with a key. An add edit brings entries, one or many of one collection, and the
last of them that it does not ignore has the slot (`held?_edit`).

A plural add is its entries added one by one (`edit_eq_adds`), except that it starts an
authentication section when there is nothing to add. So the law of a single add (`held?_add`),
which takes one case for each collection, carries over to all adds by induction on the entries.

A draft is what its entries and its other parts are (`ext_entries`). Adds of different slots
therefore commute (`edit_comm_of_slots`), and of two adds of one slot one is as good as both
(`add_add`).
-/

namespace FederationRegistry.IdentityProvider.Draft

/-! ## Entries and slots -/

/-- An entry of a collection. -/
inductive Entry where
  | certificate (certAlias thumbprint : String)
  | roleMapping (localRole : Nat) (externalRole : String)
  | requestedClaim (uri : String)
  | authenticator (c : Connector)
  | jitProvider (name : String)
  | claim (c : ProvisioningClaim)
  | role (name : String)
  | provisioner (c : Connector)
  | property (key : String) (value : PropertyValue)
deriving DecidableEq

/-- The place of an entry: its collection and its key there. -/
inductive Slot where
  | certificate (certAlias : String)
  | roleMapping (localRole : Nat)
  | requestedClaim (uri : String)
  | authenticator (name : String)
  | jitProvider (name : String)
  | claim (uri : String)
  | role (name : String)
  | provisioner (name : String)
  | property (key : String)
deriving DecidableEq

/-- The part that the collection belongs to. -/
def Slot.part : Slot → Part
  | .certificate _ => .metadata .certificates
  | .roleMapping _ => .metadata .roleMappings
  | .requestedClaim _ | .authenticator _ => .authentication
  | .jitProvider _ | .claim _ | .role _ | .provisioner _ => .provisioning
  | .property _ => .properties

namespace Entry

/-- Where the entry stands. -/
def slot : Entry → Slot
  | .certificate certAlias _ => .certificate certAlias
  | .roleMapping localRole _ => .roleMapping localRole
  | .requestedClaim uri => .requestedClaim uri
  | .authenticator c => .authenticator c.name
  | .jitProvider name => .jitProvider name
  | .claim c => .claim c.uri
  | .role name => .role name
  | .provisioner c => .provisioner c.name
  | .property key _ => .property key

/-- The entry is not ignored: of a certificate neither part is blank, and a property can be set. -/
def taken : Entry → Bool
  | .certificate certAlias thumbprint => !(Text.isBlank certAlias || Text.isBlank thumbprint)
  | .property key value => PropertyMap.settable key value
  | _ => true

/-- The edit that adds the entry. -/
def add : Entry → Edit
  | .certificate certAlias thumbprint => .editMetadata (.addCertificate certAlias thumbprint)
  | .roleMapping localRole externalRole => .editMetadata (.addRoleMapping localRole externalRole)
  | .requestedClaim uri => .editAuthentication (.addRequestedClaim uri)
  | .authenticator c => .editAuthentication (.addAuthenticator c)
  | .jitProvider name => .editProvisioning (.addJitProvider name)
  | .claim c => .editProvisioning (.addClaim c)
  | .role name => .editProvisioning (.addRole name)
  | .provisioner c => .editProvisioning (.addProvisioner c)
  | .property key value => .addProperty key value

theorem parts_add (x : Entry) : x.add.parts = [x.slot.part] := by
  cases x <;> rfl

end Entry

/-- The entry in a slot. -/
def held? (d : Draft) : Slot → Option Entry
  | .certificate certAlias =>
    (d.metadata.certificates.find? certAlias).map (.certificate certAlias)
  | .roleMapping localRole => (d.metadata.roleMappings.find? localRole).map (.roleMapping localRole)
  | .requestedClaim uri =>
    ((d.authentication.getD {}).requestedClaims.find? uri).map fun _ => .requestedClaim uri
  | .authenticator name =>
    ((d.authentication.getD {}).authenticators.find? name).map .authenticator
  | .jitProvider name => (d.provisioning.jitProviders.find? name).map fun _ => .jitProvider name
  | .claim uri => (d.provisioning.claims.find? uri).map .claim
  | .role name => (d.provisioning.roles.find? name).map fun _ => .role name
  | .provisioner name => (d.provisioning.provisioners.find? name).map .provisioner
  | .property key => (d.properties.find? key).map (.property key)

/-- The last entry of a list that takes the slot. -/
def last? (s : Slot) : List Entry → Option Entry
  | [] => none
  | x :: xs => (last? s xs).or (if x.taken ∧ x.slot = s then some x else none)

theorem mem_of_last? {s : Slot} {xs : List Entry} {x : Entry} (h : last? s xs = some x) :
    x ∈ xs ∧ x.slot = s := by
  induction xs with
  | nil => cases h
  | cons y ys ih =>
    rcases Option.or_eq_some_iff.mp h with h | ⟨-, h⟩
    · exact ⟨List.mem_cons_of_mem y (ih h).1, (ih h).2⟩
    · split at h
      · rename_i hy
        cases h
        exact ⟨List.mem_cons_self, hy.2⟩
      · cases h

/-! ## Single adds -/

/-- What is in a slot is a matter of the part that it belongs to. -/
theorem held?_congr {d d' : Draft} {s : Slot} (h : d.part s.part = d'.part s.part) :
    d.held? s = d'.held? s := by
  cases s <;> simp only [Slot.part, part, Metadata.part] at h <;> simp only [held?, h]

theorem find?_putCertificate (d : Dict String String) (certAlias thumbprint k : String) :
    (Metadata.putCertificate d certAlias thumbprint).find? k =
      if (Entry.certificate certAlias thumbprint).taken ∧ certAlias = k then some thumbprint
      else d.find? k := by
  unfold Metadata.putCertificate
  split
  · rename_i hblank
    simp [Entry.taken, hblank]
  · rename_i hblank
    simp [Entry.taken, hblank, Dict.find?_insert]

theorem held?_add_self (d : Draft) (x : Entry) :
    (d.edit x.add).held? x.slot = if x.taken then some x else d.held? x.slot := by
  cases x with
  | certificate certAlias thumbprint =>
    simp only [Entry.add, Entry.slot, edit, Metadata.edit, held?, find?_putCertificate, and_true]
    exact apply_ite (Option.map (Entry.certificate certAlias)) ..
  | property key value =>
    simp only [Entry.add, Entry.slot, Entry.taken, edit, held?, PropertyMap.find?_put, and_true]
    exact apply_ite (Option.map (Entry.property key)) ..
  | _ =>
    simp only [Entry.add, Entry.slot, Entry.taken, edit, Metadata.edit, Authentication.edit,
      Provisioning.edit, Provisioning.putClaim, KeySet.add, ConnectorMap.add, held?,
      Option.getD_some, Dict.find?_insert, if_true, Option.map_some]

theorem held?_add_of_ne {d : Draft} {x : Entry} {s : Slot} (h : x.slot ≠ s) :
    (d.edit x.add).held? s = d.held? s := by
  cases x with
  | certificate certAlias thumbprint =>
    cases s with
    | certificate k =>
      have hne : ¬certAlias = k := fun heq => h (congrArg Slot.certificate heq)
      simp only [Entry.add, edit, Metadata.edit, held?, find?_putCertificate, hne, and_false,
        if_false]
    | _ => rfl
  | property key value =>
    cases s with
    | property k =>
      have hne : ¬key = k := fun heq => h (congrArg Slot.property heq)
      simp only [Entry.add, edit, held?, PropertyMap.find?_put, hne, and_false, if_false]
    | _ => rfl
  | _ =>
    -- A slot of another collection is not touched at all, and in this one the keys differ.
    cases s <;> first
    | rfl
    | simp_all [Entry.add, Entry.slot, edit, Metadata.edit, Authentication.edit,
      Provisioning.edit, Provisioning.putClaim, KeySet.add, ConnectorMap.add, held?,
      Dict.find?_insert]

/-- **An add that is not ignored has its slot.** -/
theorem held?_add (d : Draft) (x : Entry) (s : Slot) :
    (d.edit x.add).held? s = if x.taken ∧ x.slot = s then some x else d.held? s := by
  by_cases h : x.slot = s
  · subst h
    simp [held?_add_self]
  · simp [h, held?_add_of_ne h]

/-! ## Adds of many -/

/-- What an add edit adds. -/
def Edit.adds? : Edit → Option (List Entry)
  | .editMetadata (.addCertificate certAlias thumbprint) =>
    some [.certificate certAlias thumbprint]
  | .editMetadata (.addCertificates certificates) =>
    some (certificates.entries.map fun e => .certificate e.1 e.2)
  | .editMetadata (.addRoleMapping localRole externalRole) =>
    some [.roleMapping localRole externalRole]
  | .editMetadata (.addRoleMappings mappings) =>
    some (mappings.entries.map fun e => .roleMapping e.1 e.2)
  | .editAuthentication (.addRequestedClaim uri) => some [.requestedClaim uri]
  | .editAuthentication (.addRequestedClaims uris) => some (uris.map .requestedClaim)
  | .editAuthentication (.addAuthenticator c) => some [.authenticator c]
  | .editAuthentication (.addAuthenticators cs) => some (cs.map .authenticator)
  | .editProvisioning (.addJitProvider name) => some [.jitProvider name]
  | .editProvisioning (.addJitProviders names) => some (names.map .jitProvider)
  | .editProvisioning (.addClaim c) => some [.claim c]
  | .editProvisioning (.addClaims cs) => some (cs.map .claim)
  | .editProvisioning (.addRole name) => some [.role name]
  | .editProvisioning (.addRoles names) => some (names.map .role)
  | .editProvisioning (.addProvisioner c) => some [.provisioner c]
  | .editProvisioning (.addProvisioners cs) => some (cs.map .provisioner)
  | .addProperty key value => some [.property key value]
  | .addProperties properties => some (properties.entries.map fun e => .property e.1 e.2)
  | _ => none

theorem adds?_add (x : Entry) : x.add.adds? = some [x] := by
  cases x <;> rfl

/-- The draft with an authentication section, if the edit is one of it. -/
def started (d : Draft) : Edit → Draft
  | .editAuthentication _ => { d with authentication := some (d.authentication.getD {}) }
  | _ => d

/-- Adds to one collection, where `f` puts the collection into the draft. -/
theorem edits_adds {α β : Type} {f : β → Draft} {g : β → α → β} {entry : α → Entry}
    (h : ∀ b a, (f b).edit (entry a).add = f (g b a)) (as : List α) (b : β) :
    (f b).edits ((as.map entry).map Entry.add) = f (as.foldl g b) := by
  rw [edits, List.foldl_map, List.foldl_map]
  exact List.foldl_hom f h

theorem editMetadata_eq_adds (d : Draft) {e : Metadata.Edit} {xs : List Entry}
    (h : (Edit.editMetadata e).adds? = some xs) :
    d.edit (.editMetadata e) = d.edits (xs.map Entry.add) := by
  cases e with
  | addCertificates certificates =>
    cases h
    exact (edits_adds (f := fun cs => { d with metadata := { d.metadata with certificates := cs } })
      (fun _ _ => rfl) _ _).symm
  | addRoleMappings mappings =>
    cases h
    exact (edits_adds (f := fun ms => { d with metadata := { d.metadata with roleMappings := ms } })
      (fun _ _ => rfl) _ _).symm
  | _ => cases h <;> rfl

theorem editAuthentication_eq_adds (d : Draft) {e : Authentication.Edit} {xs : List Entry}
    (h : (Edit.editAuthentication e).adds? = some xs) :
    d.edit (.editAuthentication e) =
      { d with authentication := some (d.authentication.getD {}) }.edits (xs.map Entry.add) := by
  cases e with
  | addRequestedClaims uris =>
    cases h
    exact (edits_adds (f := fun claims =>
      { d with authentication := some { d.authentication.getD {} with requestedClaims := claims } })
      (fun _ _ => rfl) _ _).symm
  | addAuthenticators cs =>
    cases h
    exact (edits_adds (f := fun cs =>
      { d with authentication := some { d.authentication.getD {} with authenticators := cs } })
      (fun _ _ => rfl) _ _).symm
  | _ => cases h <;> rfl

theorem editProvisioning_eq_adds (d : Draft) {e : Provisioning.Edit} {xs : List Entry}
    (h : (Edit.editProvisioning e).adds? = some xs) :
    d.edit (.editProvisioning e) = d.edits (xs.map Entry.add) := by
  cases e with
  | addJitProviders names =>
    cases h
    exact (edits_adds (f := fun names =>
      { d with provisioning := { d.provisioning with jitProviders := names } })
      (fun _ _ => rfl) _ _).symm
  | addClaims cs =>
    cases h
    exact (edits_adds (f := fun cs =>
      { d with provisioning := { d.provisioning with claims := cs } })
      (fun _ _ => rfl) _ _).symm
  | addRoles names =>
    cases h
    exact (edits_adds (f := fun names =>
      { d with provisioning := { d.provisioning with roles := names } })
      (fun _ _ => rfl) _ _).symm
  | addProvisioners cs =>
    cases h
    exact (edits_adds (f := fun cs =>
      { d with provisioning := { d.provisioning with provisioners := cs } })
      (fun _ _ => rfl) _ _).symm
  -- the others add one entry, or replace the collection and add none
  | _ => cases h <;> rfl

/-- A plural add is its entries added one by one. -/
theorem edit_eq_adds (d : Draft) {e : Edit} {xs : List Entry} (h : e.adds? = some xs) :
    d.edit e = (d.started e).edits (xs.map Entry.add) := by
  cases e with
  | editMetadata e => exact editMetadata_eq_adds d h
  | editAuthentication e => exact editAuthentication_eq_adds d h
  | editProvisioning e => exact editProvisioning_eq_adds d h
  | addProperties properties =>
    cases h
    exact (edits_adds (f := fun m => { d with properties := m }) (fun _ _ => rfl) _ _).symm
  | _ => cases h <;> rfl

/-- **The last add that is not ignored has the slot.** -/
theorem held?_edit (d : Draft) {e : Edit} {xs : List Entry} (h : e.adds? = some xs) (s : Slot) :
    (d.edit e).held? s = (last? s xs).or (d.held? s) := by
  have hadds : ∀ (ys : List Entry) (d : Draft),
      (d.edits (ys.map Entry.add)).held? s = (last? s ys).or (d.held? s) := by
    intro ys
    induction ys with
    | nil =>
      intro d
      rfl
    | cons y ys ih =>
      intro d
      have hstep := ih (d.edit y.add)
      rw [held?_add] at hstep
      refine hstep.trans ?_
      rw [last?, Option.or_assoc]
      split <;> rfl
  have hstarted : (d.started e).held? s = d.held? s := by
    cases e <;> cases s <;> rfl
  rw [edit_eq_adds d h, hadds, hstarted]

/-! ## Drafts by their entries -/

/-- The part consists of collections. -/
def Part.keyed : Part → Bool
  | .metadata .certificates | .metadata .roleMappings => true
  | .authentication | .provisioning | .properties => true
  | _ => false

/-- An add is about parts that consist of collections. -/
theorem keyed_of_mem_parts {e : Edit} {xs : List Entry} (h : e.adds? = some xs) {p : Part}
    (hp : p ∈ e.parts) : p.keyed = true := by
  cases e with
  | editMetadata e =>
    obtain rfl := List.mem_singleton.mp hp
    cases e <;> first | rfl | cases h
  | editAuthentication e =>
    obtain rfl := List.mem_singleton.mp hp
    rfl
  | editProvisioning e =>
    obtain rfl := List.mem_singleton.mp hp
    rfl
  | addProperty key value =>
    obtain rfl := List.mem_singleton.mp hp
    rfl
  | addProperties properties =>
    obtain rfl := List.mem_singleton.mp hp
    rfl
  | _ => cases h

theorem part_edit_of_adds (d : Draft) {e : Edit} {xs : List Entry} (h : e.adds? = some xs)
    {p : Part} (hp : p.keyed = false) : (d.edit e).part p = d.part p := by
  refine part_edit_of_not_mem fun hmem => ?_
  rw [keyed_of_mem_parts h hmem] at hp
  cases hp

/-- An edit of authentication starts a section. -/
theorem isSome_authentication_edit (d : Draft) (e : Edit) : (d.edit e).authentication.isSome =
    (d.authentication.isSome || decide (Part.authentication ∈ e.parts)) := by
  cases e <;> simp [edit, Edit.parts]

section Ext

variable {d d' : Draft}

/-- A dictionary of a draft is known by the entries that its values make. -/
theorem ext_collection {κ α : Type} [Key κ] [DecidableEq κ] {c c' : Dict κ α}
    {entry : κ → α → Entry} (hentry : ∀ k, Function.Injective (entry k))
    (h : ∀ k, (c.find? k).map (entry k) = (c'.find? k).map (entry k)) : c = c' :=
  Dict.ext_find? fun k => Option.map_injective (hentry k) (h k)

theorem authentication_eq_of_entries (hstarted : d.authentication.isSome = d'.authentication.isSome)
    (hentries : ∀ s, d.held? s = d'.held? s) : d.authentication = d'.authentication := by
  have hclaims : (d.authentication.getD {}).requestedClaims =
      (d'.authentication.getD {}).requestedClaims :=
    ext_collection (fun k _ _ _ => rfl) fun k => hentries (.requestedClaim k)
  have hauthenticators : (d.authentication.getD {}).authenticators =
      (d'.authentication.getD {}).authenticators :=
    ext_collection (fun k _ _ h => Entry.authenticator.inj h) fun k => hentries (.authenticator k)
  -- an absent section and an empty one hold the same entries, so `hstarted` tells them apart
  cases ha : d.authentication with
  | none =>
    rw [ha] at hstarted
    exact (Option.isSome_eq_false_iff.mp hstarted.symm |> Option.isNone_iff_eq_none.mp).symm
  | some a =>
    rw [ha] at hstarted
    obtain ⟨b, hb⟩ := Option.isSome_iff_exists.mp hstarted.symm
    rw [ha, hb] at hclaims hauthenticators
    obtain ⟨claims, authenticators⟩ := a
    obtain ⟨claims', authenticators'⟩ := b
    cases hclaims
    cases hauthenticators
    exact hb.symm

theorem provisioning_eq_of_entries (hentries : ∀ s, d.held? s = d'.held? s) :
    d.provisioning = d'.provisioning := by
  have hproviders : d.provisioning.jitProviders = d'.provisioning.jitProviders :=
    ext_collection (fun k _ _ _ => rfl) fun k => hentries (.jitProvider k)
  have hclaims : d.provisioning.claims = d'.provisioning.claims :=
    ext_collection (fun k _ _ h => Entry.claim.inj h) fun k => hentries (.claim k)
  have hroles : d.provisioning.roles = d'.provisioning.roles :=
    ext_collection (fun k _ _ _ => rfl) fun k => hentries (.role k)
  have hprovisioners : d.provisioning.provisioners = d'.provisioning.provisioners :=
    ext_collection (fun k _ _ h => Entry.provisioner.inj h) fun k => hentries (.provisioner k)
  cases hp : d.provisioning
  cases hp' : d'.provisioning
  rw [hp, hp'] at hproviders hclaims hroles hprovisioners
  cases hproviders
  cases hclaims
  cases hroles
  cases hprovisioners
  rfl

/-- **A draft is what its entries and its other parts are.** -/
theorem ext_entries (hkind : d.kind = d'.kind)
    (hplain : ∀ p, p.keyed = false → d.part p = d'.part p)
    (hstarted : d.authentication.isSome = d'.authentication.isSome)
    (hentries : ∀ s, d.held? s = d'.held? s) : d = d' := by
  refine ext_part hkind fun p => ?_
  cases hp : p.keyed with
  | false => exact hplain p hp
  | true =>
    -- a part that is keyed is the collection of its entries
    match p with
    | .metadata .certificates =>
      exact ext_collection (fun k _ _ h => (Entry.certificate.inj h).2)
        fun k => hentries (.certificate k)
    | .metadata .roleMappings =>
      exact ext_collection (fun k _ _ h => (Entry.roleMapping.inj h).2)
        fun k => hentries (.roleMapping k)
    | .authentication => exact authentication_eq_of_entries hstarted hentries
    | .provisioning => exact provisioning_eq_of_entries hentries
    | .properties =>
      exact ext_collection (fun k _ _ h => (Entry.property.inj h).2)
        fun k => hentries (.property k)

end Ext

/-! ## Adds and other adds -/

/-- **Adds of different slots commute.** -/
theorem edit_comm_of_slots (d : Draft) {a b : Edit} {xs ys : List Entry} (ha : a.adds? = some xs)
    (hb : b.adds? = some ys) (h : ∀ x ∈ xs, ∀ y ∈ ys, x.slot ≠ y.slot) :
    (d.edit a).edit b = (d.edit b).edit a := by
  refine ext_entries (by simp only [kind_edit]) (fun p hp => ?_) ?_ fun s => ?_
  · simp only [part_edit_of_adds _ ha hp, part_edit_of_adds _ hb hp]
  · simp only [isSome_authentication_edit, Bool.or_right_comm]
  · rw [held?_edit _ hb, held?_edit _ ha, held?_edit _ ha, held?_edit _ hb]
    cases hx : last? s xs with
    | none => rfl
    | some x =>
      cases hy : last? s ys with
      | none => rfl
      | some y =>
        obtain ⟨hmx, hsx⟩ := mem_of_last? hx
        obtain ⟨hmy, hsy⟩ := mem_of_last? hy
        exact absurd (hsx.trans hsy.symm) (h x hmx y hmy)

/-- **Of two adds of one slot the later one counts**, or the earlier one if the later is
ignored. -/
theorem add_add (d : Draft) {x y : Entry} (h : x.slot = y.slot) :
    (d.edit x.add).edit y.add = d.edit (if y.taken then y else x).add := by
  have hslot : (if y.taken then y else x).slot = y.slot := by
    split
    · rfl
    · exact h
  refine ext_entries (by simp only [kind_edit]) (fun p hp => ?_) ?_ fun s => ?_
  · simp only [part_edit_of_adds _ (adds?_add _) hp]
  · simp only [isSome_authentication_edit, Entry.parts_add, hslot, h, Bool.or_assoc, Bool.or_self]
  · simp only [held?_add, hslot, h]
    by_cases hs : y.slot = s
    · cases hy : y.taken <;> simp [hs, hy]
    · simp [hs]

end FederationRegistry.IdentityProvider.Draft
