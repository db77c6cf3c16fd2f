import FederationRegistry.Proofs.PropertyText
import FederationRegistry.Store.Memory

/-!
# What the store in memory keeps

A shelf is in order (`Shelf.Ordered`) when every aggregate stands under its own identifier, none
beyond the last one given out, and no two have the same name. Requests keep both shelves in order
and what is on them sound.

**Values.** Beyond that aggregates keep whatever is demanded of the values in them (`Demand`): no
store looks into values, so what holds of all values that come in holds of all that are stored.

Main statement: `MemoryStore.kept_answer`.
-/

namespace FederationRegistry

/-! ## Demands on values -/

/-- What is demanded of the values inside aggregates. -/
structure Demand where
  property : PropertyValue → Prop := fun _ => True
  sections : Sections → Prop := fun _ => True

variable {d : Demand}

namespace Entity

variable {e : Entity}

/-- The aggregate is sound, and its values are as demanded. -/
def Meets (d : Demand) : (e : Entity) → e.Aggregate → Prop
  | .identityProvider, p => p.Sound ∧ p.HasValues d.property
  | .serviceProvider, p => p.validate = .ok () ∧ d.sections p.sections

/-- The aggregate is one that builders make, and its values are as demanded. -/
def Offered (d : Demand) : (e : Entity) → e.Aggregate → Prop
  | .identityProvider, p => p.Built ∧ p.HasValues d.property
  | .serviceProvider, p => p.Built ∧ d.sections p.sections

theorem Offered.meets {a : e.Aggregate} (h : e.Offered d a) : e.Meets d a := by
  cases e with
  | identityProvider => exact ⟨IdentityProvider.Built.sound h.1, h.2⟩
  | serviceProvider => exact ⟨ServiceProvider.Built.valid h.1, h.2⟩

theorem Meets.withId {a : e.Aggregate} (h : e.Meets d a) (id : Id e) :
    e.Meets d (e.withId a id) := by
  cases e with
  | identityProvider =>
    exact ⟨IdentityProvider.Sound.withId h.1 id, h.2.properties, h.2.authentication,
      h.2.provisioning⟩
  | serviceProvider => exact h

theorem Meets.withEnabled {a : e.Aggregate} (h : e.Meets d a) (enabled : Bool) :
    e.Meets d (e.withEnabled a enabled) := by
  cases e with
  | identityProvider =>
    exact ⟨IdentityProvider.Sound.withEnabled h.1 enabled, h.2.properties, h.2.authentication,
      h.2.provisioning⟩
  | serviceProvider => exact h

theorem idOf_withId (a : e.Aggregate) (id : Id e) : e.idOf (e.withId a id) = some id := by
  cases e <;> rfl

@[simp] theorem nameOf_withId (a : e.Aggregate) (id : Id e) :
    e.nameOf (e.withId a id) = e.nameOf a := by
  cases e <;> rfl

theorem nameOf_withEnabled (e : Entity) (a : e.Aggregate) (enabled : Bool) :
    e.nameOf (e.withEnabled a enabled) = e.nameOf a := by
  cases e <;> rfl

end Entity

/-- The arguments of a request are those that builders make, with values as demanded. -/
def Request.Admissible (d : Demand) : Request → Prop
  | .create e a | .update e a => e.Offered d a
  | .updateSection _ s => s.Built ∧ s.HasValues d.property
  | _ => True

/-- The properties of a provider in a scope are its own or those of a connector. -/
theorem IdentityProvider.of_mem_propertiesIn {p : IdentityProvider} {P : PropertyMap → Prop}
    (hown : P p.properties)
    (hauthenticators : ∀ a, p.authentication = some a →
      ∀ name c, a.authenticators.find? name = some c → P c.properties)
    (hprovisioners : ∀ name c, p.provisioning.provisioners.find? name = some c → P c.properties)
    {scope : PropertyScope} {m : PropertyMap} (hm : m ∈ p.propertiesIn scope) : P m := by
  cases scope with
  | provider =>
    rw [List.mem_singleton.mp hm]
    exact hown
  | authenticator =>
    rw [propertiesIn] at hm
    cases ha : p.authentication with
    | none => rw [ha] at hm; cases hm
    | some a =>
      rw [ha] at hm
      obtain ⟨c, hc, rfl⟩ := List.mem_map.mp hm
      obtain ⟨name, hfind⟩ := Dict.mem_values_iff.mp hc
      exact hauthenticators a ha name c hfind
  | provisioner =>
    obtain ⟨c, hc, rfl⟩ := List.mem_map.mp hm
    obtain ⟨name, hfind⟩ := Dict.mem_values_iff.mp hc
    exact hprovisioners name c hfind

/-! ## Shelves -/

namespace Shelf

variable {e : Entity} {s s' : Shelf e}

/-- Every aggregate stands under its own identifier, none beyond the last one given out, and no
two have the same name. -/
structure Ordered (s : Shelf e) : Prop where
  bounded : ∀ k a, s.items.find? k = some a → k ≤ s.last
  stamped : ∀ k a, s.items.find? k = some a → ∃ id, e.idOf a = some id ∧ id.value = k
  distinct : ∀ j k a b, s.items.find? j = some a → s.items.find? k = some b →
    e.nameOf a = e.nameOf b → j = k

/-- The shelf is in order, and what stands on it sound and as demanded. -/
structure Kept (d : Demand) (s : Shelf e) : Prop extends Ordered s where
  meets : ∀ k a, s.items.find? k = some a → e.Meets d a

theorem place?_eq_some_iff (h : s.Ordered) {name : String} {k : Nat} :
    s.place? name = some k ↔ ∃ a, s.items.find? k = some a ∧ e.nameOf a = name := by
  unfold place?
  rw [Option.map_eq_some_iff]
  constructor
  · rintro ⟨⟨j, a⟩, hfound, rfl⟩
    exact ⟨a, Dict.mem_entries_iff.mp (List.mem_of_find?_eq_some hfound),
      by simpa using List.find?_some hfound⟩
  · rintro ⟨a, hfind, hname⟩
    cases hfound : s.items.entries.find? fun entry => e.nameOf entry.2 == name with
    | none =>
      have hnone := List.find?_eq_none.mp hfound (k, a) (Dict.mem_entries_iff.mpr hfind)
      exact absurd (by simpa using hname) hnone
    | some entry =>
      have hentry : e.nameOf entry.2 = name := by simpa using List.find?_some hfound
      have hmem := Dict.mem_entries_iff.mp (List.mem_of_find?_eq_some hfound)
      exact ⟨entry, rfl, h.distinct _ _ _ _ hmem hfind (hentry.trans hname.symm)⟩

theorem place?_eq_none_iff {name : String} :
    s.place? name = none ↔ ∀ k a, s.items.find? k = some a → e.nameOf a ≠ name := by
  unfold place?
  rw [Option.map_eq_none_iff, List.find?_eq_none]
  constructor
  · intro h k a hfind hname
    exact h (k, a) (Dict.mem_entries_iff.mpr hfind) (by simpa using hname)
  · rintro h ⟨k, a⟩ hmem hname
    exact h k a (Dict.mem_entries_iff.mp hmem) (by simpa using hname)

/-- A name is free for an owner when nobody else has it. -/
theorem checkName_eq_ok_iff (h : s.Ordered) {name : String} {owner : Option Nat} :
    s.checkName name owner = .ok () ↔
      ∀ k a, s.items.find? k = some a → e.nameOf a = name → owner = some k := by
  unfold checkName
  cases hplace : s.place? name with
  | none =>
    have hnone := place?_eq_none_iff.mp hplace
    exact ⟨fun _ k a hfind hname => absurd hname (hnone k a hfind), fun _ => rfl⟩
  | some place =>
    obtain ⟨b, hb, hbname⟩ := (place?_eq_some_iff h).mp hplace
    dsimp only
    split
    · rename_i howner
      refine ⟨fun _ k a hfind hname => ?_, fun _ => rfl⟩
      rw [howner, h.distinct _ _ _ _ hb hfind (hbname.trans hname.symm)]
    · rename_i howner
      constructor
      · intro herr
        cases herr
      · intro hall
        exact absurd (hall place b hb hbname) howner

/-- The name of an aggregate is free for itself. -/
theorem checkName_self (h : s.Ordered) {k : Nat} {a : e.Aggregate}
    (hfind : s.items.find? k = some a) : s.checkName (e.nameOf a) (some k) = .ok () :=
  (checkName_eq_ok_iff h).mpr fun j b hb hname =>
    congrArg some (h.distinct k j a b hfind hb hname.symm)

theorem checkName_eq_error {name : String} {owner : Option Nat} {err : RegistryError}
    (h : s.checkName name owner = .error err) : err = .nameTaken e name := by
  unfold checkName at h
  cases hplace : s.place? name with
  | none => rw [hplace] at h; cases h
  | some place =>
    rw [hplace] at h
    dsimp only at h
    split at h
    · cases h
    · cases h; rfl

theorem kept_empty : ({} : Shelf e).Kept d where
  bounded _ _ h := nomatch h
  stamped _ _ h := nomatch h
  distinct _ _ _ _ h := nomatch h
  meets _ _ h := nomatch h

/-- An aggregate under an identifier that is free or its own keeps the order. -/
theorem kept_insert (h : s.Kept d) {a : e.Aggregate} (ha : e.Meets d a) (id : Id e) {last : Nat}
    (hlast : s.last ≤ last) (hid : id.value ≤ last)
    (hname : s.checkName (e.nameOf a) (some id.value) = .ok ()) :
    Kept d ⟨last, s.items.insert id.value (e.withId a id)⟩ := by
  have hfree := (checkName_eq_ok_iff h.toOrdered).mp hname
  -- whatever is found afterwards is the aggregate that was put or was found before
  have hcases {k : Nat} {b : e.Aggregate}
      (hb : (s.items.insert id.value (e.withId a id)).find? k = some b) :
      (id.value = k ∧ b = e.withId a id) ∨ (id.value ≠ k ∧ s.items.find? k = some b) := by
    rw [Dict.find?_insert] at hb
    split at hb
    · rename_i hk; exact .inl ⟨hk, (Option.some.inj hb).symm⟩
    · rename_i hk; exact .inr ⟨hk, hb⟩
  constructor
  · constructor
    · intro k b hb
      rcases hcases hb with ⟨rfl, -⟩ | ⟨-, hb⟩
      · exact hid
      · exact Nat.le_trans (h.bounded k b hb) hlast
    · intro k b hb
      rcases hcases hb with ⟨rfl, rfl⟩ | ⟨-, hb⟩
      · exact ⟨id, e.idOf_withId a id, rfl⟩
      · exact h.stamped k b hb
    · -- two of one name: the name was free, so the aggregate that was put is neither or both
      intro j k b c hb hc hsame
      rcases hcases hb with ⟨rfl, rfl⟩ | ⟨hj, hb⟩ <;> rcases hcases hc with ⟨rfl, rfl⟩ | ⟨hk, hc⟩
      · rfl
      · rw [Entity.nameOf_withId] at hsame
        exact absurd (Option.some.inj (hfree k c hc hsame.symm)) hk
      · rw [Entity.nameOf_withId] at hsame
        exact absurd (Option.some.inj (hfree j b hb hsame)) hj
      · exact h.distinct j k b c hb hc hsame
  · intro k b hb
    rcases hcases hb with ⟨-, rfl⟩ | ⟨-, hb⟩
    · exact ha.withId id
    · exact h.meets k b hb

/-! ### Changes -/

theorem create_eq_ok_iff {a : e.Aggregate} {id : Id e} :
    s.create a = .ok (id, s') ↔
      s.checkName (e.nameOf a) none = .ok () ∧ id.value = s.last + 1 ∧
        s' = ⟨id.value, s.items.insert id.value (e.withId a id)⟩ := by
  unfold create
  cases hname : s.checkName (e.nameOf a) none with
  | error err => simp [bind, Except.bind]
  | ok _ =>
    cases hid : (Id.ofNat? (s.last + 1) : Option (Id e)) with
    | none =>
      have hne : id.value ≠ s.last + 1 := fun h => by
        rw [Id.ofNat?_eq_some_iff.mpr h] at hid
        cases hid
      simp [bind, Except.bind, throw, throwThe, MonadExceptOf.throw, hne]
    | some i =>
      have hi := Id.ofNat?_eq_some_iff.mp hid
      simp only [bind, Except.bind, pure, Except.pure, Except.ok.injEq, Prod.mk.injEq,
        true_and]
      constructor
      · rintro ⟨rfl, rfl⟩
        exact ⟨hi, rfl⟩
      · -- identifiers of one number are the same
        rintro ⟨hvalue, rfl⟩
        obtain rfl : i = id := Id.ext (hi.trans hvalue.symm)
        exact ⟨rfl, rfl⟩

theorem modify_eq_ok_iff {id : Id e} {change : e.Aggregate → Checked e.Aggregate} :
    s.modify id change = .ok s' ↔
      ∃ current next, s.items.find? id.value = some current ∧ change current = .ok next ∧
        s.checkName (e.nameOf next) (some id.value) = .ok () ∧
        s' = { s with items := s.items.insert id.value (e.withId next id) } := by
  unfold modify
  cases hfind : s.items.find? id.value with
  | none => simp
  | some current =>
    cases hchange : change current with
    | error err => simp [bind, Except.bind, hchange]
    | ok next =>
      cases hname : s.checkName (e.nameOf next) (some id.value) with
      | error err => simp [bind, Except.bind, hchange, hname]
      | ok _ =>
        simp [bind, Except.bind, pure, Except.pure, hchange, hname, eq_comm]

theorem delete_eq_ok_iff {id : Id e} :
    s.delete id = .ok s' ↔
      (∃ a, s.items.find? id.value = some a) ∧ s' = { s with items := s.items.erase id.value } := by
  rw [delete, ← Dict.contains_iff]
  split
  · rename_i h; simp [h, eq_comm]
  · rename_i h; simp [h]

theorem kept_create (h : s.Kept d) {a : e.Aggregate} (ha : e.Meets d a) {id : Id e}
    (hcreate : s.create a = .ok (id, s')) : s'.Kept d := by
  obtain ⟨hname, hid, rfl⟩ := create_eq_ok_iff.mp hcreate
  refine kept_insert h ha id (by omega) (Nat.le_refl _) ?_
  rw [checkName_eq_ok_iff h.toOrdered] at hname ⊢
  exact fun k b hb hsame => nomatch hname k b hb hsame

theorem kept_modify (h : s.Kept d) {id : Id e} {change : e.Aggregate → Checked e.Aggregate}
    (hchange : ∀ a b, e.Meets d a → change a = .ok b → e.Meets d b)
    (hmodify : s.modify id change = .ok s') : s'.Kept d := by
  obtain ⟨current, next, hfind, hnext, hname, rfl⟩ := modify_eq_ok_iff.mp hmodify
  exact kept_insert h (hchange current next (h.meets _ _ hfind) hnext) id (Nat.le_refl _)
    (h.bounded _ _ hfind) hname

/-- On a shelf in order nobody else has the name of an aggregate, so a change that leaves its name and
identifier does not need the look at names. -/
theorem modify_eq_amend (h : s.Ordered) (id : Id e) (change : e.Aggregate → e.Aggregate)
    (hname : ∀ a, e.nameOf (change a) = e.nameOf a)
    (hstamp : ∀ a, e.idOf a = some id → e.withId (change a) id = change a) :
    s.modify id (fun a => .ok (change a)) = s.amend id change := by
  unfold modify amend
  cases hfind : s.items.find? id.value with
  | none => rfl
  | some current =>
    obtain ⟨i, hi, hvalue⟩ := h.stamped id.value current hfind
    obtain rfl := Id.ext hvalue
    have hfree : s.checkName (e.nameOf (change current)) (some i.value) = .ok () := by
      rw [hname]
      exact checkName_self h hfind
    simp only [mapError_ok, bind, Except.bind, hfree, hstamp current hi, pure, Except.pure]

theorem kept_delete (h : s.Kept d) {id : Id e} (hdelete : s.delete id = .ok s') : s'.Kept d := by
  obtain ⟨-, rfl⟩ := delete_eq_ok_iff.mp hdelete
  have hstays {k : Nat} {a : e.Aggregate} (ha : (s.items.erase id.value).find? k = some a) :
      s.items.find? k = some a := by
    rw [Dict.find?_erase] at ha
    split at ha
    · cases ha
    · exact ha
  exact {
    bounded := fun k a ha => h.bounded k a (hstays ha)
    stamped := fun k a ha => h.stamped k a (hstays ha)
    distinct := fun j k a b ha hb => h.distinct j k a b (hstays ha) (hstays hb)
    meets := fun k a ha => h.meets k a (hstays ha) }

end Shelf

/-! ## The store -/

namespace MemoryStore

variable {m : MemoryStore}

/-- Both shelves are in order, and what stands on them sound and as demanded. -/
def Kept (d : Demand) (m : MemoryStore) : Prop := ∀ e, (m.shelf e).Kept d

theorem kept_empty : ({} : MemoryStore).Kept d := by
  intro e
  cases e <;> exact Shelf.kept_empty

@[simp] theorem shelf_withShelf_self (m : MemoryStore) (e : Entity) (s : Shelf e) :
    (m.withShelf e s).shelf e = s := by
  cases e <;> rfl

theorem shelf_withShelf_of_ne (m : MemoryStore) {e f : Entity} (h : f ≠ e) (s : Shelf e) :
    (m.withShelf e s).shelf f = m.shelf f := by
  cases e <;> cases f <;> first | rfl | exact absurd rfl h

theorem Kept.withShelf (h : m.Kept d) {e : Entity} {s : Shelf e} (hs : s.Kept d) :
    (m.withShelf e s).Kept d := by
  intro f
  by_cases hf : f = e
  · subst hf
    rw [shelf_withShelf_self]
    exact hs
  · rw [shelf_withShelf_of_ne m hf]
    exact h f

theorem Kept.written (h : m.Kept d) {e : Entity} {next : Except RegistryError (Shelf e)}
    (hnext : ∀ s, next = .ok s → s.Kept d) : (m.written e next).store.Kept d := by
  cases next with
  | error err => exact h
  | ok s => exact h.withShelf (hnext s rfl)

/-- **Both entities are switched alike**, though the name is looked at for one of them only. -/
theorem switch_eq {e : Entity} (h : (m.shelf e).Ordered) (id : Id e) (enabled : Bool) :
    m.switch enabled e id =
      (m.shelf e).modify id fun a => .ok (e.withEnabled a enabled) := by
  cases e with
  | identityProvider => rfl
  | serviceProvider =>
    have hstamp (a : ServiceProvider) (ha : Entity.serviceProvider.idOf a = some id) :
        Entity.serviceProvider.withId (a.withEnabled enabled) id = a.withEnabled enabled := by
      show { a.withEnabled enabled with id := some id } = a.withEnabled enabled
      rw [← show a.id = some id from ha]
      rfl
    exact (Shelf.modify_eq_amend h id (fun p : ServiceProvider => p.withEnabled enabled)
      (fun _ => rfl) hstamp).symm

theorem answer_switch {e : Entity} (h : (m.shelf e).Ordered) (id : Id e) (enabled : Bool) :
    m.answer (.switch e id enabled) =
      m.written e ((m.shelf e).modify id fun a => .ok (e.withEnabled a enabled)) := by
  rw [answer, switch_eq h]

/-- A section update keeps a provider sound, and its values as demanded. -/
theorem meets_withSection {p q : IdentityProvider} {s : SectionUpdate}
    (hs : s.Built ∧ s.HasValues d.property) (hp : Entity.identityProvider.Meets d p)
    (h : p.withSection s = .ok q) : Entity.identityProvider.Meets d q :=
  ⟨hp.1.withSection hs.1 h, hp.2.withSection hs.2 h⟩

/-- **What the store keeps.** A request leaves the shelves in order and all on them sound. -/
theorem kept_answer (h : m.Kept d) {r : Request} (hr : r.Admissible d) :
    (m.answer r).store.Kept d := by
  cases r with
  | list e enabledOnly => exact h
  | create e a =>
    cases hcreate : (m.shelf e).create a with
    | error err => simp only [answer, hcreate]; exact h
    | ok out =>
      simp only [answer, hcreate]
      exact h.withShelf (Shelf.kept_create (h e) (Entity.Offered.meets hr) hcreate)
  | get e target => exact h
  | resolve e name => exact h
  | findByProperty scope key value => exact h
  | update e a =>
    cases hid : e.idOf a with
    | none => simp only [answer, hid]; exact h
    | some id =>
      simp only [answer, hid]
      -- an update puts the aggregate of the request in the place of the old one
      refine h.written fun s hs => Shelf.kept_modify (h e) (fun _ b _ hb => ?_) hs
      cases hb
      exact Entity.Offered.meets hr
  | updateSection id s =>
    exact h.written fun _ hs =>
      Shelf.kept_modify (h .identityProvider) (fun _ _ ha hb => meets_withSection hr ha hb) hs
  | delete e id => exact h.written fun _ hs => Shelf.kept_delete (h e) hs
  | switch e id enabled =>
    rw [answer_switch (h e).toOrdered]
    refine h.written fun s hs => Shelf.kept_modify (h e) (fun a b ha hb => ?_) hs
    cases hb
    exact ha.withEnabled enabled
  | readiness => exact h

end MemoryStore

end FederationRegistry
