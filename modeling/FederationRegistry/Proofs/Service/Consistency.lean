import FederationRegistry.Proofs.Service.Run

/-!
# What it is for stores to be consistent

No name is taken twice, every aggregate has the identifier that it is stored under, and all of them
are as builders make them (`Consistent`). This is said of what is stored, in whichever way.

**In memory** it follows from `MemoryStore.Kept`, which requests uphold. Only a creation moves the
identifier given out last, to the one that it answers with.

Main statements: `MemoryStore.Kept.consistent` and `MemoryStore.upholds`.
-/

namespace FederationRegistry

/-! ## Consistency -/

/-- Names are unique, aggregates have the identifiers that they are stored under, and all are
whole. -/
structure Consistent (Stored : (e : Entity) → Nat → e.Aggregate → Prop) : Prop where
  distinct : ∀ e j k a b, Stored e j a → Stored e k b → e.nameOf a = e.nameOf b → j = k
  resident : ∀ j k p q, Stored .identityProvider j p → Stored .identityProvider k q →
    p.kind = .resident → q.kind = .resident → j = k
  stamped : ∀ e k a, Stored e k a → ∃ id, e.idOf a = some id ∧ id.value = k
  valid : ∀ e k a, Stored e k a → e.validate a = .ok ()
  reserved : ∀ k p, Stored .identityProvider k p → (p.kind = .resident ↔ p.name = residentName)
  authentication : ∀ k p a, Stored .identityProvider k p → p.authentication = some a →
    a.isEmpty = false
  properties : ∀ k p scope m key v, Stored .identityProvider k p → m ∈ p.propertiesIn scope →
    m.find? key = some v → Text.isBlank key = false ∧ v.isNull = false

/-- What is stored after calls is consistent, and their creations gave out ascending
identifiers. -/
structure ConsistentAfter (log : List Entry) (Stored : (e : Entity) → Nat → e.Aggregate → Prop) :
    Prop extends Consistent Stored where
  ascending : ∀ e, (createdIds e log).Pairwise (· < ·)
  positive : ∀ e, ∀ k ∈ createdIds e log, 1 ≤ k

theorem ConsistentAfter.of_ascends {log : List Entry}
    {Stored : (e : Entity) → Nat → e.Aggregate → Prop} {first last : Entity → Nat}
    (h : Consistent Stored) (hlog : ∀ e, Ascends (first e) (createdIds e log) (last e)) :
    ConsistentAfter log Stored where
  toConsistent := h
  ascending e := (hlog e).sorted
  positive e k hk := Nat.lt_of_le_of_lt (Nat.zero_le _) ((hlog e).within k hk).1

/-- A sound provider has no property that cannot be set, in whatever scope. -/
theorem IdentityProvider.Sound.keptIn {p : IdentityProvider} (hp : p.Sound) {scope : PropertyScope}
    {m : PropertyMap} (hm : m ∈ p.propertiesIn scope) : m.Kept :=
  of_mem_propertiesIn hp.properties
    (fun a ha name c hfind => ((hp.authentication a ha).1 name c hfind).2.2)
    (fun name c hfind => (hp.provisioning.provisioners name c hfind).2.2) hm

/-! ## The store in memory -/

namespace MemoryStore

variable {d : Demand} {m : MemoryStore}

/-- The aggregate stands at a place on the shelf of its entity. -/
def Stored (m : MemoryStore) (e : Entity) (k : Nat) (a : e.Aggregate) : Prop :=
  (m.shelf e).items.find? k = some a

theorem Kept.sound (h : m.Kept d) {k : Nat} {p : IdentityProvider}
    (hp : m.Stored .identityProvider k p) : p.Sound :=
  ((h .identityProvider).meets k p hp).1

/-- **Shelves that are kept are consistent.** -/
theorem Kept.consistent (h : m.Kept d) : Consistent m.Stored where
  distinct e j k a b ha hb := (h e).distinct j k a b ha hb
  resident j k p q hp hq hpres hqres := by
    have hname := (IdentityProvider.resident_iff (h.sound hp).valid).mp hpres
    have hname' := (IdentityProvider.resident_iff (h.sound hq).valid).mp hqres
    exact (h .identityProvider).distinct j k p q hp hq (hname.trans hname'.symm)
  stamped e k a ha := (h e).stamped k a ha
  valid e k a ha := by
    have hmeets := (h e).meets k a ha
    cases e with
    | identityProvider => exact hmeets.1.valid
    | serviceProvider => exact hmeets.1
  reserved k p hp := IdentityProvider.resident_iff (h.sound hp).valid
  authentication k p a hp ha := ((h.sound hp).authentication a ha).2
  properties k p scope props key v hp hmem hfind := by
    have hsettable := PropertyMap.kept_iff.mp ((h.sound hp).keptIn hmem) key v hfind
    simpa [PropertyMap.settable] using hsettable

/-- A write that keeps the last identifier of a shelf keeps those of both. -/
theorem last_written {e : Entity} {next : Except RegistryError (Shelf e)}
    (h : ∀ s, next = .ok s → s.last = (m.shelf e).last) (f : Entity) :
    ((m.written e next).store.shelf f).last = (m.shelf f).last := by
  cases next with
  | error err => rfl
  | ok s =>
    show ((m.withShelf e s).shelf f).last = _
    by_cases hf : f = e
    · subst hf
      rw [shelf_withShelf_self, h s rfl]
    · rw [shelf_withShelf_of_ne m hf]

theorem last_modify {e : Entity} {id : Id e} {change : e.Aggregate → Checked e.Aggregate}
    {s s' : Shelf e} (h : s.modify id change = .ok s') : s'.last = s.last := by
  obtain ⟨-, -, -, -, -, rfl⟩ := Shelf.modify_eq_ok_iff.mp h
  rfl

theorem ascends_create (m : MemoryStore) (e : Entity) (a : e.Aggregate) (f : Entity) :
    Ascends (m.shelf f).last (Request.created f (.create e a) (m.answer (.create e a)).result)
      ((m.answer (.create e a)).store.shelf f).last := by
  cases hcreate : (m.shelf e).create a with
  | error err =>
    simp only [answer, hcreate]
    exact .nil (Nat.le_refl _)
  | ok out =>
    obtain ⟨id, s⟩ := out
    obtain ⟨-, hid, rfl⟩ := Shelf.create_eq_ok_iff.mp hcreate
    simp only [answer, hcreate, Request.created]
    by_cases hf : e = f
    · subst hf
      rw [if_pos rfl, shelf_withShelf_self]
      exact .single (by omega) (Nat.le_refl _)
    · rw [if_neg hf, shelf_withShelf_of_ne m (Ne.symm hf)]
      exact .nil (Nat.le_refl _)

/-- **Requests in memory** keep the shelves, and only creations move the last identifier. -/
theorem upholds : Upholds d (Kept d) fun m e => (m.shelf e).last where
  keeps hm hr := kept_answer hm hr
  ascends {m r} hm hr f := by
    cases r with
    -- only a creation gives out a number; all other requests leave the last one
    | create e a => exact ascends_create m e a f
    | list | get | resolve | findByProperty | readiness => exact .nil (Nat.le_refl _)
    | update e a =>
      refine .nil (Nat.le_of_eq ?_)
      show _ = ((m.answer (.update e a)).store.shelf f).last
      cases hid : e.idOf a with
      | none => simp only [answer, hid]
      | some id =>
        simp only [answer, hid]
        exact (last_written (fun s hs => last_modify hs) f).symm
    | updateSection id s =>
      exact .nil (Nat.le_of_eq (last_written (fun s hs => last_modify hs) f).symm)
    | switch e id enabled =>
      refine .nil (Nat.le_of_eq ?_)
      show _ = ((m.answer (.switch e id enabled)).store.shelf f).last
      rw [answer_switch (hm e).toOrdered]
      exact (last_written (fun s hs => last_modify hs) f).symm
    | delete e id =>
      refine .nil (Nat.le_of_eq (last_written (fun s hs => ?_) f).symm)
      obtain ⟨-, rfl⟩ := Shelf.delete_eq_ok_iff.mp hs
      rfl

end MemoryStore

end FederationRegistry
