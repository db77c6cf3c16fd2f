import FederationRegistry.Proofs.Memory
import FederationRegistry.Proofs.Relational.Answer

/-!
# A shelf as rows

The rows of an entity *list* a shelf when every aggregate stands in its row under its identifier,
there are no other rows, and both count on from the same number. Then names are taken in the one
exactly when they are in the other, and both give out the same next number.

Row numbers are signed and identifiers are not, so a shelf is listed only as long as its
identifiers are row numbers. An identifier beyond them is one that neither has.
-/

namespace FederationRegistry

/-! ## Rows of an entity -/

namespace Entity

variable {e : Entity}

/-- The rows of the aggregates of an entity. -/
abbrev Row : Entity → Type
  | .identityProvider => ProviderRow
  | .serviceProvider => ApplicationRow

/-- The table with a row for every aggregate of an entity. -/
def rows : (e : Entity) → EntityTable e.Row
  | .identityProvider => .providers
  | .serviceProvider => .applications

/-- The row that an aggregate is written as. -/
def toRow : (e : Entity) → e.Aggregate → e.Row
  | .identityProvider, p => p.storedRow
  | .serviceProvider, p => p.row

@[simp] theorem name_toRow (a : e.Aggregate) : e.rows.name (e.toRow a) = e.nameOf a := by
  cases e <;> rfl

theorem withId_of_idOf {a : e.Aggregate} {id : Id e} (h : e.idOf a = some id) :
    e.withId a id = a := by
  cases e with
  | identityProvider =>
    obtain ⟨pid, enabled, metadata, authentication, provisioning, properties, variant⟩ := a
    cases h
    rfl
  | serviceProvider => cases a; cases h; rfl

end Entity

/-- The rows of an entity. -/
def Tables.aggregates (t : Tables) (e : Entity) : SerialTable e.Row := e.rows.rows t

/-- The rows of an entity list a shelf. -/
structure Tables.Lists (t : Tables) {e : Entity} (s : Shelf e) : Prop where
  rows : (t.aggregates e).rows = s.items.embed fun _ a => e.toRow a
  last : (t.aggregates e).last = s.last
  bounded : (s.last : Int) ≤ maxColumnInteger

namespace Tables.Lists

variable {t t' : Tables} {e : Entity} {s : Shelf e}

theorem find?_row (h : t.Lists s) (k : Nat) :
    (t.aggregates e).rows.find? (k : Int) = (s.items.find? k).map e.toRow := by
  rw [h.rows, Dict.find?_embed]

theorem of_find?_row (h : t.Lists s) {i : Int} {row : e.Row}
    (hrow : (t.aggregates e).rows.find? i = some row) :
    ∃ (k : Nat) (a : e.Aggregate), i = k ∧ s.items.find? k = some a ∧ row = e.toRow a := by
  rw [h.rows] at hrow
  rcases Int.lt_or_le i 0 with hi | hi
  · rw [Dict.find?_embed_of_neg _ _ hi] at hrow
    cases hrow
  · obtain ⟨k, rfl⟩ := Int.eq_ofNat_of_zero_le hi
    rw [Dict.find?_embed] at hrow
    obtain ⟨a, ha, rfl⟩ := Option.map_eq_some_iff.mp hrow
    exact ⟨k, a, rfl, ha, rfl⟩

theorem empty : ({} : Tables).Lists ({} : Shelf e) := by
  cases e <;> exact ⟨rfl, rfl, by decide⟩

/-! ## Numbers -/

theorem tight (h : t.Lists s) (hs : s.Ordered) : (t.aggregates e).Tight := by
  refine ⟨by rw [h.last]; omega, fun i hi => ?_⟩
  obtain ⟨row, hrow⟩ := Dict.mem_keys_iff.mp hi
  obtain ⟨k, a, rfl, ha, -⟩ := h.of_find?_row hrow
  rw [h.last]
  exact Int.ofNat_le.mpr (hs.bounded k a ha)

theorem next?_eq_some_iff (h : t.Lists s) (hs : s.Ordered) {number : Int} :
    (t.aggregates e).next? = some number ↔
      (s.last : Int) < maxColumnInteger ∧ number = s.last + 1 := by
  rw [SerialTable.next?_eq_some_iff, SerialTable.top_of_tight (h.tight hs), h.last]

theorem next?_eq_none (h : t.Lists s) (hs : s.Ordered) (hnext : (t.aggregates e).next? = none) :
    maxColumnInteger ≤ (t.aggregates e).last := by
  rw [h.last]
  by_contra hlt
  have hsome := (h.next?_eq_some_iff hs).mpr ⟨Int.not_le.mp hlt, rfl⟩
  rw [hnext] at hsome
  cases hsome

/-! ## Names -/

theorem isNameTaken_iff (h : t.Lists s) {number : Nat} {name : String} :
    e.rows.isNameTaken t number name = true ↔
      ∃ k a, s.items.find? k = some a ∧ k ≠ number ∧ e.nameOf a = name := by
  have hentries : (e.rows.rows t).rows.entries =
      s.items.entries.map fun entry => ((entry.1 : Int), e.toRow entry.2) :=
    congrArg Dict.entries h.rows
  rw [EntityTable.isNameTaken, hentries, List.any_map, List.any_eq_true]
  simp only [Function.comp, Entity.name_toRow, Bool.and_eq_true, bne_iff_ne, ne_eq,
    Int.natCast_inj, beq_iff_eq]
  constructor
  · rintro ⟨⟨k, a⟩, hmem, hk, hname⟩
    exact ⟨k, a, Dict.mem_entries_iff.mp hmem, hk, hname⟩
  · rintro ⟨k, a, hfind, hk, hname⟩
    exact ⟨(k, a), Dict.mem_entries_iff.mpr hfind, hk, hname⟩

theorem isNameTaken_eq_false_iff (h : t.Lists s) (hs : s.Ordered) {number : Nat}
    {name : String} :
    e.rows.isNameTaken t number name = false ↔ s.checkName name (some number) = .ok () := by
  rw [Shelf.checkName_eq_ok_iff hs, ← Bool.not_eq_true, h.isNameTaken_iff]
  constructor
  · intro hnone k a hfind hname
    by_contra hk
    exact hnone ⟨k, a, hfind, fun hsame => hk (congrArg some hsame.symm), hname⟩
  · rintro hall ⟨k, a, hfind, hk, hname⟩
    exact hk (Option.some.inj (hall k a hfind hname)).symm

/-- The name of an aggregate is not taken by another. -/
theorem isNameTaken_self (h : t.Lists s) (hs : s.Ordered) {k : Nat} {a : e.Aggregate}
    (hfind : s.items.find? k = some a) : e.rows.isNameTaken t k (e.nameOf a) = false :=
  (h.isNameTaken_eq_false_iff hs).mpr (Shelf.checkName_self hs hfind)

theorem checkName_of_isNameTaken (h : t.Lists s) (hs : s.Ordered) {number : Nat} {name : String}
    (htaken : e.rows.isNameTaken t number name = true) :
    s.checkName name (some number) = .error (.nameTaken e name) := by
  cases hname : s.checkName name (some number) with
  | error err => rw [Shelf.checkName_eq_error hname]
  | ok _ =>
    rw [(h.isNameTaken_eq_false_iff hs).mpr hname] at htaken
    cases htaken

/-- The number of the row with a name is the place of the name. -/
theorem numberOf?_eq (h : t.Lists s) (name : String) :
    e.rows.numberOf? t name = (s.place? name).map Int.ofNat := by
  have hentries : (e.rows.rows t).rows.entries =
      s.items.entries.map fun entry => ((entry.1 : Int), e.toRow entry.2) :=
    congrArg Dict.entries h.rows
  rw [EntityTable.numberOf?, hentries, List.find?_map, Shelf.place?, Option.map_map,
    Option.map_map]
  simp only [Function.comp_def, Entity.name_toRow]
  rfl

theorem names_eq (h : t.Lists s) (enabledOnly : Bool) :
    t.names e enabledOnly = s.names enabledOnly := by
  have hvalues : (t.aggregates e).rows.values = s.items.values.map e.toRow := by
    rw [h.rows, Dict.values_embed, Dict.values, List.map_map]
    rfl
  cases e with
  | identityProvider =>
    have hnames : t.names .identityProvider enabledOnly =
        ((t.aggregates .identityProvider).rows.values.filter
          fun r => !enabledOnly || r.enabled).map (·.name) := rfl
    rw [hnames, hvalues, List.filter_map, List.map_map]
    rfl
  | serviceProvider =>
    have hnames : t.names .serviceProvider enabledOnly =
        ((t.aggregates .serviceProvider).rows.values.filter
          fun r => !enabledOnly || r.enabled).map (·.name) := rfl
    rw [hnames, hvalues, List.filter_map, List.map_map]
    rfl

/-! ## Addressed rows -/

/-- What a shelf does not have, its rows do not have. -/
theorem find?_eq_none (h : t.Lists s) {id : Id e} (hfind : s.items.find? id.value = none)
    {number : Int} (hnumber : id.rowNumber? = some number) :
    (t.aggregates e).rows.find? number = none := by
  obtain ⟨rfl, -⟩ := Id.rowNumber?_eq_some_iff.mp hnumber
  rw [h.find?_row, hfind]
  rfl

theorem rowNumber?_of_find? (h : t.Lists s) (hs : s.Ordered) {id : Id e} {a : e.Aggregate}
    (hfind : s.items.find? id.value = some a) : id.rowNumber? = some (id.value : Int) := by
  refine Id.rowNumber?_eq_some_iff.mpr ⟨rfl, ?_⟩
  have hbound := hs.bounded _ _ hfind
  have hlast := h.bounded
  omega

/-! ## Changes -/

/-- Rows list a shelf again after a row was set in both. -/
theorem insert (h : t.Lists s) {k last : Nat} {a : e.Aggregate}
    (hrows : (t'.aggregates e).rows = (t.aggregates e).rows.insert (k : Int) (e.toRow a))
    (hlast : (t'.aggregates e).last = last) (hbounded : (last : Int) ≤ maxColumnInteger) :
    t'.Lists (⟨last, s.items.insert k a⟩ : Shelf e) where
  rows := by rw [hrows, h.rows, ← Dict.embed_insert]
  last := hlast
  bounded := hbounded

/-- Rows list a shelf again after a row was taken from both. -/
theorem erase (h : t.Lists s) {k : Nat}
    (ht : t'.aggregates e = (t.aggregates e).withRows ((t.aggregates e).rows.erase (k : Int))) :
    t'.Lists ({ s with items := s.items.erase k } : Shelf e) where
  rows := by rw [ht, SerialTable.withRows, h.rows, ← Dict.embed_erase]
  last := by rw [ht]; exact h.last
  bounded := h.bounded

end Tables.Lists

/-! ## Changes on a shelf -/

namespace Shelf

variable {t : Tables} {e : Entity} {s : Shelf e}

/-- **What a creation comes to**, told by the rows that list the shelf. -/
theorem create_cases (h : t.Lists s) (hs : s.Ordered) (a : e.Aggregate) :
    ((t.aggregates e).next? = none ∧ maxColumnInteger ≤ (t.aggregates e).last) ∨
    (∃ number, (t.aggregates e).next? = some number ∧
      e.rows.isNameTaken t number (e.nameOf a) = true ∧
      s.create a = .error (.nameTaken e (e.nameOf a))) ∨
    (∃ id : Id e, (t.aggregates e).next? = some (id.value : Int) ∧
      e.rows.isNameTaken t id.value (e.nameOf a) = false ∧ id.value = s.last + 1 ∧
      s.create a = .ok (id, ⟨id.value, s.items.insert id.value (e.withId a id)⟩)) := by
  cases hnext : (t.aggregates e).next? with
  | none => exact .inl ⟨rfl, h.next?_eq_none hs hnext⟩
  | some number =>
    obtain ⟨hlast, hnumber⟩ := (h.next?_eq_some_iff hs).mp hnext
    obtain rfl : number = ((s.last + 1 : Nat) : Int) := by omega
    -- the number is new, so no row is exempt from the comparison of names
    have hsame : s.checkName (e.nameOf a) none = .ok () ↔
        s.checkName (e.nameOf a) (some (s.last + 1)) = .ok () := by
      rw [checkName_eq_ok_iff hs, checkName_eq_ok_iff hs]
      refine forall₂_congr fun k b => forall_congr' fun hb => imp_congr_right fun _ => ?_
      have hbound := hs.bounded k b hb
      simp only [reduceCtorEq, Option.some.injEq, false_iff]
      omega
    cases htaken : e.rows.isNameTaken t ((s.last + 1 : Nat) : Int) (e.nameOf a) with
    | true =>
      refine .inr (.inl ⟨_, rfl, htaken, ?_⟩)
      cases hcreate : s.create a with
      | ok out =>
        obtain ⟨hname, -⟩ := create_eq_ok_iff.mp hcreate
        rw [(h.isNameTaken_eq_false_iff hs).mpr (hsame.mp hname)] at htaken
        cases htaken
      | error err =>
        -- the name is the first thing checked, so it is what the error is about
        unfold create at hcreate
        cases hname : s.checkName (e.nameOf a) none with
        | error err' =>
          rw [hname] at hcreate
          cases hcreate
          rw [checkName_eq_error hname]
        | ok _ =>
          rw [(h.isNameTaken_eq_false_iff hs).mpr (hsame.mp hname)] at htaken
          cases htaken
    | false =>
      -- a number of the column is a number of an identifier
      have hinRange : s.last + 1 < Word.unsignedLimit := by
        simp only [maxColumnInteger, Word.signedLimit, Word.unsignedLimit] at hlast ⊢
        omega
      refine .inr (.inr ⟨⟨s.last + 1, by omega, hinRange⟩, rfl, htaken, rfl, ?_⟩)
      exact create_eq_ok_iff.mpr
        ⟨hsame.mpr ((h.isNameTaken_eq_false_iff hs).mp htaken), rfl, rfl⟩

/-- **What a change comes to**, told by the rows that list the shelf. -/
theorem modify_of_find? (h : t.Lists s) (hs : s.Ordered) {id : Id e} {current next : e.Aggregate}
    (hfind : s.items.find? id.value = some current)
    (change : e.Aggregate → Checked e.Aggregate) (hchange : change current = .ok next) :
    s.modify id change =
      if e.rows.isNameTaken t id.value (e.nameOf next) then .error (.nameTaken e (e.nameOf next))
      else .ok { s with items := s.items.insert id.value (e.withId next id) } := by
  cases htaken : e.rows.isNameTaken t (id.value : Int) (e.nameOf next) with
  | true =>
    have hname := h.checkName_of_isNameTaken hs htaken
    simp [modify, hfind, hchange, hname, bind, Except.bind]
  | false =>
    have hname := (h.isNameTaken_eq_false_iff hs).mp htaken
    simpa using modify_eq_ok_iff.mpr ⟨current, next, hfind, hchange, hname, rfl⟩

theorem modify_of_none {id : Id e} (change : e.Aggregate → Checked e.Aggregate)
    (hfind : s.items.find? id.value = none) :
    s.modify id change = .error (.noSuchId id) := by
  rw [modify, hfind]

end Shelf

end FederationRegistry
