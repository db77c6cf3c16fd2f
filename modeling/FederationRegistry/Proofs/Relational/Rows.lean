import FederationRegistry.Proofs.Dict
import FederationRegistry.Store.Relational.Cells
import FederationRegistry.Store.Relational.Write

/-!
# The rows of a provider

`Tables.rowsOf` gathers all that the tables hold of one identity provider, its connectors with
their properties included. A write is described by what it does to the rows of the provider that
it addresses; the rows of all others stay.

**Order.** Everything in the rows of a provider comes in the order of its keys, except that
connectors come in the order of their numbers. A new connector gets a number beyond all others, so
it comes last.

**References.** Where every row has its owner (`Tables.Referential`), a provider that is not there
has no rows, and neither has a connector that has just been added. This is what the check of the
schema computes (`isReferential_iff`).

Main results: what adding and dropping connectors does to the rows of every provider
(`addAll_effect`, `rowsOf_dropOwner_of_ne`).
-/

namespace FederationRegistry

/-! ## Gathering rows -/

/-- The row of a connector with the texts of its properties. -/
abbrev ConnectorRecord := ConnectorRow × Dict String String

/-- The connectors of a provider with their properties. -/
def ConnectorTables.rowsOf (c : ConnectorTables) (owner : Int) : Dict Int ConnectorRecord :=
  (c.ownedBy owner).mapValues fun number row => (row, c.properties.slice number)

/-- All rows of a provider. -/
structure ProviderRows where
  row : Option ProviderRow := none
  certificates : Dict String String := ∅
  roleMappings : Dict Cell String := ∅
  properties : Dict String String := ∅
  requestedClaims : KeySet String := ∅
  authenticators : Dict Int ConnectorRecord := ∅
  provisioningClaims : Dict String (Option String) := ∅
  provisioningRoles : KeySet String := ∅
  jitProviders : KeySet String := ∅
  provisioners : Dict Int ConnectorRecord := ∅

/-- All rows of the provider with a number. -/
def Tables.rowsOf (t : Tables) (number : Int) : ProviderRows where
  row := t.providers.rows.find? number
  certificates := t.certificates.slice number
  roleMappings := t.roleMappings.slice number
  properties := t.properties.slice number
  requestedClaims := t.requestedClaims.slice number
  authenticators := t.authenticators.rowsOf number
  provisioningClaims := t.provisioningClaims.slice number
  provisioningRoles := t.provisioningRoles.slice number
  jitProviders := t.jitProviders.slice number
  provisioners := t.provisioners.rowsOf number

/-! ## Numbers of rows -/

namespace SerialTable

variable {ρ : Type}

/-- The largest number that was given out or is there. -/
def top (t : SerialTable ρ) : Int := max t.last (t.rows.keys.getLast?.getD 0)

theorem next?_eq_some_iff {t : SerialTable ρ} {number : Int} :
    t.next? = some number ↔ t.top < maxColumnInteger ∧ number = t.top + 1 := by
  unfold next? top
  dsimp only
  split <;> simp_all [eq_comm]

theorem le_top_of_mem {t : SerialTable ρ} {k : Int} (h : k ∈ t.rows.keys) : k ≤ t.top := by
  have := Dict.le_getLast_keys h
  unfold top
  omega

theorem lt_next_of_mem {t : SerialTable ρ} {number k : Int} (h : t.next? = some number)
    (hk : k ∈ t.rows.keys) : k < number := by
  have := le_top_of_mem hk
  have := (next?_eq_some_iff.mp h).2
  omega

/-- The number of the next row is free. -/
theorem find?_next {t : SerialTable ρ} {number : Int} (h : t.next? = some number) :
    t.rows.find? number = none := by
  cases hf : t.rows.find? number with
  | none => rfl
  | some row =>
    have := lt_next_of_mem h (Dict.mem_keys_iff.mpr ⟨row, hf⟩)
    omega

/-- A row under the next number is the last row. -/
theorem entries_append {t : SerialTable ρ} {number : Int} (h : t.next? = some number)
    (row : ρ) : (t.append number row).rows.entries = t.rows.entries ++ [(number, row)] :=
  Dict.entries_insert_of_last fun j hj => by
    have := lt_next_of_mem h hj
    simpa [Key.before] using this

theorem top_append {t : SerialTable ρ} {number : Int} (h : t.next? = some number) (row : ρ) :
    (t.append number row).top = number := by
  have hkeys : (t.append number row).rows.keys = t.rows.keys ++ [number] := by
    simp [Dict.keys, entries_append h row]
  rw [top, hkeys]
  simp [append]

/-- The last number given out is beyond every row, and is none below zero. -/
def Tight (t : SerialTable ρ) : Prop := 0 ≤ t.last ∧ ∀ k ∈ t.rows.keys, k ≤ t.last

theorem top_of_tight {t : SerialTable ρ} (h : t.Tight) : t.top = t.last := by
  unfold top
  cases hlast : t.rows.keys.getLast? with
  | none => exact Int.max_eq_left h.1
  | some k => exact Int.max_eq_left (h.2 k (List.mem_of_getLast? hlast))

theorem tight_empty : ({} : SerialTable ρ).Tight := by
  refine ⟨Int.le_refl 0, fun k hk => ?_⟩
  simp [Dict.mem_keys_iff] at hk

theorem tight_append {t : SerialTable ρ} {number : Int} (h : t.next? = some number)
    (ht : t.Tight) (row : ρ) : (t.append number row).Tight := by
  have hnumber := (next?_eq_some_iff.mp h).2
  rw [top_of_tight ht] at hnumber
  have h0 := ht.1
  refine ⟨by show 0 ≤ number; omega, fun k hk => ?_⟩
  show k ≤ number
  obtain ⟨row', hk⟩ := Dict.mem_keys_iff.mp hk
  rw [append, Dict.find?_insert] at hk
  split at hk
  · omega
  · have := ht.2 k (Dict.mem_keys_iff.mpr ⟨row', hk⟩)
    omega

theorem tight_withRows {t : SerialTable ρ} (ht : t.Tight) {rows : Dict Int ρ}
    (h : ∀ k ∈ rows.keys, k ∈ t.rows.keys) : (t.withRows rows).Tight :=
  ⟨ht.1, fun k hk => ht.2 k (h k hk)⟩

end SerialTable

/-! ## Connectors -/

/-- The texts of properties. -/
def PropertyMap.texts (m : PropertyMap) : Dict String String := m.mapValues fun _ v => v.text

/-- A connector as rows. -/
def Connector.record (owner : Int) (c : Connector) : ConnectorRecord :=
  (⟨owner, c.name, c.enabled⟩, c.properties.texts)

namespace ConnectorTables

variable {c c' : ConnectorTables} {owner o : Int}

/-- Every property belongs to a connector that is there. -/
def Rooted (c : ConnectorTables) : Prop :=
  ∀ number key text, c.properties.find? (number, key) = some text →
    c.connectors.rows.contains number = true

theorem find?_ownedBy (c : ConnectorTables) (owner number : Int) :
    (c.ownedBy owner).find? number =
      (c.connectors.rows.find? number).filter fun row => row.owner == owner :=
  Dict.find?_filter _ _ _

theorem find?_ownedBy_eq_some {number : Int} {row : ConnectorRow} :
    (c.ownedBy owner).find? number = some row ↔
      c.connectors.rows.find? number = some row ∧ row.owner = owner := by
  rw [find?_ownedBy, Option.filter_eq_some_iff]
  simp

theorem find?_rowsOf (c : ConnectorTables) (owner number : Int) :
    (c.rowsOf owner).find? number =
      ((c.ownedBy owner).find? number).map fun row => (row, c.properties.slice number) :=
  Dict.find?_mapValues _ _ _

theorem rowsOf_ext
    (h : ∀ number row, row.owner = owner →
      (c'.connectors.rows.find? number = some row ↔ c.connectors.rows.find? number = some row))
    (hp : ∀ number row, row.owner = owner → c.connectors.rows.find? number = some row →
      c'.properties.slice number = c.properties.slice number) :
    c'.rowsOf owner = c.rowsOf owner := by
  have howned (number : Int) : (c'.ownedBy owner).find? number = (c.ownedBy owner).find? number :=
    Option.ext fun row => by
      rw [find?_ownedBy_eq_some, find?_ownedBy_eq_some]
      exact and_congr_left (h number row)
  refine Dict.ext_find? fun number => ?_
  rw [find?_rowsOf, find?_rowsOf, howned]
  cases hrow : (c.ownedBy owner).find? number with
  | none => rfl
  | some row =>
    obtain ⟨hfind, howner⟩ := find?_ownedBy_eq_some.mp hrow
    simp only [Option.map_some, hp number row howner hfind]

/-- A connector that is not there has no properties. -/
theorem slice_of_rooted (h : c.Rooted) {number : Int}
    (hn : c.connectors.rows.find? number = none) : c.properties.slice number = ∅ :=
  Dict.eq_empty_iff.mpr fun key => by
    rw [Dict.find?_slice]
    cases hk : c.properties.find? (number, key) with
    | none => rfl
    | some text => have := h number key text hk; simp [Dict.contains, hn] at this

/-! ### Dropping -/

theorem find?_connectors_dropOwner (c : ConnectorTables) (owner number : Int) :
    (c.dropOwner owner).connectors.rows.find? number =
      (c.connectors.rows.find? number).filter fun row => row.owner != owner :=
  Dict.find?_filter _ _ _

theorem find?_connectors_dropOwner_eq_some {number : Int} {row : ConnectorRow} :
    (c.dropOwner owner).connectors.rows.find? number = some row ↔
      c.connectors.rows.find? number = some row ∧ row.owner ≠ owner := by
  rw [find?_connectors_dropOwner, Option.filter_eq_some_iff]
  simp

theorem find?_properties_dropOwner (c : ConnectorTables) (owner : Int) (k : Int × String) :
    (c.dropOwner owner).properties.find? k =
      if (c.ownedBy owner).contains k.1 then none else c.properties.find? k := by
  rw [dropOwner, Dict.find?_filter]
  cases (c.ownedBy owner).contains k.1 <;> cases c.properties.find? k <;> rfl

/-- A provider whose connectors are dropped has none. -/
theorem rowsOf_dropOwner_self (c : ConnectorTables) (owner : Int) :
    (c.dropOwner owner).rowsOf owner = ∅ :=
  Dict.eq_empty_iff.mpr fun number => by
    rw [find?_rowsOf, Option.map_eq_none_iff, Option.eq_none_iff_forall_ne_some]
    intro row hrow
    obtain ⟨hfind, howner⟩ := find?_ownedBy_eq_some.mp hrow
    exact (find?_connectors_dropOwner_eq_some.mp hfind).2 howner

/-- The connectors of the other providers stay. -/
theorem rowsOf_dropOwner_of_ne (c : ConnectorTables) (h : o ≠ owner) :
    (c.dropOwner owner).rowsOf o = c.rowsOf o := by
  refine rowsOf_ext (fun number row ho => ?_) fun number row ho hfind => ?_
  · rw [find?_connectors_dropOwner_eq_some]
    exact and_iff_left (ho ▸ h)
  · refine Dict.ext_find? fun key => ?_
    have howned : (c.ownedBy owner).contains number = false := by
      rw [Dict.contains_eq_false_iff, find?_ownedBy, hfind]
      simp [ho ▸ h]
    rw [Dict.find?_slice, Dict.find?_slice, find?_properties_dropOwner, howned]
    rfl

theorem rooted_dropOwner (h : c.Rooted) (owner : Int) : (c.dropOwner owner).Rooted := by
  intro number key text hk
  rw [find?_properties_dropOwner] at hk
  split at hk
  · cases hk
  · rename_i howned
    obtain ⟨row, hrow⟩ := Dict.contains_iff.mp (h number key text hk)
    refine Dict.contains_iff.mpr ⟨row, find?_connectors_dropOwner_eq_some.mpr ⟨hrow, ?_⟩⟩
    intro ho
    exact howned (Dict.contains_iff.mpr ⟨row, find?_ownedBy_eq_some.mpr ⟨hrow, ho⟩⟩)

theorem tight_dropOwner (h : c.connectors.Tight) (owner : Int) :
    (c.dropOwner owner).connectors.Tight :=
  SerialTable.tight_withRows h fun k hk => by
    obtain ⟨row, hrow⟩ := Dict.mem_keys_iff.mp hk
    rw [Dict.find?_filter, Option.filter_eq_some_iff] at hrow
    exact Dict.mem_keys_iff.mpr ⟨row, hrow.1⟩

theorem top_dropOwner_le (c : ConnectorTables) (owner : Int) :
    (c.dropOwner owner).connectors.top ≤ max 0 c.connectors.top := by
  have hlast : c.connectors.last ≤ c.connectors.top := by unfold SerialTable.top; omega
  show max c.connectors.last _ ≤ _
  cases hk : (c.dropOwner owner).connectors.rows.keys.getLast? with
  | none => simp only [Option.getD_none]; omega
  | some k =>
    obtain ⟨row, hrow⟩ := Dict.mem_keys_iff.mp (List.mem_of_getLast? hk)
    have hfind := (find?_connectors_dropOwner_eq_some.mp hrow).1
    have := SerialTable.le_top_of_mem (Dict.mem_keys_iff.mpr ⟨row, hfind⟩)
    simp only [Option.getD_some]
    omega

/-! ### Adding -/

/-- The tables with a connector more, if a number is left for it. -/
def add? (c : ConnectorTables) (owner : Int) (connector : Connector) : Option ConnectorTables :=
  c.connectors.next?.map fun number =>
    { connectors := c.connectors.append number (connector.record owner).1
      properties := c.properties.mergeOwner number (connector.record owner).2 }

/-- The tables with the connectors of a list more, if numbers are left for them. -/
def addAll? (c : ConnectorTables) (owner : Int) : List Connector → Option ConnectorTables
  | [] => some c
  | connector :: rest => (c.add? owner connector).bind fun c => c.addAll? owner rest

/-- Connectors were added to those of a provider: they come last there, and the connectors of
other providers stay. -/
structure Added (c c' : ConnectorTables) (owner : Int) (cs : List Connector) : Prop where
  own : (c'.rowsOf owner).values = (c.rowsOf owner).values ++ cs.map (Connector.record owner)
  others : ∀ o, o ≠ owner → c'.rowsOf o = c.rowsOf o
  rooted : c'.Rooted
  top : c'.connectors.top = c.connectors.top + cs.length
  tight : c.connectors.Tight → c'.connectors.Tight

/-- The tables with a record under a number. -/
def place (c : ConnectorTables) (number : Int) (r : ConnectorRecord) : ConnectorTables where
  connectors := c.connectors.append number r.1
  properties := c.properties.mergeOwner number r.2

section Place

variable {number : Int} {r : ConnectorRecord}

/-- A record under the next number comes last among those of its owner. -/
theorem values_rowsOf_place (hc : c.Rooted) (hnext : c.connectors.next? = some number)
    (howner : r.1.owner = owner) :
    ((c.place number r).rowsOf owner).values = (c.rowsOf owner).values ++ [r] := by
  have hfree := SerialTable.find?_next hnext
  have howned : (c.connectors.append number r.1).rows.entries.filter
      (fun e => e.2.owner == owner) = (c.ownedBy owner).entries ++ [(number, r.1)] := by
    rw [SerialTable.entries_append hnext, List.filter_append]
    simp [ownedBy, Dict.filter, howner]
  have hslice (e : Int × ConnectorRow) (he : e ∈ (c.ownedBy owner).entries) :
      (c.properties.mergeOwner number r.2).slice e.1 = c.properties.slice e.1 := by
    refine Dict.slice_mergeOwner_of_ne _ ?_ _
    rintro rfl
    obtain ⟨hfind, -⟩ := find?_ownedBy_eq_some.mp (Dict.mem_entries_iff.mp he)
    rw [hfree] at hfind
    cases hfind
  rw [rowsOf, rowsOf, Dict.values_mapValues, Dict.values_mapValues, ownedBy, Dict.filter]
  simp only [place, howned, List.map_append, List.map_cons, List.map_nil,
    Dict.slice_mergeOwner_self, slice_of_rooted hc hfree]
  congr 1
  · exact List.map_congr_left fun e he => by rw [hslice e he]
  · rw [show (∅ : Dict String String).merge r.2 = r.2 from Dict.ofList_entries _]

theorem rowsOf_place_of_ne (hnext : c.connectors.next? = some number) {o : Int}
    (ho : o ≠ r.1.owner) : (c.place number r).rowsOf o = c.rowsOf o := by
  have hfree := SerialTable.find?_next hnext
  refine rowsOf_ext (fun n row hrow => ?_) fun n row hrow hfind => ?_
  · rw [place, SerialTable.append, Dict.find?_insert]
    split
    · rename_i hn
      subst hn
      simp only [hfree, Option.some.injEq, reduceCtorEq, iff_false]
      rintro rfl
      exact ho hrow.symm
    · rfl
  · refine Dict.slice_mergeOwner_of_ne _ ?_ _
    rintro rfl
    rw [hfree] at hfind
    cases hfind

theorem rooted_place (hc : c.Rooted) : (c.place number r).Rooted := by
  intro n key text hk
  rw [place, Dict.find?_mergeOwner] at hk
  rw [Dict.contains_iff]
  simp only [place, SerialTable.append, Dict.find?_insert]
  split at hk
  · rename_i hn
    exact ⟨_, if_pos hn.symm⟩
  · rename_i hn
    obtain ⟨row, hrow⟩ := Dict.contains_iff.mp (hc n key text hk)
    exact ⟨row, by rw [if_neg (Ne.symm hn), hrow]⟩

end Place

theorem add_effect (hc : c.Rooted) {connector : Connector}
    (h : c.add? owner connector = some c') : c.Added c' owner [connector] := by
  obtain ⟨number, hnext, rfl⟩ := Option.map_eq_some_iff.mp h
  have htop : (c.connectors.append number (connector.record owner).1).top =
      c.connectors.top + 1 := by
    rw [SerialTable.top_append hnext, (SerialTable.next?_eq_some_iff.mp hnext).2]
  exact {
    own := values_rowsOf_place hc hnext rfl
    others := fun o ho => rowsOf_place_of_ne hnext ho
    rooted := rooted_place hc
    top := htop
    tight := fun ht => SerialTable.tight_append hnext ht _ }

/-- What adding the connectors of a list does, one by one. -/
theorem addAll_effect (hc : c.Rooted) {cs : List Connector} (h : c.addAll? owner cs = some c') :
    c.Added c' owner cs := by
  induction cs generalizing c with
  | nil =>
    cases h
    exact ⟨by simp, fun _ _ => rfl, hc, by simp, id⟩
  | cons connector rest ih =>
    simp only [addAll?, Option.bind_eq_some_iff] at h
    obtain ⟨middle, hadd, hrest⟩ := h
    have hfirst := add_effect hc hadd
    have hlast := ih hfirst.rooted hrest
    refine ⟨?_, fun o ho => ?_, hlast.rooted, ?_, fun ht => hlast.tight (hfirst.tight ht)⟩
    · rw [hlast.own, hfirst.own]
      simp
    · rw [hlast.others o ho, hfirst.others o ho]
    · rw [hlast.top, hfirst.top]
      simp only [List.length_cons, List.length_nil]
      omega

/-- Numbers are left for connectors as long as the largest number stays in range. -/
theorem addAll?_isSome {cs : List Connector}
    (h : c.connectors.top + cs.length ≤ maxColumnInteger) :
    ∃ c', c.addAll? owner cs = some c' := by
  induction cs generalizing c with
  | nil => exact ⟨c, rfl⟩
  | cons connector rest ih =>
    simp only [List.length_cons, Int.natCast_add, Int.natCast_one] at h
    have hnext : c.connectors.next? = some (c.connectors.top + 1) :=
      SerialTable.next?_eq_some_iff.mpr ⟨by omega, rfl⟩
    simp only [addAll?, add?, hnext, Option.map_some, Option.bind_some]
    refine ih ?_
    rw [SerialTable.top_append hnext]
    omega

/-- The tables with other connectors of a provider, if numbers are left for them. -/
def replace? (c : ConnectorTables) (owner : Int) (cs : List Connector) : Option ConnectorTables :=
  (c.dropOwner owner).addAll? owner cs

/-- Numbers are left for `n` connectors more. -/
def HasRoom (c : ConnectorTables) (n : Nat) : Prop :=
  max 0 c.connectors.top + n ≤ maxColumnInteger

instance (n : Nat) : Decidable (c.HasRoom n) :=
  inferInstanceAs (Decidable (max 0 c.connectors.top + n ≤ maxColumnInteger))

theorem replace?_isSome {cs : List Connector} (h : c.HasRoom cs.length) (owner : Int) :
    ∃ c', c.replace? owner cs = some c' := by
  refine addAll?_isSome ?_
  have := top_dropOwner_le c owner
  unfold HasRoom at h
  omega

/-- When the last number is given out, no connector is added. -/
theorem replace?_eq_none (ht : c.connectors.Tight) (hfull : c.connectors.last = maxColumnInteger)
    (owner : Int) (connector : Connector) (rest : List Connector) :
    c.replace? owner (connector :: rest) = none := by
  have hnext : (c.dropOwner owner).connectors.next? = none := by
    cases hsome : (c.dropOwner owner).connectors.next? with
    | none => rfl
    | some number =>
      have hlt := (SerialTable.next?_eq_some_iff.mp hsome).1
      rw [SerialTable.top_of_tight (tight_dropOwner ht owner)] at hlt
      exact absurd hlt (by rw [← hfull]; exact Int.lt_irrefl _)
  rw [replace?, addAll?, add?, hnext]
  rfl

/-- What replacing the connectors of a provider does. -/
theorem replace_effect (hc : c.Rooted) {cs : List Connector}
    (h : c.replace? owner cs = some c') : (c.dropOwner owner).Added c' owner cs :=
  addAll_effect (rooted_dropOwner hc owner) h

theorem Added.own_of_dropped {cs : List Connector} (h : (c.dropOwner owner).Added c' owner cs) :
    (c'.rowsOf owner).values = cs.map (Connector.record owner) := by
  rw [h.own, rowsOf_dropOwner_self]
  rfl

theorem Added.others_of_dropped {cs : List Connector}
    (h : (c.dropOwner owner).Added c' owner cs) (ho : o ≠ owner) : c'.rowsOf o = c.rowsOf o := by
  rw [h.others o ho, rowsOf_dropOwner_of_ne c ho]

end ConnectorTables

/-! ## References -/

namespace Tables

/-- Every row has its owner. -/
structure Referential (t : Tables) : Prop where
  /-- A provider that is not there has no rows. -/
  absent : ∀ number, t.providers.rows.find? number = none → t.rowsOf number = {}
  rooted : ∀ kind, (t.connectors kind).Rooted

theorem hasOwners_iff {κ α : Type} [Key κ] [DecidableEq κ] {table : OwnedTable κ α} {t : Tables} :
    hasOwners table t = true ↔
      ∀ owner, table.hasOwner t owner = false → (table.rows t).slice owner = ∅ := by
  simp only [hasOwners, List.all_eq_true, Dict.mem_keys_iff, Dict.eq_empty_iff, Dict.find?_slice]
  constructor
  · intro h owner howner key
    cases hk : (table.rows t).find? (owner, key) with
    | none => rfl
    | some v =>
      have := h (owner, key) ⟨v, hk⟩
      rw [howner] at this
      cases this
  · rintro h ⟨owner, key⟩ ⟨v, hk⟩
    cases howner : table.hasOwner t owner with
    | true => rfl
    | false => rw [h owner howner key] at hk; cases hk

theorem hasProvider_eq_false_iff {t : Tables} {number : Int} :
    OwnedTable.hasProvider t number = false ↔ t.providers.rows.find? number = none :=
  Dict.contains_eq_false_iff

theorem rooted_iff {t : Tables} {kind : ConnectorKind} :
    hasOwners (.connectorProperties kind) t = true ↔ (t.connectors kind).Rooted := by
  simp only [hasOwners, List.all_eq_true, Dict.mem_keys_iff]
  constructor
  · intro h number key text hk
    exact h (number, key) ⟨text, hk⟩
  · rintro h key ⟨text, hk⟩
    exact h key.1 key.2 text hk

theorem connectorsOwned_iff {t : Tables} {c : ConnectorTables} :
    (c.connectors.rows.values.all fun row => t.providers.rows.contains row.owner) = true ↔
      ∀ number, t.providers.rows.find? number = none → c.rowsOf number = ∅ := by
  simp only [List.all_eq_true, Dict.mem_values_iff, Dict.eq_empty_iff,
    ConnectorTables.find?_rowsOf, Option.map_eq_none_iff]
  constructor
  · intro h owner howner number
    rw [Option.eq_none_iff_forall_ne_some]
    intro row hrow
    obtain ⟨hfind, rfl⟩ := ConnectorTables.find?_ownedBy_eq_some.mp hrow
    have := h row ⟨number, hfind⟩
    rw [Dict.contains, howner] at this
    cases this
  · rintro h row ⟨number, hfind⟩
    cases howner : t.providers.rows.find? row.owner with
    | some _ => rw [Dict.contains, howner]; rfl
    | none =>
      have := h row.owner howner number
      rw [ConnectorTables.find?_ownedBy_eq_some.mpr ⟨hfind, rfl⟩] at this
      cases this

/-- The check of the schema computes whether every row has its owner. -/
theorem isReferential_iff {t : Tables} : t.isReferential = true ↔ t.Referential := by
  simp only [isReferential, Bool.and_eq_true, List.all_cons, List.all_nil, Bool.and_true,
    rooted_iff, connectorsOwned_iff]
  simp only [hasOwners_iff, OwnedTable.certificates, OwnedTable.roleMappings,
    OwnedTable.properties, OwnedTable.requestedClaims, OwnedTable.provisioningClaims,
    OwnedTable.provisioningRoles, OwnedTable.jitProviders, hasProvider_eq_false_iff]
  constructor
  · rintro ⟨⟨⟨⟨⟨⟨⟨⟨⟨hcert, hrole⟩, hprop⟩, hclaim⟩, hprov⟩, hprole⟩, hjit⟩, ha⟩, hp⟩, hac, hpc⟩
    refine ⟨fun number hnone => ?_, fun kind => ?_⟩
    · simp only [rowsOf, hnone, hcert number hnone, hrole number hnone, hprop number hnone,
        hclaim number hnone, hprov number hnone, hprole number hnone, hjit number hnone]
      rw [show t.authenticators.rowsOf number = ∅ from hac number hnone,
        show t.provisioners.rowsOf number = ∅ from hpc number hnone]
    · cases kind with
      | authenticator => exact ha
      | provisioner => exact hp
  · intro h
    have part {δ : Type} (field : ProviderRows → δ) (number : Int)
        (hnone : t.providers.rows.find? number = none) :
        field (t.rowsOf number) = field {} := congrArg field (h.absent number hnone)
    exact ⟨⟨⟨⟨⟨⟨⟨⟨⟨part (·.certificates), part (·.roleMappings)⟩, part (·.properties)⟩,
      part (·.requestedClaims)⟩, part (·.provisioningClaims)⟩, part (·.provisioningRoles)⟩,
      part (·.jitProviders)⟩, h.rooted .authenticator⟩, h.rooted .provisioner⟩,
      part (·.authenticators), part (·.provisioners)⟩

end Tables

end FederationRegistry
