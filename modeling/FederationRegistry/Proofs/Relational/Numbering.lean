import FederationRegistry.Proofs.Memory
import FederationRegistry.Proofs.Relational.Answer

/-!
# Numbers of connectors

Properties name their connector by its number, and a section is written by dropping connectors and
adding others. So a number must not come back while properties may still stand under it.

**Theorem (`Database.continues_answer`).** Whatever a database is asked, under whatever engine, its
connectors `Continue` those before: what stands under a number that had been given out stood there
before, with the same properties, and no number is given out twice.

To drop connectors leaves the others with their properties. A connector that is added stands under
a number beyond all those given out, as long as these are beyond all rows (`SerialTable.Tight`).
-/

namespace FederationRegistry

open Transaction

namespace ConnectorTables

variable {c c' c'' : ConnectorTables} {owner : Int}

/-- The number given out last does not fall, and what stands under a number that had been given out
stood there before, with the same properties. -/
structure Continues (c c' : ConnectorTables) : Prop where
  last : c.connectors.last ≤ c'.connectors.last
  same : ∀ number row, number ≤ c.connectors.last →
    c'.connectors.rows.find? number = some row →
      c.connectors.rows.find? number = some row ∧
        c'.properties.slice number = c.properties.slice number

theorem Continues.refl (c : ConnectorTables) : c.Continues c :=
  ⟨Int.le_refl _, fun _ _ _ hrow => ⟨hrow, rfl⟩⟩

theorem Continues.trans (h : c.Continues c') (h' : c'.Continues c'') : c.Continues c'' where
  last := Int.le_trans h.last h'.last
  same number row hold hrow := by
    obtain ⟨hmiddle, hslice'⟩ := h'.same number row (Int.le_trans hold h.last) hrow
    obtain ⟨hfirst, hslice⟩ := h.same number row hold hmiddle
    exact ⟨hfirst, hslice'.trans hslice⟩

theorem continues_dropOwner (c : ConnectorTables) (owner : Int) :
    c.Continues (c.dropOwner owner) where
  last := Int.le_refl _
  same number row _ hrow := by
    obtain ⟨hfind, howner⟩ := find?_connectors_dropOwner_eq_some.mp hrow
    have hstays : (c.ownedBy owner).contains number = false := by
      rw [Dict.contains_eq_false_iff, find?_ownedBy, hfind]
      simp [howner]
    refine ⟨hfind, Dict.ext_find? fun key => ?_⟩
    rw [Dict.find?_slice, Dict.find?_slice, find?_properties_dropOwner, hstays]
    rfl

/-- A connector is added under a number that was not given out. -/
theorem continues_add (hc : c.connectors.Tight) {connector : Connector}
    (h : c.add? owner connector = some c') : c.Continues c' ∧ c'.connectors.Tight := by
  obtain ⟨number, hnext, rfl⟩ := Option.map_eq_some_iff.mp h
  have hnumber := (SerialTable.next?_eq_some_iff.mp hnext).2
  rw [SerialTable.top_of_tight hc] at hnumber
  refine ⟨⟨by show c.connectors.last ≤ number; omega, fun n row hold hrow => ?_⟩,
    SerialTable.tight_append hnext hc _⟩
  have hne : n ≠ number := by omega
  rw [SerialTable.append, Dict.find?_insert, if_neg (Ne.symm hne)] at hrow
  exact ⟨hrow, Dict.slice_mergeOwner_of_ne _ hne _⟩

theorem continues_addAll (hc : c.connectors.Tight) {connectors : List Connector}
    (h : c.addAll? owner connectors = some c') : c.Continues c' := by
  induction connectors generalizing c with
  | nil =>
    cases h
    exact .refl _
  | cons connector rest ih =>
    obtain ⟨middle, hadd, hrest⟩ := Option.bind_eq_some_iff.mp h
    obtain ⟨hcontinues, htight⟩ := continues_add hc hadd
    exact hcontinues.trans (ih htight hrest)

/-- Connectors that replace those of a provider stand under numbers that were not given out. -/
theorem continues_replace (hc : c.connectors.Tight) {connectors : List Connector}
    (h : c.replace? owner connectors = some c') : c.Continues c' :=
  (continues_dropOwner c owner).trans (continues_addAll (tight_dropOwner hc owner) h)

end ConnectorTables

/-! ## Writers -/

namespace Tables

variable {t t' : Tables}

/-- The connectors of both kinds go on from those before. -/
def Continues (t t' : Tables) : Prop := ∀ kind, (t.connectors kind).Continues (t'.connectors kind)

theorem Continues.refl (t : Tables) : t.Continues t := fun _ => .refl _

theorem Continues.trans {t'' : Tables} (h : t.Continues t') (h' : t'.Continues t'') :
    t.Continues t'' := fun kind => (h kind).trans (h' kind)

theorem Continues.of_connectors (h : ∀ kind, t'.connectors kind = t.connectors kind) :
    t.Continues t' := fun kind => h kind ▸ .refl _

end Tables

/-- Every row of a connector has a number that was given out. -/
abbrev Tables.Tight (t : Tables) : Prop := ∀ kind, (t.connectors kind).connectors.Tight

section Writers

variable {t t' : Tables} {number : Int}

theorem IdentityProvider.continues_putRows (ht : t.Tight) {p : IdentityProvider}
    (h : p.putRows? t number = some t') : t.Continues t' := by
  obtain ⟨_, hauthentication, h⟩ := Option.bind_eq_some_iff.mp h
  obtain ⟨authenticators, hreplace, rfl⟩ := Option.map_eq_some_iff.mp hauthentication
  obtain ⟨_, hprovisioning, rfl⟩ := Option.map_eq_some_iff.mp h
  obtain ⟨provisioners, hreplace', rfl⟩ := Option.map_eq_some_iff.mp hprovisioning
  intro kind
  cases kind with
  | authenticator => exact ConnectorTables.continues_replace (ht .authenticator) hreplace
  | provisioner => exact ConnectorTables.continues_replace (ht .provisioner) hreplace'

theorem SectionUpdate.continues_putRows (ht : t.Tight) {s : SectionUpdate} {row : ProviderRow}
    (h : s.putRows? t number row = some t') : t.Continues t' := by
  cases s with
  | metadata m =>
    cases h
    exact .of_connectors fun kind => by cases kind <;> rfl
  | authentication a =>
    obtain ⟨authenticators, hreplace, rfl⟩ := Option.map_eq_some_iff.mp h
    intro kind
    cases kind with
    | authenticator => exact ConnectorTables.continues_replace (ht .authenticator) hreplace
    | provisioner => exact .refl _
  | provisioning p =>
    obtain ⟨provisioners, hreplace, rfl⟩ := Option.map_eq_some_iff.mp h
    intro kind
    cases kind with
    | authenticator => exact .refl _
    | provisioner => exact ConnectorTables.continues_replace (ht .provisioner) hreplace
  | properties delta =>
    cases h
    exact .of_connectors fun kind => by cases kind <;> rfl

theorem Tables.continues_dropProvider (t : Tables) (number : Int) :
    t.Continues (t.dropProvider number) := fun kind => by
  rw [connectors_dropProvider]
  exact ConnectorTables.continues_dropOwner _ number

end Writers

/-! ## Transactions -/

theorem ranOut_eq_ok {out : Option Tables} {t' : Tables} (h : ranOut out = .ok ((), t')) :
    out = some t' := by
  cases out with
  | none => cases h
  | some t => cases h; rfl

section Transactions

variable {t t' : Tables} {number : Int}

theorem IdentityProvider.continues_insertRows {p : IdentityProvider} {id : ProviderId}
    (hp : p.Sound) (hrooted : ∀ kind, (t.connectors kind).Rooted) (ht : t.Tight)
    (h : p.insertRows.settle t = .ok (id, t')) : t.Continues t' := by
  rw [settle_insertRows hp hrooted] at h
  split at h
  · cases h
  · rename_i number _
    split at h
    · cases h
    · split at h
      · cases h
      · rename_i written hput
        obtain ⟨_, -, hout⟩ := except_map_eq_ok_iff.mp h
        cases hout
        have happended := Tables.connectors_appendProvider t number p.storedRow
        have htight : (t.appendProvider number p.storedRow).Tight := fun kind => by
          rw [happended]
          exact ht kind
        exact (Tables.Continues.of_connectors happended).trans (continues_putRows htight hput)

theorem IdentityProvider.continues_updateRows {p : IdentityProvider} {id : ProviderId}
    (hp : p.Sound) (hrooted : ∀ kind, (t.connectors kind).Rooted) (ht : t.Tight)
    (h : (p.updateRows id number).settle t = .ok ((), t')) : t.Continues t' := by
  rw [settle_updateRows hp hrooted] at h
  split at h
  · cases h
  · split at h
    · cases h
    · have hreplaced := Tables.connectors_putProvider t number p.storedRow
      have htight : (t.putProvider number p.storedRow).Tight := fun kind => by
        rw [hreplaced]
        exact ht kind
      exact (Tables.Continues.of_connectors hreplaced).trans
        (continues_putRows htight (ranOut_eq_ok h))

theorem SectionUpdate.continues_writeRows {s : SectionUpdate} {id : ProviderId} (hs : s.Built)
    (hrooted : ∀ kind, (t.connectors kind).Rooted) (ht : t.Tight)
    (h : (s.writeRows id number).settle t = .ok ((), t')) : t.Continues t' := by
  rw [settle_writeRows hs hrooted] at h
  split at h
  · cases h
  · split at h
    · cases h
    · exact continues_putRows ht (ranOut_eq_ok h)

namespace Database

theorem continues_delete {e : Entity} {id : Id e}
    (h : (onRow id (deleteRow e number)).settle t = .ok ((), t')) : t.Continues t' := by
  cases e with
  | identityProvider =>
    rw [settle_deleteProvider] at h
    split at h
    · cases h
      exact t.continues_dropProvider number
    · cases h
  | serviceProvider =>
    rw [settle_deleteApplication] at h
    split at h
    · cases h
      exact .of_connectors fun kind => by cases kind <;> rfl
    · cases h

theorem continues_switch {e : Entity} {id : Id e} {enabled : Bool}
    (h : (onRow id (switchRow e number enabled)).settle t = .ok ((), t')) : t.Continues t' := by
  cases e with
  | identityProvider =>
    rw [settle_switchProvider] at h
    split at h
    · cases h
    · split at h
      · cases h
      · cases h
        exact .of_connectors (Tables.connectors_putProvider t number _)
  | serviceProvider =>
    rw [settle_switchApplication] at h
    split at h
    · cases h
    · split at h
      · cases h
      · cases h
        exact .of_connectors fun kind => by cases kind <;> rfl

end Database

theorem ServiceProvider.continues_insertRows {p : ServiceProvider} {id : ServiceProviderId}
    (h : p.insertRows.settle t = .ok (id, t')) : t.Continues t' := by
  obtain ⟨-, -, rfl⟩ := written_of_insert h
  exact .of_connectors fun kind => by cases kind <;> rfl

theorem ServiceProvider.continues_updateRows {p : ServiceProvider} {id : ServiceProviderId}
    (h : (p.updateRows id number).settle t = .ok ((), t')) : t.Continues t' := by
  obtain ⟨-, rfl⟩ := written_of_update h
  exact .of_connectors fun kind => by cases kind <;> rfl

namespace Database

theorem continues_insert {d : Demand} {e : Entity} {a : e.Aggregate} {id : Id e}
    (ha : e.Offered d a) (hrooted : ∀ kind, (t.connectors kind).Rooted) (ht : t.Tight)
    (h : (insert e a).settle t = .ok (id, t')) : t.Continues t' := by
  cases e with
  | identityProvider =>
    exact IdentityProvider.continues_insertRows (IdentityProvider.Built.sound ha.1) hrooted ht h
  | serviceProvider => exact ServiceProvider.continues_insertRows h

theorem continues_update {d : Demand} {e : Entity} {a : e.Aggregate} {id : Id e}
    (ha : e.Offered d a) (hrooted : ∀ kind, (t.connectors kind).Rooted) (ht : t.Tight)
    (h : (update e a id number).settle t = .ok ((), t')) : t.Continues t' := by
  cases e with
  | identityProvider =>
    exact IdentityProvider.continues_updateRows (IdentityProvider.Built.sound ha.1) hrooted ht h
  | serviceProvider => exact ServiceProvider.continues_updateRows h

end Database

end Transactions

/-! ## Answers -/

namespace Database

variable {db : Database} {action : Action} {target : String}

/-- A write that the engine refuses leaves the tables, so only what it comes to matters. -/
theorem continues_writing {α : Type} {body : Transaction α} [Steady body] (engine : Engine)
    (h : ∀ a t', body.settle db.tables = .ok (a, t') → db.tables.Continues t') :
    db.tables.Continues (db.writing engine action target body).store.tables := by
  obtain ⟨err, hfailed⟩ | hsettled := writing_cases body db engine action target
  · rw [hfailed]
    exact .refl _
  · rw [hsettled]
    cases hsettle : body.settle db.tables with
    | error err => exact .refl _
    | ok out => exact h out.1 out.2 hsettle

theorem continues_writingAt {e : Entity} {id : Id e} {body : Int → Transaction Unit}
    [∀ number, Steady (body number)] (engine : Engine)
    (h : ∀ number t', (body number).settle db.tables = .ok ((), t') → db.tables.Continues t') :
    db.tables.Continues (db.writingAt engine action id body).store.tables := by
  cases hnumber : id.rowNumber? with
  | none =>
    rw [writingAt_of_none hnumber]
    exact .refl _
  | some number =>
    rw [writingAt_of_rowNumber hnumber]
    exact continues_writing engine fun _ => h number

/-- **Whatever is asked**, connectors go on from those before, under any engine. -/
theorem continues_answer {d : Demand} (engine : Engine)
    (hrooted : ∀ kind, (db.tables.connectors kind).Rooted) (ht : db.tables.Tight) {r : Request}
    (hr : r.Admissible d) : db.tables.Continues (db.answerUnder engine r).store.tables := by
  cases r with
  | list | get | resolve | findByProperty | readiness =>
    rw [store_of_reading rfl]
    exact .refl _
  -- a write either commits, and its statements continue the counters, or leaves no trace
  | create e a =>
    exact continues_writing engine fun _ _ hsettle => continues_insert hr hrooted ht hsettle
  | update e a =>
    simp only [answerUnder]
    cases e.idOf a with
    | none => exact .refl _
    | some id =>
      exact continues_writingAt engine fun _ _ hsettle => continues_update hr hrooted ht hsettle
  | updateSection id s =>
    rw [answerUnder, updateSection_of_built hr.1]
    obtain ⟨err, hfailed⟩ | ⟨number, -, hwriting⟩ := writingSection_cases db engine id s
    · -- the update failed before its first statement
      rw [hfailed]
      exact .refl _
    · rw [hwriting]
      exact continues_writing engine fun _ _ hsettle =>
        SectionUpdate.continues_writeRows hr.1 hrooted ht hsettle
  | delete e id => exact continues_writingAt engine fun _ _ hsettle => continues_delete hsettle
  | switch e id enabled =>
    cases e <;> exact continues_writingAt engine fun _ _ hsettle => continues_switch hsettle

end Database

end FederationRegistry
