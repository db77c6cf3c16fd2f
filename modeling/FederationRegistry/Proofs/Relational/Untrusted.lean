import FederationRegistry.Proofs.Json.Depth
import FederationRegistry.Proofs.Relational.Loaded
import FederationRegistry.Proofs.Relational.MirrorWrites
import FederationRegistry.Proofs.Relational.RoundTrip
import Mathlib.Data.List.Nodup

/-!
# Rows are not trusted

Whoever can write to the file of a database may leave in its rows whatever the schema lets stand
there (`Tables.Conforms`): names, numbers and texts that no writer would have written.

**Theorem (`Database.load_untrusted`).** Loading from such rows fails, or finds nothing because
there is no row, or gives a provider that keeps every rule and has the identifier it was asked
for. And what was loaded can be given back: the update of the provider to itself succeeds, and
loading it once more gives the same again.

That the update succeeds is where the schema is needed: unique names, owners that are there, and
numbers within their column. That it is read back is where texts matter: a value was read from some
text, so it nests no deeper than a reader goes, and its canonical text is read as the value itself
(`PropertyValue.plain_of_ofText`).
-/

namespace FederationRegistry

/-! ## What the schema demands -/

/-- The rows are as the schema demands. Flags and the kinds of cells are so by their types. -/
structure Tables.Conforms (t : Tables) : Prop where
  referential : t.isReferential = true
  distinct : t.repeatedName? = none
  /-- The numbers of providers are integers of a column. -/
  numbers : ∀ number ∈ t.providers.rows.keys, number ≤ maxColumnInteger

namespace Tables

variable {t : Tables} {number : Int}

theorem nodup_of_areDistinct {κ : Type} [Key κ] [DecidableEq κ] {names : List κ}
    (h : areDistinct names = true) : names.Nodup := by
  have hsize : (KeySet.ofList names).size = names.length := by simpa [areDistinct] using h
  exact (KeySet.nodup_of_size_addMany (s := ∅) (hsize.trans (Nat.zero_add _).symm)).1

theorem Conforms.nodup_names (h : t.Conforms) :
    (t.providers.rows.values.map (·.name)).Nodup := by
  refine nodup_of_areDistinct (Decidable.byContradiction fun hrepeated => ?_)
  have hdistinct := h.distinct
  rw [repeatedName?, if_pos (by simpa using hrepeated)] at hdistinct
  cases hdistinct

/-- No other provider has the name of a row. -/
theorem Conforms.isNameTaken_own (h : t.Conforms) {row : ProviderRow}
    (hrow : t.providers.rows.find? number = some row) :
    EntityTable.providers.isNameTaken t number row.name = false := by
  rw [EntityTable.isNameTaken, List.any_eq_false]
  rintro ⟨other, otherRow⟩ hother htaken
  simp only [Bool.and_eq_true, bne_iff_ne, ne_eq, beq_iff_eq] at htaken
  have hnodup : (t.providers.rows.entries.map fun e => e.2.name).Nodup := by
    simpa [Dict.values, Function.comp_def] using h.nodup_names
  have hsame := List.inj_on_of_nodup_map hnodup hother (Dict.mem_entries_iff.mpr hrow) htaken.2
  exact htaken.1 (congrArg Prod.fst hsame)

end Tables

/-! ## What is loaded -/

/-- Every property of the provider has a key that is not blank and a value that is not `null`. -/
structure IdentityProvider.Kept (p : IdentityProvider) : Prop where
  properties : p.properties.Kept
  authenticators : ∀ a, p.authentication = some a →
    ∀ name c, a.authenticators.find? name = some c → c.properties.Kept
  provisioners : ∀ name c, p.provisioning.provisioners.find? name = some c → c.properties.Kept

theorem IdentityProvider.Sound.kept {p : IdentityProvider} (h : p.Sound) : p.Kept where
  properties := h.properties
  authenticators a ha name c hc := ((h.authentication a ha).1 name c hc).2.2
  provisioners name c hc := (h.provisioning.provisioners name c hc).2.2

/-- A provider that keeps all rules and has the number that it was loaded for. -/
structure IdentityProvider.Proper (p : IdentityProvider) (number : Int) : Prop where
  identified : ∃ id, p.id = some id ∧ (id.value : Int) = number
  valid : p.validate = .ok ()
  resident : p.kind = .resident ↔ p.name = residentName
  kept : p.Kept

namespace Tables

variable {t : Tables} {number : Int} {p : IdentityProvider}

theorem proper_of_loadProvider (h : t.loadProvider number = .ok (some p)) : p.Proper number :=
  have hsound := sound_of_loadProvider h
  ⟨id_of_loadProvider h, hsound.valid, IdentityProvider.resident_iff hsound.valid, hsound.kept⟩

theorem name_of_loadProvider (h : t.loadProvider number = .ok (some p)) :
    ∃ row, t.providers.rows.find? number = some row ∧ p.name = row.name := by
  obtain ⟨row, d, q, id, hrow, hd, hq, -, rfl⟩ := loadProvider_eq_some_iff.mp h
  obtain ⟨variant, -, -, -, -, rfl, -⟩ := IdentityProvider.Draft.build_eq_ok_iff.mp hq
  exact ⟨row, hrow, (draftLoads_of_loadDraft hd).name⟩

/-- What was loaded is written back when numbers are left for its connectors. -/
theorem settle_updateRows_of_loadProvider (ht : t.Conforms)
    (h : t.loadProvider number = .ok (some p))
    (hroom : ∀ kind, (t.connectors kind).HasRoom ((t.connectors kind).rowsOf number).size)
    (id : ProviderId) : ∃ t', (p.updateRows id number).settle t = .ok ((), t') := by
  obtain ⟨row, hrow, hname⟩ := name_of_loadProvider h
  have hrooted := (isReferential_iff.mp ht.referential).rooted
  have hfits : ∀ kind, ((t.putProvider number p.storedRow).connectors kind).HasRoom
      (p.count kind) := fun kind => by
    have hcount := count_of_loadProvider h kind
    have hleft := hroom kind
    rw [connectors_putProvider]
    unfold ConnectorTables.HasRoom at hleft ⊢
    omega
  obtain ⟨t', hput⟩ := IdentityProvider.putRows?_isSome hfits number
  refine ⟨t', ?_⟩
  rw [IdentityProvider.settle_updateRows (sound_of_loadProvider h) hrooted, hrow, hname]
  simp only [ht.isNameTaken_own hrow, Bool.false_eq_true, if_false, hput]
  rfl

end Tables

/-! ## Giving back what was loaded -/

namespace Database

/-- **Rows are not trusted, and what loads from them can be given back.** -/
theorem load_untrusted (db : Database) (hguards : db.guards = []) (hdb : db.tables.Conforms)
    (number : Int)
    (htexts : ∀ text ∈ (db.tables.rowsOf number).texts, PropertyValue.DoubleFreeText text)
    (hroom : ∀ kind,
      (db.tables.connectors kind).HasRoom ((db.tables.connectors kind).rowsOf number).size) :
    (db.tables.loadProvider number = .ok none ↔
      db.tables.providers.rows.contains number = false) ∧
    ∀ p, db.tables.loadProvider number = .ok (some p) →
      p.Proper number ∧
      (db.answer (.update .identityProvider p)).result = .ok () ∧
      (db.answer (.update .identityProvider p)).store.tables.loadProvider number =
        .ok (some p) := by
  refine ⟨Tables.loadProvider_eq_none_iff.trans Dict.contains_eq_false_iff.symm, fun p hload => ?_⟩
  have hsound := Tables.sound_of_loadProvider hload
  -- double-free texts decode to values that are written and read back
  have hvalues : p.HasValues PropertyValue.Readable :=
    Tables.hasValues_of_loadProvider hload fun text htext v hv =>
      (PropertyValue.plain_of_ofText (htexts text htext) hv).readable
  obtain ⟨id, hid, rfl⟩ := Tables.id_of_loadProvider hload
  have hwithId : p.withId id = p := by
    cases p
    cases hid
    rfl
  -- the provider carries the number of its row, and the row conforms
  have hnumber : id.rowNumber? = some (id.value : Int) := by
    obtain ⟨row, hrow, -⟩ := Tables.name_of_loadProvider hload
    exact Id.rowNumber?_eq_some_iff.mpr
      ⟨rfl, hdb.numbers _ (Dict.mem_keys_iff.mpr ⟨row, hrow⟩)⟩
  have hanswer : db.answer (.update .identityProvider p) =
      db.answerUnder Engine.reliable (.update .identityProvider (p.withId id)) := by
    rw [answer, engine_of_guards hguards, hwithId]
  -- whatever loads is valid, its name is its own, and there is room for its connectors
  have hresult : (db.answerUnder Engine.reliable
      (.update .identityProvider (p.withId id))).result = .ok () := by
    obtain ⟨t', hsettle⟩ := Tables.settle_updateRows_of_loadProvider hdb hload hroom id
    have hwriting : db.answerUnder Engine.reliable (.update .identityProvider (p.withId id)) =
        db.writing Engine.reliable (.update .identityProvider) (target .identityProvider id.text)
          ((p.withId id).updateRows id id.value) :=
      writingAt_of_rowNumber hnumber db Engine.reliable _ _
    rw [hwriting, hwithId, writing_reliable, hsettle]
    rfl
  have hstored :=
    stored_of_update (Tables.isReferential_iff.mp hdb.referential) hsound hvalues hresult
  refine ⟨Tables.proper_of_loadProvider hload, by rw [hanswer]; exact hresult, ?_⟩
  have hloaded := hstored.loaded
  simp only [Tables.get, hnumber] at hloaded
  rw [← hanswer, hwithId] at hloaded
  exact hloaded

end Database

/-! ## Tampered rows -/

/-- Beside a provider that does not load, one with a text that no writer has written and a key that
no builder takes. -/
def Tables.tampered : Tables where
  providers := Tables.damaged.providers.append 2
    (IdentityProvider.storedRow { metadata := { name := "acme" }, variant := .federated {} })
  properties := (Tables.damaged.properties.insert (2, "tags") " [ true ] ").insert (2, " ") "true"

theorem Tables.conforms_tampered : Tables.tampered.Conforms :=
  ⟨by decide +kernel, by decide +kernel, by decide +kernel⟩

theorem Tables.doubleFree_tampered :
    ∀ text ∈ (Tables.tampered.rowsOf 2).texts, PropertyValue.DoubleFreeText text := by
  have htexts : (Tables.tampered.rowsOf 2).texts = ["true", " [ true ] "] := by decide +kernel
  rw [htexts, List.forall_mem_cons, List.forall_mem_singleton]
  constructor
  · exact PropertyValue.doubleFreeText_of_ofText (v := .ofJson (.bool true)) (by decide +kernel)
      trivial
  · exact PropertyValue.doubleFreeText_of_ofText (v := .ofJson (.array [.bool true]))
      (by decide +kernel) ⟨trivial, trivial⟩

/-- What loads from the tampered rows has the one property that can be set, and is taken back. -/
theorem Database.load_untrusted_tampered :
    ∃ p, Tables.tampered.loadProvider 2 = .ok (some p) ∧
      p.properties = PropertyMap.put ∅ "tags" (.ofJson (.array [.bool true])) ∧ p.Proper 2 ∧
      (({ fresh with tables := .tampered } : Database).answer
        (.update .identityProvider p)).result = .ok () ∧
      (({ fresh with tables := .tampered } : Database).answer
        (.update .identityProvider p)).store.tables.loadProvider 2 = .ok (some p) := by
  have hload : Tables.tampered.loadProvider 2 = .ok (some
      { id := some ⟨2, by decide⟩
        metadata := { name := "acme" }
        properties := PropertyMap.put ∅ "tags" (.ofJson (.array [.bool true]))
        variant := .federated {} }) := by decide +kernel
  exact ⟨_, hload, rfl,
    (load_untrusted { fresh with tables := .tampered } rfl Tables.conforms_tampered 2
      Tables.doubleFree_tampered (by intro kind; cases kind <;> decide +kernel)).2 _ hload⟩

end FederationRegistry
