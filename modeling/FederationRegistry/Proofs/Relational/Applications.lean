import FederationRegistry.Proofs.Relational.MirrorReads
import FederationRegistry.Proofs.ServiceProvider.Defaults

/-!
# Writing a service provider and loading it back

**Theorem (`Sections.lossless`).** Sections whose document has no doubles and nests no deeper than
a reader goes are read back from their text, and from every text that is left of it when members
that hold their defaults are left out. So whatever a database holds, and under any engine, a
service provider with such sections that is created or updated there loads back as it was given,
by its identifier and by its name.

A service provider is one row. It loads when its text does (`Tables.loadApplication_of_row`), and
its name leads to it, since a write succeeds only where no other row has the name.
-/

namespace FederationRegistry

/-! ## Names -/

section Names

variable {ρ : Type} {e : EntityTable ρ} {t : Tables} {number : Int} {name : String}

theorem EntityTable.isNameTaken_eq_false_iff :
    e.isNameTaken t number name = false ↔
      ∀ n row, (e.rows t).rows.find? n = some row → e.name row = name → n = number := by
  rw [isNameTaken, List.any_eq_false]
  refine ⟨fun h n row hrow hname => ?_, fun h entry hentry => ?_⟩
  · by_contra hne
    exact h (n, row) (Dict.mem_entries_iff.mpr hrow) (by simp [hne, hname])
  · simp only [Bool.and_eq_true, bne_iff_ne, beq_iff_eq, not_and]
    exact fun hne hname => hne (h entry.1 entry.2 (Dict.mem_entries_iff.mp hentry) hname)

/-- A name that one row has and no other leads to the row. -/
theorem EntityTable.numberOf?_of_row {row : ρ} (hrow : (e.rows t).rows.find? number = some row)
    (hfree : e.isNameTaken t number (e.name row) = false) :
    e.numberOf? t (e.name row) = some number := by
  have hmem := Dict.mem_entries_iff.mpr hrow
  rw [numberOf?, Option.map_eq_some_iff]
  cases hfind : (e.rows t).rows.entries.find? fun entry => e.name entry.2 == e.name row with
  | none => exact absurd (List.find?_eq_none.mp hfind _ hmem) (by simp)
  | some entry =>
    have hname : e.name entry.2 = e.name row := by simpa using List.find?_some hfind
    have hentry := Dict.mem_entries_iff.mp (List.mem_of_find?_eq_some hfind)
    exact ⟨entry, rfl, isNameTaken_eq_false_iff.mp hfree entry.1 entry.2 hentry hname⟩

end Names

/-! ## Loading -/

namespace Tables

variable {t : Tables} {a : ServiceProvider} {id : ServiceProviderId}

/-- The service provider is loaded by its identifier and by its name. -/
structure Serves (t : Tables) (id : ServiceProviderId) (a : ServiceProvider) : Prop where
  byId : t.get .serviceProvider (.id id) = .ok (some (a.withId id))
  byName : t.get .serviceProvider (.name a.name) = .ok (some (a.withId id))

/-- Rows to which a row was added, or in which it was replaced, where no other had the name. -/
theorem serves_of_insert {t' : Tables} (ha : a.validate = .ok ())
    (hsections : a.sections.Readable) (hid : (id.value : Int) ≤ maxColumnInteger)
    (hfree : EntityTable.applications.isNameTaken t id.value a.name = false)
    (hrows : t'.applications.rows = t.applications.rows.insert id.value a.row) :
    t'.Serves id a := by
  have hrow : t'.applications.rows.find? (id.value : Int) = some a.row := by
    rw [hrows, Dict.find?_insert, if_pos rfl]
  have hload := loadApplication_of_row ha hsections hrow
  -- only the row itself has the name, for no row had it before
  have hstays : EntityTable.applications.isNameTaken t' id.value a.row.name = false := by
    refine EntityTable.isNameTaken_eq_false_iff.mpr fun n row hfind hname => ?_
    by_contra hne
    have hfind : t'.applications.rows.find? n = some row := hfind
    rw [hrows, Dict.find?_insert, if_neg (Ne.symm hne)] at hfind
    exact hne (EntityTable.isNameTaken_eq_false_iff.mp hfree n row hfind hname)
  have hnumber : t'.numberOf? .serviceProvider a.name = some (id.value : Int) :=
    EntityTable.numberOf?_of_row (e := .applications) hrow hstays
  constructor
  · simp only [get, Id.rowNumber?, if_pos hid]
    exact hload
  · simp only [get, hnumber]
    exact hload

end Tables

/-! ## Writing -/

namespace Database

variable {db : Database} {engine : Engine} {a : ServiceProvider} {id : ServiceProviderId}

theorem serves_of_create (ha : a.validate = .ok ()) (hsections : a.sections.Readable)
    (h : (db.answerUnder engine (.create .serviceProvider a)).result = .ok id) :
    (db.answerUnder engine (.create .serviceProvider a)).store.tables.Serves id a := by
  have hanswer : db.answerUnder engine (.create .serviceProvider a) =
      db.writing engine (.create .serviceProvider) (target .serviceProvider a.name)
        a.insertRows := rfl
  rw [hanswer] at h ⊢
  obtain ⟨hid, hfree, htables⟩ := ServiceProvider.written_of_insert (settle_of_writing h)
  exact Tables.serves_of_insert ha hsections hid hfree (by rw [htables]; rfl)

theorem serves_of_update (ha : a.validate = .ok ()) (hsections : a.sections.Readable)
    (h : (db.answerUnder engine (.update .serviceProvider (a.withId id))).result = .ok ()) :
    (db.answerUnder engine (.update .serviceProvider (a.withId id))).store.tables.Serves id a := by
  cases hnumber : id.rowNumber? with
  | none =>
    simp only [answerUnder, Entity.idOf, ServiceProvider.withId, writingAt, hnumber] at h
    cases h
  | some number =>
    obtain ⟨rfl, hid⟩ := Id.rowNumber?_eq_some_iff.mp hnumber
    have hanswer : db.answerUnder engine (.update .serviceProvider (a.withId id)) =
        db.writing engine (.update .serviceProvider) (target .serviceProvider id.text)
          ((a.withId id).updateRows id id.value) :=
      writingAt_of_rowNumber hnumber db engine _ _
    rw [hanswer] at h ⊢
    obtain ⟨hfree, htables⟩ := ServiceProvider.written_of_update (settle_of_writing h)
    exact Tables.serves_of_insert ha hsections hid hfree (by rw [htables]; rfl)

end Database

/-- **The text of sections is lossless, its defaults agree, and so what is stored loads back.** -/
theorem Sections.lossless {s : Sections} (hs : s.Plain) :
    Sections.ofText s.text = .ok s ∧
      (∀ j, Sections.schema.Omits s.toJson j → Sections.ofText j.compact = .ok s) ∧
      ∀ (db : Database) (engine : Engine) (a : ServiceProvider) (id : ServiceProviderId),
        a.Built → a.sections = s →
          ((db.answerUnder engine (.create .serviceProvider a)).result = .ok id →
            (db.answerUnder engine (.create .serviceProvider a)).store.tables.Serves id a) ∧
          ((db.answerUnder engine (.update .serviceProvider (a.withId id))).result = .ok () →
            (db.answerUnder engine
              (.update .serviceProvider (a.withId id))).store.tables.Serves id a) := by
  refine ⟨hs.readable, fun j => hs.ofText_of_omits, fun db engine a id ha hsections => ?_⟩
  subst hsections
  exact ⟨Database.serves_of_create ha.valid hs.readable,
    Database.serves_of_update ha.valid hs.readable⟩

/-- Sections with a binding, a step and a property of a blank key that is `null`. -/
def Sections.sample : Sections where
  inbound := [{ key := "portal", type := "oauth2" }]
  login := { steps := [{ federatedProviders := ["acme"] }] }
  properties := Dict.insert ∅ "" (.ofJson .null)

/-- What is left of them when all is left out that can be. -/
def Sections.sampleShort : Json :=
  .object
    [("inbound_authentication", .array [.object
        [("inbound_auth_key", .string "portal"), ("inbound_auth_type", .string "oauth2")]]),
      ("local_and_outbound", .object
        [("steps", .array [.object [("federated_idps", .array [.string "acme"])]])]),
      ("properties", .object [("", .null)])]

theorem Sections.omits_sampleShort : schema.Omits sample.toJson sampleShort :=
  .record <|
    .keep (.list (.cons (.record (.keep (.none _ _) (.keep (.none _ _)
      (.drop (.drop (.drop .nil)))))) .nil)) <|
    .keep (.record (.keep
      (.list (.cons (.record (.drop (.drop (.keep (.none _ _) .nil)))) .nil))
      (.drop (.drop (.drop .nil))))) <|
    .drop <| .drop <| .drop <| .keep (.none _ _) .nil

/-- A short text is read back, and a service provider with the sections is stored. -/
theorem Sections.lossless_sample :
    sample.Plain ∧ Sections.ofText sampleShort.compact = .ok sample ∧
      (Database.fresh.answerUnder Engine.reliable (.create .serviceProvider
        { name := "portal", sections := sample })).store.tables.Serves (Id.nth 0)
        { name := "portal", sections := sample } := by
  have hplain : sample.Plain :=
    ⟨by repeat' first | exact trivial | apply And.intro, by decide +kernel⟩
  have hbuilt : ({ name := "portal", sections := sample } : ServiceProvider).Built :=
    .build (d := { name := "portal", sections := sample }) (by decide +kernel)
  have hcreate : (Database.fresh.answerUnder Engine.reliable (.create .serviceProvider
      { name := "portal", sections := sample })).result = .ok (Id.nth 0) := by
    decide +kernel
  obtain ⟨-, hshort, hserves⟩ := lossless hplain
  exact ⟨hplain, hshort sampleShort omits_sampleShort,
    (hserves Database.fresh Engine.reliable _ (Id.nth 0) hbuilt rfl).1 hcreate⟩

end FederationRegistry
