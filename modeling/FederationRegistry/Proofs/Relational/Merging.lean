import FederationRegistry.Proofs.Relational.Sections

/-!
# Merging properties

A delta is merged into the properties of a provider in three places: into an aggregate, into a
draft, and into the rows of a database, where each property is a statement of its own and the rule
of what is passed over is stated once more.

**Theorem (`Database.merges_agree`).** The three give the same. What the rows of a provider decode
to after a merge is what the aggregate and the draft have after it, exactly when the values that
the delta sets are readable; keys that the delta does not set keep their text, their value, or that
there is none.

**The laws** (`MergeLaws`) hold in each of the three places: to merge twice is to merge once, one
merge after another is one merge of the first delta overridden by the second, and deltas that set
no key in common can be merged in either order. All of them come from two facts (`MergeLaws.of`):
a merge looks at what a delta sets and at nothing else, and one merge after another is a single one.
-/

namespace FederationRegistry

open PropertyValue (Readable)

/-! ## What deltas set -/

namespace PropertyMap

variable {d d₁ d₂ : PropertyMap} {key : String}

/-- The first delta with each property that the second sets in place of its own. -/
def overriddenBy (d₁ d₂ : PropertyMap) : PropertyMap := d₁.merge d₂.settables

/-- No key is set by both deltas. -/
def Apart (d₁ d₂ : PropertyMap) : Prop :=
  ∀ key, d₁.settables.find? key = none ∨ d₂.settables.find? key = none

theorem find?_settables (d : PropertyMap) (key : String) :
    d.settables.find? key = (d.find? key).filter (settable key) :=
  Dict.find?_filter _ _ _

/-- A delta does not set a key that it does not have, that is blank, or that it has a null for. -/
theorem find?_settables_eq_none_iff :
    d.settables.find? key = none ↔
      d.find? key = none ∨ Text.isBlank key = true ∨
        ∃ v, d.find? key = some v ∧ v.isNull = true := by
  rw [find?_settables]
  cases d.find? key with
  | none => simp
  | some v => cases hblank : Text.isBlank key <;> cases hnull : v.isNull <;> simp_all [settable]

theorem settables_overriddenBy (d₁ d₂ : PropertyMap) :
    (d₁.overriddenBy d₂).settables = d₁.settables.merge d₂.settables :=
  Dict.ext_find? fun key => by
    rw [find?_settables, overriddenBy, Dict.find?_merge, Dict.find?_merge, find?_settables d₁,
      find?_settables d₂]
    cases d₂.find? key with
    | none => rfl
    | some v => cases hset : settable key v <;> simp [Option.filter, hset]

theorem find?_absorb_settables (m d : PropertyMap) (key : String) :
    (m.absorb d).find? key = (d.settables.find? key).or (m.find? key) := by
  rw [find?_absorb, find?_settables]

end PropertyMap

/-! ## Laws of a merge -/

/-- The laws of a merge that takes a state to a result with a state in it. -/
structure MergeLaws {σ ρ : Type} (merge : PropertyMap → σ → ρ) (after : ρ → σ) : Prop where
  twice : ∀ d s, merge d (after (merge d s)) = merge d s
  chain : ∀ d₁ d₂ s, merge d₂ (after (merge d₁ s)) = merge (d₁.overriddenBy d₂) s
  swap : ∀ d₁ d₂ s, d₁.Apart d₂ → merge d₂ (after (merge d₁ s)) = merge d₁ (after (merge d₂ s))

/-- The laws hold of a merge that looks at what a delta sets alone, and that is a single merge when
one comes after another. -/
theorem MergeLaws.of {σ ρ : Type} {merge : PropertyMap → σ → ρ} {after : ρ → σ}
    (hset : ∀ d d' s, d.settables = d'.settables → merge d s = merge d' s)
    (hchain : ∀ d₁ d₂ s, merge d₂ (after (merge d₁ s)) = merge (d₁.overriddenBy d₂) s) :
    MergeLaws merge after where
  twice d s := by
    rw [hchain]
    refine hset _ _ s ?_
    rw [PropertyMap.settables_overriddenBy]
    exact Dict.ext_find? fun key => by rw [Dict.find?_merge, Option.or_self]
  chain := hchain
  swap d₁ d₂ s hapart := by
    rw [hchain, hchain]
    refine hset _ _ s ?_
    rw [PropertyMap.settables_overriddenBy, PropertyMap.settables_overriddenBy]
    refine Dict.ext_find? fun key => ?_
    rw [Dict.find?_merge, Dict.find?_merge]
    rcases hapart key with hnone | hnone <;> simp [hnone]

/-! ## Aggregates and drafts -/

theorem PropertyMap.absorb_of_settables {d d' : PropertyMap} (h : d.settables = d'.settables)
    (m : PropertyMap) : m.absorb d = m.absorb d' :=
  Dict.ext_find? fun key => by rw [find?_absorb_settables, find?_absorb_settables, h]

theorem PropertyMap.absorb_absorb (m d₁ d₂ : PropertyMap) :
    (m.absorb d₁).absorb d₂ = m.absorb (d₁.overriddenBy d₂) :=
  Dict.ext_find? fun key => by
    simp only [find?_absorb_settables, settables_overriddenBy, Dict.find?_merge, Option.or_assoc]

theorem IdentityProvider.mergeLaws :
    MergeLaws (fun d (p : IdentityProvider) => p.withMergedProperties d) fun p => p :=
  .of (fun d d' p h => by simp only [withMergedProperties, PropertyMap.absorb_of_settables h])
    fun d₁ d₂ p => by simp only [withMergedProperties, PropertyMap.absorb_absorb]

theorem IdentityProvider.Draft.mergeLaws :
    MergeLaws (fun d (b : Draft) => b.edit (.addProperties d)) fun b => b :=
  .of (fun d d' b h => by simp only [edit, PropertyMap.absorb_of_settables h])
    fun d₁ d₂ b => by simp only [edit, PropertyMap.absorb_absorb]

/-! ## Rows -/

theorem PropertyMap.texts_merge (d₁ d₂ : PropertyMap) :
    PropertyMap.texts (d₁.merge d₂) = d₁.texts.merge d₂.texts :=
  Dict.ext_find? fun key => by
    simp only [texts, Dict.find?_mapValues, Dict.find?_merge]
    cases d₂.find? key <;> rfl

theorem PropertyMap.mergeRows_mergeRows (d₁ d₂ : PropertyMap) (t : Tables) (owner : Int) :
    d₂.mergeRows (d₁.mergeRows t owner) owner = (d₁.overriddenBy d₂).mergeRows t owner := by
  simp only [mergeRows, Dict.mergeOwner_mergeOwner, settables_overriddenBy]
  rw [texts_merge]

namespace Database

/-- The answer to a merge when the engine refuses nothing. -/
def mergeProperties (db : Database) (id : ProviderId) (d : PropertyMap) : Answer Database Unit :=
  db.answerUnder Engine.reliable (.updateSection id (.properties d))

/-- The row of a provider is there under a number. -/
def HasRow (db : Database) (id : ProviderId) (number : Int) : Prop :=
  id.rowNumber? = some number ∧ db.tables.providers.rows.contains number = true

variable {db : Database} {id : ProviderId} {number : Int}

/-- A merge into the properties of a provider that is there. -/
theorem mergeProperties_of_hasRow (h : db.HasRow id number) (d : PropertyMap) :
    db.mergeProperties id d = ⟨.ok (), { db with tables := d.mergeRows db.tables number }, []⟩ := by
  have hanswer : db.mergeProperties id d = _ :=
    updateSection_of_letsRead Engine.letsRead_reliable (s := .properties d) trivial db id
  rw [hanswer, writingAt_of_rowNumber h.1, writing_reliable, SectionUpdate.writeRows,
    Transaction.settle_bind, SectionUpdate.settle_requireProvider, if_pos h.2]
  simp only [Except.bind, PropertyMap.settle_writeMerged h.2, settled]

/-- A merge into the properties of a provider that is not there. -/
theorem mergeProperties_of_not_hasRow (h : ¬∃ number, db.HasRow id number) (d : PropertyMap) :
    db.mergeProperties id d = ⟨.error (.noSuchId id), db, []⟩ := by
  have hanswer : db.mergeProperties id d = _ :=
    updateSection_of_letsRead Engine.letsRead_reliable (s := .properties d) trivial db id
  rw [hanswer]
  cases hnumber : id.rowNumber? with
  | none => exact writingAt_of_none hnumber db _ _ _
  | some number =>
    have hrow : ¬db.tables.providers.rows.contains number = true := fun hrow =>
      h ⟨number, hnumber, hrow⟩
    rw [writingAt_of_rowNumber hnumber, writing_reliable, SectionUpdate.writeRows,
      Transaction.settle_bind, SectionUpdate.settle_requireProvider, if_neg hrow]
    rfl

theorem mergeLaws (id : ProviderId) :
    MergeLaws (fun d (db : Database) => db.mergeProperties id d) (·.store) := by
  refine .of (fun d d' db h => ?_) fun d₁ d₂ db => ?_
  · by_cases hrow : ∃ number, db.HasRow id number
    · obtain ⟨number, hrow⟩ := hrow
      rw [mergeProperties_of_hasRow hrow, mergeProperties_of_hasRow hrow, PropertyMap.mergeRows, h]
      rfl
    · rw [mergeProperties_of_not_hasRow hrow, mergeProperties_of_not_hasRow hrow]
  · by_cases hrow : ∃ number, db.HasRow id number
    · obtain ⟨number, hrow⟩ := hrow
      have hafter : ({ db with tables := d₁.mergeRows db.tables number } : Database).HasRow id
          number := hrow
      rw [mergeProperties_of_hasRow hrow, mergeProperties_of_hasRow hafter,
        mergeProperties_of_hasRow hrow, PropertyMap.mergeRows_mergeRows]
    · rw [mergeProperties_of_not_hasRow hrow, mergeProperties_of_not_hasRow hrow,
        mergeProperties_of_not_hasRow hrow]

end Database

/-! ## What the rows decode to -/

namespace PropertyMap

variable {texts : Dict String String} {d : PropertyMap} {key : String}

theorem find?_mergeTexts_of_some {v : PropertyValue} (h : d.settables.find? key = some v) :
    (texts.merge d.settables.texts).find? key = some v.text := by
  rw [Dict.find?_merge, PropertyMap.texts, Dict.find?_mapValues, h]
  rfl

theorem find?_mergeTexts_of_none (h : d.settables.find? key = none) :
    (texts.merge d.settables.texts).find? key = texts.find? key := by
  rw [Dict.find?_merge, PropertyMap.texts, Dict.find?_mapValues, h]
  rfl

/-- Texts with those of a delta merged into them decode to the merged properties exactly when what
the delta sets is readable. -/
theorem decodeProperties_mergeTexts_iff {m : PropertyMap}
    (hm : Tables.decodeProperties texts = .ok m) :
    Tables.decodeProperties (texts.merge d.settables.texts) = .ok (m.absorb d) ↔
      d.settables.HasValues Readable := by
  constructor
  · intro h key v hv
    obtain ⟨w, hw, hfind⟩ := Dict.find?_of_traverse h (find?_mergeTexts_of_some hv)
    rw [find?_absorb_settables, hv] at hfind
    cases hfind
    exact (mapError_eq_ok_iff _).mp hw
  · intro hvalues
    -- a key of the delta shows the new text, any other key the one it had
    refine Dict.traverse_eq_ok_of_find? (fun key text htext => ?_) fun key htext => ?_
    · rw [find?_absorb_settables]
      cases hv : d.settables.find? key with
      | some v =>
        rw [find?_mergeTexts_of_some hv] at htext
        cases htext
        exact ⟨v, (mapError_eq_ok_iff _).mpr (hvalues key v hv), rfl⟩
      | none =>
        rw [find?_mergeTexts_of_none hv] at htext
        exact Dict.find?_of_traverse hm htext
    · rw [find?_absorb_settables]
      cases hv : d.settables.find? key with
      | some v => rw [find?_mergeTexts_of_some hv] at htext; cases htext
      | none =>
        rw [find?_mergeTexts_of_none hv] at htext
        refine Option.eq_none_iff_forall_ne_some.mpr fun v hfind => ?_
        obtain ⟨text, hsome, -⟩ := Dict.exists_of_traverse hm hfind
        exact Option.some_ne_none text (hsome.symm.trans htext)

end PropertyMap

namespace Database

/-- **The merges agree, and compose.** A merge into the rows of a provider that is there succeeds.
What the rows then decode to is what the merge makes of an aggregate with the properties that they
decoded to before, exactly when the values that the delta sets are readable, and what it makes of a
draft with these properties. A key that the delta does not set, since it has no value, is blank, or
has a null, keeps its text and its value, or that there is none. The merges into rows, aggregates
and drafts obey the laws of a merge. -/
theorem merges_agree {db : Database} {id : ProviderId} {number : Int}
    (hrow : db.HasRow id number) {p : IdentityProvider} {b : IdentityProvider.Draft}
    (hp : Tables.decodeProperties (db.tables.properties.slice number) = .ok p.properties)
    (hb : Tables.decodeProperties (db.tables.properties.slice number) = .ok b.properties)
    (d : PropertyMap) :
    (db.mergeProperties id d).result = .ok () ∧
    (Tables.decodeProperties ((db.mergeProperties id d).store.tables.properties.slice number) =
        .ok (p.withMergedProperties d).properties ↔ d.settables.HasValues Readable) ∧
    (b.edit (.addProperties d)).properties = (p.withMergedProperties d).properties ∧
    (∀ key, (d.find? key = none ∨ Text.isBlank key = true ∨
        ∃ v, d.find? key = some v ∧ v.isNull = true) →
      ((db.mergeProperties id d).store.tables.properties.slice number).find? key =
          (db.tables.properties.slice number).find? key ∧
        (p.withMergedProperties d).properties.find? key = p.properties.find? key) ∧
    MergeLaws (fun d (db : Database) => db.mergeProperties id d) (·.store) ∧
    MergeLaws (fun d (p : IdentityProvider) => p.withMergedProperties d) (fun p => p) ∧
    MergeLaws (fun d (b : IdentityProvider.Draft) => b.edit (.addProperties d)) (fun b => b) := by
  have hrows : (db.mergeProperties id d).store.tables.properties.slice number =
      (db.tables.properties.slice number).merge d.settables.texts := by
    rw [mergeProperties_of_hasRow hrow]
    exact Dict.slice_mergeOwner_self _ _ _
  -- one row set decodes to one map, so the builder starts where the provider does
  have hsame : b.properties = p.properties := Except.ok.inj (hb.symm.trans hp)
  refine ⟨by rw [mergeProperties_of_hasRow hrow], ?_, ?_, fun key hkey => ?_, mergeLaws id,
    IdentityProvider.mergeLaws, IdentityProvider.Draft.mergeLaws⟩
  · rw [hrows]
    exact PropertyMap.decodeProperties_mergeTexts_iff hp
  · exact congrArg (PropertyMap.absorb · d) hsame
  · have hunset := PropertyMap.find?_settables_eq_none_iff.mpr hkey
    rw [hrows, IdentityProvider.withMergedProperties, PropertyMap.find?_absorb_settables, hunset]
    exact ⟨PropertyMap.find?_mergeTexts_of_none hunset, rfl⟩

/-- A provider with a plan and a tier. -/
def labelled : IdentityProvider where
  metadata := { name := "labelled" }
  variant := .federated {}
  properties := PropertyMap.put (.put ∅ "plan" (.ofJson (.ofInt 7))) "tier"
    (.ofJson (.string "gold"))

/-- The rows of that provider, the text of the plan written with blanks. -/
def labelledRows : Database where
  tables := {
    providers := ({} : SerialTable ProviderRow).append 1 labelled.storedRow
    properties := Dict.ofList [((1, "plan"), " 7 "), ((1, "tier"), "\"gold\"")] }

/-- A delta with a value under a blank key, a null, a value in the place of another and a new
one. -/
def relabelling : PropertyMap :=
  Dict.ofList [(" ", .ofJson (.ofInt 1)), ("plan", .ofJson .null),
    ("tier", .ofJson (.string "silver")), ("zone", .ofJson (.string "eu"))]

theorem readable_relabelling : relabelling.settables.HasValues Readable := by
  have hreadable : ∀ e ∈ relabelling.settables.entries,
      PropertyValue.ofText e.2.text = .ok e.2 := by decide +kernel
  intro key v hv
  have hvalue := hreadable (key, v) (Dict.mem_entries_iff.mpr hv)
  rw [Readable]
  exact hvalue

/-- The plan stays, the tier is overwritten, the zone is added and nothing stands under a blank
key. -/
theorem merges_agree_relabelling :
    labelledRows.HasRow ⟨1, by decide⟩ 1 ∧
      Tables.decodeProperties (labelledRows.tables.properties.slice 1) =
        .ok labelled.properties ∧
      Tables.decodeProperties
          ((labelledRows.mergeProperties ⟨1, by decide⟩ relabelling).store.tables.properties.slice
            1) = .ok (labelled.withMergedProperties relabelling).properties ∧
      (labelled.withMergedProperties relabelling).properties.entries =
        [("plan", .ofJson (.ofInt 7)), ("tier", .ofJson (.string "silver")),
          ("zone", .ofJson (.string "eu"))] := by
  have hrow : labelledRows.HasRow ⟨1, by decide⟩ 1 := by
    unfold HasRow
    decide +kernel
  have hdecoded : Tables.decodeProperties (labelledRows.tables.properties.slice 1) =
      .ok labelled.properties := by decide +kernel
  have hmerged := merges_agree hrow (p := labelled)
    (b := { kind := .federated, metadata := { name := "" }, properties := labelled.properties })
    hdecoded hdecoded relabelling
  exact ⟨hrow, hdecoded, hmerged.2.1.mpr readable_relabelling, by decide +kernel⟩

end Database

end FederationRegistry
