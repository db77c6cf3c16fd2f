import FederationRegistry.Proofs.Relational.Answer
import FederationRegistry.Proofs.Relational.Load

/-!
# Sections are updated on their own

**Theorem (`Database.updatePart_apart`).** An update of one part of a provider, a section or its
switch, has a result that only the names of the providers decide, and leaves the rows of all
other providers and the other parts of this one as they are. What a successful update wrote is
read back as what was given exactly when every property value in it is readable: the writer takes
values that nest deeper than the reader goes.

Rows that do not decode may stand anywhere. The result is computed from the names alone by
`PartialUpdate.verdict`, which knows nothing of the other rows; the rows after the update are
those that `SectionUpdate.Turns` describes.
-/

namespace FederationRegistry

open Transaction
open PropertyValue (Readable)

/-! ## Partial updates -/

/-- An update of one part of a provider. -/
inductive PartialUpdate where
  | content (s : SectionUpdate)
  | switch (enabled : Bool)

/-- The answer to a partial update when the engine refuses nothing. -/
def Database.updatePart (db : Database) (id : ProviderId) :
    PartialUpdate → Answer Database Unit
  | .content s => db.answerUnder Engine.reliable (.updateSection id s)
  | .switch enabled => db.answerUnder Engine.reliable (.switch .identityProvider id enabled)

/-- The names of the providers under their row numbers. -/
def Tables.providerNames (t : Tables) : Dict Int String :=
  t.providers.rows.mapValues fun _ row => row.name

namespace PartialUpdate

/-- The content can be made by builders. -/
def Built : PartialUpdate → Prop
  | .content s => s.Built
  | .switch _ => True

/-- The number of connectors of a kind in the content. -/
def count : PartialUpdate → ConnectorKind → Nat
  | .content s => s.count
  | .switch _ => fun _ => 0

/-- Every row has its owner, and numbers are left for the connectors of the update. -/
structure Fits (u : PartialUpdate) (t : Tables) : Prop where
  referential : t.isReferential = true
  room : ∀ kind, (t.connectors kind).HasRoom (u.count kind)

/-! ## Results -/

/-- Another provider has the name. -/
def isTaken (names : Dict Int String) (number : Int) (name : String) : Bool :=
  names.entries.any fun e => e.1 != number && e.2 == name

/-- The failure of a switch when another provider has the name of the row. -/
def switchFailure (id : ProviderId) (enabled : Bool) : RegistryError :=
  (dataFailure EntityTable.providers.nameTaken).inContext
    (Action.switch .identityProvider enabled).label (Database.target .identityProvider id.text)

/-- What an update of the provider with a number and a name is answered with. -/
def verdictAt (u : PartialUpdate) (id : ProviderId) (names : Dict Int String) (number : Int)
    (name : String) : Except RegistryError Unit :=
  match u with
  | .content (.metadata m) =>
    match (ProviderKind.ofName name).checkMetadata m with
    | .error err => .error (.ofModel err)
    | .ok () =>
      if isTaken names number m.name then .error (.nameTaken .identityProvider m.name)
      else .ok ()
  | .content _ => .ok ()
  | .switch enabled =>
    if isTaken names number name then .error (switchFailure id enabled) else .ok ()

/-- What an update is answered with, by the names of the providers alone. -/
def verdict (u : PartialUpdate) (id : ProviderId) (names : Dict Int String) :
    Except RegistryError Unit :=
  match id.rowNumber? with
  | none => .error (.noSuchId id)
  | some number =>
    match names.find? number with
    | none => .error (.noSuchId id)
    | some name => u.verdictAt id names number name

theorem isTaken_providerNames (t : Tables) (number : Int) (name : String) :
    isTaken t.providerNames number name =
      EntityTable.providers.isNameTaken t number name := by
  simp only [isTaken, Tables.providerNames, Dict.mapValues, List.any_map]
  rfl

theorem find?_providerNames (t : Tables) (number : Int) :
    t.providerNames.find? number = (t.providers.rows.find? number).map (·.name) :=
  Dict.find?_mapValues _ _ _

variable {db : Database} {u : PartialUpdate} {id : ProviderId}

/-! ## What an update comes to -/

/-- What becomes of the rows of a provider. -/
def Turns (u : PartialUpdate) (number : Int) (r r' : ProviderRows) : Prop :=
  match u with
  | .content s => s.Turns number r r'
  | .switch enabled => r' = { r with row := r.row.map fun row => { row with enabled } }

/-- An update is answered with a failure and the store as it was, or is done. -/
inductive Comes (db : Database) (u : PartialUpdate) (id : ProviderId) : Prop
  | refused (err : RegistryError) (verdict : u.verdict id db.tables.providerNames = .error err)
      (answer : db.updatePart id u = ⟨.error err, db, []⟩)
  | done (t' : Tables) (verdict : u.verdict id db.tables.providerNames = .ok ())
      (answer : db.updatePart id u = ⟨.ok (), { db with tables := t' }, []⟩)
      (there : ∃ row, db.tables.providers.rows.find? (id.value : Int) = some row)
      (own : u.Turns id.value (db.tables.rowsOf id.value) (t'.rowsOf id.value))
      (rewrites : db.tables.Rewrites t' id.value u.count)

/-- Of new content the verdict is the refusal that the row gives rise to. -/
theorem verdict_content (s : SectionUpdate) {t : Tables} {row : ProviderRow}
    (hnumber : id.rowNumber? = some (id.value : Int))
    (hrow : t.providers.rows.find? (id.value : Int) = some row) :
    verdict (content s) id t.providerNames =
      (s.refusal? t id.value row).elim (.ok ()) Except.error := by
  simp only [verdict, hnumber, find?_providerNames, hrow, Option.map_some]
  cases s with
  | metadata m =>
    simp only [verdictAt, SectionUpdate.refusal?, isTaken_providerNames]
    cases (ProviderKind.ofName row.name).checkMetadata m with
    | error err => rfl
    | ok _ => dsimp only; split <;> rfl
  | authentication a => rfl
  | provisioning p => rfl
  | properties delta => rfl

theorem comes_of_content {s : SectionUpdate} (hs : s.Built)
    (hfits : (content s).Fits db.tables) : Comes db (content s) id := by
  have hrooted := (Tables.isReferential_iff.mp hfits.referential).rooted
  have hanswer : db.updatePart id (content s) = _ :=
    Database.updateSection_of_letsRead Engine.letsRead_reliable hs db id
  cases hnumber : id.rowNumber? with
  | none =>
    rw [Database.writingAt_of_none hnumber] at hanswer
    exact .refused _ (by rw [verdict, hnumber]) hanswer
  | some number =>
    obtain ⟨rfl, -⟩ := Id.rowNumber?_eq_some_iff.mp hnumber
    rw [Database.writingAt_of_rowNumber hnumber, Database.writing_reliable,
      SectionUpdate.settle_writeRows hs hrooted] at hanswer
    cases hrow : db.tables.providers.rows.find? (id.value : Int) with
    | none =>
      rw [hrow] at hanswer
      have hverdict : verdict (content s) id db.tables.providerNames = .error (.noSuchId id) := by
        simp only [verdict, hnumber, find?_providerNames, hrow, Option.map_none]
      exact .refused (.noSuchId id) hverdict hanswer
    | some row =>
      have hverdict := verdict_content s hnumber hrow
      rw [hrow] at hanswer
      dsimp only at hanswer
      cases hrefusal : s.refusal? db.tables id.value row with
      | some err =>
        rw [hrefusal] at hanswer hverdict
        refine .refused err hverdict (hanswer.trans ?_)
        simp only [Database.settled, SectionUpdate.inContext_of_refusal? hrefusal]
      | none =>
        -- there is room for the connectors, so the rows can be put
        obtain ⟨t', hput⟩ := SectionUpdate.putRows?_isSome hfits.room id.value row
        obtain ⟨hown, hrewrites⟩ := SectionUpdate.turns_putRows hrooted hrow hput
        rw [hrefusal] at hanswer hverdict
        dsimp only at hanswer
        rw [hput] at hanswer
        exact .done t' hverdict hanswer ⟨row, hrow⟩ hown hrewrites

theorem comes_of_switch {enabled : Bool} (hfits : (switch enabled).Fits db.tables) :
    Comes db (switch enabled) id := by
  have hrooted := (Tables.isReferential_iff.mp hfits.referential).rooted
  have hanswer : db.updatePart id (switch enabled) =
      db.writingAt Engine.reliable (.switch .identityProvider enabled) id fun number =>
        Database.onRow id (Database.switchRow .identityProvider number enabled) := rfl
  cases hnumber : id.rowNumber? with
  | none =>
    rw [Database.writingAt_of_none hnumber] at hanswer
    exact .refused _ (by rw [verdict, hnumber]) hanswer
  | some number =>
    obtain ⟨rfl, -⟩ := Id.rowNumber?_eq_some_iff.mp hnumber
    rw [Database.writingAt_of_rowNumber hnumber, Database.writing_reliable,
      Database.settle_switchProvider] at hanswer
    have hname := find?_providerNames db.tables id.value
    cases hrow : db.tables.providers.rows.find? (id.value : Int) with
    | none =>
      rw [hrow] at hanswer hname
      exact .refused (.noSuchId id) (by simp only [verdict, hnumber, hname, Option.map_none])
        hanswer
    | some row =>
      rw [hrow] at hanswer hname
      have hverdict : verdict (switch enabled) id db.tables.providerNames =
          if EntityTable.providers.isNameTaken db.tables id.value row.name then
            .error (switchFailure id enabled)
          else .ok () := by
        simp only [verdict, hnumber, hname, Option.map_some, verdictAt, isTaken_providerNames]
      dsimp only at hanswer
      -- the statement writes the name again, so a damaged table can refuse it
      split at hverdict
      · rename_i htaken
        rw [if_pos htaken] at hanswer
        exact .refused _ hverdict hanswer
      · rename_i hfree
        rw [if_neg hfree] at hanswer
        have hstored : (db.tables.rowsOf id.value).row = some row := hrow
        refine .done _ hverdict hanswer ⟨row, hrow⟩ ?_ (Tables.rewrites_putProvider hrooted _ _)
        rw [Turns, Tables.rowsOf_putProvider, hstored]
        rfl

theorem comes (hu : u.Built) (hfits : u.Fits db.tables) (id : ProviderId) : Comes db u id := by
  cases u with
  | content s => exact comes_of_content hu hfits
  | switch enabled => exact comes_of_switch hfits

/-! ## What an update leaves alone -/

/-- The rows of a provider without what an update of one part owns. A merge owns the properties
that it sets and no others. -/
def hide : PartialUpdate → ProviderRows → ProviderRows
  | .content (.metadata _), r => { r with
      row := r.row.map fun row => { row with
        name := "", displayLabel := none, description := none
        dialectId := .null, dialectIsLocal := false }
      certificates := ∅, roleMappings := ∅ }
  | .content (.authentication _), r => { r with requestedClaims := ∅, authenticators := ∅ }
  | .content (.provisioning _), r => { r with
      jitProviders := ∅, provisioningClaims := ∅, provisioningRoles := ∅, provisioners := ∅ }
  | .content (.properties delta), r => { r with
      properties := r.properties.filter fun key _ => !delta.settables.contains key }
  | .switch _, r => { r with row := r.row.map fun row => { row with enabled := false } }

theorem hide_of_turns {number : Int} {r r' : ProviderRows} (h : u.Turns number r r') :
    u.hide r' = u.hide r := by
  cases u with
  | content s =>
    cases s with
    | metadata m =>
      obtain rfl : r' = _ := h
      simp only [hide, Option.map_map]
      rfl
    | authentication a => obtain ⟨records, -, rfl⟩ := h; rfl
    | provisioning p => obtain ⟨records, -, rfl⟩ := h; rfl
    | properties delta =>
      obtain rfl : r' = _ := h
      -- what a merge changes is hidden, and the other keys it leaves alone
      have hothers : (r.properties.merge delta.settables.texts).filter
            (fun key _ => !delta.settables.contains key) =
          r.properties.filter fun key _ => !delta.settables.contains key := by
        refine Dict.ext_find? fun key => ?_
        simp only [Dict.find?_filter, Dict.find?_merge, PropertyMap.texts, Dict.find?_mapValues]
        cases hkey : delta.settables.find? key with
        | none => rfl
        | some v =>
          have hset : delta.settables.contains key = true := Dict.contains_iff.mpr ⟨v, hkey⟩
          cases r.properties.find? key <;> simp [hset]
      simp only [hide, hothers]
  | switch enabled =>
    obtain rfl : r' = _ := h
    simp only [hide, Option.map_map]
    rfl

/-! ## What an update wrote -/

/-- The metadata behind the rows of a provider. -/
def loadMetadata (t : Tables) (number : Int) (row : ProviderRow) : Except StoreError Metadata := do
  let dialectId ← Tables.integerIn? 5 "claim_dialect_id" row.dialectId
  let roleMappings ← Tables.decodeRoles (t.roleMappings.slice number)
  let claimDialect ← Tables.loadDialect dialectId row.dialectIsLocal
  return {
    name := row.name
    displayLabel := row.displayLabel
    description := row.description
    certificates := t.certificates.slice number
    claimDialect
    roleMappings }

/-- What is read back of the part that was updated is what was given. Merged properties are read
back one by one, since others beside them may not decode. -/
def IsReadBack (u : PartialUpdate) (number : Int) (t : Tables) : Prop :=
  match u with
  | .content (.metadata m) =>
    ∃ row, t.providers.rows.find? number = some row ∧ loadMetadata t number row = .ok m
  | .content (.authentication a) => t.loadAuthentication number = .ok a.nonempty?
  | .content (.provisioning p) => t.loadProvisioning number = .ok p
  | .content (.properties delta) =>
    ∀ key v, delta.settables.find? key = some v →
      ∃ text, (t.properties.slice number).find? key = some text ∧
        PropertyValue.ofText text = .ok v
  | .switch enabled =>
    ∃ row, t.providers.rows.find? number = some row ∧ row.enabled = enabled

/-- Every property value that the update sets has the property. -/
def HasValues (P : PropertyValue → Prop) : PartialUpdate → Prop
  | .content (.properties delta) => delta.settables.HasValues P
  | .content s => s.HasValues P
  | .switch _ => True

theorem loadMetadata_of_rows {t : Tables} {number : Int} (m : Metadata) (row : ProviderRow)
    (hcertificates : t.certificates.slice number = m.certificates)
    (hroles : t.roleMappings.slice number = m.roleRows) :
    loadMetadata t number (m.intoRow m.dialectCells row) = .ok m := by
  obtain ⟨dialect, hinteger, hdialect⟩ := Tables.loadDialect_dialectCells m
  simp only [loadMetadata, Metadata.intoRow, hinteger, hroles, Tables.decodeRoles_roleRows,
    hdialect, hcertificates, bind, Except.bind]
  rfl

/-- **What an update wrote is read back** exactly when every property value in it is readable. -/
theorem isReadBack_iff (hu : u.Built) {number : Int} {t t' : Tables}
    (hthere : ∃ row, t.providers.rows.find? number = some row)
    (h : u.Turns number (t.rowsOf number) (t'.rowsOf number)) :
    u.IsReadBack number t' ↔ u.HasValues Readable := by
  obtain ⟨row, hrow⟩ := hthere
  have hstored : (t.rowsOf number).row = some row := hrow
  cases u with
  | content s =>
    cases s with
    | metadata m =>
      have hrows : t'.rowsOf number = _ := h
      rw [hstored, Option.map_some] at hrows
      refine ⟨fun _ => trivial, fun _ => ⟨m.intoRow m.dialectCells row, ?_, ?_⟩⟩
      · exact congrArg ProviderRows.row hrows
      · exact loadMetadata_of_rows m row (congrArg ProviderRows.certificates hrows)
          (congrArg ProviderRows.roleMappings hrows)
    | authentication a =>
      obtain ⟨records, hrecords, hrows⟩ := h
      have hhold : (t'.rowsOf number).HoldAuthentication number a.nonempty? :=
        ⟨by rw [hrows], by rw [hrows]; exact hrecords⟩
      -- an empty section is dropped, and a section that is there was checked on the way in
      refine (Tables.loadAuthentication_iff (fun s hs => ?_) hhold).trans ?_
      · obtain ⟨rfl, hempty⟩ := Authentication.nonempty?_eq_some hs
        exact ⟨hu.1.formed, hempty, Authentication.Built.valid hu⟩
      · exact Authentication.hasValues_nonempty?
    | provisioning p =>
      obtain ⟨records, hrecords, hrows⟩ := h
      exact Tables.loadProvisioning_iff hu.1.formed (Provisioning.Built.valid hu)
        ⟨by rw [hrows], by rw [hrows], by rw [hrows], by rw [hrows]; exact hrecords⟩
    | properties delta =>
      have hproperties : t'.properties.slice number =
          (t.properties.slice number).merge delta.settables.texts :=
        congrArg ProviderRows.properties h
      -- a merged key shows the text of the delta, whatever text was there before
      have hfind {key : String} {v : PropertyValue} (hv : delta.settables.find? key = some v) :
          (t'.properties.slice number).find? key = some v.text := by
        rw [hproperties, Dict.find?_merge, PropertyMap.texts, Dict.find?_mapValues, hv]
        rfl
      constructor
      · intro hback key v hv
        obtain ⟨text, htext, hdecoded⟩ := hback key v hv
        rw [hfind hv] at htext
        cases htext
        exact hdecoded
      · exact fun hvalues key v hv => ⟨v.text, hfind hv, hvalues key v hv⟩
  | switch enabled =>
    have hrows : t'.rowsOf number = _ := h
    rw [hstored, Option.map_some] at hrows
    exact ⟨fun _ => trivial, fun _ => ⟨_, congrArg ProviderRows.row hrows, rfl⟩⟩

end PartialUpdate

namespace Database

/-- **Parts are updated on their own.** The result depends on the update and on the names of the
providers only; the rows of other providers, those of applications and the other parts of the
provider stay; and what was written is read back exactly when its property values are readable. -/
theorem updatePart_apart (u : PartialUpdate) (hu : u.Built) (id : ProviderId) :
    (∀ db db' : Database, u.Fits db.tables → u.Fits db'.tables →
      db.tables.providerNames = db'.tables.providerNames →
        (db.updatePart id u).result = (db'.updatePart id u).result) ∧
    ∀ db : Database, u.Fits db.tables →
      (∀ o, o ≠ (id.value : Int) →
        (db.updatePart id u).store.tables.rowsOf o = db.tables.rowsOf o) ∧
      (db.updatePart id u).store.tables.applications = db.tables.applications ∧
      u.hide ((db.updatePart id u).store.tables.rowsOf id.value) =
        u.hide (db.tables.rowsOf id.value) ∧
      ((db.updatePart id u).result = .ok () →
        (u.IsReadBack id.value (db.updatePart id u).store.tables ↔ u.HasValues Readable)) := by
  -- the verdict reads names only, so two databases of the same names agree on it
  have hresult (db : Database) (hfits : u.Fits db.tables) :
      (db.updatePart id u).result = u.verdict id db.tables.providerNames := by
    cases PartialUpdate.comes hu hfits id with
    | refused err hverdict hanswer => rw [hanswer, hverdict]
    | done t' hverdict hanswer hthere hown hrewrites => rw [hanswer, hverdict]
  refine ⟨fun db db' hfits hfits' hnames => ?_, fun db hfits => ?_⟩
  · rw [hresult db hfits, hresult db' hfits', hnames]
  · cases PartialUpdate.comes hu hfits id with
    | refused err hverdict hanswer =>
      rw [hanswer]
      exact ⟨fun _ _ => rfl, rfl, rfl, fun h => nomatch h⟩
    | done t' hverdict hanswer hthere hown hrewrites =>
      rw [hanswer]
      exact ⟨hrewrites.others, hrewrites.applications, PartialUpdate.hide_of_turns hown,
        fun _ => PartialUpdate.isReadBack_iff hu hthere hown⟩

/-- The authentication of a provider that does not load is updated and read back, with the result
that it has for a provider of the name that does. -/
theorem updatePart_damaged :
    (PartialUpdate.content (.authentication .byTotp)).Built ∧
      (PartialUpdate.content (.authentication .byTotp)).Fits Tables.damaged ∧
      Tables.damaged.providerNames =
        ({ Tables.damaged with properties := ∅ } : Tables).providerNames ∧
      (({ tables := .damaged } : Database).updatePart ⟨1, by decide⟩
          (.content (.authentication .byTotp))).result =
        (({ tables := { Tables.damaged with properties := ∅ } } : Database).updatePart
          ⟨1, by decide⟩ (.content (.authentication .byTotp))).result ∧
      (PartialUpdate.content (.authentication .byTotp)).IsReadBack 1
        (({ tables := .damaged } : Database).updatePart ⟨1, by decide⟩
          (.content (.authentication .byTotp))).store.tables :=
  have hbuilt : (PartialUpdate.content (.authentication .byTotp)).Built :=
    Authentication.built_byTotp
  have hfits : (PartialUpdate.content (.authentication .byTotp)).Fits Tables.damaged :=
    ⟨by decide +kernel, fun kind => by cases kind <;> decide +kernel⟩
  have hfits' : (PartialUpdate.content (.authentication .byTotp)).Fits
      { Tables.damaged with properties := ∅ } :=
    ⟨by decide +kernel, fun kind => by cases kind <;> decide +kernel⟩
  have hapart := updatePart_apart _ hbuilt ⟨1, by decide⟩
  have hread := (hapart.2 { tables := .damaged } hfits).2.2.2 (by decide +kernel)
  ⟨hbuilt, hfits, rfl, hapart.1 { tables := .damaged } _ hfits hfits' rfl,
    hread.mpr (Authentication.plain_byTotp.mono fun _ hv => hv.readable)⟩

/-- A value that nests deeper than the reader goes is merged into the properties of a provider,
and what was written is not read back. -/
theorem updatePart_not_read_back :
    ∃ (db : Database) (id : ProviderId) (u : PartialUpdate),
      u.Built ∧ u.Fits db.tables ∧ (db.updatePart id u).result = .ok () ∧
        ¬u.IsReadBack id.value (db.updatePart id u).store.tables := by
  have hbuilt : (PartialUpdate.content (.properties
      (PropertyMap.put ∅ "tree" (.nested 128)))).Built := trivial
  have hfits : (PartialUpdate.content (.properties
      (PropertyMap.put ∅ "tree" (.nested 128)))).Fits ({ tables := .damaged } : Database).tables :=
    ⟨by decide +kernel, fun kind => by cases kind <;> decide +kernel⟩
  refine ⟨{ tables := .damaged }, ⟨1, by decide⟩, _, hbuilt, hfits, ?_⟩
  cases PartialUpdate.comes hbuilt hfits ⟨1, by decide⟩ with
  | refused err hverdict hanswer => cases hverdict
  | done t' hverdict hanswer hthere hown hrewrites =>
    rw [hanswer]
    refine ⟨rfl, fun hback => ?_⟩
    have hvalues := (PartialUpdate.isReadBack_iff hbuilt hthere hown).mp hback
    exact PropertyValue.not_readable_nested (hvalues "tree" (.nested 128) rfl)

end Database

end FederationRegistry
