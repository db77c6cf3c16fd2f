import FederationRegistry.Proofs.Relational.Answer
import FederationRegistry.Proofs.Relational.Load

/-!
# Writing a provider and loading it back

**Theorem (`Database.stored_of_write`).** Take any rows in which every row has its owner, whatever
else they hold, and any engine. When an identity provider is created or updated there, loading it
gives exactly the provider under its identifier, and no row of any other provider has changed.

The rows of the provider after the write hold it (`IdentityProvider.written_of_insert`,
`IdentityProvider.written_of_update`), so nothing of an earlier version is left among them, and
rows that hold a provider load as it (`Tables.loadProvider_of_hold`). The rows of the others may
be such that they do not load at all.
-/

namespace FederationRegistry

open PropertyValue (Readable)

/-- The provider is stored under an identifier, and all else is as it was before. -/
structure Tables.Stored (before after : Tables) (id : ProviderId) (p : IdentityProvider) :
    Prop where
  loaded : after.get .identityProvider (.id id) = .ok (some (p.withId id))
  others : ∀ o, o ≠ (id.value : Int) → after.rowsOf o = before.rowsOf o
  applications : after.applications = before.applications
  referential : after.isReferential = true

namespace IdentityProvider

variable {p : IdentityProvider} {t t' : Tables} {id : ProviderId}

theorem stored_of_hold (hp : p.Sound) (hvalues : p.HasValues Readable) (ht : t.Referential)
    (hid : (id.value : Int) ≤ maxColumnInteger) (hhold : (t'.rowsOf id.value).Hold id.value p)
    {added : ConnectorKind → Nat} (hrewrites : t.Rewrites t' id.value added) :
    t.Stored t' id p where
  loaded := by
    simp only [Tables.get, Id.rowNumber?, if_pos hid]
    exact Tables.loadProvider_of_hold hp hvalues hhold (Id.ofRowNumber_eq_ok_iff.mpr rfl)
  others := hrewrites.others
  applications := hrewrites.applications
  referential := Tables.isReferential_iff.mpr (hrewrites.referential ht hhold.row)

end IdentityProvider

namespace Database

variable {db : Database} {engine : Engine} {p : IdentityProvider} {id : ProviderId}

theorem stored_of_create (hdb : db.tables.Referential) (hp : p.Sound)
    (hvalues : p.HasValues Readable)
    (h : (db.answerUnder engine (.create .identityProvider p)).result = .ok id) :
    db.tables.Stored (db.answerUnder engine (.create .identityProvider p)).store.tables id p := by
  have hanswer : db.answerUnder engine (.create .identityProvider p) =
      db.writing engine (.create .identityProvider) (target .identityProvider p.name)
        p.insertRows := rfl
  rw [hanswer] at h ⊢
  have hsettle := settle_of_writing h
  obtain ⟨hnext, -, hhold, hrewrites⟩ := IdentityProvider.written_of_insert hp hdb.rooted hsettle
  have hroom := SerialTable.next?_eq_some_iff.mp hnext
  exact IdentityProvider.stored_of_hold hp hvalues hdb (by omega) hhold hrewrites

theorem stored_of_update (hdb : db.tables.Referential) (hp : p.Sound)
    (hvalues : p.HasValues Readable)
    (h : (db.answerUnder engine (.update .identityProvider (p.withId id))).result = .ok ()) :
    db.tables.Stored
      (db.answerUnder engine (.update .identityProvider (p.withId id))).store.tables id p := by
  cases hnumber : id.rowNumber? with
  | none =>
    simp only [answerUnder, Entity.idOf, IdentityProvider.withId, writingAt, hnumber] at h
    cases h
  | some number =>
    obtain ⟨rfl, hid⟩ := Id.rowNumber?_eq_some_iff.mp hnumber
    have hanswer : db.answerUnder engine (.update .identityProvider (p.withId id)) =
        db.writing engine (.update .identityProvider) (target .identityProvider id.text)
          ((p.withId id).updateRows id id.value) :=
      writingAt_of_rowNumber hnumber db engine _ _
    rw [hanswer] at h ⊢
    obtain ⟨-, hhold, hrewrites⟩ :=
      IdentityProvider.written_of_update (hp.withId id) hdb.rooted (settle_of_writing h)
    exact IdentityProvider.stored_of_hold hp hvalues hdb hid (ProviderRows.hold_withId.mp hhold)
      hrewrites

/-- **Writing a provider and loading it back is the identity.** The value of every property has to
be read back from its text; beyond that nothing is asked of the provider but that builders make
it, and nothing of the database but that every row has its owner. -/
theorem stored_of_write (db : Database) (engine : Engine) (hdb : db.tables.isReferential = true)
    {p : IdentityProvider} (hp : p.Built) (hvalues : p.HasValues Readable) (id : ProviderId) :
    ((db.answerUnder engine (.create .identityProvider p)).result = .ok id →
      db.tables.Stored (db.answerUnder engine (.create .identityProvider p)).store.tables id p) ∧
    ((db.answerUnder engine (.update .identityProvider (p.withId id))).result = .ok () →
      db.tables.Stored
        (db.answerUnder engine (.update .identityProvider (p.withId id))).store.tables id p) :=
  have hreferential := Tables.isReferential_iff.mp hdb
  ⟨stored_of_create hreferential hp.sound hvalues, stored_of_update hreferential hp.sound hvalues⟩

/-- A database with a provider that does not load. -/
def damaged : Database := { fresh with tables := .damaged }

/-- The database with a further provider, which has sections. -/
def besideDamaged : Database :=
  (damaged.answerUnder Engine.reliable (.create .identityProvider .acme)).store

/-- A provider is stored and loaded back beside one that does not load, and again when an update has
taken its sections away. -/
theorem stored_beside_damaged :
    damaged.tables.isReferential = true ∧ IdentityProvider.acme.Built ∧
      IdentityProvider.acme.HasValues Readable ∧
      damaged.tables.Stored besideDamaged.tables (.nth 1) .acme ∧
      besideDamaged.tables.isReferential = true ∧ (IdentityProvider.bare "acme").Built ∧
      (IdentityProvider.bare "acme").HasValues Readable ∧
      besideDamaged.tables.Stored
        (besideDamaged.answerUnder Engine.reliable
          (.update .identityProvider ((IdentityProvider.bare "acme").withId (.nth 1)))).store.tables
        (.nth 1) (.bare "acme") := by
  have hreferential : damaged.tables.isReferential = true := by decide +kernel
  have hcreate : (damaged.answerUnder Engine.reliable
      (.create .identityProvider .acme)).result = .ok (.nth 1) := by decide +kernel
  have hstored : damaged.tables.Stored besideDamaged.tables (.nth 1) .acme := by
    rw [besideDamaged]
    exact (stored_of_write damaged Engine.reliable hreferential IdentityProvider.built_acme
      IdentityProvider.readable_acme (.nth 1)).1 hcreate
  have hbeside : besideDamaged.tables.isReferential = true := by decide +kernel
  have hbare : (IdentityProvider.bare "acme").Built :=
    IdentityProvider.built_bare (by decide +kernel)
  have hvalues := IdentityProvider.hasValues_bare "acme" Readable
  have hupdate : (besideDamaged.answerUnder Engine.reliable
      (.update .identityProvider ((IdentityProvider.bare "acme").withId (.nth 1)))).result =
        .ok () := by decide +kernel
  exact ⟨hreferential, IdentityProvider.built_acme, IdentityProvider.readable_acme, hstored,
    hbeside, hbare, hvalues,
    (stored_of_write besideDamaged Engine.reliable hbeside hbare hvalues (.nth 1)).2 hupdate⟩

end Database

end FederationRegistry
