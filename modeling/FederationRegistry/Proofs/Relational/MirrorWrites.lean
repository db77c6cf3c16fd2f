import FederationRegistry.Proofs.Relational.Mirror

/-!
# Writes on rows that mirror a store

A write on tables that mirror a store in memory is answered as on that store, and the tables mirror
it again, unless numbers for new rows run out; then nothing has changed.

**Numbers.** Every series of numbers counts the rows inserted into its table, those that are gone
included, so that it can be told from the requests alone when numbers run out.

**Order of failures.** Both stores look for what is addressed, then for a rule that is broken, then
for the name. The rows are checked once more for the name when a provider is switched; it is its
own, so that the check passes.

Main statement: `Database.matches_answer`.
-/

namespace FederationRegistry

open Transaction

/-! ## Series of numbers -/

/-- The tables whose rows get ascending numbers. -/
inductive Series where
  | aggregates (e : Entity)
  | connectors (kind : ConnectorKind)
deriving DecidableEq

/-- The number given out last in a series. -/
def Tables.lastOf (t : Tables) : Series → Int
  | .aggregates e => (t.aggregates e).last
  | .connectors kind => (t.connectors kind).connectors.last

/-- How many rows a request inserts into the table of a series when it succeeds. -/
def Request.inserts : Request → Series → Nat
  | .create e _, .aggregates f => if f = e then 1 else 0
  | .create .identityProvider p, .connectors kind => p.count kind
  | .update .identityProvider p, .connectors kind => p.count kind
  | .updateSection _ s, .connectors kind => s.count kind
  | _, _ => 0

/-! ## Running out of numbers -/

theorem ConnectorTables.hasRoom_iff {c : ConnectorTables} (h : c.connectors.Tight) {n : Nat} :
    c.HasRoom n ↔ c.connectors.last + n ≤ maxColumnInteger := by
  have hlast := h.1
  rw [HasRoom, SerialTable.top_of_tight h, Int.max_eq_right hlast]

/-- A provider is written whole when numbers are left for its connectors. -/
theorem IdentityProvider.putRows?_isSome {p : IdentityProvider} {t : Tables}
    (h : ∀ kind, (t.connectors kind).HasRoom (p.count kind)) (number : Int) :
    ∃ t', p.putRows? t number = some t' := by
  obtain ⟨a, ha⟩ := ConnectorTables.replace?_isSome (h .authenticator) number
  obtain ⟨c, hc⟩ := ConnectorTables.replace?_isSome (h .provisioner) number
  obtain ⟨t₂, ht₂, hprovisioners⟩ : ∃ t₂,
      Authentication.putRows? p.authentication (p.metadata.putRows t number) number = some t₂ ∧
        t₂.provisioners = t.provisioners :=
    ⟨_, Option.map_eq_some_iff.mpr ⟨a, ha, rfl⟩, rfl⟩
  obtain ⟨t₃, ht₃⟩ : ∃ t₃, p.provisioning.putRows? t₂ number = some t₃ :=
    ⟨_, Option.map_eq_some_iff.mpr ⟨c, hprovisioners ▸ hc, rfl⟩⟩
  exact ⟨_, by rw [putRows?, ht₂, Option.bind_some, ht₃]; rfl⟩

/-- Numbers for new rows run out: none is left for a new aggregate, or what is to succeed needs
more of a series than are left. -/
def Tables.RunsOut (t : Tables) (needed : Series → Nat) (succeeds : Bool) : Prop :=
  (∃ e, 0 < needed (.aggregates e) ∧ maxColumnInteger ≤ t.lastOf (.aggregates e)) ∨
    (succeeds = true ∧ ∃ series, maxColumnInteger < t.lastOf series + needed series)

theorem Tables.runsOut_of_not_hasRoom {t : Tables}
    (ht : ∀ kind, (t.connectors kind).connectors.Tight) {needed : Series → Nat}
    (h : ¬∀ kind, (t.connectors kind).HasRoom (needed (.connectors kind))) :
    t.RunsOut needed true := by
  obtain ⟨kind, hkind⟩ := not_forall.mp h
  rw [ConnectorTables.hasRoom_iff (ht kind)] at hkind
  exact .inr ⟨rfl, .connectors kind, Int.not_le.mp hkind⟩

/-- A provider whose row is there is written whole, or numbers run out for its connectors. -/
theorem IdentityProvider.runsOut_of_putRows? {p : IdentityProvider} {t t' : Tables} {number : Int}
    (h : p.putRows? t' number = none) (hsame : ∀ kind, t'.connectors kind = t.connectors kind)
    (ht : ∀ kind, (t.connectors kind).connectors.Tight) {needed : Series → Nat}
    (hneeded : ∀ kind, needed (.connectors kind) = p.count kind) : t.RunsOut needed true := by
  refine Tables.runsOut_of_not_hasRoom ht fun hroom => ?_
  obtain ⟨written, hwritten⟩ := p.putRows?_isSome (t := t')
    (fun kind => by rw [hsame, ← hneeded]; exact hroom kind) number
  rw [h] at hwritten
  cases hwritten

/-- Numbers do not run out where every series stays below the largest number. -/
theorem Tables.not_runsOut_of_lt {t : Tables} {needed : Series → Nat} {succeeds : Bool}
    (h : ∀ series, t.lastOf series + (if succeeds then needed series else 0 : Nat) <
      maxColumnInteger) : ¬t.RunsOut needed succeeds := by
  rintro (⟨e, -, hfull⟩ | ⟨rfl, series, hshort⟩)
  · have hlt := h (.aggregates e)
    omega
  · exact absurd (h series) (Int.not_lt.mpr (Int.le_of_lt hshort))

/-- Every series counts what a write of a provider inserts. -/
theorem Tables.Rewrites.counted {t t' : Tables} {number : Int} {needed : Series → Nat}
    (h : t.Rewrites t' number fun kind => needed (.connectors kind))
    (ht : ∀ kind, (t.connectors kind).connectors.Tight)
    (hproviders : t'.providers.last = t.providers.last + needed (.aggregates .identityProvider))
    (happlications : needed (.aggregates .serviceProvider) = 0) (series : Series) :
    t'.lastOf series = t.lastOf series + needed series := by
  cases series with
  | aggregates e =>
    cases e with
    | identityProvider => exact hproviders
    | serviceProvider =>
      show t'.applications.last = t.applications.last + _
      rw [happlications, h.applications]
      exact (Int.add_zero _).symm
  | connectors kind => exact (h.tight kind (ht kind)).2

/-! ## Answers to writes -/

/-- How a database answers a write compared with the store in memory that it mirrors. -/
inductive Database.Matches (db : Database) (m : MemoryStore) (needed : Series → Nat) {α : Type} :
    Answer Database α → Answer MemoryStore α → Prop
  /-- Both do it. -/
  | agrees {reply : α} {t : Tables} {next : MemoryStore} (mirrors : t.Mirrors next)
      (counted : ∀ series, t.lastOf series = db.tables.lastOf series + needed series) :
      Matches db m needed ⟨.ok reply, { db with tables := t }, []⟩ ⟨.ok reply, next, []⟩
  /-- Both refuse it, with the same failure. -/
  | refused (err : RegistryError) :
      Matches db m needed ⟨.error err, db, []⟩ ⟨.error err, m, []⟩
  /-- The database has no number left for a row. -/
  | exhausted (err : RegistryError) {answer : Answer MemoryStore α}
      (short : db.tables.RunsOut needed answer.result.isOk) :
      Matches db m needed ⟨.error err, db, []⟩ answer

namespace Database

variable {d : Demand} {db : Database} {m : MemoryStore} {action : Action} {target : String}

/-! ### Writes of providers -/

theorem matches_createProvider (hm : m.Kept d) (h : db.tables.Mirrors m) {p : IdentityProvider}
    (hp : p.Sound) :
    db.Matches m (Request.create .identityProvider p).inserts
      (db.writing Engine.reliable action target p.insertRows)
      (m.answer (.create .identityProvider p)) := by
  have hlists := h.lists .identityProvider
  have hordered := (hm .identityProvider).toOrdered
  have hsettle := IdentityProvider.settle_insertRows hp h.referential.rooted
  rw [writing_reliable, MemoryStore.answer]
  rcases Shelf.create_cases hlists hordered p with
    ⟨hnext, hfull⟩ | ⟨number, hnext, htaken, hcreate⟩ | ⟨id, hnext, hfree, hid, hcreate⟩
  · rw [show db.tables.providers.next? = _ from hnext] at hsettle
    rw [hsettle]
    exact .exhausted _ (.inl ⟨.identityProvider, Nat.one_pos, hfull⟩)
  · have htaken : EntityTable.providers.isNameTaken db.tables number p.name = true := htaken
    rw [show db.tables.providers.next? = _ from hnext] at hsettle
    simp only [htaken, if_true] at hsettle
    rw [hsettle, hcreate]
    exact .refused _
  · have hfree : EntityTable.providers.isNameTaken db.tables id.value p.name = false := hfree
    rw [show db.tables.providers.next? = _ from hnext] at hsettle
    simp only [hfree, Bool.false_eq_true, if_false, Id.ofRowNumber_eq_ok_iff.mpr rfl] at hsettle
    rw [hcreate]
    cases hput : p.putRows? (db.tables.appendProvider id.value p.storedRow) id.value with
    | none =>
      rw [hput] at hsettle
      rw [hsettle]
      -- the row itself found a number, so the connectors ran out of them
      exact .exhausted _ (IdentityProvider.runsOut_of_putRows? hput
        (Tables.connectors_appendProvider _ _ _) h.tight fun _ => rfl)
    | some t' =>
      rw [hput] at hsettle
      -- the rows hold the provider, and nothing else was touched
      obtain ⟨-, hproviders, hhold, hrewrites⟩ :=
        IdentityProvider.written_of_insert hp h.referential.rooted hsettle
      have hbounded := ((hlists.next?_eq_some_iff hordered).mp hnext).1
      rw [hsettle]
      have hlast : db.tables.providers.last = (m.shelf .identityProvider).last := hlists.last
      refine .agrees (h.write hrewrites hhold (by rw [hproviders]; rfl) (by omega))
        (hrewrites.counted h.tight ?_ rfl)
      rw [hproviders, hlast]
      show (id.value : Int) = (m.shelf .identityProvider).last + 1
      omega

/-- The answer to a write of a provider that is there, told by what it leaves in its rows. -/
theorem matches_provider (h : db.tables.Mirrors m) {id : ProviderId} {p : IdentityProvider}
    {needed : Series → Nat} {out : Option Tables} (hneeded : ∀ e, needed (.aggregates e) = 0)
    (hshort : out = none → db.tables.RunsOut needed true)
    (hout : ∀ t', out = some t' →
      (t'.rowsOf id.value).Hold id.value p ∧ t'.providers.last = db.tables.providers.last ∧
        db.tables.Rewrites t' id.value fun kind => needed (.connectors kind)) :
    db.Matches m needed (db.settled action target (ranOut out))
      (m.written .identityProvider
        (.ok { m.providers with items := m.providers.items.insert id.value (p.withId id) })) := by
  cases out with
  | none => exact .exhausted _ (hshort rfl)
  | some t' =>
    obtain ⟨hhold, hlast, hrewrites⟩ := hout t' rfl
    have hlists := h.lists .identityProvider
    refine .agrees (h.write hrewrites hhold (hlast.trans hlists.last) hlists.bounded)
      (hrewrites.counted h.tight ?_ (hneeded _))
    rw [hneeded, hlast]
    exact (Int.add_zero _).symm

/-! ### Addressed writes -/

/-- A write that addresses an aggregate: what is not there is refused by both, and what is there is
found under its row number. -/
theorem matches_addressed {e : Entity} {id : Id e} (hm : m.Kept d) (h : db.tables.Mirrors m)
    {needed : Series → Nat} {next : Except RegistryError (Shelf e)}
    {body : Int → Transaction Unit} [∀ number, Steady (body number)]
    (hbody : ∀ number, (db.tables.aggregates e).rows.find? number = none →
      (body number).settle db.tables = .error (.noSuchId id))
    (hnext : (m.shelf e).items.find? id.value = none → next = .error (.noSuchId id))
    (hthere : ∀ a, (m.shelf e).items.find? id.value = some a →
      db.Matches m needed
        (db.settled action (Database.target e id.text) ((body id.value).settle db.tables))
        (m.written e next)) :
    db.Matches m needed (db.writingAt Engine.reliable action id body) (m.written e next) := by
  cases hfind : (m.shelf e).items.find? id.value with
  | none =>
    rw [hnext hfind]
    -- an identifier beyond the column, or one without a row: nobody is there either way
    cases hnumber : id.rowNumber? with
    | none =>
      rw [writingAt_of_none hnumber]
      exact .refused _
    | some number =>
      rw [writingAt_of_rowNumber hnumber, writing_reliable,
        hbody number ((h.lists e).find?_eq_none hfind hnumber)]
      exact .refused _
  | some a =>
    rw [writingAt_of_rowNumber ((h.lists e).rowNumber?_of_find? (hm e).toOrdered hfind),
      writing_reliable]
    exact hthere a hfind

theorem modifyProvider_of_find? (hm : m.Kept d) (h : db.tables.Mirrors m) {id : ProviderId}
    {current next : IdentityProvider} (hfind : m.providers.items.find? id.value = some current)
    (change : IdentityProvider → Checked IdentityProvider) (hchange : change current = .ok next) :
    m.providers.modify id change =
      if EntityTable.providers.isNameTaken db.tables id.value next.name then
        .error (.nameTaken .identityProvider next.name)
      else .ok { m.providers with items := m.providers.items.insert id.value (next.withId id) } :=
  Shelf.modify_of_find? (h.lists .identityProvider) (hm .identityProvider).toOrdered hfind change
    hchange

theorem matches_updateProvider (hm : m.Kept d) (h : db.tables.Mirrors m) {p : IdentityProvider}
    (hp : p.Sound) (id : ProviderId) :
    db.Matches m (Request.update .identityProvider p).inserts
      (db.writingAt Engine.reliable action id fun number => p.updateRows id number)
      (m.written .identityProvider (m.providers.modify id fun _ => .ok p)) := by
  have hsettle (number : Int) := IdentityProvider.settle_updateRows (t := db.tables) hp
    h.referential.rooted id number
  refine matches_addressed hm h (fun number hnone => ?_) (Shelf.modify_of_none _)
    fun current hfind => ?_
  · rw [hsettle, show db.tables.providers.rows.find? number = none from hnone]
  rw [hsettle, h.find?_providerRow hfind, modifyProvider_of_find? hm h hfind (fun _ => .ok p) rfl]
  dsimp only
  -- the name is compared with those of the other rows; the own one does not count
  cases htaken : EntityTable.providers.isNameTaken db.tables id.value p.name with
  | true => exact .refused _
  | false =>
    refine matches_provider (p := p) h (fun e => rfl) (fun hnone => ?_) fun t' hput => ?_
    · exact IdentityProvider.runsOut_of_putRows? hnone (Tables.connectors_putProvider _ _ _) h.tight
        fun _ => rfl
    · have hdone : (p.updateRows id id.value).settle db.tables = .ok ((), t') := by
        rw [hsettle, h.find?_providerRow hfind]
        simp only [htaken, Bool.false_eq_true, if_false, hput]
        rfl
      obtain ⟨hproviders, hhold, hrewrites⟩ :=
        IdentityProvider.written_of_update hp h.referential.rooted hdone
      exact ⟨hhold, by rw [hproviders]; rfl, hrewrites⟩

theorem matches_updateSection (hm : m.Kept d) (h : db.tables.Mirrors m) {s : SectionUpdate}
    (hs : s.Built) (id : ProviderId) :
    db.Matches m (Request.updateSection id s).inserts (db.updateSection Engine.reliable id s)
      (m.written .identityProvider (m.providers.modify id fun p => p.withSection s)) := by
  have hsettle (number : Int) := SectionUpdate.settle_writeRows (t := db.tables) hs
    h.referential.rooted id number
  rw [updateSection_of_letsRead Engine.letsRead_reliable hs]
  refine matches_addressed hm h (fun number hnone => ?_) (Shelf.modify_of_none _)
    fun p hfind => ?_
  · rw [hsettle, show db.tables.providers.rows.find? number = none from hnone]
  have hfind : m.providers.items.find? id.value = some p := hfind
  have hp := ((hm .identityProvider).meets id.value p hfind).1
  have hrow := h.find?_providerRow hfind
  have hrefusal := SectionUpdate.refusal?_storedRow hs hp
    ((h.lists .identityProvider).isNameTaken_self (hm .identityProvider).toOrdered hfind)
  rw [hsettle, hrow]
  dsimp only
  -- the rows are asked the same questions in the same order: the rules of the section first
  cases hq : p.withSection s with
  | error err =>
    rw [hq] at hrefusal
    have hmodify : m.providers.modify id (fun p => p.withSection s) = .error (.ofModel err) := by
      simp only [Shelf.modify, hfind, hq]
      rfl
    rw [hrefusal, hmodify]
    exact .refused _
  | ok q =>
    rw [hq] at hrefusal
    rw [modifyProvider_of_find? hm h hfind _ hq]
    cases htaken : EntityTable.providers.isNameTaken db.tables id.value q.name with
    | true =>
      simp only [htaken, if_true] at hrefusal
      rw [hrefusal]
      exact .refused _
    | false =>
      simp only [htaken, Bool.false_eq_true, if_false] at hrefusal
      rw [hrefusal]
      refine matches_provider h (fun e => rfl) (fun hnone => ?_) fun t' hput => ?_
      · refine Tables.runsOut_of_not_hasRoom h.tight fun hroom => ?_
        obtain ⟨t', ht'⟩ := SectionUpdate.putRows?_isSome hroom id.value p.storedRow
        rw [hnone] at ht'
        cases ht'
      · obtain ⟨hturns, hrewrites⟩ :=
          SectionUpdate.turns_putRows h.referential.rooted hrow hput
        exact ⟨(h.holds id.value p hfind).withSection hturns hq,
          SectionUpdate.last_putRows hput, hrewrites⟩

theorem matches_switchProvider (hm : m.Kept d) (h : db.tables.Mirrors m) (id : ProviderId)
    (enabled : Bool) :
    db.Matches m (Request.switch .identityProvider id enabled).inserts
      (db.writingAt Engine.reliable action id fun number =>
        onRow id (switchRow .identityProvider number enabled))
      (m.written .identityProvider
        (m.providers.modify id fun p => .ok (p.withEnabled enabled))) := by
  have hsettle (number : Int) := settle_switchProvider id number enabled db.tables
  refine matches_addressed hm h (fun number hnone => ?_) (Shelf.modify_of_none _)
    fun p hfind => ?_
  · rw [hsettle, show db.tables.providers.rows.find? number = none from hnone]
  -- the statement writes the name again, which is free for its own row
  have hfree := (h.lists .identityProvider).isNameTaken_self (hm .identityProvider).toOrdered hfind
  have hfree : EntityTable.providers.isNameTaken db.tables id.value p.name = false := hfree
  have hhold := h.holds id.value p hfind
  rw [hsettle, h.find?_providerRow hfind,
    modifyProvider_of_find? hm h hfind (fun p => .ok (p.withEnabled enabled)) rfl]
  simp only [show (p.withEnabled enabled).name = p.name from rfl,
    show p.storedRow.name = p.name from rfl, hfree, Bool.false_eq_true, if_false]
  rw [show ∀ t, Except.ok ((), t) = ranOut (some t) from fun _ => rfl]
  refine matches_provider h (fun e => rfl) (fun hnone => nomatch hnone) fun t' ht' => ?_
  cases ht'
  refine ⟨?_, rfl, Tables.rewrites_putProvider h.referential.rooted _ _⟩
  rw [Tables.rowsOf_putProvider]
  exact ⟨rfl, hhold.certificates, hhold.roleMappings,
    ⟨hhold.authentication.1, hhold.authentication.2⟩,
    ⟨hhold.provisioning.1, hhold.provisioning.2, hhold.provisioning.3, hhold.provisioning.4⟩,
    hhold.properties⟩

/-! ### Writes of service providers -/

/-- Every series counts what a write of a service provider inserts. -/
theorem counted_withApplications {needed : Series → Nat} {rows : SerialTable ApplicationRow}
    (hlast : rows.last = db.tables.applications.last + needed (.aggregates .serviceProvider))
    (hproviders : needed (.aggregates .identityProvider) = 0)
    (hconnectors : ∀ kind, needed (.connectors kind) = 0) (series : Series) :
    ({ db.tables with applications := rows } : Tables).lastOf series =
      db.tables.lastOf series + needed series := by
  cases series with
  | aggregates e =>
    cases e with
    | identityProvider =>
      rw [hproviders]
      exact (Int.add_zero _).symm
    | serviceProvider => exact hlast
  | connectors kind =>
    rw [hconnectors kind]
    cases kind <;> exact (Int.add_zero _).symm

theorem matches_createApplication (hm : m.Kept d) (h : db.tables.Mirrors m)
    (p : ServiceProvider) :
    db.Matches m (Request.create .serviceProvider p).inserts
      (db.writing Engine.reliable action target p.insertRows)
      (m.answer (.create .serviceProvider p)) := by
  have hlists := h.lists .serviceProvider
  have hordered := (hm .serviceProvider).toOrdered
  have hsettle := ServiceProvider.settle_insertRows p db.tables
  rw [writing_reliable, MemoryStore.answer]
  rcases Shelf.create_cases hlists hordered p with
    ⟨hnext, hfull⟩ | ⟨number, hnext, htaken, hcreate⟩ | ⟨id, hnext, hfree, hid, hcreate⟩
  · rw [show db.tables.applications.next? = _ from hnext] at hsettle
    rw [hsettle]
    exact .exhausted _ (.inl ⟨.serviceProvider, Nat.one_pos, hfull⟩)
  · have htaken : EntityTable.applications.isNameTaken db.tables number p.name = true := htaken
    rw [show db.tables.applications.next? = _ from hnext] at hsettle
    simp only [htaken, if_true] at hsettle
    rw [hsettle, hcreate]
    exact .refused _
  · have hfree : EntityTable.applications.isNameTaken db.tables id.value p.name = false := hfree
    have hbounded := ((hlists.next?_eq_some_iff hordered).mp hnext).1
    have hlast : db.tables.applications.last = (m.shelf .serviceProvider).last := hlists.last
    rw [show db.tables.applications.next? = _ from hnext] at hsettle
    simp only [hfree, Bool.false_eq_true, if_false, Id.ofRowNumber_eq_ok_iff.mpr rfl] at hsettle
    rw [hcreate, hsettle]
    refine .agrees (h.withApplications (hlists.insert rfl rfl
      (by omega))) (counted_withApplications ?_ rfl fun kind => rfl)
    rw [hlast]
    show (id.value : Int) = (m.shelf .serviceProvider).last + 1
    omega

theorem modifyApplication_of_find? (hm : m.Kept d) (h : db.tables.Mirrors m)
    {id : ServiceProviderId} {current next : ServiceProvider}
    (hfind : m.applications.items.find? id.value = some current)
    (change : ServiceProvider → Checked ServiceProvider) (hchange : change current = .ok next) :
    m.applications.modify id change =
      if EntityTable.applications.isNameTaken db.tables id.value next.name then
        .error (.nameTaken .serviceProvider next.name)
      else .ok { m.applications with
        items := m.applications.items.insert id.value (next.withId id) } :=
  Shelf.modify_of_find? (h.lists .serviceProvider) (hm .serviceProvider).toOrdered hfind change
    hchange

/-- The answer to a write of a service provider that is there. -/
theorem matches_application (h : db.tables.Mirrors m) {id : ServiceProviderId}
    {p : ServiceProvider} {needed : Series → Nat} (hneeded : ∀ series, needed series = 0) :
    db.Matches m needed
      (db.settled action target (.ok ((), db.tables.putApplication id.value p.row)))
      (m.written .serviceProvider (.ok { m.applications with
        items := m.applications.items.insert id.value (p.withId id) })) := by
  have hlists := h.lists .serviceProvider
  refine .agrees (h.withApplications (hlists.insert rfl
    hlists.last hlists.bounded))
    (counted_withApplications ?_ (hneeded _) fun kind => hneeded _)
  rw [hneeded]
  exact (Int.add_zero _).symm

theorem matches_updateApplication (hm : m.Kept d) (h : db.tables.Mirrors m) (p : ServiceProvider)
    (id : ServiceProviderId) :
    db.Matches m (Request.update .serviceProvider p).inserts
      (db.writingAt Engine.reliable action id fun number => p.updateRows id number)
      (m.written .serviceProvider (m.applications.modify id fun _ => .ok p)) := by
  have hsettle (number : Int) := ServiceProvider.settle_updateRows p id number db.tables
  refine matches_addressed hm h (fun number hnone => ?_) (Shelf.modify_of_none _)
    fun current hfind => ?_
  · rw [hsettle, show db.tables.applications.rows.find? number = none from hnone]
  rw [hsettle, h.find?_applicationRow hfind,
    modifyApplication_of_find? hm h hfind (fun _ => .ok p) rfl]
  dsimp only
  cases htaken : EntityTable.applications.isNameTaken db.tables id.value p.name with
  | true => exact .refused _
  | false => exact matches_application h fun series => by cases series <;> rfl

theorem matches_switchApplication (hm : m.Kept d) (h : db.tables.Mirrors m)
    (id : ServiceProviderId) (enabled : Bool) :
    db.Matches m (Request.switch .serviceProvider id enabled).inserts
      (db.writingAt Engine.reliable action id fun number =>
        onRow id (switchRow .serviceProvider number enabled))
      (m.written .serviceProvider
        (m.applications.modify id fun p => .ok (p.withEnabled enabled))) := by
  have hsettle (number : Int) := settle_switchApplication id number enabled db.tables
  refine matches_addressed hm h (fun number hnone => ?_) (Shelf.modify_of_none _)
    fun p hfind => ?_
  · rw [hsettle, show db.tables.applications.rows.find? number = none from hnone]
  have hfree := (h.lists .serviceProvider).isNameTaken_self (hm .serviceProvider).toOrdered hfind
  have hfree : EntityTable.applications.isNameTaken db.tables id.value p.name = false := hfree
  rw [hsettle, h.find?_applicationRow hfind,
    modifyApplication_of_find? hm h hfind (fun p => .ok (p.withEnabled enabled)) rfl]
  simp only [show (p.withEnabled enabled).name = p.name from rfl,
    show p.row.name = p.name from rfl, hfree, Bool.false_eq_true, if_false]
  exact matches_application (p := p.withEnabled enabled) h fun series => by cases series <;> rfl

/-! ### Deletions -/

theorem matches_delete {e : Entity} (hm : m.Kept d) (h : db.tables.Mirrors m) (id : Id e) :
    db.Matches m (Request.delete e id).inserts
      (db.writingAt Engine.reliable action id fun number => onRow id (deleteRow e number))
      (m.written e ((m.shelf e).delete id)) := by
  refine matches_addressed hm h (fun number hnone => ?_) (fun hnone => ?_) fun a hfind => ?_
  · cases e with
    | identityProvider =>
      rw [settle_deleteProvider, if_neg]
      simp [Dict.contains, show db.tables.providers.rows.find? number = none from hnone]
    | serviceProvider =>
      rw [settle_deleteApplication, if_neg]
      simp [Dict.contains, show db.tables.applications.rows.find? number = none from hnone]
  · rw [Shelf.delete, if_neg (by simp [Dict.contains, hnone])]
  · rw [Shelf.delete, if_pos (Dict.contains_iff.mpr ⟨a, hfind⟩)]
    cases e with
    | identityProvider =>
      rw [settle_deleteProvider, if_pos (Dict.contains_iff.mpr ⟨_, h.find?_providerRow hfind⟩)]
      have hrewrites := Tables.rewrites_dropProvider h.referential.rooted (id.value : Int)
      exact .agrees (h.drop id) (hrewrites.counted h.tight (Int.add_zero _).symm rfl)
    | serviceProvider =>
      rw [settle_deleteApplication,
        if_pos (Dict.contains_iff.mpr ⟨_, h.find?_applicationRow hfind⟩)]
      exact .agrees (h.withApplications ((h.lists .serviceProvider).erase rfl))
        (counted_withApplications (Int.add_zero _).symm rfl fun kind => rfl)

/-! ### All writes -/

theorem engine_of_guards (h : db.guards = []) : db.engine = Engine.reliable := by
  funext executed changes
  simp [engine, h, Engine.reliable]

/-- **Writes agree.** A write is answered as on the store that the rows mirror, and they mirror it
afterwards, unless numbers run out. -/
theorem matches_answer (hguards : db.guards = []) (hm : m.Kept d) (h : db.tables.Mirrors m)
    {r : Request} (hr : r.Admissible d) (hwrite : r.isWrite = true) :
    db.Matches m r.inserts (db.answer r) (m.answer r) := by
  rw [answer, engine_of_guards hguards]
  cases r with
  | create e a =>
    cases e with
    | identityProvider =>
      have hoffered : Entity.identityProvider.Offered d a := hr
      exact matches_createProvider hm h hoffered.meets.1
    | serviceProvider => exact matches_createApplication hm h a
  | update e a =>
    cases hid : e.idOf a with
    | none =>
      simp only [answerUnder, MemoryStore.answer, hid]
      exact .refused _
    | some id =>
      simp only [answerUnder, MemoryStore.answer, hid]
      cases e with
      | identityProvider =>
        have hoffered : Entity.identityProvider.Offered d a := hr
        exact matches_updateProvider hm h hoffered.meets.1 id
      | serviceProvider => exact matches_updateApplication hm h a id
  | updateSection id s => exact matches_updateSection hm h hr.1 id
  | delete e id => exact matches_delete hm h id
  | switch e id enabled =>
    -- the names are distinct, so the switch in memory is a modification
    rw [MemoryStore.answer_switch (hm e).toOrdered]
    cases e with
    | identityProvider => exact matches_switchProvider hm h id enabled
    | serviceProvider => exact matches_switchApplication hm h id enabled
  | list | get | resolve | findByProperty | readiness => cases hwrite

end Database

end FederationRegistry
