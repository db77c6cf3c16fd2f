import FederationRegistry.Proofs.Dict
import FederationRegistry.Proofs.Relational.Transaction
import FederationRegistry.Store.Relational

/-!
# What reads come to

A read asks the engine about every one of its statements, and any of them may be refused. If none
is, it comes to what the rows hold when it begins (`Reads`), for its statements change nothing and
none of them fails by itself.

Main statement: `Database.reads_readAt`, that an aggregate which is read statement by statement is
the one that its rows load as. An engine that lets reads pass then answers them by what the rows
hold (`Database.answerUnder_get` and its like), and the engine of a database is such an engine.
-/

namespace FederationRegistry

open Transaction

/-! ## Engines that let reads pass -/

/-- The engine refuses no statement that changes nothing. -/
def Engine.LetsRead (engine : Engine) : Prop := ∀ n, engine n [] = none

theorem Engine.letsRead_reliable : Engine.reliable.LetsRead := fun _ => rfl

/-- Guards look at rows that change. -/
theorem Database.letsRead_engine (db : Database) : db.engine.LetsRead := by
  intro n
  simp [Database.engine]

/-! ## Transactions that read -/

namespace Transaction

variable {α β : Type} {engine : Engine}

/-- The step changes no row and does not fail by itself. -/
structure Step.IsRead (s : Step) : Prop where
  report : s.report = dataFailure
  changes : s.changes = []
  failure : s.failure = none

theorem Step.IsRead.isPlain {s : Step} (h : s.IsRead) : s.IsPlain where
  report := h.report
  changes c hc := by
    rw [h.changes] at hc
    cases hc

theorem Step.isRead_query (read : Tables → α) (t : Tables) :
    (Step.of dataFailure (.query read) t).IsRead := ⟨rfl, rfl, rfl⟩

theorem firstFailure?_of_letsRead (h : engine.LetsRead) {steps : List Step}
    (hsteps : ∀ s ∈ steps, s.IsRead) (n : Nat) : firstFailure? engine n steps = none := by
  induction steps generalizing n with
  | nil => rfl
  | cons s ss ih =>
    obtain ⟨-, hchanges, hfailure⟩ := hsteps s List.mem_cons_self
    rw [firstFailure?, hchanges, hfailure, h n]
    exact ih (fun s' hs' => hsteps s' (List.mem_cons_of_mem _ hs')) (n + 1)

/-- A transaction whose steps all read, the marks around it included. -/
theorem stepwise_whole_of_isRead {body : Transaction α} (h : Stepwise Step.IsRead body) :
    Stepwise Step.IsRead body.whole := by
  have hmark : Stepwise Step.IsRead (step mark) := .execute (Step.isRead_query _)
  exact hmark.bind fun _ => h.bind fun _ => hmark.bind fun _ => .pure _

/-- Where reads pass, a transaction that reads commits what it comes to. -/
theorem commit_of_letsRead (h : engine.LetsRead) {body : Transaction α}
    (hbody : Stepwise Step.IsRead body) (t : Tables) :
    commit engine t body = committed t (body.settle t) := by
  have := hbody.steady
  obtain ⟨steps, hsteps, hmakes⟩ := stepwise_whole_of_isRead hbody t
  rw [commit_of_makes hmakes, firstFailure?_of_letsRead h hsteps]

theorem select_of_passed {session : Session} (h : engine session.executed [] = none)
    (read : Tables → α) :
    select read engine session =
      .ok (read session.tables, ⟨session.tables, session.executed + 1⟩) := by
  simp only [select, step, execute, Statement.query, h]

/-- Where a transaction begins and goes on, the first of its reads comes to what the tables hold. -/
theorem soFar?_select (hbegins : engine 0 [] = none) (hreads : engine 1 [] = none)
    (read : Tables → α) (t : Tables) : (select read).soFar? engine t = some (read t) := by
  have hmark : step mark engine ⟨t, 0⟩ = .ok ((), ⟨t, 1⟩) := select_of_passed hbegins _
  rw [soFar?, bind_ok hmark, select_of_passed hreads]
  rfl

/-- The transaction reads, and comes to a value of the tables. -/
structure Reads (body : Transaction α) (value : Tables → Except StoreError α) : Prop where
  stepwise : Stepwise Step.IsRead body
  settle : ∀ t, body.settle t = ((value t).mapError RegistryError.ofStore).map fun a => (a, t)

namespace Reads

theorem pure (a : α) : Reads (Pure.pure a) fun _ => .ok a := ⟨.pure a, fun _ => rfl⟩

theorem lift (value : Except StoreError α) : Reads (lift value) fun _ => value :=
  ⟨.lift value, settle_lift value⟩

theorem select (read : Tables → α) : Reads (select read) fun t => .ok (read t) :=
  ⟨.execute (Step.isRead_query read), settle_step (.query read)⟩

theorem bind {body : Transaction α} {next : α → Transaction β}
    {value : Tables → Except StoreError α} {value' : α → Tables → Except StoreError β}
    (h : Reads body value) (hnext : ∀ a, Reads (next a) (value' a)) :
    Reads (body >>= next) fun t => (value t).bind fun a => value' a t where
  stepwise := h.stepwise.bind fun a => (hnext a).stepwise
  settle t := by
    have (a : α) : Steady (next a) := (hnext a).stepwise.steady
    rw [settle_bind, h.settle t]
    cases value t with
    | error err => rfl
    | ok a => exact (hnext a).settle t

theorem fetch (read : Tables → Except StoreError α) : Reads (fetch read) read :=
  (select read).bind lift

/-- By induction on the list, of which the first element is read first. -/
theorem collect (bs : List β) {read : β → Transaction α}
    {value : β → Tables → Except StoreError α} (h : ∀ b, Reads (read b) (value b)) :
    Reads (collect bs read) fun t => bs.mapM fun b => value b t := by
  induction bs with
  | nil => exact pure []
  | cons b bs ih =>
    simp only [List.mapM_cons]
    exact (h b).bind fun a => ih.bind fun rest => pure (a :: rest)

theorem ite {c : Prop} [Decidable c] {body body' : Transaction α}
    {value value' : Tables → Except StoreError α} (h : Reads body value)
    (h' : Reads body' value') :
    Reads (if c then body else body') fun t => if c then value t else value' t := by
  by_cases hc : c
  · simpa only [if_pos hc] using h
  · simpa only [if_neg hc] using h'

end Reads

end Transaction

/-! ## Aggregates -/

namespace ConnectorMap

theorem reads_readBehind (kind : ConnectorKind) (rows : Dict Int ConnectorRow) :
    Reads (readBehind kind rows) fun t =>
      (rows.traverse (t.loadConnector kind)).bind fun loaded => .ok (ofList loaded.values) := by
  have hread := (Reads.collect rows.entries fun e : Int × ConnectorRow =>
    Reads.fetch fun t => t.loadConnector kind e.1 e.2).bind fun connectors =>
      Reads.pure (ofList connectors)
  refine ⟨hread.stepwise, fun t => (hread.settle t).trans ?_⟩
  rw [← Dict.map_values_traverse]
  cases rows.traverse (t.loadConnector kind) <;> rfl

theorem reads_read (kind : ConnectorKind) (owner : Int) :
    Reads (read kind owner) fun t => t.loadConnectors kind owner :=
  (Reads.select fun t => (t.connectors kind).ownedBy owner).bind (reads_readBehind kind)

end ConnectorMap

theorem Provisioning.reads_read (owner : Int) :
    Reads (read owner) fun t => t.loadProvisioning owner :=
  (Reads.select fun t => t.jitProviders.slice owner).bind fun _ =>
    (Reads.select fun t => t.provisioningRoles.slice owner).bind fun _ =>
      (Reads.fetch fun t => (t.provisioningClaims.slice owner).traverse fun uri defaultValue =>
        uncorrupted (ProvisioningClaim.check ⟨uri, defaultValue⟩)).bind fun _ =>
          (ConnectorMap.reads_read .provisioner owner).bind fun _ => .lift _

theorem Authentication.reads_read (owner : Int) :
    Reads (read owner) fun t => t.loadAuthentication owner :=
  (Reads.select fun t => t.requestedClaims.slice owner).bind fun _ =>
    (Reads.select fun t => (t.connectors .authenticator).ownedBy owner).bind fun rows =>
      .ite (.pure none) <| (ConnectorMap.reads_readBehind .authenticator rows).bind fun _ =>
        (Reads.lift _).bind fun _ => .pure _

namespace IdentityProvider

theorem Draft.reads_read (number : Int) (row : ProviderRow) :
    Reads (Draft.read number row) fun t => t.loadDraft number row :=
  (Reads.lift _).bind fun _ =>
    (Reads.select fun t => t.certificates.slice number).bind fun _ =>
      (Reads.fetch fun t => Tables.decodeRoles (t.roleMappings.slice number)).bind fun _ =>
        (Provisioning.reads_read number).bind fun _ =>
          (Reads.fetch fun t => Tables.decodeProperties (t.properties.slice number)).bind fun _ =>
            (Reads.lift _).bind fun _ =>
              (Authentication.reads_read number).bind fun _ => .pure _

theorem reads_readBehind (number : Int) (row? : Option ProviderRow) :
    Reads (readBehind number row?) fun t =>
      row?.elim (.ok none) fun row => (t.loadDraft number row).bind fun draft =>
        (draft.build.mapError fun err =>
          .corrupt (.aggregate .identityProvider number err)).bind fun provider =>
            (Id.ofRowNumber number).bind fun id => .ok (some (provider.withId id)) := by
  cases row? with
  | none => exact .pure none
  | some row =>
    exact (Draft.reads_read number row).bind fun _ => (Reads.lift _).bind fun _ =>
      (Reads.lift _).bind fun _ => .pure _

theorem reads_read (number : Int) : Reads (read number) fun t => t.loadProvider number := by
  have hread := (Reads.select fun t => t.providers.rows.find? number).bind
    (reads_readBehind number)
  refine ⟨hread.stepwise, fun t => (hread.settle t).trans ?_⟩
  simp only [Tables.loadProvider]
  cases t.providers.rows.find? number <;> rfl

end IdentityProvider

namespace Database

/-- **An aggregate that is read is the one that its rows load as.** -/
theorem reads_readAt (e : Entity) (number : Int) :
    Reads (readAt e number) fun t => t.load e number := by
  cases e with
  | identityProvider => exact IdentityProvider.reads_read number
  | serviceProvider => exact .fetch fun t => t.loadApplication number

theorem reads_readFound (e : Entity) (number? : Option Int) :
    Reads (readFound e number?) fun t => number?.elim (.ok none) (t.load e) := by
  cases number? with
  | none => exact .pure none
  | some number => exact reads_readAt e number

theorem reads_readNamed (e : Entity) (name : String) :
    Reads (readNamed e name) fun t => t.get e (.name name) := by
  have hread := (Reads.select fun t => t.numberOf? e name).bind (reads_readFound e)
  refine ⟨hread.stepwise, fun t => (hread.settle t).trans ?_⟩
  simp only [Tables.get]
  cases t.numberOf? e name <;> rfl

end Database

/-! ## Answers -/

/-- The request may change what is stored. -/
def Request.isWrite : Request → Bool
  | .create .. | .update .. | .updateSection .. | .delete .. | .switch .. => true
  | _ => false

namespace Database

variable {α : Type} {engine : Engine}

theorem store_get (db : Database) (engine : Engine) {e : Entity} (ref : Ref e) :
    (db.get engine e ref).store = db := by
  cases ref with
  | id id =>
    rw [Database.get]
    split <;> rfl
  | name name => rfl

theorem store_readying (db : Database) (engine : Engine) : (db.readying engine).store = db := by
  rw [readying]
  split <;> rfl

/-- **A read leaves the store**, whatever the engine refuses. -/
theorem store_of_reading {r : Request} (hr : r.isWrite = false) (db : Database) (engine : Engine) :
    (db.answerUnder engine r).store = db := by
  cases r with
  | list | resolve | findByProperty => rfl
  | get e ref => exact db.store_get engine ref
  | readiness => exact db.store_readying engine
  | create | update | updateSection | delete | switch => cases hr

/-! ### What passes -/

/-- The answer to a read that comes to a value. -/
def readout (db : Database) (action : Action) (target : String) (value : Except StoreError α)
    (warnings : List Warning := []) : Answer Database α :=
  let result := value.mapError fun err => (RegistryError.ofStore err).inContext action.label target
  ⟨result, db, warnings⟩

/-- Where reads pass, a read is answered with what it comes to. -/
theorem reading_of_letsRead (hengine : engine.LetsRead) {body : Transaction α}
    {value : Tables → Except StoreError α} (h : Reads body value) (db : Database)
    (action : Action) (target : String) (warnings : List Warning) :
    db.reading engine action target body warnings =
      db.readout action target (value db.tables) warnings := by
  rw [reading, commit_of_letsRead hengine h.stepwise, h.settle]
  cases value db.tables <;> rfl

theorem answerUnder_list (hengine : engine.LetsRead) (db : Database) (e : Entity)
    (enabledOnly : Bool) :
    db.answerUnder engine (.list e enabledOnly) =
      db.readout (.list e enabledOnly) (listTarget e) (.ok (db.tables.names e enabledOnly)) :=
  reading_of_letsRead hengine (.select fun t => t.names e enabledOnly) db _ _ _

theorem answerUnder_get (hengine : engine.LetsRead) (db : Database) (ref : Ref e) :
    db.answerUnder engine (.get e ref) =
      db.readout (.get e) (refTarget ref) (db.tables.get e ref) := by
  cases ref with
  | name name => exact reading_of_letsRead hengine (reads_readNamed e name) db _ _ _
  | id id =>
    simp only [answerUnder, Database.get, Tables.get]
    cases id.rowNumber? with
    | none => rfl
    | some number => exact reading_of_letsRead hengine (reads_readAt e number) db _ _ _

theorem answerUnder_resolve (hengine : engine.LetsRead) (db : Database) (e : Entity)
    (name : String) :
    db.answerUnder engine (.resolve e name) =
      db.readout (.resolve e) (Database.target e name) (db.tables.resolve e name) :=
  reading_of_letsRead hengine (.fetch fun t => t.resolve e name) db _ _ _

theorem answerUnder_readiness (hengine : engine.LetsRead) (db : Database) :
    db.answerUnder engine .readiness = ⟨.ok (), db, []⟩ := by
  have hstep : step mark engine ⟨db.tables, 0⟩ = .ok ((), ⟨db.tables, 1⟩) :=
    select_of_passed (hengine 0) _
  simp only [answerUnder, readying, hstep]

/-- The provider that a look-up by property comes to. -/
def matched (db : Database) (scope : PropertyScope) (key : String) (value : PropertyValue) :
    Except StoreError (Option IdentityProvider) :=
  (db.tables.providersWith scope key value.text).head?.elim (.ok none) db.tables.loadProvider

theorem answerUnder_findByProperty (hengine : engine.LetsRead) (db : Database)
    (scope : PropertyScope) (key : String) (value : PropertyValue) :
    db.answerUnder engine (.findByProperty scope key value) =
      db.readout .findByProperty (propertyTarget scope key) (db.matched scope key value)
        (ambiguity scope key (db.tables.providersWith scope key value.text)) := by
  have hread := (Reads.select fun t => t.providersWith scope key value.text).bind fun numbers =>
    reads_readFound .identityProvider numbers.head?
  simp only [answerUnder, findByProperty, soFar?_select (hengine 0) (hengine 1)]
  exact reading_of_letsRead hengine hread db _ _ _

/-! ### The engine of a database -/

theorem answer_list (db : Database) (e : Entity) (enabledOnly : Bool) :
    db.answer (.list e enabledOnly) =
      db.readout (.list e enabledOnly) (listTarget e) (.ok (db.tables.names e enabledOnly)) :=
  answerUnder_list db.letsRead_engine db e enabledOnly

/-- An aggregate is got as its rows load. -/
theorem answer_get (db : Database) {e : Entity} (ref : Ref e) :
    db.answer (.get e ref) = db.readout (.get e) (refTarget ref) (db.tables.get e ref) :=
  answerUnder_get db.letsRead_engine db ref

theorem answer_resolve (db : Database) (e : Entity) (name : String) :
    db.answer (.resolve e name) =
      db.readout (.resolve e) (Database.target e name) (db.tables.resolve e name) :=
  answerUnder_resolve db.letsRead_engine db e name

theorem answer_findByProperty (db : Database) (scope : PropertyScope) (key : String)
    (value : PropertyValue) :
    db.answer (.findByProperty scope key value) =
      db.readout .findByProperty (propertyTarget scope key) (db.matched scope key value)
        (ambiguity scope key (db.tables.providersWith scope key value.text)) :=
  answerUnder_findByProperty db.letsRead_engine db scope key value

theorem answer_readiness (db : Database) : db.answer .readiness = ⟨.ok (), db, []⟩ :=
  answerUnder_readiness db.letsRead_engine db

/-- All engines that let reads pass answer them alike. -/
theorem answerUnder_of_letsRead (hengine : engine.LetsRead) (db : Database) {r : Request}
    (hr : r.isWrite = false) : db.answerUnder engine r = db.answerUnder Engine.reliable r := by
  have hreliable := Engine.letsRead_reliable
  cases r with
  | list e enabledOnly => rw [answerUnder_list hengine, answerUnder_list hreliable]
  | get e ref => rw [answerUnder_get hengine, answerUnder_get hreliable]
  | resolve e name => rw [answerUnder_resolve hengine, answerUnder_resolve hreliable]
  | findByProperty scope key value =>
    rw [answerUnder_findByProperty hengine, answerUnder_findByProperty hreliable]
  | readiness => rw [answerUnder_readiness hengine, answerUnder_readiness hreliable]
  | create | update | updateSection | delete | switch => cases hr

end Database

end FederationRegistry
