import FederationRegistry.Proofs.Listing
import FederationRegistry.Proofs.Relational.Columns

/-!
# Constraints that writes meet

**Theorem (`Database.writes_clean`).** In every state that requests lead to from a new database, a
write whose arguments builders make succeeds, or it breaks a rule, or it addresses what is not
there, or it gives a name that another aggregate has. It does not fail on the data, as long as
numbers for rows last: integers fit their columns, every row has the values that the schema wants,
and the only constraint that a step of the write can break is the one on the names of aggregates.

The rows mirror a store in memory, where nothing else refuses a write, and steps of writers report
what the engine refuses as a failure of the data unless it is a name.

How many numbers a state has used up is counted over the requests that led to it
(`Database.counted_after`).
-/

namespace FederationRegistry

open ProviderStore Transaction

/-! ## How writes end -/

/-- The identifier of the aggregate that the request changes. -/
def Request.changed? : Request → Option Nat
  | .update e a => (e.idOf a).map Id.value
  | .updateSection id _ => some id.value
  | .delete _ id | .switch _ id _ => some id.value
  | _ => none

/-- The request gives a name that the store has for another aggregate than the one it changes. -/
def ProviderStore.Clashes {σ : Type} [ProviderStore σ] (s : σ) (r : Request) (e : Entity)
    (name : String) : Prop :=
  r.named? = some (e, name) ∧
    ∃ other : Id e, resolved s e name = .ok (some other) ∧ r.changed? ≠ some other.value

/-- The end of a write that does not fail on the data. It succeeds if no name clashes, and a clash
is reported as one. -/
inductive Ends (clashes : Entity → String → Prop) {α : Type} : Except RegistryError α → Prop
  | done {a : α} (free : ∀ e name, ¬clashes e name) : Ends clashes (.ok a)
  | invalid {refusal : Refusal} : Ends clashes (.error (.validation refusal))
  | missing {e : Entity} {reference : String} : Ends clashes (.error (.notFound e reference))
  | taken {e : Entity} {name : String} (clash : clashes e name) :
    Ends clashes (.error (.nameTaken e name))

theorem Ends.not_dataAccess {clashes : Entity → String → Prop} {α : Type}
    {result : Except RegistryError α} (h : Ends clashes result) {place : String} {cause : Cause} :
    result ≠ .error (.dataAccess place cause) := by
  intro hfailed
  subst hfailed
  cases h

/-! ## Writes in memory -/

namespace MemoryStore

variable {d : Demand} {m : MemoryStore} {r : Request}

/-- Names clash when the shelf does not take them. -/
theorem clashes_iff (hm : m.Kept d) {e : Entity} {name : String} :
    Clashes m r e name ↔
      r.named? = some (e, name) ∧ (m.shelf e).checkName name r.changed? ≠ .ok () := by
  have hordered := (hm e).toOrdered
  refine and_congr_right fun _ => ?_
  have hresolved : resolved m e name = .ok (((m.shelf e).place? name).bind Id.ofNat?) := rfl
  simp only [hresolved, Except.ok.injEq, place?_bind_ofNat?_iff hordered, ne_eq,
    Shelf.checkName_eq_ok_iff hordered, not_forall, exists_prop]
  constructor
  · rintro ⟨other, ⟨a, ha, hname⟩, hother⟩
    exact ⟨other.value, a, ha, hname, hother⟩
  · rintro ⟨k, a, ha, hname, hk⟩
    obtain ⟨id, -, rfl⟩ := hordered.stamped k a ha
    exact ⟨id, ⟨a, ha, hname⟩, hk⟩

/-- A name that is given and that the shelf takes does not clash, nor does any other. -/
theorem free_of_checkName (hm : m.Kept d) {e : Entity} {name : String}
    (hname : ∀ f n, r.named? = some (f, n) → f = e ∧ n = name)
    (hfree : (m.shelf e).checkName name r.changed? = .ok ()) (f : Entity) (n : String) :
    ¬Clashes m r f n := by
  intro hclash
  obtain ⟨hnamed, htaken⟩ := (clashes_iff hm).mp hclash
  obtain ⟨rfl, rfl⟩ := hname f n hnamed
  exact htaken hfree

theorem ends_create (hm : m.Kept d) {e : Entity} (a : e.Aggregate)
    (hroom : (m.shelf e).last + 1 < Word.unsignedLimit) :
    Ends (Clashes m (.create e a)) (m.answer (.create e a)).result := by
  have hgiven : (Request.create e a).named? = some (e, e.nameOf a) := rfl
  cases hname : (m.shelf e).checkName (e.nameOf a) none with
  -- the name is free and the number is in range, so the creation succeeds
  | ok _ =>
    have hfree : (m.shelf e).checkName (e.nameOf a) (Request.create e a).changed? = .ok () := hname
    obtain ⟨id, hid⟩ : ∃ id : Id e, id.value = (m.shelf e).last + 1 :=
      ⟨⟨_, by omega, hroom⟩, rfl⟩
    have hcreate := Shelf.create_eq_ok_iff.mpr ⟨hname, hid, rfl⟩
    simp only [answer, hcreate]
    refine .done (free_of_checkName hm (fun f n hnamed => ?_) hfree)
    rw [hgiven] at hnamed
    cases hnamed
    exact ⟨rfl, rfl⟩
  | error err =>
    have herr := Shelf.checkName_eq_error hname
    have hcreate : (m.shelf e).create a = .error err := by
      rw [Shelf.create, hname]
      rfl
    simp only [answer, hcreate, herr]
    refine .taken ((clashes_iff hm).mpr ⟨hgiven, fun hfree => ?_⟩)
    rw [show (Request.create e a).changed? = none from rfl, hname] at hfree
    cases hfree

/-- A change to an aggregate is refused when the aggregate is missing, when the change breaks a
rule, or when another aggregate has the name that is given. -/
theorem ends_modify (hm : m.Kept d) {e : Entity} {id : Id e} {r : Request}
    {change : e.Aggregate → Checked e.Aggregate} (hchanged : r.changed? = some id.value)
    (hname : ∀ current next, change current = .ok next →
      r.named? = some (e, e.nameOf next) ∨ r.named? = none ∧ e.nameOf next = e.nameOf current) :
    Ends (Clashes m r) (m.written e ((m.shelf e).modify id change)).result := by
  cases hfind : (m.shelf e).items.find? id.value with
  | none =>
    rw [Shelf.modify_of_none change hfind]
    exact .missing
  | some current =>
    cases hnext : change current with
    | error err =>
      have hmodify : (m.shelf e).modify id change = .error (.ofModel err) := by
        simp only [Shelf.modify, hfind, hnext]
        rfl
      rw [hmodify]
      exact .invalid
    | ok next =>
      have hgiven := hname current next hnext
      cases hcheck : (m.shelf e).checkName (e.nameOf next) (some id.value) with
      | ok _ =>
        rw [Shelf.modify_eq_ok_iff.mpr ⟨current, next, hfind, hnext, hcheck, rfl⟩]
        rw [← hchanged] at hcheck
        refine .done (free_of_checkName hm (fun f n hnamed => ?_) hcheck)
        rcases hgiven with hsome | ⟨hnone, -⟩
        · rw [hsome] at hnamed
          cases hnamed
          exact ⟨rfl, rfl⟩
        · rw [hnone] at hnamed
          cases hnamed
      | error err =>
        have herr := Shelf.checkName_eq_error hcheck
        have hmodify : (m.shelf e).modify id change = .error err := by
          simp only [Shelf.modify, hfind, hnext, mapError_ok, bind, Except.bind, hcheck]
        rw [hmodify, herr]
        rcases hgiven with hsome | ⟨-, hkept⟩
        · refine .taken ((clashes_iff hm).mpr ⟨hsome, fun hfree => ?_⟩)
          rw [hchanged, hcheck] at hfree
          cases hfree
        · -- its own name is free for the aggregate
          rw [hkept, Shelf.checkName_self (hm e).toOrdered hfind] at hcheck
          cases hcheck

theorem ends_delete {e : Entity} (id : Id e) :
    Ends (Clashes m (.delete e id)) (m.answer (.delete e id)).result := by
  simp only [answer, Shelf.delete]
  split
  · refine .done fun f n hclash => ?_
    cases hclash.1
  · exact .missing

/-- **Writes in memory** fail for a broken rule, for a missing aggregate or for a taken name. -/
theorem ends_answer (hm : m.Kept d) (hroom : ∀ e, (m.shelf e).last + 1 < Word.unsignedLimit)
    (hwrite : r.isWrite = true) : Ends (Clashes m r) (m.answer r).result := by
  cases r with
  | list | get | resolve | findByProperty | readiness => cases hwrite
  | create e a => exact ends_create hm a (hroom e)
  | update e a =>
    cases hid : e.idOf a with
    | none =>
      simp only [answer, hid]
      exact .invalid
    | some id =>
      simp only [answer, hid]
      refine ends_modify hm (by rw [Request.changed?, hid]; rfl) fun current next hnext => .inl ?_
      cases hnext
      rfl
  | updateSection id s =>
    refine ends_modify hm (e := .identityProvider) rfl fun p q hq => ?_
    -- only metadata can give the provider another name
    cases s with
    | metadata m =>
      obtain ⟨-, rfl⟩ := Checked.map_eq_ok_iff.mp hq
      exact .inl rfl
    | authentication a =>
      obtain ⟨-, rfl⟩ := Checked.map_eq_ok_iff.mp hq
      exact .inr ⟨rfl, rfl⟩
    | provisioning p =>
      obtain ⟨-, rfl⟩ := Checked.map_eq_ok_iff.mp hq
      exact .inr ⟨rfl, rfl⟩
    | properties delta =>
      cases hq
      exact .inr ⟨rfl, rfl⟩
  | delete e id => exact ends_delete id
  | switch e id enabled =>
    rw [answer_switch (hm e).toOrdered]
    refine ends_modify hm rfl fun a b hb => .inr ⟨rfl, ?_⟩
    cases hb
    exact e.nameOf_withEnabled a enabled

end MemoryStore

/-! ## Numbers that are used up -/

namespace Database

variable {d : Demand} {db : Database} {m : MemoryStore} {r : Request}

/-- Every series counts what a request inserts. -/
theorem counted_answer (hdb : db.Kept d) (hr : r.Admissible d) (series : Series) :
    (db.answer r).store.tables.lastOf series = db.tables.lastOf series +
      Exchange.inserted ⟨r, (db.answer r).result, (db.answer r).warnings⟩ series := by
  cases hwrite : r.isWrite with
  | false =>
    rw [store_of_read hwrite, Exchange.inserted, Request.inserts_of_read hwrite, ite_self]
    exact (Int.add_zero _).symm
  | true =>
    obtain ⟨m, hm, hmirrors⟩ := hdb.mirrors
    have hmatches := matches_answer hdb.guards hm hmirrors hr hwrite
    generalize db.answer r = inRows at hmatches ⊢
    generalize m.answer r = inMemory at hmatches
    cases hmatches with
    | agrees mirrors counted => exact counted series
    | refused err => exact (Int.add_zero _).symm
    | exhausted err => exact (Int.add_zero _).symm

/-- **Every series counts what requests insert**, one after the other. -/
theorem counted_after (hdb : db.Kept d) {rs : List Request} (hrs : ∀ r ∈ rs, r.Admissible d)
    (series : Series) :
    (after db rs).tables.lastOf series =
      db.tables.lastOf series + insertedBy (transcript db rs) series := by
  induction rs generalizing db with
  | nil => exact (Int.add_zero _).symm
  | cons r rs ih =>
    have hr := hrs r (by simp)
    have hfirst := counted_answer hdb hr series
    have hrest := ih (kept_answer hdb hr).1 fun r hr => hrs r (by simp [hr])
    have hsplit : insertedBy (transcript db (r :: rs)) series =
        Exchange.inserted ⟨r, (db.answer r).result, (db.answer r).warnings⟩ series +
          insertedBy (transcript (db.answer r).store rs) series := rfl
    have hafter : after db (r :: rs) = after (db.answer r).store rs := rfl
    rw [hafter, hrest, hfirst, hsplit]
    omega

theorem lastOf_fresh (series : Series) : fresh.tables.lastOf series = 0 := by
  cases series with
  | aggregates e => cases e <;> rfl
  | connectors kind => cases kind <;> rfl

/-! ## Writes to a database -/

theorem clashes_iff (hm : m.Kept d) (h : db.tables.Mirrors m) {e : Entity} {name : String} :
    Clashes db r e name ↔ Clashes m r e name := by
  have hresolved : resolved db e name = resolved m e name := result_resolve hm h e name
  rw [Clashes, Clashes, hresolved]

end Database

theorem Ends.congr {clashes clashes' : Entity → String → Prop} {α : Type}
    {result : Except RegistryError α} (hsame : ∀ e name, clashes' e name ↔ clashes e name)
    (h : Ends clashes result) : Ends clashes' result := by
  cases h with
  | done free => exact .done fun e name hclash => free e name ((hsame e name).mp hclash)
  | invalid => exact .invalid
  | missing => exact .missing
  | taken clash => exact .taken ((hsame _ _).mpr clash)

theorem Tables.not_runsOut_of_le {t : Tables} {needed : Series → Nat} {succeeds : Bool}
    (h : ∀ series, t.lastOf series + needed series ≤ maxColumnInteger) :
    ¬t.RunsOut needed succeeds := by
  rintro (⟨e, hneeded, hfull⟩ | ⟨-, series, hshort⟩)
  · have hle := h (.aggregates e)
    omega
  · exact absurd (h series) (Int.not_le.mpr hshort)

theorem Tables.Mirrors.hasRoom {t : Tables} {m : MemoryStore} (h : t.Mirrors m) (e : Entity) :
    (m.shelf e).last + 1 < Word.unsignedLimit := by
  have hbounded := (h.lists e).bounded
  simp only [maxColumnInteger, Word.signedLimit, Word.unsignedLimit] at hbounded ⊢
  omega

namespace Database

variable {d : Demand} {db : Database} {r : Request}

/-- A write for which numbers are left ends as on the store that the rows mirror. -/
theorem ends_answer (hdb : db.Kept d) (hr : r.Admissible d) (hwrite : r.isWrite = true)
    (hroom : ∀ series, db.tables.lastOf series + r.inserts series ≤ maxColumnInteger) :
    Ends (Clashes db r) (db.answer r).result := by
  obtain ⟨m, hm, hmirrors⟩ := hdb.mirrors
  have hends := MemoryStore.ends_answer (r := r) hm hmirrors.hasRoom hwrite
  have hmatches := matches_answer hdb.guards hm hmirrors hr hwrite
  refine Ends.congr (fun e name => clashes_iff hm hmirrors) ?_
  generalize Clashes m r = clashes at hends ⊢
  generalize db.answer r = inRows at hmatches ⊢
  generalize m.answer r = inMemory at hmatches hends
  cases hmatches with
  | agrees => exact hends
  | refused err => exact hends
  | exhausted err short => exact absurd short (Tables.not_runsOut_of_le hroom)

end Database

/-! ## Steps that fail -/

namespace Transaction

/-- Where nothing is refused, a step fails by itself. -/
theorem failure_of_firstFailure? {n : Nat} {steps : List Step} {s : Step} {failure : EngineFailure}
    (h : firstFailure? Engine.reliable n steps = some (s, failure)) : s.failure = some failure := by
  induction steps generalizing n with
  | nil => cases h
  | cons x xs ih =>
    simp only [firstFailure?, Engine.reliable, Option.none_or] at h
    cases hfailure : x.failure with
    | none =>
      rw [hfailure] at h
      exact ih h
    | some failure' =>
      rw [hfailure] at h
      cases h
      exact hfailure

/-- The failure is that a name repeats, and the step inserts or updates rows of aggregates alone. -/
structure Step.Repeats (s : Step) (failure : EngineFailure) (e : Entity) : Prop where
  failure : failure = .unique [e.table.qualified "name"]
  own : ∀ c ∈ s.changes, c.table = e.table ∧ c.event ≠ .delete

/-- An honest step whose failure is not one of the data repeats a name. -/
theorem Step.IsHonest.repeats {named? : Option (Entity × String)} {s : Step}
    (h : s.IsHonest named?) {failure : EngineFailure} (hfailure : s.failure = some failure)
    (hdata : s.report failure ≠ dataFailure failure) :
    ∃ e name, named? = some (e, name) ∧ s.report failure = .nameTaken e name ∧
      s.Repeats failure e := by
  cases named? with
  | none =>
    rw [show s.report = dataFailure from h] at hdata
    exact absurd rfl hdata
  | some given =>
    obtain ⟨e, name⟩ := given
    rcases h with hplain | hnames
    · rw [hplain.report] at hdata
      exact absurd rfl hdata
    · rw [hnames.report] at hdata ⊢
      cases failure with
      | unique columns =>
        obtain rfl := hnames.repeats columns hfailure
        exact ⟨e, name, rfl, rfl, rfl, hnames.own⟩
      | foreignKey | full | columnKind | noTable | cannotOpen | nul | other => exact absurd rfl hdata

end Transaction

/-! ## Open stores -/

namespace OpenStore

variable {s : OpenStore} {r : Request}

/-- Writes go to the database, also when it cannot be read. -/
theorem answer_of_write (hwrite : r.isWrite = true) :
    s.answer r = (s.database.answer r).mapStore fun database => { s with database } := by
  have hlook : r.look? = none := by
    cases r with
    | list | get | resolve | findByProperty | readiness => cases hwrite
    | create | update | updateSection | delete | switch => rfl
  simp only [answer, hlook, ite_self]

theorem database_answer (s : OpenStore) (r : Request) :
    (answer s r).store.database = (s.database.answer r).store := by
  cases hwrite : r.isWrite with
  | true => rw [answer_of_write hwrite]; rfl
  | false =>
    rw [Database.store_of_read hwrite]
    simp only [answer]
    split
    · rfl
    · exact Database.store_of_read hwrite

theorem database_after (s : OpenStore) (rs : List Request) :
    (after s rs).database = after s.database rs := by
  induction rs generalizing s with
  | nil => rfl
  | cons r rs ih =>
    have hfirst := ih (answer s r).store
    rw [database_answer] at hfirst
    exact hfirst

end OpenStore

/-! ## Texts and integers -/

theorem RegistryError.conflictMessage_other {e : Entity} {name : String}
    (h : ¬(e = .identityProvider ∧ name = residentName)) :
    conflictMessage e name = e.label ++ " '" ++ name ++ "' already exists" := by
  unfold conflictMessage
  split
  · rename_i hkind
    rw [ProviderKind.ofName] at hkind
    split at hkind
    · rename_i hname
      exact absurd ⟨rfl, hname⟩ h
    · cases hkind
  · rfl

/-- A taken name is told as that of the resident provider exactly if it is. -/
theorem RegistryError.message_nameTaken_iff {e : Entity} {name : String} :
    (nameTaken e name).message = "conflict: resident identity provider already exists" ↔
      e = .identityProvider ∧ name = residentName := by
  constructor
  · intro h
    by_contra hother
    have hmessage : "conflict: " ++ (e.label ++ " '" ++ name ++ "' already exists") =
        "conflict: " ++ "resident identity provider already exists" :=
      (congrArg ("conflict: " ++ ·) (conflictMessage_other hother)).symm.trans h
    have hchars := congrArg String.toList hmessage
    simp only [String.toList_append, List.append_cancel_left_eq, List.append_assoc] at hchars
    have hfirst := congrArg List.head? hchars
    cases e <;> simp [Entity.label] at hfirst
  · rintro ⟨rfl, rfl⟩
    rfl

/-- The columns take the identifiers of the dialect and of the local roles. -/
structure Metadata.FitsColumns (m : Metadata) : Prop where
  dialect : m.dialectColumns = .ok m.dialectCells
  roles : ∀ e ∈ m.roleMappings.entries, columnInteger e.1 = .ok (e.1 : Int)

theorem Metadata.fitsColumns {m : Metadata} (hm : m.validate = .ok ()) : m.FitsColumns where
  dialect := dialectColumns_eq hm
  roles e he := columnInteger_of_le ((validate_ok_iff.mp hm).2.2.2 e he).1

/-! ## The theorem -/

namespace Database

variable {d : Demand} {db : Database} {r : Request}

/-- The write does not fail on the data, and no constraint but that on names is broken. -/
structure WritesClean (db : Database) (r : Request) : Prop where
  ends : Ends (Clashes db r) (db.answer r).result
  /-- Of the steps of the write, which every engine is asked about, one fails by itself only if it
  repeats a name. -/
  fires : ∃ steps, db.FailsOnlyAt (fun engine => db.answerUnder engine r) steps ∧
    ∀ s failure, firstFailure? Engine.reliable 0 steps = some (s, failure) →
      ∃ e name, s.Repeats failure e ∧ r.named? = some (e, name) ∧
        (db.answer r).result = .error (.nameTaken e name)
  /-- An engine that refuses only rows with values that their columns do not take refuses
  nothing. -/
  columns : ∀ engine : Engine, engine.Lenient → db.answerUnder engine r = db.answer r

theorem answer_eq_reliable (hguards : db.guards = []) (r : Request) :
    db.answer r = db.answerUnder Engine.reliable r := by
  rw [answer, engine_of_guards hguards]

theorem fires_of_ends (hguards : db.guards = []) (hwrite : r.isWrite = true)
    {clashes : Entity → String → Prop} (h : Ends clashes (db.answer r).result) :
    ∃ steps, db.FailsOnlyAt (fun engine => db.answerUnder engine r) steps ∧
      ∀ s failure, firstFailure? Engine.reliable 0 steps = some (s, failure) →
        ∃ e name, s.Repeats failure e ∧ r.named? = some (e, name) ∧
          (db.answer r).result = .error (.nameTaken e name) := by
  obtain ⟨steps, hsteps, hfails⟩ := isHonest_write hwrite db
  refine ⟨steps, hfails, fun s failure hfailed => ?_⟩
  obtain ⟨last, operation, target, hanswer⟩ := hfails
  have hresult : (db.answer r).result =
      .error ((s.report failure).inContext operation target) := by
    have hreliable := hanswer Engine.reliable
    rw [hfailed] at hreliable
    rw [answer_eq_reliable hguards]
    exact congrArg Answer.result hreliable
  -- the request does not end in a data failure, so the constraint reports a repeated name
  have hdata : s.report failure ≠ dataFailure failure := by
    intro hreport
    rw [hreport] at hresult
    exact h.not_dataAccess hresult
  obtain ⟨e, name, hnamed, hreport, hrepeats⟩ :=
    (hsteps s (mem_of_firstFailure? hfailed)).repeats (failure_of_firstFailure? hfailed) hdata
  rw [hreport] at hresult
  exact ⟨e, name, hrepeats, hnamed, hresult⟩

/-- **Writes of valid values do not fail on the data**, in every state that requests lead to from a
new database and in which numbers for the rows of the write are left. Integers in valid metadata fit
their columns, and a taken name is that of the resident provider exactly if it is reserved. A store
that was opened on a new database answers the write alike, also when it cannot be read. -/
theorem writes_clean (rs : List Request) (hrs : ∀ r ∈ rs, r.Admissible {}) (r : Request)
    (hr : r.Admissible {}) (hwrite : r.isWrite = true)
    (hroom : ∀ series, (insertedBy (transcript fresh rs) series : Int) + r.inserts series ≤
      maxColumnInteger) :
    (after fresh rs).WritesClean r ∧
    (∀ (settings : StoreSettings) (files : Files) (store : OpenStore),
      settings.connect files {} = .ok store →
        (ProviderStore.answer (after store rs) r).result = ((after fresh rs).answer r).result) ∧
    (∀ m : Metadata, m.validate = .ok () → m.FitsColumns) ∧
    ∀ e name, (RegistryError.nameTaken e name).message =
      "conflict: resident identity provider already exists" ↔
        e = .identityProvider ∧ name = residentName := by
  have hkept := kept_after_fresh hrs
  -- the counters of a fresh database are zero, and they move with the insertions only
  have hcounted (series : Series) : (after fresh rs).tables.lastOf series =
      insertedBy (transcript fresh rs) series := by
    rw [counted_after kept_fresh hrs, lastOf_fresh, Int.zero_add]
  have hends := ends_answer hkept hr hwrite fun series => by
    rw [hcounted series]
    exact hroom series
  refine ⟨⟨hends, fires_of_ends hkept.guards hwrite hends, fun engine hlenient => ?_⟩,
    fun settings files store hopen => ?_, fun m => Metadata.fitsColumns,
    fun e name => RegistryError.message_nameTaken_iff⟩
  · rw [answer_eq_reliable hkept.guards]
    exact answerUnder_of_lenient hlenient _ r
  · -- the store that was opened writes through to its database, whatever it reads from
    have hanswer : ProviderStore.answer (after store rs) r = _ :=
      OpenStore.answer_of_write (s := after store rs) hwrite
    rw [hanswer, OpenStore.database_after, StoreSettings.connect_eq_ok hopen]
    rfl

/-- Metadata with the largest identifiers of other registries. -/
def limitMetadata : Metadata where
  name := "zulu"
  claimDialect := some ⟨maxReferenceId, true⟩
  roleMappings := Dict.ofList [(maxReferenceId, "admin"), (0, "guest")]

/-- A name that is taken, identifiers at their limits, and an identifier that is no row number. -/
def limitWrites : List Request :=
  [.create .identityProvider .acme,
    .updateSection (.nth 0) (.metadata limitMetadata),
    .delete .identityProvider ⟨Word.unsignedLimit - 1, by decide⟩]

theorem admissible_limitWrites : ∀ r ∈ limitWrites, r.Admissible {} ∧ r.isWrite = true := by
  have hacme : Entity.identityProvider.Offered {} IdentityProvider.acme :=
    ⟨IdentityProvider.built_acme, IdentityProvider.plain_acme.mono fun _ _ => trivial⟩
  have hmetadata : limitMetadata.Built := by
    unfold Metadata.Built
    decide +kernel
  simp only [limitWrites, List.forall_mem_cons]
  exact ⟨⟨hacme, rfl⟩, ⟨⟨hmetadata, trivial⟩, rfl⟩, ⟨trivial, rfl⟩, List.forall_mem_nil _⟩

/-- After some renaming the writes end in a conflict, a success and a missing provider. -/
theorem writes_clean_limitWrites :
    (∀ r ∈ limitWrites, (after fresh renamingRequests).WritesClean r) ∧
      (limitWrites.map fun r =>
        match ((after fresh renamingRequests).answer r).result with
        | .ok _ => none
        | .error err => some err.message) =
        [some "conflict: identity provider 'acme' already exists", none,
          some "identity provider not found: 18446744073709551615"] := by
  have hroom (series : Series) : ∀ r ∈ limitWrites,
      (insertedBy (transcript fresh renamingRequests) series : Int) + r.inserts series ≤
        maxColumnInteger := by
    cases series with
    | aggregates e => cases e <;> decide +kernel
    | connectors kind => cases kind <;> decide +kernel
  have hrequests : ∀ r ∈ renamingRequests, r.Admissible {} :=
    admissible_renamingRequests (fun _ _ => trivial) fun _ _ => trivial
  refine ⟨fun r hr => ?_, by decide +kernel⟩
  obtain ⟨hadmissible, hwrite⟩ := admissible_limitWrites r hr
  exact (writes_clean renamingRequests hrequests r hadmissible hwrite fun series =>
    hroom series r hr).1

end Database

end FederationRegistry
