import FederationRegistry.Proofs.Json.Reordered
import FederationRegistry.Proofs.Relational.Legible
import FederationRegistry.Proofs.Service.Reopening
import FederationRegistry.Proofs.Transcript

/-!
# Look-ups by property and the aggregates that load

A look-up by property goes through tables of texts, and getting a provider rebuilds it from its
rows. Both say the same (`FindsByProperty`): the look-up finds the first of the providers that, when
they are got, have an equal property in the scope, and it warns of the number of them when there
are several. A provider counts once, however many of its connectors have the property.

**Theorem (`findByProperty_after`).** So it is in every state that requests lead to from a new
database, for every scope, key and value, as long as the stored property values have no doubles and
are read back. A value does not remember the order in which its members were written.

The state mirrors a store in memory, and there both the look-up and the aggregates stand on one
shelf.
-/

namespace FederationRegistry

/-- Property values without doubles that are read back, and any sections of service providers. -/
def Demand.searchable : Demand := ⟨fun v => v.json.DoubleFree ∧ v.Readable, fun _ => True⟩

theorem Demand.doubleFree_of_searchable (v : PropertyValue) (hv : searchable.property v) :
    v.json.DoubleFree := hv.1

theorem Demand.readable_of_searchable (v : PropertyValue) (hv : searchable.property v) :
    v.Readable := hv.2

/-- The provider has the property in a scope: itself, or one of its connectors. -/
def IdentityProvider.Has (p : IdentityProvider) (key : String) (value : PropertyValue) :
    PropertyScope → Prop
  | .provider => p.properties.find? key = some value
  | .authenticator => ∃ a name c, p.authentication = some a ∧
      a.authenticators.find? name = some c ∧ c.properties.find? key = some value
  | .provisioner => ∃ name c, p.provisioning.provisioners.find? name = some c ∧
      c.properties.find? key = some value

/-- What is got from the store by an identifier. -/
def ProviderStore.got {σ : Type} [ProviderStore σ] (s : σ) (id : ProviderId) :
    Except RegistryError (Option IdentityProvider) :=
  (answer s (.get .identityProvider (.id id))).result

/-- The look-up finds the first of the providers with these identifiers, which are those that have
the property when they are got. -/
structure FindsByProperty {σ : Type} [ProviderStore σ] (s : σ) (scope : PropertyScope)
    (key : String) (value : PropertyValue) (ids : List ProviderId) : Prop where
  ascending : ids.Pairwise fun i j => i.value < j.value
  mem_iff : ∀ id, id ∈ ids ↔ ∃ p, ProviderStore.got s id = .ok (some p) ∧ p.Has key value scope
  result : (ProviderStore.answer s (.findByProperty scope key value)).result =
    match ids.head? with
    | none => .ok none
    | some id => ProviderStore.got s id
  warnings : (ProviderStore.answer s (.findByProperty scope key value)).warnings =
    if 2 ≤ ids.length then [.ambiguousLookup scope key ids.length] else []
  store : (ProviderStore.answer s (.findByProperty scope key value)).store = s

/-! ## Having a property -/

namespace IdentityProvider

variable {p : IdentityProvider}

theorem exists_propertiesIn_iff (key : String) (value : PropertyValue) (scope : PropertyScope) :
    (∃ m ∈ p.propertiesIn scope, m.find? key = some value) ↔ p.Has key value scope := by
  cases scope with
  | provider => simp [propertiesIn, Has]
  | authenticator =>
    rw [propertiesIn, Has]
    cases p.authentication with
    | none => simp
    | some a =>
      simp only [List.mem_map, exists_exists_and_eq_and, Option.some.injEq, ↓existsAndEq, true_and]
      exact Dict.exists_mem_values_iff
  | provisioner =>
    simp only [propertiesIn, Has, List.mem_map, exists_exists_and_eq_and]
    exact Dict.exists_mem_values_iff

/-- A stored value without doubles equals a value exactly when the store finds it equal. -/
theorem hasProperty_iff_has (hp : p.HasValues fun v => v.json.DoubleFree) (scope : PropertyScope)
    (key : String) (value : PropertyValue) :
    p.hasProperty scope key value = true ↔ p.Has key value scope := by
  rw [← exists_propertiesIn_iff, hasProperty, List.any_eq_true]
  refine exists_congr fun m => and_congr_right fun hm => ?_
  rw [Option.any_eq_true]
  constructor
  · rintro ⟨v, hv, hsame⟩
    have hjson := (Json.same_iff_eq v.json value.json (hp.propertiesIn hm key v hv)).mp hsame
    obtain ⟨json, ordered⟩ := v
    obtain ⟨json', ordered'⟩ := value
    cases hjson
    exact hv
  · intro hv
    exact ⟨value, hv, (Json.same_iff_eq _ _ (hp.propertiesIn hm key value hv)).mpr rfl⟩

end IdentityProvider

/-! ## One database -/

/-- Entries of a shelf under the identifiers of their providers. -/
theorem map_value_ids {entries : List (Nat × IdentityProvider)}
    (h : ∀ e ∈ entries, ∃ id, e.2.id = some id ∧ id.value = e.1) :
    ((entries.filterMap fun e => e.2.id).map fun id => id.value) = entries.map (·.1) := by
  induction entries with
  | nil => rfl
  | cons e rest ih =>
    obtain ⟨id, hid, hvalue⟩ := h e List.mem_cons_self
    rw [List.filterMap_cons_some (f := fun e : Nat × IdentityProvider => e.2.id) hid,
      List.map_cons, List.map_cons, hvalue,
      ih fun e he => h e (List.mem_cons_of_mem _ he)]

namespace Database

variable {db : Database} {m : MemoryStore}

/-- Providers are got as they stand on the shelf. -/
theorem got_eq (hm : m.Kept .searchable) (h : db.tables.Mirrors m) (id : ProviderId) :
    ProviderStore.got db id = .ok (m.providers.items.find? id.value) := by
  have hget : db.tables.get .identityProvider (.id id) =
      .ok (m.providers.items.find? id.value) := by
    cases hfind : m.providers.items.find? id.value with
    | none =>
      have hget : (m.shelf .identityProvider).get? (.id id) = none := hfind
      exact h.get_of_none hget
    | some p =>
      have hget : (m.shelf .identityProvider).get? (.id id) = some p := hfind
      obtain ⟨k, hk, hload⟩ := h.get_of_some hm hget
      have hvalues := ((hm .identityProvider).meets k p hk).2
      rw [hload]
      exact h.loadProvider_of_readable hm hk (hvalues.mono Demand.readable_of_searchable)
  show (db.answer (.get .identityProvider (.id id))).result = _
  rw [answer_get, hget]
  rfl

/-- The entries of the shelf whose providers have a property. -/
def matching (m : MemoryStore) (scope : PropertyScope) (key : String) (value : PropertyValue) :
    List (Nat × IdentityProvider) :=
  m.providers.items.entries.filter fun e => e.2.hasProperty scope key value

theorem mem_matching_iff (hm : m.Kept .searchable) {scope : PropertyScope} {key : String}
    {value : PropertyValue} {e : Nat × IdentityProvider} :
    e ∈ matching m scope key value ↔
      m.providers.items.find? e.1 = some e.2 ∧ e.2.Has key value scope := by
  rw [matching, List.mem_filter, Dict.mem_entries_iff]
  refine and_congr_right fun hfind => ?_
  have hvalues := ((hm .identityProvider).meets e.1 e.2 hfind).2
  exact IdentityProvider.hasProperty_iff_has (hvalues.mono Demand.doubleFree_of_searchable)
    scope key value

/-- **One database.** Its rows mirror a store in memory, and the look-up finds what is got. -/
theorem exists_findsByProperty (hm : m.Kept .searchable) (h : db.tables.Mirrors m)
    (scope : PropertyScope) (key : String) (value : PropertyValue) :
    ∃ ids, FindsByProperty db scope key value ids := by
  have hstamped : ∀ e ∈ matching m scope key value, ∃ id, e.2.id = some id ∧ id.value = e.1 :=
    fun e he => (hm .identityProvider).stamped e.1 e.2 ((mem_matching_iff hm).mp he).1
  have hids := map_value_ids hstamped
  have hanswer : ProviderStore.answer db (.findByProperty scope key value) = _ :=
    db.answer_findByProperty scope key value
  -- the statement picks the rows that the memory store picks: their values have one text each
  have hnumbers : db.tables.providersWith scope key value.text =
      (matching m scope key value).map fun e => (e.1 : Int) :=
    h.holdProviders.providersWith_eq
      (MemoryStore.comparable_of_doubleFree Demand.doubleFree_of_searchable hm scope key value)
  refine ⟨(matching m scope key value).filterMap fun e => e.2.id, ?_, fun id => ?_, ?_, ?_, rfl⟩
  · -- the identifiers ascend as the numbers of the shelf do
    have hsorted : ((matching m scope key value).map (·.1)).Pairwise (· < ·) := by
      refine List.pairwise_map.mpr ((m.providers.items.increasing.sublist
        List.filter_sublist).imp fun hab => ?_)
      simpa [Key.before] using hab
    rw [← hids] at hsorted
    exact List.pairwise_map.mp hsorted
  · -- an identifier is listed iff its provider, as it loads, has the property
    rw [got_eq hm h, List.mem_filterMap]
    constructor
    · rintro ⟨e, he, hid⟩
      obtain ⟨id', hid', hvalue⟩ := hstamped e he
      obtain rfl : id' = id := Option.some.inj (hid'.symm.trans hid)
      obtain ⟨hfind, hhas⟩ := (mem_matching_iff hm).mp he
      exact ⟨e.2, by rw [hvalue, hfind], hhas⟩
    · rintro ⟨p, hp, hhas⟩
      have hfind : m.providers.items.find? id.value = some p := Except.ok.inj hp
      obtain ⟨id', hid', hvalue⟩ := (hm .identityProvider).stamped id.value p hfind
      obtain rfl : id' = id := Id.ext hvalue
      exact ⟨(id'.value, p), (mem_matching_iff hm).mpr ⟨hfind, hhas⟩, hid'⟩
  · -- the row of the lowest number is the first entry that matches, and it loads
    rw [hanswer, matched, hnumbers]
    cases hfound : matching m scope key value with
    | nil => rfl
    | cons e rest =>
      have he : e ∈ matching m scope key value := hfound ▸ List.mem_cons_self
      obtain ⟨id, hid, hvalue⟩ := hstamped e he
      obtain ⟨hfind, -⟩ := (mem_matching_iff hm).mp he
      have hvalues := ((hm .identityProvider).meets e.1 e.2 hfind).2
      have hload := h.loadProvider_of_readable hm hfind
        (hvalues.mono Demand.readable_of_searchable)
      rw [List.filterMap_cons_some (f := fun e : Nat × IdentityProvider => e.2.id) hid]
      simp only [List.map_cons, List.head?_cons, Option.elim_some, hload, readout, mapError_ok,
        got_eq hm h, hvalue, hfind]
  · -- the warning counts rows; each has an identifier, so it counts providers
    have hlength : ((matching m scope key value).filterMap fun e => e.2.id).length =
        (matching m scope key value).length := by
      simpa only [List.length_map] using congrArg List.length hids
    rw [hanswer, hnumbers, hlength]
    simp only [readout, ambiguity, List.length_map]
    rfl

/-! ## After requests -/

variable {d : Demand}

theorem kept_after (h : db.Kept d) {rs : List Request} (hrs : ∀ r ∈ rs, r.Admissible d) :
    (ProviderStore.after db rs).Kept d := by
  induction rs generalizing db with
  | nil => exact h
  | cons r rs ih =>
    exact ih (kept_answer h (hrs r List.mem_cons_self)).1 fun r hr =>
      hrs r (List.mem_cons_of_mem _ hr)

theorem kept_after_fresh {rs : List Request} (hrs : ∀ r ∈ rs, r.Admissible d) :
    (ProviderStore.after fresh rs).Kept d :=
  kept_after kept_fresh hrs

end Database

theorem MemoryStore.kept_after {d : Demand} {m : MemoryStore} (h : m.Kept d) {rs : List Request}
    (hrs : ∀ r ∈ rs, r.Admissible d) : (ProviderStore.after m rs).Kept d := by
  induction rs generalizing m with
  | nil => exact h
  | cons r rs ih =>
    exact ih (kept_answer h (hrs r List.mem_cons_self)) fun r hr =>
      hrs r (List.mem_cons_of_mem _ hr)

namespace OpenStore

variable {s : OpenStore}

theorem after_of_isShared (h : s.isShared = true) (rs : List Request) :
    ProviderStore.after s rs = { s with database := ProviderStore.after s.database rs } := by
  induction rs generalizing s with
  | nil => rfl
  | cons r rs ih =>
    have hanswer : ProviderStore.answer s r =
        (s.database.answer r).mapStore fun database => { s with database } :=
      answer_of_isShared h r
    rw [ProviderStore.after, List.foldl_cons, hanswer]
    exact ih h

/-- A store that was opened on a new database has, after requests, what a new database has. -/
theorem after_connect {settings : StoreSettings} {files : Files}
    (hopen : settings.connect files {} = .ok s) (hshared : s.isShared = true) (rs : List Request) :
    (ProviderStore.after s rs).isShared = true ∧
      (ProviderStore.after s rs).database = ProviderStore.after Database.fresh rs := by
  rw [after_of_isShared hshared, StoreSettings.connect_eq_ok hopen]
  exact ⟨hshared, rfl⟩

/-- A store whose connections share the database gives the results that the database gives. -/
theorem result_of_isShared (h : s.isShared = true) (r : Request) :
    (ProviderStore.answer s r).result = (ProviderStore.answer s.database r).result :=
  congrArg Answer.result (answer_of_isShared h r)

/-- A store whose connections share the database finds what the database finds. -/
theorem findsByProperty (h : s.isShared = true) {scope : PropertyScope} {key : String}
    {value : PropertyValue} {ids : List ProviderId}
    (hfinds : FindsByProperty s.database scope key value ids) :
    FindsByProperty s scope key value ids := by
  have hanswer (r : Request) : ProviderStore.answer s r =
      (ProviderStore.answer s.database r).mapStore fun database => { s with database } :=
    answer_of_isShared h r
  have hgot (id : ProviderId) : ProviderStore.got s id = ProviderStore.got s.database id := by
    rw [ProviderStore.got, hanswer]
    rfl
  exact
    { ascending := hfinds.ascending
      mem_iff := fun id => by rw [hgot, hfinds.mem_iff]
      result := by simp only [hanswer, hgot]; exact hfinds.result
      warnings := by rw [hanswer]; exact hfinds.warnings
      store := by rw [hanswer, Answer.mapStore, hfinds.store] }

end OpenStore

/-- **Look-ups by property agree with the aggregates that load**, in every state that requests lead
to from a new database. Values whose members were written in another order are equal. -/
theorem findByProperty_after (rs : List Request) (hrs : ∀ r ∈ rs, r.Admissible .searchable)
    (scope : PropertyScope) (key : String) (value : PropertyValue) :
    (∃ ids, FindsByProperty (ProviderStore.after Database.fresh rs) scope key value ids) ∧
    (∀ (settings : StoreSettings) (files : Files) (store : OpenStore),
      settings.connect files {} = .ok store → store.isShared = true →
        ∃ ids, FindsByProperty (ProviderStore.after store rs) scope key value ids) ∧
    ∀ i j : Json, i.Reordered j → PropertyValue.ofJson i = .ofJson j := by
  have hfresh : ∃ ids,
      FindsByProperty (ProviderStore.after Database.fresh rs) scope key value ids := by
    obtain ⟨m, hm, hmirrors⟩ :=
      (Database.kept_after_fresh hrs).mirrors
    exact Database.exists_findsByProperty hm hmirrors scope key value
  refine ⟨hfresh, fun settings files store hopen hshared => ?_,
    fun i j h => PropertyValue.ofJson_of_reordered h⟩
  obtain ⟨ids, hids⟩ := hfresh
  refine ⟨ids, ?_⟩
  have hdatabase : store.database = Database.fresh := StoreSettings.connect_eq_ok hopen
  rw [OpenStore.after_of_isShared hshared, hdatabase]
  exact OpenStore.findsByProperty
    (s := ⟨ProviderStore.after Database.fresh rs, store.readers, store.isShared⟩) hshared hids

/-! ## A look-up that finds several providers -/

/-- An object, its members in one order or the other. -/
def samplePlace (isSorted : Bool) : PropertyValue :=
  let site := ("site", Json.string "east")
  let zone := ("zone", Json.ofInt 2)
  .ofJson (.object (if isSorted then [site, zone] else [zone, site]))

/-- An authenticator with the object among its properties. -/
def Connector.placed (name : String) : Connector :=
  ⟨name, true, PropertyMap.put ∅ "place" (samplePlace true)⟩

/-- Two authenticators with the same property. -/
def Authentication.placedTwice : Authentication :=
  { authenticators := ConnectorMap.ofList [.placed "totp", .placed "hotp"] }

theorem Authentication.built_placedTwice : placedTwice.Built := by
  have hplaced (name : String) (hname : name = "totp" ∨ name = "hotp") :
      (Connector.placed name).Built .authenticator := by
    refine ⟨name, [.setEnabled true, .addProperty "place" (samplePlace true)], ?_⟩
    rcases hname with rfl | rfl <;> decide +kernel
  exact ⟨.edit (e := .addAuthenticator (.placed "hotp"))
    (.edit (e := .addAuthenticator (.placed "totp")) .blank (hplaced _ (.inl rfl)))
    (hplaced _ (.inr rfl)), by decide +kernel⟩

/-- Three providers get the authenticators, and the last of them is deleted. -/
def lookupRequests : List Request :=
  let unplaced (name : String) : IdentityProvider :=
    { metadata := { name }, variant := .federated {} }
  [.create .identityProvider (unplaced "acme"),
    .updateSection (.nth 0) (.authentication .placedTwice),
    .create .identityProvider (unplaced "apex"),
    .updateSection (.nth 1) (.authentication .placedTwice),
    .create .identityProvider (unplaced "zenith"),
    .updateSection (.nth 2) (.authentication .placedTwice),
    .delete .identityProvider (.nth 2)]

theorem searchable_samplePlace : Demand.searchable.property (samplePlace true) := by
  have hplain : (samplePlace true).Plain := by
    have hjson : (samplePlace true).json =
        .object [("site", .string "east"), ("zone", .ofInt 2)] := by decide +kernel
    constructor
    · rw [hjson]
      exact ⟨trivial, trivial, trivial⟩
    · rw [hjson]
      decide
  exact ⟨hplain.doubleFree, hplain.readable⟩

theorem admissible_lookupRequests : ∀ r ∈ lookupRequests, r.Admissible .searchable := by
  have hunplaced (name : String) (hname : name = "acme" ∨ name = "apex" ∨ name = "zenith") :
      Entity.identityProvider.Offered .searchable
        ({ metadata := { name }, variant := .federated {} } : IdentityProvider) := by
    refine ⟨.build (.federated name) ?_, PropertyMap.hasValues_empty, nofun,
      ConnectorMap.hasValues_empty⟩
    rcases hname with rfl | rfl | rfl <;> decide +kernel
  have hplaced (name : String) :
      (Connector.placed name).properties.HasValues Demand.searchable.property :=
    PropertyMap.hasValues_empty.put "place" searchable_samplePlace
  have hsection (id : ProviderId) :
      Request.Admissible .searchable (.updateSection id (.authentication .placedTwice)) :=
    ⟨Authentication.built_placedTwice,
      (ConnectorMap.hasValues_empty.add (hplaced "totp")).add (hplaced "hotp")⟩
  simp only [lookupRequests, List.forall_mem_cons]
  exact ⟨hunplaced "acme" (by simp), hsection _, hunplaced "apex" (by simp), hsection _,
    hunplaced "zenith" (by simp), hsection _, trivial, List.forall_mem_nil _⟩

/-- Two of the providers are found, each counted once, whatever the order of the members. -/
theorem findByProperty_after_lookupRequests :
    (∀ r ∈ lookupRequests, r.Admissible .searchable) ∧
      ∃ ids, FindsByProperty (ProviderStore.after Database.fresh lookupRequests) .authenticator
        "place" (samplePlace false) ids ∧ ids.length = 2 := by
  obtain ⟨⟨ids, hids⟩, -⟩ := findByProperty_after lookupRequests admissible_lookupRequests
    .authenticator "place" (samplePlace false)
  have hwarnings : (ProviderStore.answer (ProviderStore.after Database.fresh lookupRequests)
      (.findByProperty .authenticator "place" (samplePlace false))).warnings =
        [.ambiguousLookup .authenticator "place" 2] := by decide +kernel
  refine ⟨admissible_lookupRequests, ids, hids, ?_⟩
  rw [hids.warnings] at hwarnings
  split at hwarnings
  · simpa using hwarnings
  · cases hwarnings

end FederationRegistry
