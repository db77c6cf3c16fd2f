import FederationRegistry.Proofs.Relational.MirrorReads
import FederationRegistry.Proofs.Service.Reopening
import FederationRegistry.Proofs.Transcript

/-!
# Two comparisons of property values

A store in memory compares property values, and tables compare their canonical texts. The text of
a value tells it from every other value (`PropertyValue.text_eq_iff`). The comparison of values is
coarser by one thing: it takes no notice of the signs of zeros (`PropertyValue.same_iff`). So the
two comparisons disagree on values that differ in the signs of zeros and in nothing else, and on no
others.

**Look-ups** (`Database.findByProperty_agrees`). Rows that hold the providers of a store, and that
load as what stands on its shelf, answer a look-up as the store does, unless a property that is
looked at differs from the value in the signs of zeros alone. In that case they may not
(`Database.findByProperty_disagrees`).
-/

namespace FederationRegistry

/-! ## Zeros without signs -/

namespace Binary64

variable {x y : Binary64}

/-- The number, without its sign if it is zero. -/
def dropZeroSign (x : Binary64) : Binary64 := if x.isZero then zero false else x

theorem dropZeroSign_of_isZero (h : x.isZero = true) : x.dropZeroSign = zero false := if_pos h

theorem dropZeroSign_of_not_isZero (h : ¬x.isZero = true) : x.dropZeroSign = x := if_neg h

/-- Doubles are equal as numbers when they are identical but for the signs of zeros. -/
theorem same_iff : x.same y = true ↔ x.dropZeroSign = y.dropZeroSign := by
  by_cases hx : x.isZero = true
  · by_cases hy : y.isZero = true
    · rw [dropZeroSign_of_isZero hx, dropZeroSign_of_isZero hy]
      simp [same, hx, hy]
    · have hne : x ≠ y := fun h => hy (h ▸ hx)
      have hzero : zero false ≠ y := fun h => hy (h ▸ rfl)
      rw [dropZeroSign_of_isZero hx, dropZeroSign_of_not_isZero hy]
      simp [same, hy, hne, hzero]
  · by_cases hy : y.isZero = true
    · have hne : x ≠ y := fun h => hx (h ▸ hy)
      have hzero : x ≠ zero false := fun h => hx (h ▸ rfl)
      rw [dropZeroSign_of_not_isZero hx, dropZeroSign_of_isZero hy]
      simp [same, hx, hne, hzero]
    · rw [dropZeroSign_of_not_isZero hx, dropZeroSign_of_not_isZero hy]
      simp [same, hx]

end Binary64

namespace Json

/-- The number without its sign if it is a zero among the doubles. -/
def Number.dropZeroSign : Number → Number
  | .integer i => .integer i
  | .double x => .double x.dropZeroSign

theorem Number.same_iff {m n : Number} : m.same n = true ↔ m.dropZeroSign = n.dropZeroSign := by
  match m, n with
  | .integer i, .integer j => simp [same, dropZeroSign]
  | .integer i, .double y => simp [same, dropZeroSign]
  | .double x, .integer j => simp [same, dropZeroSign]
  | .double x, .double y => simp [same, dropZeroSign, Binary64.same_iff]

mutual

/-- The value with all zeros among its doubles positive. -/
def dropZeroSigns : Json → Json
  | .number n => .number n.dropZeroSign
  | .array xs => .array (dropZeroSignsElements xs)
  | .object ms => .object (dropZeroSignsMembers ms)
  | j => j

/-- The elements with all zeros positive. -/
def dropZeroSignsElements : List Json → List Json
  | [] => []
  | x :: xs => x.dropZeroSigns :: dropZeroSignsElements xs

/-- The members with all zeros positive. -/
def dropZeroSignsMembers : List (String × Json) → List (String × Json)
  | [] => []
  | (k, v) :: ms => (k, v.dropZeroSigns) :: dropZeroSignsMembers ms

end

mutual

/-- **Equality takes no notice of the signs of zeros**, and of nothing else. -/
theorem same_iff : (v w : Json) → (v.same w = true ↔ v.dropZeroSigns = w.dropZeroSigns)
  | .null, w => by cases w <;> simp [same, dropZeroSigns]
  | .bool a, w => by cases w <;> simp [same, dropZeroSigns]
  | .number m, w => by cases w <;> simp [same, dropZeroSigns, Number.same_iff]
  | .string s, w => by cases w <;> simp [same, dropZeroSigns]
  | .array xs, w => by
    match w with
    | .array ys => simp [same, dropZeroSigns, sameElements_iff xs ys]
    | .null | .bool _ | .number _ | .string _ | .object _ => simp [same, dropZeroSigns]
  | .object ms, w => by
    match w with
    | .object ns => simp [same, dropZeroSigns, sameMembers_iff ms ns]
    | .null | .bool _ | .number _ | .string _ | .array _ => simp [same, dropZeroSigns]

theorem sameElements_iff : (xs ys : List Json) →
    (sameElements xs ys = true ↔ dropZeroSignsElements xs = dropZeroSignsElements ys)
  | [], ys => by cases ys <;> simp [sameElements, dropZeroSignsElements]
  | x :: xs, [] => by simp [sameElements, dropZeroSignsElements]
  | x :: xs, y :: ys => by
    simp [sameElements, dropZeroSignsElements, same_iff x y, sameElements_iff xs ys]

theorem sameMembers_iff : (ms ns : List (String × Json)) →
    (sameMembers ms ns = true ↔ dropZeroSignsMembers ms = dropZeroSignsMembers ns)
  | [], ns => by cases ns <;> simp [sameMembers, dropZeroSignsMembers]
  | (k, v) :: ms, [] => by simp [sameMembers, dropZeroSignsMembers]
  | (k, v) :: ms, (l, w) :: ns => by
    simp [sameMembers, dropZeroSignsMembers, same_iff v w, sameMembers_iff ms ns, and_assoc]

end

end Json

/-! ## Values and their texts -/

namespace PropertyValue

variable {v w : PropertyValue}

theorem eq_iff_json : v = w ↔ v.json = w.json := by
  cases v
  cases w
  simp

/-- **The canonical text is that of one value.** -/
theorem text_eq_iff (v w : PropertyValue) : v.text = w.text ↔ v = w := by
  rw [eq_iff_json]
  exact Json.compact_injective.eq_iff

theorem same_iff (v w : PropertyValue) :
    v.same w = true ↔ v.json.dropZeroSigns = w.json.dropZeroSigns :=
  Json.same_iff v.json w.json

/-- The values differ in the signs of zeros and in nothing else. -/
def DifferInZeroSigns (v w : PropertyValue) : Prop :=
  v ≠ w ∧ v.json.dropZeroSigns = w.json.dropZeroSigns

/-- The comparisons say the same of two values unless these differ in the signs of zeros alone. -/
theorem same_iff_text_eq (v w : PropertyValue) :
    (v.same w = true ↔ v.text = w.text) ↔ ¬v.DifferInZeroSigns w := by
  rw [text_eq_iff, same_iff]
  constructor
  · intro hagree hdiffer
    exact hdiffer.1 (hagree.mp hdiffer.2)
  · intro hdiffer
    constructor
    · intro hzeros
      by_contra hne
      exact hdiffer ⟨hne, hzeros⟩
    · intro hvw
      rw [hvw]

end PropertyValue

/-! ## Look-ups -/

namespace Database

/-- **Where the comparisons agree.** A value is equal to another exactly when it has the same text,
unless the two differ in the signs of zeros alone. A look-up in rows that hold the providers of a
store and load as what stands on its shelf is answered as by the store, unless a property that is
looked at differs from the value in that way. -/
theorem findByProperty_agrees (value : PropertyValue) :
    (∀ v : PropertyValue,
      (v.same value = true ↔ v.text = value.text) ↔ ¬v.DifferInZeroSigns value) ∧
      ∀ (db : Database) (m : MemoryStore), db.tables.HoldProviders m →
        (∀ k : Nat, db.tables.loadProvider k = .ok (m.providers.items.find? k)) →
        ∀ (scope : PropertyScope) (key : String),
          (∀ k p, m.providers.items.find? k = some p → ∀ properties ∈ p.propertiesIn scope,
            ∀ v, properties.find? key = some v → ¬v.DifferInZeroSigns value) →
          db.answer (.findByProperty scope key value) =
            ⟨(m.answer (.findByProperty scope key value)).result, db,
              (m.answer (.findByProperty scope key value)).warnings⟩ := by
  refine ⟨fun v => v.same_iff_text_eq value, ?_⟩
  intro db m h hloads scope key hzeros
  have hm : m.Comparable scope key value := fun k p hfind properties hmem v hv =>
    ((v.same_iff_text_eq value).mpr (hzeros k p hfind properties hmem v hv)).symm
  obtain ⟨found, loaded, warnings, hmemory, hrows, hcases⟩ := findByProperty_cases h hm
  have hloaded : loaded = .ok found := by
    -- nobody matches, or the provider that is found loads as it stands on the shelf
    obtain ⟨rfl, rfl⟩ | ⟨k, p, rfl, hfind, rfl⟩ := hcases
    · rfl
    · rw [hloads, hfind]
  have hanswer : m.answer (.findByProperty scope key value) = ⟨.ok found, m, warnings⟩ := hmemory
  rw [hanswer, hrows, hloaded]
  rfl

/-- A zero with the given sign, as a value. -/
def zeroValue (negative : Bool) : PropertyValue := .ofJson (.number (.double (.zero negative)))

/-- A provider with a positive zero among its properties. -/
def zeroed : IdentityProvider where
  metadata := { name := "acme" }
  properties := PropertyMap.put ∅ "load" (zeroValue false)
  variant := .federated {}

/-- The store in memory that holds the provider. -/
def zeroedStore : MemoryStore :=
  (({} : MemoryStore).answer (.create .identityProvider zeroed)).store

/-- The database that holds it. -/
def zeroedRows : Database := (fresh.answer (.create .identityProvider zeroed)).store

/-- The database holds what the store in memory does. -/
theorem zeroed_mirrors :
    zeroedRows.tables.Mirrors zeroedStore ∧
      ∀ k : Nat, zeroedRows.tables.loadProvider k = .ok (zeroedStore.providers.items.find? k) := by
  have hbuilt : zeroed.Built :=
    .build (.edit (e := .addProperty "load" (zeroValue false)) (.federated "acme") trivial)
      (by decide +kernel)
  have hreadable : (zeroValue false).Readable := by
    rw [PropertyValue.Readable]
    decide +kernel
  have hadmissible : Request.Admissible .readBack (.create .identityProvider zeroed) :=
    ⟨hbuilt, PropertyMap.hasValues_empty.put "load" hreadable, nofun, ConnectorMap.hasValues_empty⟩
  have hagrees : fresh.Agrees (.create .identityProvider zeroed) _ _ :=
    agrees_of_matches Tables.Mirrors.empty
      (matches_answer rfl MemoryStore.kept_empty Tables.Mirrors.empty hadmissible rfl)
      (Tables.not_runsOut_of_lt fun series => by
        cases series with
        | aggregates e => cases e <;> decide +kernel
        | connectors kind => cases kind <;> decide +kernel)
  have hkept : zeroedStore.Kept .readBack :=
    MemoryStore.kept_answer MemoryStore.kept_empty hadmissible
  exact ⟨hagrees.mirrors, hagrees.mirrors.loadProvider_eq Demand.readable_readBack hkept⟩

/-- The database with other service providers. -/
def withApplications (db : Database) (applications : SerialTable ApplicationRow) : Database :=
  { db with tables := { db.tables with applications } }

theorem holdProviders_withApplications {db : Database} {m : MemoryStore}
    (h : db.tables.HoldProviders m) (applications : SerialTable ApplicationRow) :
    (db.withApplications applications).tables.HoldProviders m := ⟨h.holds, h.absent⟩

theorem loadProvider_withApplications (db : Database) (applications : SerialTable ApplicationRow)
    (number : Int) :
    (db.withApplications applications).tables.loadProvider number =
      db.tables.loadProvider number := rfl

/-- The database, with numbers for service providers that go on from another one. -/
def zeroedElsewhere : Database := zeroedRows.withApplications { last := 1 }

/-- A look-up for the positive zero finds the provider in both, although the numbers that come next
are not the same. -/
theorem findByProperty_agrees_zeroed :
    ¬zeroedElsewhere.tables.Mirrors zeroedStore ∧
      zeroedElsewhere.tables.HoldProviders zeroedStore ∧
      (∀ k : Nat,
        zeroedElsewhere.tables.loadProvider k = .ok (zeroedStore.providers.items.find? k)) ∧
      (∀ k p, zeroedStore.providers.items.find? k = some p →
        ∀ properties ∈ p.propertiesIn .provider, ∀ v, properties.find? "load" = some v →
          ¬v.DifferInZeroSigns (zeroValue false)) ∧
      (zeroedElsewhere.answer (.findByProperty .provider "load" (zeroValue false))).result =
        .ok (some (zeroed.withId (.nth 0))) := by
  obtain ⟨hmirrors, hloads⟩ := zeroed_mirrors
  have helsewhere : ¬zeroedElsewhere.tables.Mirrors zeroedStore := by
    intro h
    have hlast : (1 : Int) = zeroedStore.applications.last := (h.lists .serviceProvider).last
    exact absurd hlast (by decide +kernel)
  have hholds : zeroedElsewhere.tables.HoldProviders zeroedStore :=
    holdProviders_withApplications hmirrors.holdProviders _
  have hloads (k : Nat) :
      zeroedElsewhere.tables.loadProvider k = .ok (zeroedStore.providers.items.find? k) := by
    rw [zeroedElsewhere, loadProvider_withApplications, hloads]
  have hzeros : ∀ k p, zeroedStore.providers.items.find? k = some p →
      ∀ properties ∈ p.propertiesIn .provider, ∀ v, properties.find? "load" = some v →
        ¬v.DifferInZeroSigns (zeroValue false) := by
    intro k p hfind properties hmem v hv
    have hentry : (k, p) ∈ zeroedStore.providers.items.entries := Dict.mem_entries_iff.mpr hfind
    have hentries : zeroedStore.providers.items.entries = [(1, zeroed.withId (.nth 0))] := by
      decide +kernel
    rw [hentries, List.mem_singleton] at hentry
    cases hentry
    -- the stored zero is the very value that is looked for
    rw [List.mem_singleton.mp hmem] at hv
    have hstored : (zeroed.withId (.nth 0)).properties.find? "load" = some (zeroValue false) := by
      decide +kernel
    rw [hstored] at hv
    exact fun hdiffer => hdiffer.1 (Option.some.inj hv).symm
  have hanswer := (findByProperty_agrees (zeroValue false)).2 zeroedElsewhere zeroedStore hholds
    hloads .provider "load" hzeros
  refine ⟨helsewhere, hholds, hloads, hzeros, ?_⟩
  rw [hanswer]
  decide +kernel

/-- **A zero of the other sign.** The two zeros are equal, their texts are not, and a database that
holds what a store in memory does finds no provider where that store finds one. -/
theorem findByProperty_disagrees :
    (zeroValue false).same (zeroValue true) = true ∧
      (zeroValue false).text ≠ (zeroValue true).text ∧
      zeroedRows.tables.Mirrors zeroedStore ∧
      (∀ k : Nat, zeroedRows.tables.loadProvider k = .ok (zeroedStore.providers.items.find? k)) ∧
      (zeroedStore.answer (.findByProperty .provider "load" (zeroValue true))).result =
        .ok (some (zeroed.withId (.nth 0))) ∧
      (zeroedRows.answer (.findByProperty .provider "load" (zeroValue true))).result =
        .ok none := by
  obtain ⟨hmirrors, hloads⟩ := zeroed_mirrors
  exact ⟨by decide +kernel, by decide +kernel, hmirrors, hloads, by decide +kernel,
    by decide +kernel⟩

end Database

end FederationRegistry
