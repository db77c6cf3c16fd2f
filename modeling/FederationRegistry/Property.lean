import FederationRegistry.Json.Decode
import FederationRegistry.Json.Printer
import FederationRegistry.Text.Blank

/-!
# Extension properties

Providers, authenticators and provisioners carry properties: JSON values under text keys.

**Values** (`PropertyValue`) hold the members of their objects in key order, once each, so a
value does not remember how it was written. Its *canonical text* is its compact JSON text.

**Maps** take part in three updates: `put` sets one property, `absorb` sets many, `replace` starts
over. A blank key or a `null` is never set, and replacing by nothing keeps what is there. Main
statements: `find?_absorb`, and `Kept` maps, those that these updates can build.
-/

namespace FederationRegistry

/-- A JSON value whose objects have their keys once each and in order. -/
structure PropertyValue where
  json : Json
  ordered : json.Ordered
deriving DecidableEq

namespace PropertyValue

/-- The value that a JSON value stands for. -/
def ofJson (j : Json) : PropertyValue := ⟨j.arrange, Json.ordered_arrange j⟩

instance : Inhabited PropertyValue := ⟨⟨.null, trivial⟩⟩

/-- The value is `null`. -/
def isNull (v : PropertyValue) : Bool := v.json.isNull

/-- Equality of property values: doubles compare as numbers, all else by structure. -/
def same (v w : PropertyValue) : Bool := v.json.same w.json

instance : BEq PropertyValue := ⟨same⟩

/-- The canonical text of the value. -/
def text (v : PropertyValue) : String := v.json.compact

/-- The value at a node. -/
def read (depth : Json.Depth) (n : Json.Node) : Json.Decoded PropertyValue :=
  (n.json depth).map ofJson

/-- The value that a text stands for. -/
def ofText (text : String) : Json.Decoded PropertyValue := Json.decodeText read text

end PropertyValue

/-- Properties by key. -/
abbrev PropertyMap := Dict String PropertyValue

namespace PropertyMap

/-- The property can be set: its key is not blank and its value not `null`. -/
def settable (key : String) (value : PropertyValue) : Bool :=
  !Text.isBlank key && !value.isNull

/-- The map with one property set, if it can be. -/
def put (m : PropertyMap) (key : String) (value : PropertyValue) : PropertyMap :=
  if settable key value then m.insert key value else m

/-- The map with every property of `delta` set that can be. -/
def absorb (m delta : PropertyMap) : PropertyMap :=
  delta.entries.foldl (fun m e => m.put e.1 e.2) m

/-- The settable properties of `source` alone, or the map itself when `source` has none at
all. -/
def replace (m source : PropertyMap) : PropertyMap :=
  if source.isEmpty then m else absorb ∅ source

/-- Every property of the map can be set. -/
def Kept (m : PropertyMap) : Prop := ∀ e ∈ m.entries, settable e.1 e.2 = true

theorem find?_put (m : PropertyMap) (key k : String) (value : PropertyValue) :
    (m.put key value).find? k =
      if settable key value = true ∧ key = k then some value else m.find? k := by
  unfold put
  split
  · rename_i h; simp [Dict.find?_insert, h]
  · rename_i h; simp [h]

theorem find?_absorbEntries (entries : List (String × PropertyValue))
    (hi : Increasing entries) (m : PropertyMap) (k : String) :
    (entries.foldl (fun m e => m.put e.1 e.2) m).find? k =
      ((Dict.lookup k entries).filter (settable k)).or (m.find? k) := by
  induction entries generalizing m with
  | nil => simp [Dict.lookup]
  | cons e rest ih =>
    obtain ⟨key, value⟩ := e
    have hr := List.pairwise_cons.mp hi
    rw [List.foldl_cons, ih hr.2, find?_put]
    by_cases hk : key = k
    · subst hk
      have hnone : Dict.lookup key rest = none := Dict.lookup_eq_none_of_before hr.1
      by_cases hs : settable key value = true <;> simp [Dict.lookup, Option.filter, hnone, hs]
    · simp [Dict.lookup, hk]

/-- **What absorbing answers.** A settable property of the delta wins; every other key keeps what
it had. -/
theorem find?_absorb (m delta : PropertyMap) (k : String) :
    (m.absorb delta).find? k = ((delta.find? k).filter (settable k)).or (m.find? k) :=
  find?_absorbEntries delta.entries delta.increasing m k

theorem kept_iff {m : PropertyMap} :
    m.Kept ↔ ∀ k v, m.find? k = some v → settable k v = true :=
  ⟨fun h _ _ hv => h _ (Dict.mem_entries_iff.mpr hv),
   fun h e he => h e.1 e.2 (Dict.mem_entries_iff.mp he)⟩

theorem kept_empty : Kept ∅ := by intro e he; cases he

theorem kept_put {m : PropertyMap} (h : m.Kept) (key : String) (value : PropertyValue) :
    (m.put key value).Kept := by
  rw [kept_iff] at h ⊢
  intro k v hv
  rw [find?_put] at hv
  split at hv
  · rename_i hk
    obtain ⟨hs, rfl⟩ := hk
    cases hv; exact hs
  · exact h k v hv

theorem kept_absorb {m : PropertyMap} (h : m.Kept) (delta : PropertyMap) :
    (m.absorb delta).Kept := by
  rw [kept_iff] at h ⊢
  intro k v hv
  rw [find?_absorb] at hv
  cases hd : (delta.find? k).filter (settable k) with
  | some w =>
    rw [hd] at hv
    cases hv
    exact (Option.filter_eq_some_iff.mp hd).2
  | none =>
    rw [hd] at hv
    exact h k v hv

theorem kept_replace {m : PropertyMap} (h : m.Kept) (source : PropertyMap) :
    (m.replace source).Kept := by
  unfold replace
  split
  · exact h
  · exact kept_absorb kept_empty source

end PropertyMap

/-- The section whose properties a look-up inspects. -/
inductive PropertyScope where
  | provider
  | authenticator
  | provisioner
deriving DecidableEq

namespace PropertyScope

/-- The name of the scope. -/
def label : PropertyScope → String
  | .provider => "provider"
  | .authenticator => "authenticator"
  | .provisioner => "provisioner"

/-- The scopes by name. -/
def words : List (String × PropertyScope) :=
  [provider, authenticator, provisioner].map fun s => (s.label, s)

end PropertyScope

end FederationRegistry
