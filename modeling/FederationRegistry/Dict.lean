/-!
# `Dict`: finite maps in key order

A `Dict κ α` is a list of entries whose keys strictly increase, so the list *is* the map: two
dictionaries that answer every look-up alike are equal (`Dict.ext_find?`), and every reader
meets the entries in the same order. The rest of the library keeps all its keyed collections,
and the rows of its tables, in this one type.

**The operations** each come with the equation that says what they do to `find?`
(`find?_insert`, `find?_erase`, `find?_filter`, `find?_mapValues`, `find?_slice`); later
proofs use those and do not look at the list.
-/

set_option linter.unusedSectionVars false

namespace FederationRegistry

/-! ## Ordered keys -/

/-- A type whose values stand in a strict total order that can be computed. -/
class Key (κ : Type) where
  /-- The first key stands before the second. -/
  before : κ → κ → Bool
  irrefl : ∀ a, before a a = false
  trans : ∀ a b c, before a b = true → before b c = true → before a c = true
  total : ∀ a b, before a b = false → before b a = false → a = b

namespace Key

variable {κ : Type} [Key κ]

theorem asymm {a b : κ} (h : before a b = true) : before b a = false := by
  cases hba : before b a with
  | false => rfl
  | true => have := trans a b a h hba; simp [irrefl] at this

theorem ne_of_before {a b : κ} (h : before a b = true) : a ≠ b := by
  rintro rfl
  simp [irrefl] at h

/-- Numbers stand in their usual order. -/
instance : Key Nat where
  before a b := decide (a < b)
  irrefl := by simp
  trans := by simp only [decide_eq_true_eq]; omega
  total := by simp only [decide_eq_false_iff_not]; omega

/-- Integers stand in their usual order. -/
instance : Key Int where
  before a b := decide (a < b)
  irrefl := by simp
  trans := by simp only [decide_eq_true_eq]; omega
  total := by simp only [decide_eq_false_iff_not]; omega

/-- Rational numbers stand in their usual order. -/
instance : Key Rat where
  before a b := decide (a < b)
  irrefl a := decide_eq_false Rat.lt_irrefl
  trans := by simp only [decide_eq_true_eq]; grind
  total := by simp only [decide_eq_false_iff_not]; grind

/-- Texts stand in the order of their code points, which is also that of their UTF-8 bytes. -/
instance : Key String where
  before a b := decide (a < b)
  irrefl a := decide_eq_false (String.lt_irrefl a)
  trans a b c := by simpa using String.lt_trans
  total a b := by
    simp only [decide_eq_false_iff_not]
    intro hab hba
    exact String.le_antisymm (String.not_lt.mp hba) (String.not_lt.mp hab)

/-- Pairs stand in the order of their first parts, and of their second parts where the first
agree. -/
instance {μ : Type} [Key μ] : Key (κ × μ) where
  before a b := before a.1 b.1 || (!before b.1 a.1 && before a.2 b.2)
  irrefl a := by simp [irrefl]
  trans a b c := by
    simp only [Bool.or_eq_true, Bool.and_eq_true, Bool.not_eq_true']
    rintro (hab | ⟨hab, hab'⟩) (hbc | ⟨hbc, hbc'⟩)
    · exact .inl (trans _ _ _ hab hbc)
    · by_cases hbc1 : before b.1 c.1 = true
      · exact .inl (trans _ _ _ hab hbc1)
      · exact .inl (total b.1 c.1 (by simpa using hbc1) hbc ▸ hab)
    · by_cases hab1 : before a.1 b.1 = true
      · exact .inl (trans _ _ _ hab1 hbc)
      · exact .inl (total a.1 b.1 (by simpa using hab1) hab ▸ hbc)
    · -- if neither first part comes before, the second parts decide
      refine (Bool.eq_false_or_eq_true (before a.1 c.1)).imp id fun h => ⟨?_, trans _ _ _ hab' hbc'⟩
      cases hca : before c.1 a.1 with
      | false => rfl
      | true =>
        by_cases hab1 : before a.1 b.1 = true
        · simp [trans _ _ _ hca hab1] at hbc
        · rw [total a.1 b.1 (by simpa using hab1) hab] at hca
          simp [hca] at hbc
  total a b := by
    simp only [Bool.or_eq_false_iff, Bool.and_eq_false_iff, Bool.not_eq_false']
    rintro ⟨hab, h⟩ ⟨hba, h'⟩
    have h2 : before a.2 b.2 = false := h.resolve_left (by simp [hba])
    have h2' : before b.2 a.2 = false := h'.resolve_left (by simp [hab])
    exact Prod.ext (total _ _ hab hba) (total _ _ h2 h2')

/-- The order of the ranks that a function gives, no two values of the same rank. -/
abbrev ofRank {μ : Type} (rank : μ → κ) (injective : ∀ a b, rank a = rank b → a = b) :
    Key μ where
  before a b := before (rank a) (rank b)
  irrefl a := irrefl (rank a)
  trans a b c := trans (rank a) (rank b) (rank c)
  total a b hab hba := injective a b (total (rank a) (rank b) hab hba)

end Key

/-! ## Dictionaries -/

/-- The keys of a list of entries strictly increase. -/
abbrev Increasing {κ α : Type} [Key κ] (entries : List (κ × α)) : Prop :=
  entries.Pairwise fun a b => Key.before a.1 b.1 = true

/-- A finite map from `κ` to `α`, held in key order. -/
structure Dict (κ : Type) [Key κ] (α : Type) where
  /-- The entries, first key first. -/
  entries : List (κ × α)
  increasing : Increasing entries

namespace Dict

variable {κ α β : Type} [Key κ]

@[ext] theorem ext {d e : Dict κ α} (h : d.entries = e.entries) : d = e := by
  cases d; cases e; cases h; rfl

instance [DecidableEq κ] [DecidableEq α] : DecidableEq (Dict κ α) := fun d e =>
  decidable_of_iff (d.entries = e.entries) ⟨ext, fun h => h ▸ rfl⟩

instance [BEq κ] [BEq α] : BEq (Dict κ α) := ⟨fun d e => d.entries == e.entries⟩

/-- The dictionary without entries. -/
def empty : Dict κ α := ⟨[], .nil⟩

instance : EmptyCollection (Dict κ α) := ⟨empty⟩
instance : Inhabited (Dict κ α) := ⟨empty⟩

/-- The keys, in order. -/
def keys (d : Dict κ α) : List κ := d.entries.map (·.1)

/-- The values, in the order of their keys. -/
def values (d : Dict κ α) : List α := d.entries.map (·.2)

/-- The number of entries. -/
def size (d : Dict κ α) : Nat := d.entries.length

/-- The dictionary has no entry. -/
def isEmpty (d : Dict κ α) : Bool := d.entries.isEmpty

theorem isEmpty_iff {d : Dict κ α} : d.isEmpty = true ↔ d = ∅ := by
  constructor
  · intro h
    have : d.entries = [] := by simpa [isEmpty] using h
    exact ext this
  · rintro rfl; rfl

/-! ### Insertion -/

/-- A list of entries with the value under a key set, its order kept. -/
def insertEntry (k : κ) (v : α) : List (κ × α) → List (κ × α)
  | [] => [(k, v)]
  | (k', v') :: rest =>
    if Key.before k k' then (k, v) :: (k', v') :: rest
    else if Key.before k' k then (k', v') :: insertEntry k v rest
    else (k, v) :: rest

theorem mem_insertEntry {k : κ} {v : α} {e : κ × α} {entries : List (κ × α)}
    (h : e ∈ insertEntry k v entries) : e = (k, v) ∨ e ∈ entries := by
  induction entries with
  | nil => simpa [insertEntry] using h
  | cons e' rest ih => grind [insertEntry]

theorem increasing_insertEntry {k : κ} {v : α} {entries : List (κ × α)}
    (h : Increasing entries) : Increasing (insertEntry k v entries) := by
  induction entries with
  | nil => simp [insertEntry, Increasing]
  | cons e rest ih =>
    obtain ⟨k', v'⟩ := e
    have hr := List.pairwise_cons.mp h
    simp only [insertEntry]
    split
    · rename_i hb
      refine List.pairwise_cons.mpr ⟨fun e he => ?_, h⟩
      rcases List.mem_cons.mp he with rfl | he
      · exact hb
      · exact Key.trans _ _ _ hb (hr.1 e he)
    · rename_i hb
      split
      · rename_i hb'
        refine List.pairwise_cons.mpr ⟨fun e he => ?_, ih hr.2⟩
        rcases mem_insertEntry he with rfl | he
        · exact hb'
        · exact hr.1 e he
      · rename_i hb'
        -- neither key comes before the other, so the value is replaced
        have hk : k = k' := Key.total _ _ (by simpa using hb) (by simpa using hb')
        subst hk
        exact List.pairwise_cons.mpr ⟨hr.1, hr.2⟩

/-- The dictionary with the value under a key set. -/
def insert (d : Dict κ α) (k : κ) (v : α) : Dict κ α :=
  ⟨insertEntry k v d.entries, increasing_insertEntry d.increasing⟩

/-- The dictionary with all entries of a list set, the last entry of a key winning. -/
def insertMany (d : Dict κ α) (entries : List (κ × α)) : Dict κ α :=
  entries.foldl (fun d e => d.insert e.1 e.2) d

/-- The dictionary of a list of entries, the last entry of a key winning. -/
def ofList (entries : List (κ × α)) : Dict κ α := insertMany ∅ entries

/-- The first dictionary with every entry of the second set. -/
def merge (d e : Dict κ α) : Dict κ α := d.insertMany e.entries

/-! ### Parts of a dictionary -/

/-- The entries that pass a test. -/
def filter (p : κ → α → Bool) (d : Dict κ α) : Dict κ α :=
  ⟨d.entries.filter fun e => p e.1 e.2, d.increasing.sublist (List.filter_sublist ..)⟩

/-- Every value changed, with its key in view. -/
def mapValues (f : κ → α → β) (d : Dict κ α) : Dict κ β :=
  ⟨d.entries.map fun e => (e.1, f e.1 e.2), List.pairwise_map.mpr d.increasing⟩

/-- Every value of a list of entries changed by a step that may fail. -/
def traverseEntries {ε : Type} (f : κ → α → Except ε β) :
    List (κ × α) → Except ε (List (κ × β))
  | [] => .ok []
  | (k, v) :: rest =>
    match f k v with
    | .error e => .error e
    | .ok w =>
      match traverseEntries f rest with
      | .error e => .error e
      | .ok ws => .ok ((k, w) :: ws)

theorem keys_traverseEntries {ε : Type} {f : κ → α → Except ε β} {entries : List (κ × α)}
    {out : List (κ × β)} (h : traverseEntries f entries = .ok out) :
    out.map (·.1) = entries.map (·.1) := by
  induction entries generalizing out with
  | nil => cases h; rfl
  | cons e rest ih =>
    simp only [traverseEntries] at h
    split at h
    · cases h
    · split at h
      · cases h
      · rename_i hr
        cases h
        simp [ih hr]

theorem increasing_of_keys_eq {xs : List (κ × α)} {ys : List (κ × β)}
    (hx : Increasing xs) (h : ys.map (·.1) = xs.map (·.1)) : Increasing ys := by
  have hx' : (xs.map (·.1)).Pairwise fun a b => Key.before a b = true :=
    List.pairwise_map.mpr hx
  rw [← h] at hx'
  exact List.pairwise_map.mp hx'

/-- Every value changed by a step that may fail; of two failures that of the earlier key
wins. -/
def traverse {ε : Type} (f : κ → α → Except ε β) (d : Dict κ α) : Except ε (Dict κ β) :=
  match h : traverseEntries f d.entries with
  | .error e => .error e
  | .ok out => .ok ⟨out, increasing_of_keys_eq d.increasing (keys_traverseEntries h)⟩

variable [DecidableEq κ]

/-- The dictionary without the entry of a key. -/
def erase (d : Dict κ α) (k : κ) : Dict κ α := d.filter fun j _ => decide (j ≠ k)

/-! ### The rows of one owner -/

/-- The entries whose keys start with `owner`, under the rest of their keys. -/
def sliceEntries {μ : Type} (owner : κ) (entries : List ((κ × μ) × α)) : List (μ × α) :=
  entries.filterMap fun e => if e.1.1 = owner then some (e.1.2, e.2) else none

theorem increasing_sliceEntries {μ : Type} [Key μ] {owner : κ} {entries : List ((κ × μ) × α)}
    (h : Increasing entries) : Increasing (sliceEntries owner entries) := by
  refine List.pairwise_filterMap.mpr (h.imp ?_)
  intro a b hab x hx y hy
  split at hx
  · split at hy
    · rename_i ha hb
      cases hx; cases hy
      simpa [Key.before, ha, hb, Key.irrefl] using hab
    · simp at hy
  · simp at hx

/-- The part of a dictionary under pairs whose first component is `owner`. -/
def slice {μ : Type} [Key μ] (d : Dict (κ × μ) α) (owner : κ) : Dict μ α :=
  ⟨sliceEntries owner d.entries, increasing_sliceEntries d.increasing⟩

/-- The dictionary without the entries whose keys start with `owner`. -/
def dropOwner {μ : Type} [Key μ] (d : Dict (κ × μ) α) (owner : κ) : Dict (κ × μ) α :=
  d.filter fun k _ => decide (k.1 ≠ owner)

/-! ### Look-up and order -/

/-- The first value that a list of entries holds under a key. -/
def lookup (k : κ) : List (κ × α) → Option α
  | [] => none
  | (k', v) :: rest => if k' = k then some v else lookup k rest

/-- The value under a key. -/
def find? (d : Dict κ α) (k : κ) : Option α := lookup k d.entries

/-- The dictionary has an entry under the key. -/
def contains (d : Dict κ α) (k : κ) : Bool := (d.find? k).isSome

theorem lookup_eq_none_of_before {k : κ} {entries : List (κ × α)}
    (h : ∀ e ∈ entries, Key.before k e.1 = true) : lookup k entries = none := by
  induction entries with
  | nil => rfl
  | cons e rest ih =>
    have hne : e.1 ≠ k := (Key.ne_of_before (h e (by simp))).symm
    simp only [lookup, if_neg hne]
    exact ih fun e' he' => h e' (by simp [he'])

theorem mem_of_lookup {k : κ} {v : α} {entries : List (κ × α)}
    (h : lookup k entries = some v) : (k, v) ∈ entries := by
  induction entries with
  | nil => simp [lookup] at h
  | cons e rest ih =>
    obtain ⟨k', v'⟩ := e
    by_cases hk : k' = k
    · subst hk; simp_all [lookup]
    · simp only [lookup, if_neg hk] at h; simp [ih h]

theorem lookup_of_mem {k : κ} {v : α} {entries : List (κ × α)} (hi : Increasing entries)
    (h : (k, v) ∈ entries) : lookup k entries = some v := by
  induction entries with
  | nil => simp at h
  | cons e rest ih =>
    obtain ⟨k', v'⟩ := e
    rw [Increasing, List.pairwise_cons] at hi
    rcases List.mem_cons.mp h with heq | hmem
    · cases heq; simp [lookup]
    · have hne : k' ≠ k := Key.ne_of_before (hi.1 _ hmem)
      simp only [lookup, if_neg hne]
      exact ih hi.2 hmem

theorem mem_entries_iff {d : Dict κ α} {k : κ} {v : α} :
    (k, v) ∈ d.entries ↔ d.find? k = some v :=
  ⟨lookup_of_mem d.increasing, mem_of_lookup⟩

theorem entries_eq_of_lookup {xs ys : List (κ × α)} (hx : Increasing xs) (hy : Increasing ys)
    (h : ∀ k, lookup k xs = lookup k ys) : xs = ys := by
  induction xs generalizing ys with
  | nil =>
    cases ys with
    | nil => rfl
    | cons e rest => have := h e.1; simp [lookup] at this
  | cons e rest ih =>
    obtain ⟨k, v⟩ := e
    cases ys with
    | nil => have := h k; simp [lookup] at this
    | cons e' rest' =>
      obtain ⟨k', v'⟩ := e'
      rw [Increasing, List.pairwise_cons] at hx hy
      -- the smaller of two different first keys would be missing in the other list
      have hk : k = k' := by
        cases hb : Key.before k k' with
        | true =>
          have hne : k' ≠ k := (Key.ne_of_before hb).symm
          have hnone : lookup k rest' = none := lookup_eq_none_of_before fun e he =>
            Key.trans _ _ _ hb (hy.1 e he)
          have := h k
          simp [lookup, hne, hnone] at this
        | false =>
          cases hb' : Key.before k' k with
          | true =>
            have hne : k ≠ k' := (Key.ne_of_before hb').symm
            have hnone : lookup k' rest = none := lookup_eq_none_of_before fun e he =>
              Key.trans _ _ _ hb' (hx.1 e he)
            have := h k'
            simp [lookup, hne, hnone] at this
          | false => exact Key.total _ _ hb hb'
      subst hk
      have hv : v = v' := by have := h k; simpa [lookup] using this
      subst hv
      congr 1
      -- the first key stands in neither rest, so the rests agree on it as well
      refine ih hx.2 hy.2 fun j => ?_
      by_cases hj : k = j
      · subst hj
        rw [lookup_eq_none_of_before fun e he => hx.1 e he,
          lookup_eq_none_of_before fun e he => hy.1 e he]
      · have := h j; simpa [lookup, hj] using this

/-- **A dictionary is what it answers.** -/
theorem ext_find? {d e : Dict κ α} (h : ∀ k, d.find? k = e.find? k) : d = e :=
  ext (entries_eq_of_lookup d.increasing e.increasing h)

@[simp] theorem find?_empty (k : κ) : (∅ : Dict κ α).find? k = none := rfl

/-! ### What each operation answers -/

theorem lookup_insertEntry (k j : κ) (v : α) (entries : List (κ × α)) :
    lookup j (insertEntry k v entries) = if k = j then some v else lookup j entries := by
  induction entries with
  | nil => simp [insertEntry, lookup]
  | cons e rest ih =>
    obtain ⟨k', v'⟩ := e
    simp only [insertEntry]
    split
    · simp [lookup]
    · rename_i hb
      split
      · rename_i hb'
        have hne : k' ≠ k := Key.ne_of_before hb'
        by_cases hj : k' = j
        · subst hj; simp [lookup, hne.symm]
        · simp [lookup, hj, ih]
      · rename_i hb'
        have hk : k = k' := Key.total _ _ (by simpa using hb) (by simpa using hb')
        subst hk
        by_cases hj : k = j <;> simp [lookup, hj]

theorem find?_insert (d : Dict κ α) (k j : κ) (v : α) :
    (d.insert k v).find? j = if k = j then some v else d.find? j :=
  lookup_insertEntry k j v d.entries

theorem find?_filter (p : κ → α → Bool) (d : Dict κ α) (k : κ) :
    (d.filter p).find? k = (d.find? k).filter (p k) := by
  cases h : d.find? k with
  | none =>
    cases h' : (d.filter p).find? k with
    | none => rfl
    | some v =>
      have hm := mem_of_lookup h'
      simp only [filter, List.mem_filter] at hm
      rw [mem_entries_iff.mp hm.1] at h
      simp at h
  | some v =>
    have hm := mem_of_lookup h
    by_cases hp : p k v = true
    · simp only [Option.filter_some, hp, if_true]
      exact lookup_of_mem (d.filter p).increasing (by simpa [filter, hp] using hm)
    · simp only [Option.filter_some, hp]
      -- a value that is still there would be the same one, which does not pass
      cases h' : (d.filter p).find? k with
      | none => rfl
      | some w =>
        have hm' := mem_of_lookup h'
        simp only [filter, List.mem_filter] at hm'
        have : w = v := by simpa [mem_entries_iff.mp hm'.1] using h
        subst this
        exact absurd hm'.2 hp

theorem find?_erase (d : Dict κ α) (k j : κ) :
    (d.erase k).find? j = if k = j then none else d.find? j := by
  rw [erase, find?_filter]
  by_cases h : k = j
  · subst h; cases d.find? k <;> simp
  · cases d.find? j <;> simp [h, Ne.symm h]

theorem lookup_mapValues (f : κ → α → β) (k : κ) (entries : List (κ × α)) :
    lookup k (entries.map fun e => (e.1, f e.1 e.2)) = (lookup k entries).map (f k) := by
  induction entries with
  | nil => rfl
  | cons e rest ih =>
    by_cases h : e.1 = k
    · subst h; simp [lookup]
    · simp [lookup, h, ih]

theorem find?_mapValues (f : κ → α → β) (d : Dict κ α) (k : κ) :
    (d.mapValues f).find? k = (d.find? k).map (f k) :=
  lookup_mapValues f k d.entries

theorem lookup_sliceEntries {μ : Type} [DecidableEq μ] (owner : κ) (k : μ)
    (entries : List ((κ × μ) × α)) :
    lookup k (sliceEntries owner entries) = lookup (owner, k) entries := by
  induction entries with
  | nil => rfl
  | cons e rest ih =>
    obtain ⟨⟨o, j⟩, v⟩ := e
    by_cases ho : o = owner
    · by_cases hj : j = k
      · subst ho; subst hj; simp [sliceEntries, lookup]
      · subst ho
        have : ¬ (o, j) = (o, k) := by simpa using hj
        simp only [sliceEntries, List.filterMap_cons, if_true, lookup, hj, if_false, this]
        exact ih
    · have : ¬ (o, j) = (owner, k) := by simp [ho]
      simp only [sliceEntries, List.filterMap_cons, ho, if_false, lookup, this]
      exact ih

theorem find?_slice {μ : Type} [Key μ] [DecidableEq μ] (d : Dict (κ × μ) α) (owner : κ) (k : μ) :
    (d.slice owner).find? k = d.find? (owner, k) :=
  lookup_sliceEntries owner k d.entries

end Dict

/-! ## Sets of names -/

/-- A set, as a dictionary without values. -/
abbrev KeySet (κ : Type) [Key κ] := Dict κ Unit

namespace KeySet

variable {κ : Type} [Key κ]

/-- The set with one more member. -/
def add (s : KeySet κ) (k : κ) : KeySet κ := s.insert k ()

/-- The set with every member of a list. -/
def addMany (s : KeySet κ) (ks : List κ) : KeySet κ := ks.foldl add s

/-- The set of the members of a list. -/
def ofList (ks : List κ) : KeySet κ := addMany ∅ ks

end KeySet

end FederationRegistry
