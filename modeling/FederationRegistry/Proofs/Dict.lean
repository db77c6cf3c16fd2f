import FederationRegistry.Dict
import Mathlib.Data.Option.Basic
import Mathlib.Order.Basic

/-!
# More laws of dictionaries

What the writers and readers of rows need beyond the look-up laws of single operations.

**Owners.** The rows of one owner are a slice of a table. `mergeOwner` sets rows of one owner and
`replaceOwner` leaves that owner no others; both are told apart by what the slices hold
afterwards.

**Traversals.** A traversal that succeeds everywhere is `mapValues`, and one that succeeds has
succeeded at every key.

**Numbers.** `embed` moves a dictionary from natural to signed keys, values changed on the way.
Rows numbered beyond all others stand last (`entries_insert_of_last`).
-/

set_option linter.unusedSectionVars false

namespace FederationRegistry

namespace Dict

variable {κ μ α β γ ε : Type} [Key κ] [Key μ]

/-! ## Entries and keys -/

theorem increasing_map {f : κ → μ} {g : κ → α → β} {entries : List (κ × α)}
    (hf : ∀ a b, Key.before a b = true → Key.before (f a) (f b) = true)
    (h : Increasing entries) : Increasing (entries.map fun e => (f e.1, g e.1 e.2)) :=
  List.pairwise_map.mpr (h.imp fun hab => hf _ _ hab)

theorem values_mapValues (d : Dict κ α) (f : κ → α → β) :
    (d.mapValues f).values = d.entries.map fun e => f e.1 e.2 := by
  simp only [values, mapValues, List.map_map]
  rfl

@[simp] theorem keys_mapValues (d : Dict κ α) (f : κ → α → β) : (d.mapValues f).keys = d.keys := by
  simp only [keys, mapValues, List.map_map]
  rfl

variable [DecidableEq κ] [DecidableEq μ]

theorem mem_keys_iff {d : Dict κ α} {k : κ} : k ∈ d.keys ↔ ∃ v, d.find? k = some v := by
  simp only [keys, List.mem_map, ← mem_entries_iff]
  constructor
  · rintro ⟨e, he, rfl⟩
    exact ⟨e.2, he⟩
  · rintro ⟨v, hv⟩
    exact ⟨(k, v), hv, rfl⟩

theorem mem_values_iff {d : Dict κ α} {v : α} : v ∈ d.values ↔ ∃ k, d.find? k = some v := by
  simp only [values, List.mem_map, ← mem_entries_iff]
  constructor
  · rintro ⟨e, he, rfl⟩
    exact ⟨e.1, he⟩
  · rintro ⟨k, hk⟩
    exact ⟨(k, v), hk, rfl⟩

theorem exists_mem_values_iff {d : Dict κ α} {P : α → Prop} :
    (∃ v ∈ d.values, P v) ↔ ∃ k v, d.find? k = some v ∧ P v := by
  simp only [mem_values_iff]
  constructor
  · rintro ⟨v, ⟨k, hk⟩, hv⟩
    exact ⟨k, v, hk, hv⟩
  · rintro ⟨k, v, hk, hv⟩
    exact ⟨v, ⟨k, hk⟩, hv⟩

theorem contains_iff {d : Dict κ α} {k : κ} : d.contains k = true ↔ ∃ v, d.find? k = some v :=
  Option.isSome_iff_exists

theorem contains_eq_false_iff {d : Dict κ α} {k : κ} :
    d.contains k = false ↔ d.find? k = none := by
  simp [contains]

theorem eq_empty_iff {d : Dict κ α} : d = ∅ ↔ ∀ k, d.find? k = none :=
  ⟨fun h k => h ▸ rfl, fun h => ext_find? fun k => by rw [h k]; rfl⟩

/-- Two increasing lists of keys with the same members are the same list. -/
theorem keys_ext {d : Dict κ α} {e : Dict κ β} (h : ∀ k, k ∈ d.keys ↔ k ∈ e.keys) :
    d.keys = e.keys := by
  have hunits : (d.mapValues fun _ _ => ()) = e.mapValues fun _ _ => () := by
    refine ext_find? fun k => ?_
    have hk := h k
    simp only [mem_keys_iff] at hk
    rw [find?_mapValues, find?_mapValues]
    cases hd : d.find? k with
    | none =>
      cases he : e.find? k with
      | none => rfl
      | some v => obtain ⟨w, hw⟩ := hk.mpr ⟨v, he⟩; rw [hd] at hw; cases hw
    | some v => obtain ⟨w, hw⟩ := hk.mp ⟨v, hd⟩; rw [hw]; rfl
  rw [← keys_mapValues d fun _ _ => (), hunits, keys_mapValues]

theorem find?_insertMany {entries : List (κ × α)} (h : Increasing entries) (d : Dict κ α)
    (k : κ) : (d.insertMany entries).find? k = (lookup k entries).or (d.find? k) := by
  induction entries generalizing d with
  | nil => simp [insertMany, lookup]
  | cons e rest ih =>
    obtain ⟨j, v⟩ := e
    have hr := List.pairwise_cons.mp h
    have hstep := ih hr.2 (d.insert j v)
    rw [insertMany] at hstep ⊢
    rw [List.foldl_cons, hstep, find?_insert]
    by_cases hj : j = k
    · subst hj
      simp [lookup, lookup_eq_none_of_before hr.1]
    · simp [lookup, hj]

theorem find?_merge (d e : Dict κ α) (k : κ) :
    (d.merge e).find? k = (e.find? k).or (d.find? k) :=
  find?_insertMany e.increasing d k

theorem ofList_entries (d : Dict κ α) : ofList d.entries = d :=
  ext_find? fun k => by
    rw [ofList, find?_insertMany d.increasing, find?_empty, Option.or_none]
    rfl

/-- A key behind all others is the last one. -/
theorem insertEntry_of_last {k : κ} {v : α} {entries : List (κ × α)}
    (h : ∀ e ∈ entries, Key.before e.1 k = true) :
    insertEntry k v entries = entries ++ [(k, v)] := by
  induction entries with
  | nil => rfl
  | cons e rest ih =>
    have he : Key.before e.1 k = true := h e (by simp)
    simp only [insertEntry, Key.asymm he, he, if_true, Bool.false_eq_true, if_false,
      List.cons_append]
    rw [ih fun e' he' => h e' (by simp [he'])]

theorem entries_insert_of_last {d : Dict κ α} {k : κ} {v : α}
    (h : ∀ j ∈ d.keys, Key.before j k = true) :
    (d.insert k v).entries = d.entries ++ [(k, v)] :=
  insertEntry_of_last fun e he => h e.1 (List.mem_map_of_mem he)

theorem length_insertEntry {k : κ} {v : α} {entries : List (κ × α)} (h : Increasing entries) :
    (insertEntry k v entries).length =
      entries.length + if (lookup k entries).isSome then 0 else 1 := by
  induction entries with
  | nil => rfl
  | cons e rest ih =>
    obtain ⟨j, w⟩ := e
    have hrest := List.pairwise_cons.mp h
    simp only [insertEntry]
    split
    · rename_i hbefore
      have hnone : lookup k ((j, w) :: rest) = none := lookup_eq_none_of_before fun e he => by
        rcases List.mem_cons.mp he with rfl | he
        · exact hbefore
        · exact Key.trans _ _ _ hbefore (hrest.1 e he)
      simp [hnone]
    · rename_i hbefore
      split
      · rename_i hafter
        have hne : j ≠ k := Key.ne_of_before hafter
        simp only [List.length_cons, ih hrest.2, lookup, if_neg hne]
        omega
      · rename_i hafter
        obtain rfl : k = j := Key.total _ _ (by simpa using hbefore) (by simpa using hafter)
        simp [lookup]

/-- Setting a value adds an entry unless there is one under its key. -/
theorem size_insert (d : Dict κ α) (k : κ) (v : α) :
    (d.insert k v).size = d.size + if d.contains k then 0 else 1 :=
  length_insertEntry d.increasing

theorem filter_eq_self {d : Dict κ α} {p : κ → α → Bool}
    (h : ∀ k v, d.find? k = some v → p k v = true) : d.filter p = d :=
  ext_find? fun k => by
    rw [find?_filter]
    cases hk : d.find? k with
    | none => rfl
    | some v => simp [h k v hk]

/-! ## The rows of one owner -/

/-- The rows set under an owner. -/
def mergeOwner (d : Dict (κ × μ) α) (owner : κ) (rows : Dict μ α) : Dict (κ × μ) α :=
  d.insertMany (rows.entries.map fun e => ((owner, e.1), e.2))

/-- The rows in the place of all rows of an owner. -/
def replaceOwner (d : Dict (κ × μ) α) (owner : κ) (rows : Dict μ α) : Dict (κ × μ) α :=
  (d.dropOwner owner).mergeOwner owner rows

theorem before_pair {owner : κ} {a b : μ} :
    Key.before (owner, a) (owner, b) = Key.before a b := by
  simp [Key.before, Key.irrefl]

theorem lookup_owned (owner : κ) (entries : List (μ × α)) (k : κ × μ) :
    lookup k (entries.map fun e => ((owner, e.1), e.2)) =
      if k.1 = owner then lookup k.2 entries else none := by
  induction entries with
  | nil => simp [lookup]
  | cons e rest ih =>
    obtain ⟨o, j⟩ := k
    simp only [List.map_cons, lookup, ih, Prod.mk.injEq]
    by_cases ho : owner = o
    · by_cases hj : e.1 = j <;> simp [ho, hj]
    · simp [ho, Ne.symm ho]

theorem find?_mergeOwner (d : Dict (κ × μ) α) (owner : κ) (rows : Dict μ α) (k : κ × μ) :
    (d.mergeOwner owner rows).find? k =
      if k.1 = owner then (rows.find? k.2).or (d.find? k) else d.find? k := by
  have hi : Increasing (rows.entries.map fun e => ((owner, e.1), e.2)) :=
    increasing_map (f := fun k => (owner, k)) (g := fun _ v => v)
      (fun _ _ h => by rw [before_pair]; exact h) rows.increasing
  rw [mergeOwner, find?_insertMany hi, lookup_owned]
  split <;> simp [find?]

theorem find?_dropOwner (d : Dict (κ × μ) α) (owner : κ) (k : κ × μ) :
    (d.dropOwner owner).find? k = if k.1 = owner then none else d.find? k := by
  rw [dropOwner, find?_filter]
  by_cases h : k.1 = owner <;> cases d.find? k <;> simp [h]

theorem find?_replaceOwner (d : Dict (κ × μ) α) (owner : κ) (rows : Dict μ α) (k : κ × μ) :
    (d.replaceOwner owner rows).find? k =
      if k.1 = owner then rows.find? k.2 else d.find? k := by
  rw [replaceOwner, find?_mergeOwner, find?_dropOwner]
  split <;> simp

@[simp] theorem slice_replaceOwner_self (d : Dict (κ × μ) α) (owner : κ) (rows : Dict μ α) :
    (d.replaceOwner owner rows).slice owner = rows :=
  ext_find? fun k => by simp [find?_slice, find?_replaceOwner]

theorem slice_replaceOwner_of_ne (d : Dict (κ × μ) α) {owner o : κ} (h : o ≠ owner)
    (rows : Dict μ α) : (d.replaceOwner owner rows).slice o = d.slice o :=
  ext_find? fun k => by simp [find?_slice, find?_replaceOwner, h]

@[simp] theorem slice_mergeOwner_self (d : Dict (κ × μ) α) (owner : κ) (rows : Dict μ α) :
    (d.mergeOwner owner rows).slice owner = (d.slice owner).merge rows :=
  ext_find? fun k => by simp [find?_slice, find?_mergeOwner, find?_merge]

theorem slice_mergeOwner_of_ne (d : Dict (κ × μ) α) {owner o : κ} (h : o ≠ owner)
    (rows : Dict μ α) : (d.mergeOwner owner rows).slice o = d.slice o :=
  ext_find? fun k => by simp [find?_slice, find?_mergeOwner, h]

theorem mergeOwner_mergeOwner (d : Dict (κ × μ) α) (owner : κ) (rows rows' : Dict μ α) :
    (d.mergeOwner owner rows).mergeOwner owner rows' = d.mergeOwner owner (rows.merge rows') :=
  ext_find? fun k => by
    simp only [find?_mergeOwner, find?_merge]
    split <;> simp [Option.or_assoc]

@[simp] theorem slice_dropOwner_self (d : Dict (κ × μ) α) (owner : κ) :
    (d.dropOwner owner).slice owner = ∅ :=
  ext_find? fun k => by simp [find?_slice, find?_dropOwner]

theorem slice_dropOwner_of_ne (d : Dict (κ × μ) α) {owner o : κ} (h : o ≠ owner) :
    (d.dropOwner owner).slice o = d.slice o :=
  ext_find? fun k => by simp [find?_slice, find?_dropOwner, h]

/-- Rows set one by one under an owner. -/
theorem mergeOwner_eq_foldl (d : Dict (κ × μ) α) (owner : κ) (rows : Dict μ α) :
    d.mergeOwner owner rows =
      rows.entries.foldl (fun d e => d.insert (owner, e.1) e.2) d := by
  rw [mergeOwner, insertMany, List.foldl_map]

/-! ## Traversals -/

theorem traverseEntries_eq_ok {f : κ → α → Except ε β} {g : κ → α → β}
    {entries : List (κ × α)} (h : ∀ e ∈ entries, f e.1 e.2 = .ok (g e.1 e.2)) :
    traverseEntries f entries = .ok (entries.map fun e => (e.1, g e.1 e.2)) := by
  induction entries with
  | nil => rfl
  | cons e rest ih =>
    rw [traverseEntries, h e (by simp), ih fun e' he' => h e' (by simp [he'])]
    rfl

theorem traverse_eq_of_entries {f : κ → α → Except ε β} {d : Dict κ α} {e : Dict κ β}
    (h : traverseEntries f d.entries = .ok e.entries) : d.traverse f = .ok e := by
  unfold traverse
  split
  · rename_i err herr; rw [h] at herr; cases herr
  · rename_i out hout
    rw [h] at hout
    cases hout
    rfl

/-- A traversal that succeeds everywhere changes every value. -/
theorem traverse_eq_ok {f : κ → α → Except ε β} {g : κ → α → β} {d : Dict κ α}
    (h : ∀ k v, d.find? k = some v → f k v = .ok (g k v)) :
    d.traverse f = .ok (d.mapValues g) :=
  traverse_eq_of_entries (traverseEntries_eq_ok fun e he => h e.1 e.2 (mem_entries_iff.mp he))

theorem entries_of_traverse {f : κ → α → Except ε β} {d : Dict κ α} {e : Dict κ β}
    (h : d.traverse f = .ok e) : traverseEntries f d.entries = .ok e.entries := by
  unfold traverse at h
  split at h
  · cases h
  · rename_i out hout; cases h; exact hout

theorem lookup_of_traverseEntries {f : κ → α → Except ε β} {entries : List (κ × α)}
    {out : List (κ × β)} (h : traverseEntries f entries = .ok out) {k : κ} {v : α}
    (hk : lookup k entries = some v) : ∃ w, f k v = .ok w ∧ lookup k out = some w := by
  induction entries generalizing out with
  | nil => cases hk
  | cons e rest ih =>
    obtain ⟨j, u⟩ := e
    simp only [traverseEntries] at h
    split at h
    · cases h
    · rename_i w hw
      split at h
      · cases h
      · rename_i ws hws
        cases h
        by_cases hj : j = k
        · subst hj
          simp only [lookup, if_true, Option.some.injEq] at hk
          subst hk
          exact ⟨w, hw, by simp [lookup]⟩
        · simp only [lookup, if_neg hj] at hk ⊢
          exact ih hws hk

/-- A traversal that succeeds has succeeded at every key. -/
theorem find?_of_traverse {f : κ → α → Except ε β} {d : Dict κ α} {e : Dict κ β}
    (h : d.traverse f = .ok e) {k : κ} {v : α} (hk : d.find? k = some v) :
    ∃ w, f k v = .ok w ∧ e.find? k = some w :=
  lookup_of_traverseEntries (entries_of_traverse h) hk

/-- What a traversal has given under a key was given for the value under it. -/
theorem exists_of_traverse {f : κ → α → Except ε β} {d : Dict κ α} {e : Dict κ β}
    (h : d.traverse f = .ok e) {k : κ} {w : β} (hk : e.find? k = some w) :
    ∃ v, d.find? k = some v ∧ f k v = .ok w := by
  have hkeys : e.keys = d.keys := keys_traverseEntries (entries_of_traverse h)
  obtain ⟨v, hv⟩ := mem_keys_iff.mp (hkeys ▸ mem_keys_iff.mpr ⟨w, hk⟩)
  obtain ⟨u, hu, hfind⟩ := find?_of_traverse h hv
  obtain rfl : u = w := Option.some.inj (hfind.symm.trans hk)
  exact ⟨v, hv, hu⟩

theorem exists_of_traverseEntries_error {f : κ → α → Except ε β} {entries : List (κ × α)}
    {err : ε} (h : traverseEntries f entries = .error err) :
    ∃ e ∈ entries, f e.1 e.2 = .error err := by
  induction entries with
  | nil => cases h
  | cons e rest ih =>
    simp only [traverseEntries] at h
    split at h
    · rename_i herr
      cases h
      exact ⟨e, List.mem_cons_self, herr⟩
    · split at h
      · rename_i herr
        cases h
        obtain ⟨e', he', hfails⟩ := ih herr
        exact ⟨e', List.mem_cons_of_mem e he', hfails⟩
      · cases h

/-- A traversal that fails has failed at one of the keys. -/
theorem exists_of_traverse_error {f : κ → α → Except ε β} {d : Dict κ α} {err : ε}
    (h : d.traverse f = .error err) : ∃ k v, d.find? k = some v ∧ f k v = .error err := by
  unfold traverse at h
  split at h
  · rename_i herr
    cases h
    obtain ⟨e, he, hfails⟩ := exists_of_traverseEntries_error herr
    exact ⟨e.1, e.2, mem_entries_iff.mp he, hfails⟩
  · cases h

/-- A traversal succeeds when it succeeds at every key. -/
theorem exists_traverse_iff {f : κ → α → Except ε β} {d : Dict κ α} :
    (∃ e, d.traverse f = .ok e) ↔ ∀ k v, d.find? k = some v → ∃ w, f k v = .ok w := by
  constructor
  · rintro ⟨e, h⟩ k v hk
    obtain ⟨w, hw, -⟩ := find?_of_traverse h hk
    exact ⟨w, hw⟩
  · intro h
    cases htraverse : d.traverse f with
    | ok e => exact ⟨e, rfl⟩
    | error err =>
      obtain ⟨k, v, hk, hfails⟩ := exists_of_traverse_error htraverse
      obtain ⟨w, hw⟩ := h k v hk
      rw [hfails] at hw
      cases hw

/-- A traversal gives what it gives at every key. -/
theorem traverse_eq_ok_of_find? {f : κ → α → Except ε β} {d : Dict κ α} {e : Dict κ β}
    (hsome : ∀ k v, d.find? k = some v → ∃ w, f k v = .ok w ∧ e.find? k = some w)
    (hnone : ∀ k, d.find? k = none → e.find? k = none) : d.traverse f = .ok e := by
  obtain ⟨e', he'⟩ := exists_traverse_iff.mpr fun k v hk => (hsome k v hk).imp fun _ h => h.1
  rw [he']
  refine congrArg Except.ok (ext_find? fun k => ?_)
  cases hk : d.find? k with
  | some v =>
    obtain ⟨w, hw, hfind⟩ := hsome k v hk
    obtain ⟨w', hw', hfind'⟩ := find?_of_traverse he' hk
    rw [hfind, hfind', Except.ok.inj (hw'.symm.trans hw)]
  | none =>
    rw [hnone k hk, Option.eq_none_iff_forall_ne_some]
    intro w hw
    obtain ⟨v, hv, -⟩ := exists_of_traverse he' hw
    exact Option.some_ne_none v (hv.symm.trans hk)

theorem size_of_traverse {f : κ → α → Except ε β} {d : Dict κ α} {e : Dict κ β}
    (h : d.traverse f = .ok e) : e.size = d.size := by
  have hkeys := congrArg List.length (keys_traverseEntries (entries_of_traverse h))
  rwa [List.length_map, List.length_map] at hkeys

/-- What the steps of a traversal that succeeds have given. -/
theorem map_of_traverse {f : κ → α → Except ε β} {d : Dict κ α} {e : Dict κ β}
    (h : d.traverse f = .ok e) :
    (d.entries.map fun entry => f entry.1 entry.2) = e.values.map Except.ok := by
  have hentries (entries : List (κ × α)) (out : List (κ × β))
      (h : traverseEntries f entries = .ok out) :
      (entries.map fun entry => f entry.1 entry.2) = (out.map (·.2)).map Except.ok := by
    induction entries generalizing out with
    | nil => cases h; rfl
    | cons entry rest ih =>
      simp only [traverseEntries] at h
      split at h
      · cases h
      · rename_i w hw
        split at h
        · cases h
        · rename_i ws hws
          cases h
          simp [hw, ih ws hws]
  exact hentries d.entries e.entries (entries_of_traverse h)

theorem traverseEntries_map {f : κ → β → Except ε γ} {g : κ → α → β} (entries : List (κ × α)) :
    traverseEntries f (entries.map fun e => (e.1, g e.1 e.2)) =
      traverseEntries (fun k v => f k (g k v)) entries := by
  induction entries with
  | nil => rfl
  | cons e rest ih => simp only [List.map_cons, traverseEntries, ih]

theorem traverse_mapValues (f : κ → β → Except ε γ) (g : κ → α → β) (d : Dict κ α) :
    (d.mapValues g).traverse f = d.traverse fun k v => f k (g k v) := by
  cases h : d.traverse fun k v => f k (g k v) with
  | ok e =>
    refine traverse_eq_of_entries ?_
    rw [mapValues, traverseEntries_map]
    exact entries_of_traverse h
  | error err =>
    unfold traverse at h ⊢
    split at h
    · rename_i e he
      cases h
      split
      · rename_i e' he'
        rw [mapValues, traverseEntries_map, he] at he'
        cases he'
        rfl
      · rename_i out hout
        rw [mapValues, traverseEntries_map, he] at hout
        cases hout
    · cases h

/-- What a traversal gives when its step succeeds at every entry. -/
theorem values_traverse {f : κ → α → Except ε β} {d : Dict κ α} {bs : List β}
    (h : (d.entries.map fun e => f e.1 e.2) = bs.map Except.ok) :
    ∃ e, d.traverse f = .ok e ∧ e.values = bs := by
  have hentries (entries : List (κ × α)) (bs : List β)
      (h : (entries.map fun e => f e.1 e.2) = bs.map Except.ok) :
      ∃ out, traverseEntries f entries = .ok out ∧ out.map (·.2) = bs := by
    induction entries generalizing bs with
    | nil =>
      obtain rfl : bs = [] := by simpa using h.symm
      exact ⟨[], rfl, rfl⟩
    | cons e rest ih =>
      cases bs with
      | nil => simp at h
      | cons b bs =>
        simp only [List.map_cons, List.cons.injEq] at h
        obtain ⟨out, hout, hvalues⟩ := ih bs h.2
        refine ⟨(e.1, b) :: out, ?_, by simp [hvalues]⟩
        rw [traverseEntries, h.1, hout]
  obtain ⟨out, hout, hvalues⟩ := hentries d.entries bs h
  refine ⟨⟨out, increasing_of_keys_eq d.increasing (keys_traverseEntries hout)⟩, ?_, hvalues⟩
  exact traverse_eq_of_entries hout

/-- The values of a traversal are what the steps make of the entries. -/
theorem map_values_traverse (f : κ → α → Except ε β) (d : Dict κ α) :
    (d.traverse f).map values = d.entries.mapM fun e => f e.1 e.2 := by
  have hentries (entries : List (κ × α)) :
      (traverseEntries f entries).map (List.map (·.2)) = entries.mapM fun e => f e.1 e.2 := by
    induction entries with
    | nil => rfl
    | cons e rest ih =>
      rw [List.mapM_cons, ← ih, traverseEntries]
      cases f e.1 e.2 with
      | error err => rfl
      | ok w => cases traverseEntries f rest <;> rfl
  rw [← hentries]
  unfold traverse
  split
  · rename_i err herr
    exact (congrArg (Except.map (List.map (·.2))) herr).symm
  · rename_i out hout
    exact (congrArg (Except.map (List.map (·.2))) hout).symm

/-! ## Signed keys -/

/-- The dictionary under signed keys, its values changed. -/
def embed (d : Dict Nat α) (f : Nat → α → β) : Dict Int β :=
  ⟨d.entries.map fun e => ((e.1 : Int), f e.1 e.2),
    increasing_map (f := fun n : Nat => (n : Int)) (g := f)
      (fun a b h => by simpa [Key.before] using h) d.increasing⟩

theorem lookup_embed (f : Nat → α → β) (entries : List (Nat × α)) (k : Nat) :
    lookup (k : Int) (entries.map fun e => ((e.1 : Int), f e.1 e.2)) =
      (lookup k entries).map (f k) := by
  induction entries with
  | nil => rfl
  | cons e rest ih =>
    simp only [List.map_cons, lookup, Int.natCast_inj, ih]
    split
    · rename_i h; subst h; rfl
    · rfl

theorem find?_embed (d : Dict Nat α) (f : Nat → α → β) (k : Nat) :
    (d.embed f).find? (k : Int) = (d.find? k).map (f k) :=
  lookup_embed f d.entries k

theorem mem_keys_embed {d : Dict Nat α} {f : Nat → α → β} {i : Int} :
    i ∈ (d.embed f).keys ↔ ∃ k : Nat, k ∈ d.keys ∧ (k : Int) = i := by
  simp [keys, embed]

theorem find?_embed_of_neg (d : Dict Nat α) (f : Nat → α → β) {i : Int} (h : i < 0) :
    (d.embed f).find? i = none := by
  cases hi : (d.embed f).find? i with
  | none => rfl
  | some v =>
    obtain ⟨k, -, hk⟩ := mem_keys_embed.mp (mem_keys_iff.mpr ⟨v, hi⟩)
    omega

theorem embed_ext {d : Dict Nat α} {f : Nat → α → β} {e : Dict Int β}
    (hneg : ∀ i < 0, e.find? i = none)
    (h : ∀ k : Nat, e.find? (k : Int) = (d.find? k).map (f k)) : e = d.embed f :=
  ext_find? fun i => by
    rcases Int.lt_or_le i 0 with hi | hi
    · rw [hneg i hi, find?_embed_of_neg d f hi]
    · obtain ⟨k, rfl⟩ := Int.eq_ofNat_of_zero_le hi
      rw [find?_embed, h k]

theorem embed_insert (d : Dict Nat α) (f : Nat → α → β) (k : Nat) (v : α) :
    (d.insert k v).embed f = (d.embed f).insert k (f k v) :=
  (embed_ext (fun i hi => by rw [find?_insert, if_neg (by omega), find?_embed_of_neg d f hi])
    fun j => by
      rw [find?_insert, find?_embed, find?_insert]
      by_cases h : k = j
      · subst h; simp
      · have hne : (k : Int) ≠ j := by omega
        rw [if_neg h, if_neg hne]).symm

theorem embed_erase (d : Dict Nat α) (f : Nat → α → β) (k : Nat) :
    (d.erase k).embed f = (d.embed f).erase k :=
  (embed_ext (fun i hi => by rw [find?_erase, if_neg (by omega), find?_embed_of_neg d f hi])
    fun j => by
      rw [find?_erase, find?_embed, find?_erase]
      by_cases h : k = j
      · subst h; simp
      · have hne : (k : Int) ≠ j := by omega
        rw [if_neg h, if_neg hne]).symm

theorem values_embed (d : Dict Nat α) (f : Nat → α → β) :
    (d.embed f).values = d.entries.map fun e => f e.1 e.2 := by
  simp only [values, embed, List.map_map]
  rfl

/-- No key stands behind the last one. -/
theorem le_getLast_keys {d : Dict Int α} {k : Int} (h : k ∈ d.keys) :
    k ≤ d.keys.getLast?.getD 0 := by
  have hpair : d.keys.Pairwise (· ≤ ·) := by
    refine List.pairwise_map.mpr (d.increasing.imp fun hab => ?_)
    simp only [Key.before, decide_eq_true_eq] at hab
    omega
  obtain ⟨last, hlast⟩ :=
    Option.isSome_iff_exists.mp (List.getLast?_isSome.mpr (List.ne_nil_of_mem h))
  obtain ⟨front, hfront⟩ := List.getLast?_eq_some_iff.mp hlast
  rw [hlast, Option.getD_some]
  rw [hfront] at h hpair
  rcases List.mem_append.mp h with h | h
  · exact (List.pairwise_append.mp hpair).2.2 k h last (by simp)
  · exact Int.le_of_eq (List.mem_singleton.mp h)

end Dict

namespace KeySet

variable {κ : Type} [Key κ] [DecidableEq κ]

theorem mem_keys_addMany {s : KeySet κ} {ks : List κ} {k : κ} :
    k ∈ (s.addMany ks).keys ↔ k ∈ ks ∨ k ∈ s.keys := by
  induction ks generalizing s with
  | nil => simp [addMany]
  | cons j ks ih =>
    rw [addMany, List.foldl_cons, ← addMany, ih]
    simp only [Dict.mem_keys_iff, add, Dict.find?_insert, List.mem_cons]
    by_cases h : j = k
    · subst h; simp
    · simp [h, Ne.symm h]

theorem mem_keys_ofList {ks : List κ} {k : κ} : k ∈ (ofList ks).keys ↔ k ∈ ks := by
  rw [ofList, mem_keys_addMany]
  simp [Dict.mem_keys_iff]

theorem size_addMany_le (s : KeySet κ) (ks : List κ) :
    (s.addMany ks).size ≤ s.size + ks.length := by
  induction ks generalizing s with
  | nil => exact Nat.le_refl _
  | cons k ks ih =>
    have hadd : (s.add k).size ≤ s.size + 1 := by rw [add, Dict.size_insert]; split <;> omega
    have hall := ih (s.add k)
    rw [List.length_cons]
    exact Nat.le_trans hall (by omega)

/-- A set that has as many members as it was given has been given none of them twice. -/
theorem nodup_of_size_addMany {s : KeySet κ} {ks : List κ}
    (h : (s.addMany ks).size = s.size + ks.length) : ks.Nodup ∧ ∀ k ∈ ks, s.contains k = false := by
  induction ks generalizing s with
  | nil => simp
  | cons k ks ih =>
    have hadd : (s.add k).size = s.size + if s.contains k then 0 else 1 := Dict.size_insert s k ()
    have hle := size_addMany_le (s.add k) ks
    have hsize : ((s.add k).addMany ks).size = s.size + (ks.length + 1) := h
    -- a key that is there already adds nothing, and the others add at most their number
    have hnew : s.contains k = false := by
      by_contra hk
      rw [if_pos (by simpa using hk)] at hadd
      omega
    rw [hnew] at hadd
    obtain ⟨hnodup, hothers⟩ := ih (s := s.add k) (by rw [hsize, hadd]; simp; omega)
    have hapart : ∀ j ∈ ks, k ≠ j ∧ s.contains j = false := fun j hj => by
      have hj' := hothers j hj
      rw [Dict.contains, add, Dict.find?_insert] at hj'
      split at hj'
      · cases hj'
      · rename_i hne
        exact ⟨hne, hj'⟩
    refine ⟨List.nodup_cons.mpr ⟨fun hk => (hapart k hk).1 rfl, hnodup⟩, fun j hj => ?_⟩
    rcases List.mem_cons.mp hj with rfl | hj
    · exact hnew
    · exact (hapart j hj).2

end KeySet

end FederationRegistry
