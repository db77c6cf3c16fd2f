import FederationRegistry.Dict
import FederationRegistry.Decimal.Binary64
import FederationRegistry.Word

/-!
# JSON values

The values that properties hold and that texts stand for. A number is an integer of 64 bits,
signed or unsigned, or a finite double; the two are never equal.

**Members.** An object lists its members in some order and may name a key twice. `arrange` keeps
the last member of every key and sorts the keys, at every depth; `Ordered` says that a value
needs no arranging. Main statement: `ordered_arrange`.
-/

namespace FederationRegistry

namespace Json

/-- An integer between `-2 ^ 63` and `2 ^ 64 - 1`. -/
structure Integer where
  value : Int
  inRange : -Word.signedLimit ≤ value ∧ value < Word.unsignedLimit
deriving DecidableEq

/-- The integer, if it is in range. -/
def Integer.ofInt? (i : Int) : Option Integer :=
  if h : -Word.signedLimit ≤ i ∧ i < Word.unsignedLimit then some ⟨i, h⟩ else none

/-- A number in a value. -/
inductive Number where
  | integer (i : Integer)
  | double (x : Binary64)
deriving DecidableEq

/-- Numbers compare by kind and value; the two zeros among the doubles are equal. -/
def Number.same : Number → Number → Bool
  | .integer i, .integer j => decide (i = j)
  | .double x, .double y => x.same y
  | _, _ => false

end Json

/-- A JSON value. -/
inductive Json where
  | null
  | bool (b : Bool)
  | number (n : Json.Number)
  | string (s : String)
  | array (elements : List Json)
  | object (members : List (String × Json))
deriving Inhabited

namespace Json

/-- The integer as a value, `null` when it is out of range. -/
def ofInt (i : Int) : Json :=
  match Integer.ofInt? i with
  | some n => .number (.integer n)
  | none => .null

/-- The value is `null`. -/
def isNull : Json → Bool
  | .null => true
  | _ => false

/-! ## Measures and comparison -/

mutual

/-- The number of arrays and objects around the innermost value. -/
def depth : Json → Nat
  | .array xs => depthOfElements xs + 1
  | .object ms => depthOfMembers ms + 1
  | _ => 0

/-- The greatest depth among the elements. -/
def depthOfElements : List Json → Nat
  | [] => 0
  | x :: xs => max x.depth (depthOfElements xs)

/-- The greatest depth among the members. -/
def depthOfMembers : List (String × Json) → Nat
  | [] => 0
  | (_, v) :: ms => max v.depth (depthOfMembers ms)

end

mutual

/-- Equality of values, with numbers compared by `Number.same`. -/
def same : Json → Json → Bool
  | .null, .null => true
  | .bool a, .bool b => a == b
  | .number m, .number n => m.same n
  | .string s, .string t => s == t
  | .array xs, .array ys => sameElements xs ys
  | .object ms, .object ns => sameMembers ms ns
  | _, _ => false

/-- The elements are equal one by one. -/
def sameElements : List Json → List Json → Bool
  | [], [] => true
  | x :: xs, y :: ys => x.same y && sameElements xs ys
  | _, _ => false

/-- The members are equal one by one. -/
def sameMembers : List (String × Json) → List (String × Json) → Bool
  | [], [] => true
  | (k, v) :: ms, (l, w) :: ns => k == l && v.same w && sameMembers ms ns
  | _, _ => false

end

mutual

/-- Identity of values; unlike `same` it tells the two zeros apart. -/
def identical : Json → Json → Bool
  | .null, .null => true
  | .bool a, .bool b => decide (a = b)
  | .number m, .number n => decide (m = n)
  | .string s, .string t => decide (s = t)
  | .array xs, .array ys => identicalElements xs ys
  | .object ms, .object ns => identicalMembers ms ns
  | _, _ => false

/-- The elements are identical one by one. -/
def identicalElements : List Json → List Json → Bool
  | [], [] => true
  | x :: xs, y :: ys => x.identical y && identicalElements xs ys
  | _, _ => false

/-- The members are identical one by one. -/
def identicalMembers : List (String × Json) → List (String × Json) → Bool
  | [], [] => true
  | (k, v) :: ms, (l, w) :: ns => decide (k = l) && v.identical w && identicalMembers ms ns
  | _, _ => false

end

mutual

theorem identical_iff : (a b : Json) → (a.identical b = true ↔ a = b)
  | .null, b => by cases b <;> simp [identical]
  | .bool _, b => by cases b <;> simp [identical]
  | .number _, b => by cases b <;> simp [identical]
  | .string _, b => by cases b <;> simp [identical]
  | .array xs, b => by cases b <;> simp [identical, identicalElements_iff xs]
  | .object ms, b => by cases b <;> simp [identical, identicalMembers_iff ms]

theorem identicalElements_iff :
    (xs ys : List Json) → (identicalElements xs ys = true ↔ xs = ys)
  | [], ys => by cases ys <;> simp [identicalElements]
  | x :: xs, ys => by
    cases ys <;> simp [identicalElements, identical_iff x, identicalElements_iff xs]

theorem identicalMembers_iff :
    (ms ns : List (String × Json)) → (identicalMembers ms ns = true ↔ ms = ns)
  | [], ns => by cases ns <;> simp [identicalMembers]
  | (k, v) :: ms, ns => by
    cases ns <;> simp [identicalMembers, identical_iff v, identicalMembers_iff ms, Prod.ext_iff]

end

instance : DecidableEq Json := fun a b => decidable_of_iff _ (identical_iff a b)

/-! ## Order of members -/

mutual

/-- Every object in the value has its keys once each and in order. -/
def Ordered : Json → Prop
  | .array xs => OrderedElements xs
  | .object ms => Increasing ms ∧ OrderedMembers ms
  | _ => True

/-- Every element is ordered. -/
def OrderedElements : List Json → Prop
  | [] => True
  | x :: xs => x.Ordered ∧ OrderedElements xs

/-- The value of every member is ordered. -/
def OrderedMembers : List (String × Json) → Prop
  | [] => True
  | (_, v) :: ms => v.Ordered ∧ OrderedMembers ms

end

theorem orderedMembers_iff {ms : List (String × Json)} :
    OrderedMembers ms ↔ ∀ m ∈ ms, m.2.Ordered := by
  induction ms with
  | nil => simp [OrderedMembers]
  | cons m ms ih => obtain ⟨k, v⟩ := m; simp [OrderedMembers, ih]

mutual

/-- The value with the last member of every key kept and all keys in order. -/
def arrange : Json → Json
  | .array xs => .array (arrangeElements xs)
  | .object ms => .object (Dict.ofList (arrangeMembers ms)).entries
  | j => j

/-- Every element arranged. -/
def arrangeElements : List Json → List Json
  | [] => []
  | x :: xs => x.arrange :: arrangeElements xs

/-- The value of every member arranged. -/
def arrangeMembers : List (String × Json) → List (String × Json)
  | [] => []
  | (k, v) :: ms => (k, v.arrange) :: arrangeMembers ms

end

theorem orderedMembers_insertEntry {k : String} {v : Json} {ms : List (String × Json)}
    (hv : v.Ordered) (h : OrderedMembers ms) : OrderedMembers (Dict.insertEntry k v ms) := by
  rw [orderedMembers_iff] at h ⊢
  intro m hm
  rcases Dict.mem_insertEntry hm with rfl | hm
  · exact hv
  · exact h m hm

theorem orderedMembers_insertMany {d : Dict String Json} {ms : List (String × Json)}
    (hd : OrderedMembers d.entries) (h : OrderedMembers ms) :
    OrderedMembers (d.insertMany ms).entries := by
  induction ms generalizing d with
  | nil => exact hd
  | cons m ms ih =>
    obtain ⟨k, v⟩ := m
    exact ih (orderedMembers_insertEntry h.1 hd) h.2

mutual

/-- **Arranging orders.** -/
theorem ordered_arrange : (j : Json) → j.arrange.Ordered
  | .null | .bool _ | .number _ | .string _ => by simp [arrange, Ordered]
  | .array xs => by simpa [arrange, Ordered] using orderedElements_arrangeElements xs
  | .object ms => by
    rw [arrange, Ordered]
    exact ⟨Dict.increasing _, orderedMembers_insertMany trivial
      (orderedMembers_arrangeMembers ms)⟩

theorem orderedElements_arrangeElements : (xs : List Json) → OrderedElements (arrangeElements xs)
  | [] => trivial
  | x :: xs => ⟨ordered_arrange x, orderedElements_arrangeElements xs⟩

theorem orderedMembers_arrangeMembers :
    (ms : List (String × Json)) → OrderedMembers (arrangeMembers ms)
  | [] => trivial
  | (_, v) :: ms => ⟨ordered_arrange v, orderedMembers_arrangeMembers ms⟩

end

end Json

end FederationRegistry
