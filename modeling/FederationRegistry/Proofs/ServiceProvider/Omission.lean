import FederationRegistry.Proofs.Json.Depth
import FederationRegistry.Proofs.ServiceProvider.ReadBack

/-!
# Members that are left out

A document may be written without the members that hold their defaults. A `Schema` says where the
records of a document are, which of their members may be left out, and what is meant then;
`Schema.Omits` relates a document to what is left of it when some such members, at whatever depth,
are left out.

**Readers.** A reader *recovers* a value from its form (`Recovers`) when it gives the value for all
that may be left of the form. For a record that is shown member by member
(`fillsFrom_mandatory`, `fillsFrom_optional`): a member that stands there is set to what its reader
recovers, and one that is left out held the default, which the record to be filled has already.
-/

namespace FederationRegistry.Json

/-- What a document is made up of. -/
inductive Schema where
  /-- A value of which nothing is left out. -/
  | value
  | list (element : Schema)
  /-- The members of a record in their order: the name of each, what is meant where it is left out,
  if it may be, and what its value is made up of. -/
  | record (members : List (String × Option Json × Schema))

namespace Schema

mutual

/-- The second document is what is left of the first one when some members that hold their defaults
are left out. -/
inductive Omits : Schema → Json → Json → Prop
  | none (σ : Schema) (j : Json) : Omits σ j j
  | list {σ : Schema} {xs ys : List Json} :
      OmitsInEach σ xs ys → Omits (.list σ) (.array xs) (.array ys)
  | record {members : List (String × Option Json × Schema)} {ms ns : List (String × Json)} :
      OmitsAmong members ms ns → Omits (.record members) (.object ms) (.object ns)

/-- Members are left out in every element. -/
inductive OmitsInEach : Schema → List Json → List Json → Prop
  | nil {σ : Schema} : OmitsInEach σ [] []
  | cons {σ : Schema} {x y : Json} {xs ys : List Json} :
      Omits σ x y → OmitsInEach σ xs ys → OmitsInEach σ (x :: xs) (y :: ys)

/-- Members are left out here and in those that stay. -/
inductive OmitsAmong :
    List (String × Option Json × Schema) → List (String × Json) → List (String × Json) → Prop
  | nil : OmitsAmong [] [] []
  | keep {name : String} {default? : Option Json} {σ : Schema} {v w : Json}
      {members : List (String × Option Json × Schema)} {ms ns : List (String × Json)} :
      Omits σ v w → OmitsAmong members ms ns →
        OmitsAmong ((name, default?, σ) :: members) ((name, v) :: ms) ((name, w) :: ns)
  | drop {name : String} {σ : Schema} {v : Json}
      {members : List (String × Option Json × Schema)} {ms ns : List (String × Json)} :
      OmitsAmong members ms ns →
        OmitsAmong ((name, some v, σ) :: members) ((name, v) :: ms) ns

end

/-! ## What is left of a document -/

mutual

/-- What is left of a document has no new numbers and nests no deeper. -/
theorem Omits.doubleFree_and_depth_le : {σ : Schema} → {j k : Json} → σ.Omits j k →
    (j.DoubleFree → k.DoubleFree) ∧ k.depth ≤ j.depth
  | _, _, _, .none _ _ => ⟨id, Nat.le_refl _⟩
  | _, _, _, .list h =>
    have ⟨hfree, hdepth⟩ := h.doubleFree_and_depth_le
    ⟨hfree, Nat.succ_le_succ hdepth⟩
  | _, _, _, .record h =>
    have ⟨hfree, hdepth⟩ := h.doubleFree_and_depth_le
    ⟨hfree, Nat.succ_le_succ hdepth⟩

theorem OmitsInEach.doubleFree_and_depth_le : {σ : Schema} → {xs ys : List Json} →
    σ.OmitsInEach xs ys →
      (DoubleFreeElements xs → DoubleFreeElements ys) ∧ depthOfElements ys ≤ depthOfElements xs
  | _, _, _, .nil => ⟨id, Nat.le_refl _⟩
  | _, _, _, .cons hfirst hrest => by
    obtain ⟨hfree, hdepth⟩ := hfirst.doubleFree_and_depth_le
    obtain ⟨hfrees, hdepths⟩ := hrest.doubleFree_and_depth_le
    exact ⟨fun h => ⟨hfree h.1, hfrees h.2⟩, by simp only [depthOfElements]; omega⟩

theorem OmitsAmong.doubleFree_and_depth_le :
    {members : List (String × Option Json × Schema)} → {ms ns : List (String × Json)} →
      OmitsAmong members ms ns →
        (DoubleFreeMembers ms → DoubleFreeMembers ns) ∧ depthOfMembers ns ≤ depthOfMembers ms
  | _, _, _, .nil => ⟨id, Nat.le_refl _⟩
  | _, _, _, .keep hfirst hrest => by
    obtain ⟨hfree, hdepth⟩ := hfirst.doubleFree_and_depth_le
    obtain ⟨hfrees, hdepths⟩ := hrest.doubleFree_and_depth_le
    exact ⟨fun h => ⟨hfree h.1, hfrees h.2⟩, by simp only [depthOfMembers]; omega⟩
  | _, _, _, .drop hrest => by
    obtain ⟨hfrees, hdepths⟩ := hrest.doubleFree_and_depth_le
    exact ⟨fun h => hfrees h.2, by simp only [depthOfMembers]; omega⟩

end

theorem Omits.doubleFree {σ : Schema} {j k : Json} (h : σ.Omits j k) (hj : j.DoubleFree) :
    k.DoubleFree := h.doubleFree_and_depth_le.1 hj

theorem Omits.depth_le {σ : Schema} {j k : Json} (h : σ.Omits j k) : k.depth ≤ j.depth :=
  h.doubleFree_and_depth_le.2

theorem omits_value_iff {j k : Json} : Schema.value.Omits j k ↔ k = j := by
  refine ⟨fun h => ?_, fun h => h ▸ .none _ _⟩
  cases h with
  | none => rfl

end Schema

/-! ## Readers of what is left -/

/-- The reader gives the value for all that may be left of its form, within any limit. -/
def Recovers {α : Type} (read : Depth → Node → Decoded α) (σ : Schema) (form : α → Json) (a : α) :
    Prop :=
  ∀ d j, σ.Omits (form a) j → j.depth ≤ d → read (some d) (Node.ofJson j) = .ok a

variable {α ρ : Type} {read : Depth → Node → Decoded α} {form : α → Json} {σ : Schema}

theorem Reads.recovers {a : α} (h : Reads read form a) : Recovers read .value form a := by
  intro d j hj hd
  obtain rfl := Schema.omits_value_iff.mp hj
  exact h d hd

/-- Values that are read from one form are equal. -/
theorem Reads.eq_of_form_eq {a b : α} (ha : Reads read form a) (hb : Reads read form b)
    (h : form a = form b) : a = b := by
  have hread := ha _ (Nat.le_refl _)
  rw [h, hb _ (Nat.le_refl _)] at hread
  exact (Except.ok.inj hread).symm

theorem Recovers.reads {a : α} (h : Recovers read σ form a) : Reads read form a :=
  fun d => h d _ (.none _ _)

theorem each_of_omitsInEach (h : ∀ a, Recovers read σ form a) {d : Nat} {as : List α}
    {ys : List Json} (hys : σ.OmitsInEach (as.map form) ys) (hd : depthOfElements ys ≤ d) :
    Node.each (read (some d)) (Node.ofElements ys) = .ok as := by
  induction as generalizing ys with
  | nil =>
    cases hys
    rfl
  | cons a as ih =>
    cases hys with
    | cons hfirst hrest =>
      rw [depthOfElements, Nat.max_le] at hd
      simp only [Node.ofElements, Node.each, h a d _ hfirst hd.1, ih hrest hd.2]
      rfl

theorem recovers_list (h : ∀ a, Recovers read σ form a) (as : List α) :
    Recovers (fun depth n => n.list read depth) (.list σ) (ofList form) as := by
  intro d j hj hd
  cases hj with
  | none => exact reads_list (fun a _ => (h a).reads) d hd
  | list hys =>
    rw [depth] at hd
    simp only [Node.ofJson, Node.list, descend_some (show 0 < d by omega), bind, Except.bind,
      each_of_omitsInEach h hys (show _ ≤ d - 1 by omega)]
    rfl

/-! ## Records -/

/-- Members take a record to another: they give some of its fields in their order, those without
default at least. -/
inductive Fills (depth : Depth) : List (Field ρ) → List (String × Json) → ρ → ρ → Prop
  | nil (r : ρ) : Fills depth [] [] r r
  | given {f : Field ρ} {fs : List (Field ρ)} {v : Json} {ms : List (String × Json)}
      {r next out : ρ} : f.set depth (Node.ofJson v) r = .ok next → Fills depth fs ms next out →
        Fills depth (f :: fs) ((f.name, v) :: ms) r out
  | missing {f : Field ρ} {fs : List (Field ρ)} {ms : List (String × Json)} {r out : ρ} :
      f.required = false → Fills depth fs ms r out → Fills depth (f :: fs) ms r out

/-- A reader of records sets the fields that are given. The induction is on the fields that are
left; those before them are `done`, and the ones among them that have no default were seen. -/
theorem ofMembers_of_fills {shape : RecordShape ρ} (hnames : (shape.fields.map (·.name)).Nodup)
    {depth : Depth} (done : List (Field ρ)) {fs : List (Field ρ)}
    (hfields : shape.fields = done ++ fs) {ms : List (String × Json)} {r out : ρ}
    (h : Fills depth fs ms r out) {seen : List String}
    (hseen : ∀ name ∈ seen, name ∈ done.map (·.name))
    (hrequired : ∀ f ∈ done, f.required = true → f.name ∈ seen) :
    shape.ofMembers depth .closed (Node.ofMembers ms) seen r = .ok out := by
  -- by induction on the members given; no field among those done is still to come
  induction h generalizing done seen with
  | nil r =>
    have hall : (shape.fields.all fun f => !f.required || seen.contains f.name) = true := by
      rw [List.all_eq_true, hfields, List.append_nil]
      intro f hf
      cases hreq : f.required with
      | false => rfl
      | true => simpa using hrequired f hf hreq
    simp only [Node.ofMembers, RecordShape.ofMembers, Ending.check, hall, if_true]
    rfl
  | @given f fs v ms r next out hset _ ih =>
    obtain ⟨hnew, hfind⟩ := find?_field hfields hnames
    have hunseen : seen.contains f.name = false := by
      simpa using fun hmem => hnew (hseen f.name hmem)
    have hseen' : ∀ name ∈ f.name :: seen, name ∈ (done ++ [f]).map (·.name) := by grind
    have hrequired' : ∀ g ∈ done ++ [f], g.required = true → g.name ∈ f.name :: seen := by grind
    have hrest := ih (done ++ [f]) (by simp [hfields]) hseen' hrequired'
    simp only [Node.ofMembers, RecordShape.ofMembers, MemberKey.decode, bind, Except.bind, hfind,
      hunseen, Bool.false_eq_true, if_false, hset, hrest]
  -- a field left out keeps its default, and may be left out as it is not required
  | @missing f fs ms r out hoptional _ ih =>
    exact ih (done ++ [f]) (by simp [hfields]) (by grind) (by grind)

/-- All that may be left of the members takes the record to the other one. -/
def FillsFrom (d : Nat) (members : List (String × Option Json × Schema)) (fs : List (Field ρ))
    (ms : List (String × Json)) (r out : ρ) : Prop :=
  ∀ ns, Schema.OmitsAmong members ms ns → depthOfMembers ns ≤ d → Fills (some d) fs ns r out

section FillsFrom

variable {d : Nat} {members : List (String × Option Json × Schema)} {fs : List (Field ρ)}
  {ms : List (String × Json)} {name : String} {put : α → ρ → ρ} {r out : ρ}

theorem fillsFrom_nil (r : ρ) : FillsFrom d [] [] [] r r := by
  intro ns hns _
  cases hns
  exact .nil r

theorem set_of_recovers {a : α} (h : Recovers read σ form a) {w : Json} (hw : σ.Omits (form a) w)
    (hd : w.depth ≤ d) (put : α → ρ → ρ) (r : ρ) :
    (read (some d) (Node.ofJson w)).map (fun a => put a r) = .ok (put a r) := by
  rw [h d w hw hd]
  rfl

/-- A member without default stays. -/
theorem fillsFrom_mandatory {a : α} (h : Reads read form a)
    (hrest : FillsFrom d members fs ms (put a r) out) :
    FillsFrom d ((name, none, .value) :: members) (.mandatory name read put :: fs)
      ((name, form a) :: ms) r out := by
  intro ns hns hd
  cases hns with
  | keep hw hns =>
    rw [depthOfMembers, Nat.max_le] at hd
    exact .given (set_of_recovers h.recovers hw hd.1 put r) (hrest _ hns hd.2)

/-- A member with a default stays, or the record has what the member held. -/
theorem fillsFrom_optional (h : ∀ a, Recovers read σ form a) (a blank : α)
    (hblank : put blank r = r) (hrest : FillsFrom d members fs ms (put a r) out) :
    FillsFrom d ((name, some (form blank), σ) :: members) (.optional name read put :: fs)
      ((name, form a) :: ms) r out := by
  intro ns hns hd
  generalize hdefault : form blank = v at hns
  cases hns with
  | keep hw hns =>
    rw [depthOfMembers, Nat.max_le] at hd
    exact .given (set_of_recovers (h a) hw hd.1 put r) (hrest _ hns hd.2)
  | drop hns =>
    -- values of one form are equal, so what was left out is what the record has
    obtain rfl := (h blank).reads.eq_of_form_eq (h a).reads hdefault
    rw [hblank] at hrest
    exact .missing rfl (hrest _ hns hd)

theorem fillsFrom_value (h : ∀ a, Reads read form a) (a blank : α) (hblank : put blank r = r)
    (hrest : FillsFrom d members fs ms (put a r) out) :
    FillsFrom d ((name, some (form blank), .value) :: members) (.optional name read put :: fs)
      ((name, form a) :: ms) r out :=
  fillsFrom_optional (fun a => (h a).recovers) a blank hblank hrest

end FillsFrom

/-- A record is recovered member by member. -/
theorem recovers_record {shape : RecordShape ρ} {form : ρ → Json} {a : ρ}
    {members : List (String × Option Json × Schema)} {ms : List (String × Json)}
    (hnames : (shape.fields.map (·.name)).Nodup) (hform : form a = .object ms)
    (hwhole : Reads shape.read form a)
    (h : ∀ d, FillsFrom d members shape.fields ms shape.blank a) :
    Recovers shape.read (.record members) form a := by
  intro d j hj hd
  rw [hform] at hj
  cases hj with
  | none => exact hform ▸ hwhole d (hform ▸ hd)
  | record hns =>
    rw [depth] at hd
    rw [Node.ofJson, RecordShape.read, descend_some (show 0 < d by omega)]
    exact ofMembers_of_fills hnames [] rfl (h (d - 1) _ hns (by omega)) (by simp)
      (by simp)

end FederationRegistry.Json
