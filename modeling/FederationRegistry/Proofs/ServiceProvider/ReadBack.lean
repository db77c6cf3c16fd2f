import FederationRegistry.Proofs.PropertyText
import FederationRegistry.ServiceProvider.Codec

/-!
# Sections of service providers are read back

A reader *reads* a form of a value when it gives the value for the node of that form, under every
limit that the form stays within (`Reads`). Readers of collections and of records read what their
parts read.

**Records.** A writer gives every field in the order of the shape. Then an object is read as the
array of its values would be (`ofMembers_eq_ofElements`), one field after the other.

Main statement: `Sections.Plain.readable`.
-/

namespace FederationRegistry

namespace Json

/-- The reader gives the value for the node of its form, within any limit. -/
def Reads {α : Type} (read : Depth → Node → Decoded α) (form : α → Json) (a : α) : Prop :=
  ∀ d, (form a).depth ≤ d → read (some d) (Node.ofJson (form a)) = .ok a

variable {α ρ : Type}

/-! ## Scalars and collections -/

theorem reads_text (s : String) : Reads Node.readText .string s := fun _ _ => rfl

theorem reads_text? (s : Option String) : Reads Node.readText? ofText? s := by
  intro d _
  cases s <;> rfl

theorem reads_flag (b : Bool) : Reads Node.readFlag .bool b := fun _ _ => rfl

theorem each_ofElements {read : Node → Decoded α} {form : α → Json} {as : List α}
    (h : ∀ a ∈ as, read (Node.ofJson (form a)) = .ok a) :
    Node.each read (Node.ofElements (as.map form)) = .ok as := by
  induction as with
  | nil => rfl
  | cons a as ih =>
    simp only [List.map_cons, Node.ofElements, Node.each, h a (by simp),
      ih fun b hb => h b (by simp [hb])]
    rfl

theorem depth_le_depthOfElements {x : Json} {xs : List Json} (h : x ∈ xs) :
    x.depth ≤ depthOfElements xs := by
  induction xs with
  | nil => cases h
  | cons y xs ih =>
    rw [depthOfElements]
    rcases List.mem_cons.mp h with rfl | h
    · exact Nat.le_max_left ..
    · exact Nat.le_trans (ih h) (Nat.le_max_right ..)

theorem depth_le_depthOfMembers {m : String × Json} {ms : List (String × Json)} (h : m ∈ ms) :
    m.2.depth ≤ depthOfMembers ms := by
  induction ms with
  | nil => cases h
  | cons n ms ih =>
    obtain ⟨k, v⟩ := n
    rw [depthOfMembers]
    rcases List.mem_cons.mp h with rfl | h
    · exact Nat.le_max_left ..
    · exact Nat.le_trans (ih h) (Nat.le_max_right ..)

theorem reads_list {read : Depth → Node → Decoded α} {form : α → Json} {as : List α}
    (h : ∀ a ∈ as, Reads read form a) :
    Reads (fun depth n => n.list read depth) (ofList form) as := by
  intro d hd
  simp only [ofList, depth] at hd
  have hall : ∀ a ∈ as, read (some (d - 1)) (Node.ofJson (form a)) = .ok a := fun a ha => by
    have := depth_le_depthOfElements (List.mem_map_of_mem (f := form) ha)
    exact h a ha (d - 1) (by omega)
  simp only [ofList, Node.ofJson, Node.list, descend_some (show 0 < d by omega), bind, Except.bind,
    each_ofElements hall]
  rfl

theorem keySet_ofList_keys (s : KeySet String) : KeySet.ofList s.keys = s := by
  have hkeys : (KeySet.ofList s.keys).keys = s.keys :=
    Dict.keys_ext fun k => KeySet.mem_keys_ofList
  refine Dict.ext_find? fun k => ?_
  have hmem : k ∈ (KeySet.ofList s.keys).keys ↔ k ∈ s.keys := by rw [hkeys]
  rw [Dict.mem_keys_iff, Dict.mem_keys_iff] at hmem
  cases hs : s.find? k with
  | none =>
    rw [Option.eq_none_iff_forall_ne_some]
    intro u hu
    obtain ⟨v, hv⟩ := hmem.mp ⟨u, hu⟩
    rw [hs] at hv
    cases hv
  | some u =>
    obtain ⟨v, hv⟩ := hmem.mpr ⟨u, hs⟩
    exact hv

theorem reads_textList (texts : List String) :
    Reads (fun depth n => n.list Node.readText depth) ofTexts texts :=
  reads_list fun s _ => reads_text s

theorem reads_names (s : KeySet String) : Reads Node.readNames ofNames s := by
  intro d hd
  exact (congrArg (Except.map KeySet.ofList) (reads_textList s.keys d hd)).trans
    (congrArg Except.ok (keySet_ofList_keys s))

theorem eachMember_ofMembers {read : Node → Decoded α} {form : α → Json}
    {entries : List (String × α)} (h : ∀ e ∈ entries, read (Node.ofJson (form e.2)) = .ok e.2) :
    Node.eachMember read (Node.ofMembers (entries.map fun e => (e.1, form e.2))) =
      .ok entries := by
  induction entries with
  | nil => rfl
  | cons e entries ih =>
    simp only [List.map_cons, Node.ofMembers, Node.eachMember, MemberKey.decode, h e (by simp),
      ih fun f hf => h f (by simp [hf])]
    rfl

theorem reads_dict {read : Depth → Node → Decoded α} {form : α → Json} {dict : Dict String α}
    (h : ∀ e ∈ dict.entries, Reads read form e.2) :
    Reads (fun depth n => n.dict read depth) (ofDict form) dict := by
  intro d hd
  simp only [ofDict, depth] at hd
  have hall : ∀ e ∈ dict.entries, read (some (d - 1)) (Node.ofJson (form e.2)) = .ok e.2 :=
    fun e he => by
      have hle : (form e.2).depth ≤ _ := depth_le_depthOfMembers
        (List.mem_map_of_mem (f := fun e : String × α => (e.1, form e.2)) he)
      exact h e he (d - 1) (by omega)
  simp only [ofDict, Node.ofJson, Node.dict, descend_some (show 0 < d by omega), bind, Except.bind,
    eachMember_ofMembers hall]
  exact congrArg Except.ok (Dict.ofList_entries dict)

theorem reads_texts (dict : Dict String String) : Reads Node.readTexts (ofDict .string) dict :=
  reads_dict fun e _ => reads_text e.2

/-! ## Records -/

/-- The members that give the fields of a list, in their order. -/
def memberNodes (fields : List (Field ρ)) (nodes : List Node) : List (MemberKey × Node) :=
  (fields.zip nodes).map fun x => (.name x.1.name, x.2)

/-- A name finds its field, and no field before it has the name. -/
theorem find?_field {fields done fs : List (Field ρ)} {f : Field ρ}
    (hfields : fields = done ++ f :: fs) (hnames : (fields.map (·.name)).Nodup) :
    f.name ∉ done.map (·.name) ∧ (fields.find? fun g => g.name == f.name) = some f := by
  have hsplit : (done.map (·.name) ++ f.name :: fs.map (·.name)).Nodup := by
    rw [hfields] at hnames
    simpa using hnames
  have hnew : f.name ∉ done.map (·.name) := fun hmem =>
    (List.nodup_append.mp hsplit).2.2 f.name hmem f.name (by simp) rfl
  refine ⟨hnew, ?_⟩
  rw [hfields, List.find?_append, List.find?_eq_none.mpr, Option.none_or,
    List.find?_cons_of_pos (by simp)]
  intro g hg heq
  exact hnew (by simpa using ⟨g, hg, by simpa using heq⟩)

/-- An object that gives all fields in their order is read as the array of their values. The
induction is on the fields that are left; those before them are `done`. -/
theorem ofMembers_eq_ofElements (shape : RecordShape ρ) (depth : Depth) (done : List (Field ρ))
    {fs : List (Field ρ)} (hfields : shape.fields = done ++ fs)
    (hnames : (shape.fields.map (·.name)).Nodup)
    {nodes : List Node} (hlen : nodes.length = fs.length) (r : ρ) :
    shape.ofMembers depth .closed (memberNodes fs nodes) (done.map (·.name)).reverse r =
      RecordShape.ofElements depth .closed fs nodes r := by
  -- by induction on the fields to come; those done were all seen, each once
  induction fs generalizing done nodes r with
  | nil =>
    obtain rfl : nodes = [] := List.eq_nil_of_length_eq_zero hlen
    have hall : (shape.fields.all fun f =>
        !f.required || (done.map (·.name)).reverse.contains f.name) = true := by
      rw [List.all_eq_true, hfields, List.append_nil]
      intro f hf
      simp only [Bool.or_eq_true, List.contains_reverse, List.contains_iff_mem]
      exact .inr (List.mem_map_of_mem hf)
    simp only [memberNodes, List.zip_nil_left, List.map_nil, RecordShape.ofMembers, Ending.check,
      hall, if_true]
    rfl
  | cons f fs ih =>
    cases nodes with
    | nil => simp at hlen
    | cons x xs =>
      obtain ⟨hnew, hfind⟩ := find?_field hfields hnames
      have hseen : (done.map (·.name)).reverse.contains f.name = false := by
        simpa using hnew
      rw [memberNodes, List.zip_cons_cons, List.map_cons, RecordShape.ofMembers,
        RecordShape.ofElements]
      simp only [MemberKey.decode, bind, Except.bind, hfind, hseen, Bool.false_eq_true, if_false]
      cases f.set depth x r with
      | error err => rfl
      | ok s =>
        have hlen' : xs.length = fs.length := by simpa using hlen
        have hrest := ih (done ++ [f]) (by simp [hfields]) hlen' s
        simpa [memberNodes] using hrest

theorem ofMembers_eq_memberNodes {fields : List (Field ρ)} {ms : List (String × Json)}
    (h : fields.map (·.name) = ms.map (·.1)) :
    Node.ofMembers ms = memberNodes fields (ms.map fun m => Node.ofJson m.2) := by
  induction fields generalizing ms with
  | nil =>
    obtain rfl : ms = [] := by simpa using h.symm
    rfl
  | cons f fields ih =>
    cases ms with
    | nil => simp at h
    | cons m ms =>
      obtain ⟨k, v⟩ := m
      simp only [List.map_cons, List.cons.injEq] at h
      simp [Node.ofMembers, memberNodes, h.1, ih h.2]

/-- A record is read back field by field. -/
theorem read_record {shape : RecordShape ρ} {ms : List (String × Json)} {r : ρ}
    (hnames : shape.fields.map (·.name) = ms.map (·.1))
    (hnodup : (shape.fields.map (·.name)).Nodup)
    {d : Nat} (hd : (Json.object ms).depth ≤ d)
    (h : ∀ d, depthOfMembers ms ≤ d →
      RecordShape.ofElements (some d) .closed shape.fields (ms.map fun m => Node.ofJson m.2)
        shape.blank = .ok r) :
    shape.read (some d) (Node.ofJson (.object ms)) = .ok r := by
  rw [depth] at hd
  have hlen : (ms.map fun m => Node.ofJson m.2).length = shape.fields.length := by
    have := congrArg List.length hnames
    simpa using this.symm
  rw [Node.ofJson, RecordShape.read, descend_some (by omega), ofMembers_eq_memberNodes hnames]
  rw [← h (d - 1) (by omega),
    ← ofMembers_eq_ofElements shape (some (d - 1)) [] rfl hnodup hlen]
  rfl

/-- A field that its reader reads is set. -/
theorem ofElements_field {read : Depth → Node → Decoded α} {form : α → Json} {a : α}
    (h : Reads read form a) {d : Nat} (hd : (form a).depth ≤ d) (name : String) (required : Bool)
    (put : α → ρ → ρ) (fs : List (Field ρ)) (xs : List Node) (r : ρ) :
    RecordShape.ofElements (some d) .closed
      (⟨name, required, fun depth n r => (read depth n).map fun a => put a r⟩ :: fs)
        (Node.ofJson (form a) :: xs) r =
      RecordShape.ofElements (some d) .closed fs xs (put a r) := by
  show ((read (some d) (Node.ofJson (form a))).map (put · r)).bind _ = _
  rw [h d hd]
  rfl

end Json

open Json

/-! ## The records of the sections -/

theorem PropertyValue.reads (v : PropertyValue) : Reads PropertyValue.read (·.json) v := by
  intro d hd
  rw [PropertyValue.read, json_ofJson v.json d hd]
  exact congrArg Except.ok (ofJson_json v)

theorem PropertyMap.reads (m : PropertyMap) : Reads PropertyMap.read PropertyMap.toJson m :=
  reads_dict fun e _ => PropertyValue.reads e.2

theorem InboundBinding.reads (b : InboundBinding) : Reads InboundBinding.read toJson b := by
  intro d hd
  refine read_record rfl (by decide) hd fun d h => ?_
  simp only [depthOfMembers, Nat.max_le] at h
  simp only [shape, List.map_cons, List.map_nil, Field.mandatory, Field.optional]
  rw [ofElements_field (reads_text b.key) h.1,
    ofElements_field (reads_text b.type) h.2.1,
    ofElements_field (reads_text? b.configType) h.2.2.1,
    ofElements_field (reads_text? b.friendlyName) h.2.2.2.1,
    ofElements_field (PropertyMap.reads b.properties) h.2.2.2.2.1]
  rfl

theorem LoginStrategy.reads (s : LoginStrategy) :
    Reads LoginStrategy.read (fun s => .string s.label) s := by
  intro d _
  cases s <;> rfl

theorem LocalAuthenticator.reads (a : LocalAuthenticator) :
    Reads LocalAuthenticator.read toJson a := by
  intro d hd
  refine read_record rfl (by decide) hd fun d h => ?_
  simp only [depthOfMembers, Nat.max_le] at h
  simp only [shape, List.map_cons, List.map_nil, Field.mandatory, Field.optional]
  rw [ofElements_field (reads_text a.name) h.1,
    ofElements_field (reads_text? a.displayName) h.2.1,
    ofElements_field (reads_flag a.enabled) h.2.2.1,
    ofElements_field (PropertyMap.reads a.properties) h.2.2.2.1]
  rfl

theorem LoginStep.reads (s : LoginStep) : Reads LoginStep.read toJson s := by
  intro d hd
  refine read_record rfl (by decide) hd fun d h => ?_
  simp only [depthOfMembers, Nat.max_le] at h
  simp only [shape, List.map_cons, List.map_nil, Field.optional]
  rw [ofElements_field (LoginStrategy.reads s.strategy) h.1,
    ofElements_field (reads_list fun a _ => LocalAuthenticator.reads a) h.2.1,
    ofElements_field (reads_textList s.federatedProviders) h.2.2.1]
  rfl

theorem LoginFlow.reads (f : LoginFlow) : Reads LoginFlow.read toJson f := by
  intro d hd
  refine read_record rfl (by decide) hd fun d h => ?_
  simp only [depthOfMembers, Nat.max_le] at h
  simp only [shape, List.map_cons, List.map_nil, Field.optional]
  rw [ofElements_field (reads_list fun s _ => LoginStep.reads s) h.1,
    ofElements_field (reads_flag f.sendAuthenticatedProviders) h.2.1,
    ofElements_field (reads_flag f.useDomainInLocalSubject) h.2.2.1,
    ofElements_field (reads_flag f.useLocalSubject) h.2.2.2.1]
  rfl

theorem OutboundProvisioning.reads (p : OutboundProvisioning) :
    Reads OutboundProvisioning.read toJson p := by
  intro d hd
  refine read_record rfl (by decide) hd fun d h => ?_
  simp only [depthOfMembers, Nat.max_le] at h
  simp only [shape, List.map_cons, List.map_nil, Field.optional]
  rw [ofElements_field (reads_names p.providers) h.1,
    ofElements_field (reads_names p.roles) h.2.1]
  rfl

theorem ApplicationClaims.reads (c : ApplicationClaims) :
    Reads ApplicationClaims.read toJson c := by
  intro d hd
  refine read_record rfl (by decide) hd fun d h => ?_
  simp only [depthOfMembers, Nat.max_le] at h
  simp only [shape, List.map_cons, List.map_nil, Field.optional]
  rw [ofElements_field (reads_flag c.localDialect) h.1,
    ofElements_field (reads_text? c.roleClaim) h.2.1,
    ofElements_field (reads_names c.requestedClaims) h.2.2.1,
    ofElements_field (reads_texts c.mappings) h.2.2.2.1]
  rfl

theorem ApplicationPermissions.reads (p : ApplicationPermissions) :
    Reads ApplicationPermissions.read toJson p := by
  intro d hd
  refine read_record rfl (by decide) hd fun d h => ?_
  simp only [depthOfMembers, Nat.max_le] at h
  simp only [shape, List.map_cons, List.map_nil, Field.optional]
  rw [ofElements_field (reads_names p.permissions) h.1,
    ofElements_field (reads_texts p.roleMappings) h.2.1]
  rfl

namespace Sections

theorem reads (s : Sections) : Reads Sections.read toJson s := by
  intro d hd
  refine read_record rfl (by decide) hd fun d h => ?_
  simp only [depthOfMembers, Nat.max_le] at h
  simp only [shape, List.map_cons, List.map_nil, Field.optional]
  rw [ofElements_field (reads_list fun b _ => InboundBinding.reads b) h.1,
    ofElements_field (LoginFlow.reads s.login) h.2.1,
    ofElements_field (OutboundProvisioning.reads s.provisioning) h.2.2.1,
    ofElements_field (ApplicationClaims.reads s.claims) h.2.2.2.1,
    ofElements_field (ApplicationPermissions.reads s.permissions) h.2.2.2.2.1,
    ofElements_field (PropertyMap.reads s.properties) h.2.2.2.2.2.1]
  rfl

/-- The text of the sections is read back as the sections. -/
def Readable (s : Sections) : Prop := ofText s.text = .ok s

/-- The sections whose document has no doubles and nests no deeper than a reader goes. -/
structure Plain (s : Sections) : Prop where
  doubleFree : s.toJson.DoubleFree
  shallow : s.toJson.depth ≤ PropertyValue.maxDepth

/-- **Sections are read back from their text.** -/
theorem Plain.readable {s : Sections} (h : s.Plain) : s.Readable := by
  rw [Readable, ofText, text, decodeText_compact read h.doubleFree]
  exact reads s PropertyValue.maxDepth h.shallow

theorem plain_empty : ({} : Sections).Plain :=
  ⟨by repeat' first | exact trivial | apply And.intro, by decide +kernel⟩

end Sections

end FederationRegistry
