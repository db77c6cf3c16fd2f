import FederationRegistry.Proofs.Json.Depth
import FederationRegistry.Proofs.ServiceProvider.ReadBack

/-!
# Sections that nest too deep

A service provider keeps its properties inside one document, whose own arrays and objects count
towards the limit. A reader is *strict* about a form when it gives a value for the node of the form
only under a limit that the form stays within (`Strict`), whatever the value. Readers of
collections and of records are strict where the readers of their parts are, since they read every
part that a writer gives.

Main statement: `Sections.readable_iff`.
-/

namespace FederationRegistry

namespace Json

/-- The reader gives a value for the node of the form only within the limit. -/
def Strict {α : Type} (read : Depth → Node → Decoded α) (form : α → Json) (a : α) : Prop :=
  ∀ d b, read (some d) (Node.ofJson (form a)) = .ok b → (form a).depth ≤ d

variable {α ρ : Type}

/-! ## Scalars and collections -/

/-- Forms without arrays and objects stay within every limit. -/
theorem strict_of_depth {read : Depth → Node → Decoded α} {form : α → Json} {a : α}
    (h : (form a).depth = 0) : Strict read form a :=
  fun d _ _ => h ▸ Nat.zero_le d

theorem strict_text (read : Depth → Node → Decoded String) (s : String) :
    Strict read .string s :=
  strict_of_depth rfl

theorem strict_flag (read : Depth → Node → Decoded Bool) (b : Bool) : Strict read .bool b :=
  strict_of_depth rfl

theorem strict_text? (s : Option String) : Strict Node.readText? ofText? s :=
  strict_of_depth (by cases s <;> rfl)

theorem each_eq_ok {read : Node → Decoded α} {form : α → Json} {as bs : List α}
    (h : Node.each read (Node.ofElements (as.map form)) = .ok bs) :
    ∀ a ∈ as, ∃ b, read (Node.ofJson (form a)) = .ok b := by
  induction as generalizing bs with
  | nil => simp
  | cons a as ih =>
    simp only [List.map_cons, Node.ofElements, Node.each, except_bind_eq_ok_iff] at h
    obtain ⟨b, hb, rest, hrest, -⟩ := h
    exact List.forall_mem_cons.mpr ⟨⟨b, hb⟩, ih hrest⟩

theorem strict_list {read : Depth → Node → Decoded α} {form : α → Json} {as : List α}
    (h : ∀ a ∈ as, Strict read form a) :
    Strict (fun depth n => n.list read depth) (ofList form) as := by
  intro d bs hread
  simp only [ofList, Node.ofJson, Node.list, except_bind_eq_ok_iff] at hread
  obtain ⟨inside, hinside, out, hout, -⟩ := hread
  obtain ⟨n, rfl, rfl⟩ := descend_eq_ok_iff.mp hinside
  refine Nat.succ_le_succ (depthOfElements_le_iff.mpr fun x hx => ?_)
  obtain ⟨a, ha, rfl⟩ := List.mem_map.mp hx
  obtain ⟨b, hb⟩ := each_eq_ok hout a ha
  exact h a ha n b hb

theorem strict_textList (texts : List String) :
    Strict (fun depth n => n.list Node.readText depth) ofTexts texts :=
  strict_list fun _ _ => strict_of_depth rfl

theorem strict_names (s : KeySet String) : Strict Node.readNames ofNames s := by
  intro d names hread
  obtain ⟨texts, htexts, -⟩ := except_map_eq_ok_iff.mp hread
  exact strict_textList s.keys d texts htexts

theorem eachMember_eq_ok {read : Node → Decoded α} {form : α → Json}
    {entries out : List (String × α)}
    (h : Node.eachMember read (Node.ofMembers (entries.map fun e => (e.1, form e.2))) = .ok out) :
    ∀ e ∈ entries, ∃ b, read (Node.ofJson (form e.2)) = .ok b := by
  induction entries generalizing out with
  | nil => simp
  | cons e entries ih =>
    simp only [List.map_cons, Node.ofMembers, Node.eachMember, except_bind_eq_ok_iff] at h
    obtain ⟨k, -, b, hb, rest, hrest, -⟩ := h
    exact List.forall_mem_cons.mpr ⟨⟨b, hb⟩, ih hrest⟩

theorem strict_dict {read : Depth → Node → Decoded α} {form : α → Json} {dict : Dict String α}
    (h : ∀ e ∈ dict.entries, Strict read form e.2) :
    Strict (fun depth n => n.dict read depth) (ofDict form) dict := by
  intro d out hread
  simp only [ofDict, Node.ofJson, Node.dict, except_bind_eq_ok_iff] at hread
  obtain ⟨inside, hinside, members, hmembers, -⟩ := hread
  obtain ⟨n, rfl, rfl⟩ := descend_eq_ok_iff.mp hinside
  refine Nat.succ_le_succ (depthOfMembers_le_iff.mpr fun m hm => ?_)
  obtain ⟨e, he, rfl⟩ := List.mem_map.mp hm
  obtain ⟨b, hb⟩ := eachMember_eq_ok hmembers e he
  exact h e he n b hb

theorem strict_texts (dict : Dict String String) : Strict Node.readTexts (ofDict .string) dict :=
  strict_dict fun _ _ => strict_of_depth rfl

/-! ## Records -/

/-- A record that is read has been read field by field, below the limit. -/
theorem read_record_eq_ok {shape : RecordShape ρ} {ms : List (String × Json)} {r : ρ}
    (hnames : shape.fields.map (·.name) = ms.map (·.1))
    (hnodup : (shape.fields.map (·.name)).Nodup) {d : Nat}
    (h : shape.read (some d) (Node.ofJson (.object ms)) = .ok r) :
    ∃ n, d = n + 1 ∧
      RecordShape.ofElements (some n) .closed shape.fields (ms.map fun m => Node.ofJson m.2)
        shape.blank = .ok r := by
  rw [Node.ofJson, RecordShape.read, except_bind_eq_ok_iff] at h
  obtain ⟨inside, hinside, hmembers⟩ := h
  obtain ⟨n, rfl, rfl⟩ := descend_eq_ok_iff.mp hinside
  have hlen : (ms.map fun m => Node.ofJson m.2).length = shape.fields.length := by
    have := congrArg List.length hnames
    simpa using this.symm
  refine ⟨n, rfl, ?_⟩
  rw [← ofMembers_eq_ofElements shape (some n) [] rfl hnodup hlen,
    ← ofMembers_eq_memberNodes hnames]
  exact hmembers

/-- A field that was read has been read by its reader, and the rest behind it. -/
theorem ofElements_field_eq_ok {read : Depth → Node → Decoded α} {form : α → Json} {a : α}
    (hstrict : Strict read form a) {n : Nat} {name : String} {required : Bool}
    {put : α → ρ → ρ} {fs : List (Field ρ)} {xs : List Node} {r out : ρ}
    (h : RecordShape.ofElements (some n) .closed
      (⟨name, required, fun depth n r => (read depth n).map fun a => put a r⟩ :: fs)
        (Node.ofJson (form a) :: xs) r = .ok out) :
    (form a).depth ≤ n ∧
      ∃ next, RecordShape.ofElements (some n) .closed fs xs next = .ok out := by
  rw [RecordShape.ofElements, except_bind_eq_ok_iff] at h
  obtain ⟨next, hnext, hrest⟩ := h
  obtain ⟨b, hb, rfl⟩ := except_map_eq_ok_iff.mp hnext
  exact ⟨hstrict n b hb, _, hrest⟩

end Json

open Json

/-! ## The records of the sections -/

theorem PropertyValue.strict (v : PropertyValue) : Strict PropertyValue.read (·.json) v := by
  intro d w hread
  by_contra hlt
  rw [PropertyValue.read, json_ofJson_of_lt v.json d (Nat.lt_of_not_le hlt)] at hread
  cases hread

theorem PropertyMap.strict (m : PropertyMap) : Strict PropertyMap.read PropertyMap.toJson m :=
  strict_dict fun e _ => PropertyValue.strict e.2

theorem InboundBinding.strict (b : InboundBinding) : Strict InboundBinding.read toJson b := by
  intro d out hread
  obtain ⟨n, rfl, h⟩ := read_record_eq_ok (by rfl) (by decide) hread
  simp only [shape, List.map_cons, List.map_nil, Field.mandatory, Field.optional] at h
  obtain ⟨hkey, _, h⟩ := ofElements_field_eq_ok (strict_text _ b.key) h
  obtain ⟨htype, _, h⟩ := ofElements_field_eq_ok (strict_text _ b.type) h
  obtain ⟨hconfig, _, h⟩ := ofElements_field_eq_ok (strict_text? b.configType) h
  obtain ⟨hfriendly, _, h⟩ := ofElements_field_eq_ok (strict_text? b.friendlyName) h
  obtain ⟨hproperties, -⟩ := ofElements_field_eq_ok (PropertyMap.strict b.properties) h
  simp only [toJson, depth, depthOfMembers]
  omega

theorem LocalAuthenticator.strict (a : LocalAuthenticator) :
    Strict LocalAuthenticator.read toJson a := by
  intro d out hread
  obtain ⟨n, rfl, h⟩ := read_record_eq_ok (by rfl) (by decide) hread
  simp only [shape, List.map_cons, List.map_nil, Field.mandatory, Field.optional] at h
  obtain ⟨hname, _, h⟩ := ofElements_field_eq_ok (strict_text _ a.name) h
  obtain ⟨hdisplay, _, h⟩ := ofElements_field_eq_ok (strict_text? a.displayName) h
  obtain ⟨henabled, _, h⟩ := ofElements_field_eq_ok (strict_flag _ a.enabled) h
  obtain ⟨hproperties, -⟩ := ofElements_field_eq_ok (PropertyMap.strict a.properties) h
  simp only [toJson, depth, depthOfMembers]
  omega

theorem LoginStep.strict (s : LoginStep) : Strict LoginStep.read toJson s := by
  intro d out hread
  obtain ⟨n, rfl, h⟩ := read_record_eq_ok (by rfl) (by decide) hread
  simp only [shape, List.map_cons, List.map_nil, Field.optional] at h
  have hlabel : Strict LoginStrategy.read (fun s => .string s.label) s.strategy :=
    strict_of_depth rfl
  obtain ⟨hstrategy, _, h⟩ := ofElements_field_eq_ok hlabel h
  obtain ⟨hlocal, _, h⟩ :=
    ofElements_field_eq_ok (strict_list fun a _ => LocalAuthenticator.strict a) h
  obtain ⟨hfederated, -⟩ := ofElements_field_eq_ok (strict_textList s.federatedProviders) h
  simp only [toJson, depth, depthOfMembers]
  omega

theorem LoginFlow.strict (f : LoginFlow) : Strict LoginFlow.read toJson f := by
  intro d out hread
  obtain ⟨n, rfl, h⟩ := read_record_eq_ok (by rfl) (by decide) hread
  simp only [shape, List.map_cons, List.map_nil, Field.optional] at h
  obtain ⟨hsteps, _, h⟩ := ofElements_field_eq_ok (strict_list fun s _ => LoginStep.strict s) h
  simp only [toJson, depth, depthOfMembers]
  omega

theorem OutboundProvisioning.strict (p : OutboundProvisioning) :
    Strict OutboundProvisioning.read toJson p := by
  intro d out hread
  obtain ⟨n, rfl, h⟩ := read_record_eq_ok (by rfl) (by decide) hread
  simp only [shape, List.map_cons, List.map_nil, Field.optional] at h
  obtain ⟨hproviders, _, h⟩ := ofElements_field_eq_ok (strict_names p.providers) h
  obtain ⟨hroles, -⟩ := ofElements_field_eq_ok (strict_names p.roles) h
  simp only [toJson, depth, depthOfMembers]
  omega

theorem ApplicationClaims.strict (c : ApplicationClaims) :
    Strict ApplicationClaims.read toJson c := by
  intro d out hread
  obtain ⟨n, rfl, h⟩ := read_record_eq_ok (by rfl) (by decide) hread
  simp only [shape, List.map_cons, List.map_nil, Field.optional] at h
  obtain ⟨hlocal, _, h⟩ := ofElements_field_eq_ok (strict_flag _ c.localDialect) h
  obtain ⟨hrole, _, h⟩ := ofElements_field_eq_ok (strict_text? c.roleClaim) h
  obtain ⟨hrequested, _, h⟩ := ofElements_field_eq_ok (strict_names c.requestedClaims) h
  obtain ⟨hmappings, -⟩ := ofElements_field_eq_ok (strict_texts c.mappings) h
  simp only [toJson, depth, depthOfMembers]
  omega

theorem ApplicationPermissions.strict (p : ApplicationPermissions) :
    Strict ApplicationPermissions.read toJson p := by
  intro d out hread
  obtain ⟨n, rfl, h⟩ := read_record_eq_ok (by rfl) (by decide) hread
  simp only [shape, List.map_cons, List.map_nil, Field.optional] at h
  obtain ⟨hpermissions, _, h⟩ := ofElements_field_eq_ok (strict_names p.permissions) h
  obtain ⟨hmappings, -⟩ := ofElements_field_eq_ok (strict_texts p.roleMappings) h
  simp only [toJson, depth, depthOfMembers]
  omega

namespace Sections

theorem strict (s : Sections) : Strict Sections.read toJson s := by
  intro d out hread
  obtain ⟨n, rfl, h⟩ := read_record_eq_ok (by rfl) (by decide) hread
  simp only [shape, List.map_cons, List.map_nil, Field.optional] at h
  obtain ⟨hinbound, _, h⟩ :=
    ofElements_field_eq_ok (strict_list fun b _ => InboundBinding.strict b) h
  obtain ⟨hlogin, _, h⟩ := ofElements_field_eq_ok (LoginFlow.strict s.login) h
  obtain ⟨hprovisioning, _, h⟩ :=
    ofElements_field_eq_ok (OutboundProvisioning.strict s.provisioning) h
  obtain ⟨hclaims, _, h⟩ := ofElements_field_eq_ok (ApplicationClaims.strict s.claims) h
  obtain ⟨hpermissions, _, h⟩ :=
    ofElements_field_eq_ok (ApplicationPermissions.strict s.permissions) h
  obtain ⟨hproperties, -⟩ := ofElements_field_eq_ok (PropertyMap.strict s.properties) h
  simp only [toJson, depth, depthOfMembers]
  omega

/-- The text of a document that nests too deep stands for nothing. -/
theorem depth_of_ofText {s out : Sections} (hs : s.toJson.DoubleFree)
    (h : ofText s.text = .ok out) : s.toJson.depth ≤ PropertyValue.maxDepth := by
  rw [ofText, text, decodeText_compact read hs] at h
  exact strict s PropertyValue.maxDepth out h

/-- **Sections without doubles are read back exactly when their document nests no deeper than a
reader goes.** -/
theorem readable_iff {s : Sections} (hs : s.toJson.DoubleFree) :
    s.Readable ↔ s.toJson.depth ≤ PropertyValue.maxDepth :=
  ⟨depth_of_ofText hs, fun h => Plain.readable ⟨hs, h⟩⟩

end Sections

end FederationRegistry
