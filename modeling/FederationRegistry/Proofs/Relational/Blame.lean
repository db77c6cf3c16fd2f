import FederationRegistry.Proofs.Relational.Loaded

/-!
# Which failures blame the rows

Where the columns hold what they are declared to hold (`Tables.Typed`), a provider that does not
load fails as corrupt, whatever else its rows hold. Every check of a loader blames the rows, and
chains and traversals of such steps do too.

Main statement: `Tables.blamesRows_loadProvider`.
-/

namespace FederationRegistry

/-! ## Rows by the declared types -/

/-- The columns that may hold any cell hold what they are declared to hold. -/
structure Tables.Typed (t : Tables) : Prop where
  dialects : ∀ row ∈ t.providers.rows.values, row.dialectId.kind = .null ∨
    row.dialectId.kind = .integer
  roles : ∀ key ∈ t.roleMappings.keys, key.2.kind = .integer

namespace Tables.Typed

variable {t : Tables}

theorem dialect (h : t.Typed) {number : Int} {row : ProviderRow}
    (hrow : t.providers.rows.find? number = some row) :
    row.dialectId = .null ∨ ∃ i, row.dialectId = .integer i := by
  have hkind := h.dialects row (Dict.mem_values_iff.mpr ⟨number, hrow⟩)
  cases hcell : row.dialectId <;> simp_all [Cell.kind]

theorem role (h : t.Typed) {number : Int} {role : Cell}
    (hrole : role ∈ (t.roleMappings.slice number).keys) : ∃ i, role = .integer i := by
  obtain ⟨external, hfind⟩ := Dict.mem_keys_iff.mp hrole
  rw [Dict.find?_slice] at hfind
  have hkind := h.roles (number, role) (Dict.mem_keys_iff.mpr ⟨external, hfind⟩)
  cases role <;> simp_all [Cell.kind]

end Tables.Typed

/-! ## Failures that blame the rows -/

/-- Whatever goes wrong, the rows are to blame. -/
def BlamesRows {α : Type} (x : Except StoreError α) : Prop :=
  ∀ err, x = .error err → ∃ c, err = .corrupt c

namespace BlamesRows

variable {α β : Type}

theorem ok (a : α) : BlamesRows (.ok a) := fun _ h => nomatch h

theorem bind {x : Except StoreError α} {f : α → Except StoreError β} (hx : BlamesRows x)
    (hf : ∀ a, BlamesRows (f a)) : BlamesRows (x >>= f) := by
  intro err herr
  cases x with
  | error err' =>
    cases herr
    exact hx err rfl
  | ok a => exact hf a err herr

theorem mapError {ε : Type} (x : Except ε α) (f : ε → Corruption) :
    BlamesRows (x.mapError fun err => .corrupt (f err)) := by
  intro err herr
  cases x with
  | error err' =>
    cases herr
    exact ⟨_, rfl⟩
  | ok a => cases herr

theorem traverse {κ : Type} [Key κ] [DecidableEq κ] {f : κ → α → Except StoreError β}
    {d : Dict κ α} (h : ∀ k v, d.find? k = some v → BlamesRows (f k v)) :
    BlamesRows (d.traverse f) := by
  intro err herr
  obtain ⟨k, v, hk, hfails⟩ := Dict.exists_of_traverse_error herr
  exact h k v hk err hfails

end BlamesRows

namespace Tables

variable {t : Tables} {number : Int} {kind : ConnectorKind}

theorem blamesRows_natural (i : Int) : BlamesRows (natural i) := by
  unfold natural
  split
  · rintro err ⟨⟩
    exact ⟨_, rfl⟩
  · exact .ok _

theorem blamesRows_decodeProperties (texts : Dict String String) :
    BlamesRows (decodeProperties texts) :=
  .traverse fun key text _ => .mapError (PropertyValue.ofText text) fun _ => .propertyText key

theorem blamesRows_decodeRoles {rows : Dict Cell String}
    (h : ∀ role ∈ rows.keys, ∃ i, role = .integer i) : BlamesRows (decodeRoles rows) := by
  refine .bind (.traverse fun role external hrole => ?_) fun _ => .ok _
  obtain ⟨i, rfl⟩ := h role (Dict.mem_keys_iff.mpr ⟨external, hrole⟩)
  exact .bind (.ok i) fun i => .bind (blamesRows_natural i) fun _ => .ok _

theorem blamesRows_loadConnectors (t : Tables) (kind : ConnectorKind) (number : Int) :
    BlamesRows (t.loadConnectors kind number) :=
  .bind (.traverse fun _ _ _ => .bind (blamesRows_decodeProperties _) fun _ => .mapError _ .part)
    fun _ => .ok _

theorem blamesRows_loadProvisioning (t : Tables) (number : Int) :
    BlamesRows (t.loadProvisioning number) :=
  .bind (.traverse fun _ _ _ => .mapError _ .part) fun _ =>
    .bind (blamesRows_loadConnectors t .provisioner number) fun _ => .mapError _ .part

theorem blamesRows_loadAuthentication (t : Tables) (number : Int) :
    BlamesRows (t.loadAuthentication number) := by
  unfold loadAuthentication
  dsimp only
  split
  · exact .ok _
  · exact .bind (blamesRows_loadConnectors t .authenticator number) fun _ =>
      .bind (.mapError _ .part) fun _ => .ok _

theorem blamesRows_loadDialect (dialectId : Option Int) (isLocal : Bool) :
    BlamesRows (loadDialect dialectId isLocal) := by
  cases dialectId with
  | none => exact .ok _
  | some i => exact .bind (blamesRows_natural i) fun _ => .ok _

theorem blamesRows_ofRowNumber {e : Entity} (number : Int) :
    BlamesRows (Id.ofRowNumber (e := e) number) := by
  unfold Id.ofRowNumber
  split
  · rintro err ⟨⟩
    exact ⟨_, rfl⟩
  · split
    · exact .ok _
    · rintro err ⟨⟩
      exact ⟨_, rfl⟩

/-- A provider whose rows are of the declared types loads, or its rows are corrupt. -/
theorem blamesRows_loadProvider (h : t.Typed) (number : Int) :
    BlamesRows (t.loadProvider number) := by
  unfold loadProvider
  cases hrow : t.providers.rows.find? number with
  | none => exact .ok _
  | some row =>
    have hdialect : BlamesRows (integerIn? 5 "claim_dialect_id" row.dialectId) := by
      rcases h.dialect hrow with hnull | ⟨i, hi⟩
      · rw [hnull]
        exact .ok _
      · rw [hi]
        exact .ok _
    have hdraft : BlamesRows (t.loadDraft number row) :=
      .bind hdialect fun _ => .bind (blamesRows_decodeRoles fun _ => h.role) fun _ =>
        .bind (blamesRows_loadProvisioning t number) fun _ =>
        .bind (blamesRows_decodeProperties _) fun _ => .bind (blamesRows_loadDialect _ _) fun _ =>
        .bind (blamesRows_loadAuthentication t number) fun _ => .ok _
    exact .bind hdraft fun _ => .bind (.mapError _ (.aggregate .identityProvider number)) fun _ =>
      .bind (blamesRows_ofRowNumber number) fun _ => .ok _

end Tables

end FederationRegistry
