import FederationRegistry.Proofs.Construction
import FederationRegistry.Proofs.Drafts.Entries

/-!
# In which order drafts are edited

**Theorem (`Draft.order_insensitive`).** Two edits that stand next to each other in a script can be
exchanged if they are about different parts or add to different slots: what is built is the same,
and so is the error if nothing is. Of two adds of one slot the later one counts unless it is
ignored, and what an add leaves in a slot is what the provider has there, whatever came before.

None of this is about validity. Independent edits commute on drafts (`edit_comm`), so scripts that
come from each other by exchanges make the same draft (`edits_of_reordered`), and all that is made
of it afterwards is the same.
-/

namespace FederationRegistry.IdentityProvider.Draft

variable {d : Draft}

/-! ## Exchanges -/

/-- The edits are about different parts, or add to different slots. -/
def Independent (a b : Edit) : Prop :=
  a.parts.Disjoint b.parts ∨
    ∃ xs ys, a.adds? = some xs ∧ b.adds? = some ys ∧ ∀ x ∈ xs, ∀ y ∈ ys, x.slot ≠ y.slot

/-- **Independent edits commute.** -/
theorem edit_comm (d : Draft) {a b : Edit} (h : Independent a b) :
    (d.edit a).edit b = (d.edit b).edit a := by
  rcases h with h | ⟨xs, ys, ha, hb, h⟩
  · exact edit_comm_of_disjoint d h
  · exact edit_comm_of_slots d ha hb h

theorem edits_append (d : Draft) (xs ys : List Edit) :
    d.edits (xs ++ ys) = (d.edits xs).edits ys :=
  List.foldl_append

theorem edits_middle (d : Draft) (before middle after : List Edit) :
    d.edits (before ++ (middle ++ after)) = ((d.edits before).edits middle).edits after := by
  rw [edits_append, edits_append]

/-- The scripts differ by exchanges of independent edits that stand next to each other. -/
inductive Reordered : List Edit → List Edit → Prop
  | refl (script : List Edit) : Reordered script script
  | exchange {before after script : List Edit} {a b : Edit} : Independent a b →
      Reordered (before ++ b :: a :: after) script → Reordered (before ++ a :: b :: after) script

/-- **Reordered scripts make the same draft.** -/
theorem edits_of_reordered (d : Draft) {xs ys : List Edit} (h : Reordered xs ys) :
    d.edits xs = d.edits ys := by
  induction h with
  | refl script => rfl
  | @exchange before after script a b hab _ ih =>
    calc d.edits (before ++ a :: b :: after)
        = (((d.edits before).edit a).edit b).edits after := edits_middle d before [a, b] after
      _ = (((d.edits before).edit b).edit a).edits after := by rw [edit_comm _ hab]
      _ = d.edits (before ++ b :: a :: after) := (edits_middle d before [b, a] after).symm
      _ = d.edits script := ih

/-! ## What stays in a slot -/

/-- The edit leaves the slot as it is: it is about other parts, or adds to other slots. -/
def Edit.Spares (e : Edit) (s : Slot) : Prop :=
  s.part ∉ e.parts ∨ ∃ xs, e.adds? = some xs ∧ ∀ x ∈ xs, x.slot ≠ s

theorem held?_edit_of_spares {e : Edit} {s : Slot} (h : e.Spares s) :
    (d.edit e).held? s = d.held? s := by
  rcases h with h | ⟨xs, hxs, hslot⟩
  · exact held?_congr (part_edit_of_not_mem h)
  · rw [held?_edit d hxs]
    cases hx : last? s xs with
    | none => rfl
    | some x =>
      obtain ⟨hmem, hs⟩ := mem_of_last? hx
      exact absurd hs (hslot x hmem)

theorem held?_edits_of_spares {script : List Edit} {s : Slot} (h : ∀ e ∈ script, e.Spares s) :
    (d.edits script).held? s = d.held? s := by
  induction script generalizing d with
  | nil => rfl
  | cons e script ih =>
    obtain ⟨he, hscript⟩ := List.forall_mem_cons.mp h
    calc (d.edits (e :: script)).held? s = (d.edit e).held? s := ih hscript
      _ = d.held? s := held?_edit_of_spares he

/-- **A provider has the entries of the draft.** -/
theorem held?_of_build {p : IdentityProvider} (h : d.build = .ok p) (s : Slot) :
    p.toDraft.held? s = d.held? s := by
  obtain ⟨variant, -, -, -, -, rfl, -⟩ := build_eq_ok_iff.mp h
  have hget := Authentication.getD_nonempty d.authentication
  cases s with
  | requestedClaim uri => simp only [held?, toDraft, hget]
  | authenticator name => simp only [held?, toDraft, hget]
  | _ => rfl

/-! ## Scripts -/

/-- **Scripts are insensitive to the order of independent edits**, and of adds of one slot only the
last counts. -/
theorem order_insensitive (d : Draft) (before after : List Edit) :
    (∀ a b, Independent a b →
      (d.edits (before ++ a :: b :: after)).build = (d.edits (before ++ b :: a :: after)).build) ∧
    (∀ x y : Entry, x.slot = y.slot →
      (d.edits (before ++ x.add :: y.add :: after)).build =
        (d.edits (before ++ (if y.taken then y else x).add :: after)).build) ∧
    ∀ b ys s p, b.adds? = some ys → (∀ e ∈ after, e.Spares s) →
      (d.edits (before ++ b :: after)).build = .ok p →
        p.toDraft.held? s = (last? s ys).or ((d.edits before).held? s) := by
  refine ⟨fun a b h => ?_, fun x y h => ?_, fun b ys s p hb hafter hbuild => ?_⟩
  · -- neighbours that are independent are exchanged
    rw [edits_of_reordered d (.exchange h (.refl _))]
  · -- of two entries in one slot the later is kept, unless it is not taken at all
    have hadds : d.edits (before ++ x.add :: y.add :: after) =
        d.edits (before ++ (if y.taken then y else x).add :: after) :=
      calc d.edits (before ++ x.add :: y.add :: after)
          = (((d.edits before).edit x.add).edit y.add).edits after :=
            edits_middle d before [x.add, y.add] after
        _ = ((d.edits before).edit (if y.taken then y else x).add).edits after := by
            rw [add_add _ h]
        _ = d.edits (before ++ (if y.taken then y else x).add :: after) :=
            (edits_middle d before [_] after).symm
    rw [hadds]
  · -- the later edits spare the slot, so it holds what it held behind the addition
    calc p.toDraft.held? s = (d.edits (before ++ b :: after)).held? s := held?_of_build hbuild s
      _ = (((d.edits before).edit b).edits after).held? s :=
          congrArg (fun d : Draft => d.held? s) (edits_middle d before [b] after)
      _ = ((d.edits before).edit b).held? s := held?_edits_of_spares hafter
      _ = (last? s ys).or ((d.edits before).held? s) := held?_edit _ hb s

/-- A property. -/
def goldTier : Entry := .property "tier" (.ofJson (.string "gold"))

/-- The same property without a value, which is ignored. -/
def noTier : Entry := .property "tier" (.ofJson .null)

/-- Two claims, and an authenticator of the same section. -/
def claimsAndTotp : Edit × Edit :=
  (.editAuthentication (.addRequestedClaims ["mail", "name"]),
    .editAuthentication (.addAuthenticator .totp))

theorem independent_claimsAndTotp : Independent claimsAndTotp.1 claimsAndTotp.2 :=
  .inr ⟨[.requestedClaim "mail", .requestedClaim "name"], [.authenticator .totp], rfl, rfl,
    by decide⟩

theorem order_insensitive_acme :
    ((federated "acme").edits
        [goldTier.add, claimsAndTotp.1, claimsAndTotp.2, .setHub true]).build =
      ((federated "acme").edits
        [goldTier.add, claimsAndTotp.2, claimsAndTotp.1, .setHub true]).build ∧
    ((federated "acme").edits [.setHub true, goldTier.add, noTier.add]).build =
      ((federated "acme").edits [.setHub true, goldTier.add]).build ∧
    acme.toDraft.held? goldTier.slot = some goldTier := by
  have hbuild : ((federated "acme").edits
      ([noTier.add, .setAuthentication .byTotp] ++ goldTier.add :: [.setHub false])).build =
        .ok acme := by
    decide +kernel
  have hafter : ∀ e ∈ [Edit.setHub false], e.Spares goldTier.slot := by
    simp [Edit.Spares, Edit.parts, goldTier, Entry.slot, Slot.part]
  refine ⟨?_, ?_, ?_⟩
  · exact (order_insensitive (federated "acme") [goldTier.add] [.setHub true]).1 _ _
      independent_claimsAndTotp
  · exact (order_insensitive (federated "acme") [.setHub true] []).2.1 goldTier noTier rfl
  · exact (order_insensitive (federated "acme") [noTier.add, .setAuthentication .byTotp]
      [.setHub false]).2.2 goldTier.add [goldTier] goldTier.slot acme rfl hafter hbuild

end FederationRegistry.IdentityProvider.Draft
