import FederationRegistry.Proofs.Validity

/-!
# Rules in order

A validator goes through rules in some order and reports the first that is broken. Here the rules
are a list: each says when it holds and how it is reported, and their order is the order of the
reports. A check *enforces* a list of rules when it passes exactly if all of them hold, and
otherwise fails with the report of the first broken one (`FirstBroken`).

**Composition.** Checks one after the other enforce their rules one after the other
(`Enforces.bind`), where the second may rely on the first having passed. A check of every member of
a list enforces the rules of the members, in the order of the list (`Enforces.requireAll`). A check
that is known to pass enforces nothing (`Enforces.of_ok`).
-/

namespace FederationRegistry

/-- A rule of the model. -/
structure Rule where
  holds : Prop
  /-- What is reported when the rule is broken. -/
  report : ModelError

namespace Rule

/-- A text is not blank. -/
def text (field : ModelField) (s : String) : Rule := ⟨Text.isBlank s = false, .blank field⟩

/-- An identifier of another registry is in range. -/
def referenceId (field : ModelField) (n : Nat) : Rule :=
  ⟨n ≤ maxReferenceId, .beyondRange field n⟩

end Rule

/-- All rules in front of a broken one hold, and the error is its report. -/
def FirstBroken (rules : List Rule) (err : ModelError) : Prop :=
  ∃ before r after, rules = before ++ r :: after ∧ (∀ q ∈ before, q.holds) ∧ ¬r.holds ∧
    err = r.report

section FirstBroken

variable {r : Rule} {rules rs ss : List Rule} {err : ModelError}

theorem not_firstBroken_nil : ¬FirstBroken [] err := by
  rintro ⟨before, r, after, hsplit, -⟩
  simp at hsplit

theorem firstBroken_cons :
    FirstBroken (r :: rules) err ↔
      (¬r.holds ∧ err = r.report) ∨ (r.holds ∧ FirstBroken rules err) := by
  constructor
  · rintro ⟨before, q, after, hsplit, hbefore, hq, herr⟩
    cases before with
    | nil =>
      obtain ⟨rfl, -⟩ := List.cons.inj hsplit
      exact .inl ⟨hq, herr⟩
    | cons p before =>
      obtain ⟨rfl, hrest⟩ := List.cons.inj hsplit
      obtain ⟨hr, hbefore⟩ := List.forall_mem_cons.mp hbefore
      exact .inr ⟨hr, before, q, after, hrest, hbefore, hq, herr⟩
  · rintro (⟨hr, herr⟩ | ⟨hr, before, q, after, rfl, hbefore, hq, herr⟩)
    · exact ⟨[], r, rules, rfl, List.forall_mem_nil _, hr, herr⟩
    · exact ⟨r :: before, q, after, rfl, List.forall_mem_cons.mpr ⟨hr, hbefore⟩, hq, herr⟩

theorem firstBroken_append :
    FirstBroken (rs ++ ss) err ↔
      FirstBroken rs err ∨ ((∀ r ∈ rs, r.holds) ∧ FirstBroken ss err) := by
  induction rs with
  | nil => simp [not_firstBroken_nil]
  | cons r rs ih =>
    rw [List.cons_append, firstBroken_cons, firstBroken_cons, ih, List.forall_mem_cons]
    by_cases hr : r.holds <;> simp [hr]

/-- Where a rule is broken, not all hold. -/
theorem FirstBroken.not_all (h : FirstBroken rules err) : ¬∀ r ∈ rules, r.holds := by
  obtain ⟨before, r, after, rfl, -, hr, -⟩ := h
  intro hall
  exact hr (hall r (by simp))

end FirstBroken

/-- The check passes exactly if all rules hold, and otherwise reports the first broken one. -/
structure Enforces {α : Type} (check : Checked α) (rules : List Rule) : Prop where
  passes : (∃ a, check = .ok a) ↔ ∀ r ∈ rules, r.holds
  reports : ∀ err, check = .error err ↔ FirstBroken rules err

namespace Enforces

variable {α β : Type} {rules rs ss : List Rule}

/-- A check without a value passes in one way only. -/
theorem ok_iff {check : Checked Unit} (h : Enforces check rules) :
    check = .ok () ↔ ∀ r ∈ rules, r.holds := by
  rw [← h.passes]
  constructor
  · intro hok
    exact ⟨(), hok⟩
  · rintro ⟨⟨⟩, hok⟩
    exact hok

/-- A check that passes, with rules that hold. -/
theorem of_holds {check : Checked α} {a : α} (h : check = .ok a) (hrules : ∀ r ∈ rules, r.holds) :
    Enforces check rules := by
  subst h
  refine ⟨⟨fun _ => hrules, fun _ => ⟨a, rfl⟩⟩, fun err => ⟨?_, fun hbroken => ?_⟩⟩
  · intro heq
    cases heq
  · exact absurd hrules hbroken.not_all

theorem of_ok {check : Checked α} {a : α} (h : check = .ok a) : Enforces check [] :=
  of_holds h (List.forall_mem_nil _)

/-- A rule that refuses at once when it is broken, in front of others. -/
theorem guard {c : Prop} [Decidable c] {r : Rule} {next : Checked α} (hc : c ↔ ¬r.holds)
    (hnext : r.holds → Enforces next ss) :
    Enforces (if c then .error r.report else next) (r :: ss) := by
  by_cases hr : r.holds
  · have hss := hnext hr
    rw [if_neg fun h => hc.mp h hr]
    exact ⟨by simp [hss.passes, hr], fun err => by simp [hss.reports, firstBroken_cons, hr]⟩
  · rw [if_pos (hc.mpr hr)]
    exact ⟨by simp [hr], fun err => by simp [firstBroken_cons, hr, eq_comm]⟩

/-- Checks one after the other. -/
theorem bind {check : Checked α} {next : α → Checked β} (h : Enforces check rs)
    (hnext : ∀ a, check = .ok a → Enforces (next a) ss) : Enforces (check >>= next) (rs ++ ss) := by
  cases hcheck : check with
  | error e =>
    rw [hcheck] at h
    -- the first check fails: its rule is the first broken one of all, and the second is not made
    have hbroken : FirstBroken rs e := (h.reports e).mp rfl
    refine ⟨⟨?_, fun hall => ?_⟩, fun err => ?_⟩
    · rintro ⟨b, hb⟩
      cases hb
    · exact absurd (fun r hr => hall r (List.mem_append_left ss hr)) hbroken.not_all
    · rw [firstBroken_append, ← h.reports err]
      constructor
      · intro heq
        cases heq
        exact .inl rfl
      · rintro (heq | ⟨hall, -⟩)
        · cases heq
          rfl
        · exact absurd hall hbroken.not_all
  | ok a =>
    -- all rules of the first check hold, so the first broken one is among the others
    have hrs : ∀ r ∈ rs, r.holds := h.passes.mp ⟨a, hcheck⟩
    have hss := hnext a hcheck
    refine ⟨?_, fun err => ?_⟩
    · rw [List.forall_mem_append, ← hss.passes]
      exact ⟨fun hpass => ⟨hrs, hpass⟩, fun hpass => hpass.2⟩
    · rw [firstBroken_append]
      change next a = .error err ↔ _
      rw [hss.reports err]
      constructor
      · intro hbroken
        exact .inr ⟨hrs, hbroken⟩
      · rintro (hbroken | ⟨-, hbroken⟩)
        · exact absurd hrs hbroken.not_all
        · exact hbroken

/-- What is made of the value afterwards breaks no rule. -/
theorem map {check : Checked α} (h : Enforces check rules) (f : α → β) :
    Enforces (check.map f) rules := by
  have hbind : Enforces (check >>= fun a => .ok (f a)) (rules ++ []) :=
    h.bind fun a _ => of_ok rfl
  rw [List.append_nil] at hbind
  cases check <;> exact hbind

/-- Every member of a list is checked. -/
theorem requireAll {rule : α → Checked Unit} {rulesOf : α → List Rule} {as : List α}
    (h : ∀ a ∈ as, Enforces (rule a) (rulesOf a)) :
    Enforces (requireAll rule as) (as.flatMap rulesOf) := by
  induction as with
  | nil => exact of_ok rfl
  | cons a as ih =>
    obtain ⟨ha, has⟩ := List.forall_mem_cons.mp h
    have hstep : FederationRegistry.requireAll rule (a :: as) =
        (rule a >>= fun _ => FederationRegistry.requireAll rule as) := by
      rw [FederationRegistry.requireAll]
      cases rule a <;> rfl
    rw [hstep, List.flatMap_cons]
    exact ha.bind fun _ _ => ih has

theorem requireText (field : ModelField) (s : String) :
    Enforces (requireText field s) [.text field s] :=
  guard (r := .text field s) (by simp [Rule.text]) fun _ => of_ok rfl

theorem requireReferenceId (field : ModelField) (n : Nat) :
    Enforces (requireReferenceId field n) [.referenceId field n] :=
  guard (r := .referenceId field n) (by simp [Rule.referenceId]) fun _ => of_ok rfl

/-- Every text of a list is checked. -/
theorem requireTexts (field : ModelField) (ss : List String) :
    Enforces (FederationRegistry.requireAll (FederationRegistry.requireText field) ss)
      (ss.map (.text field)) := by
  rw [List.map_eq_flatMap]
  exact requireAll fun s _ => requireText field s

end Enforces

end FederationRegistry
