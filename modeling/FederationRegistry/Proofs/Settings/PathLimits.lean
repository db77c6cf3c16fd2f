import FederationRegistry.Settings

/-!
# What the limits of a path measure

Paths are checked in two places, for a store and for a document or an audit file, and both measure
the components of a path. Components leave out empty segments and single dots, and have the root
besides. What is left out is at most one byte long, as is the root, so slashes and dots hide
nothing that is too long.

**Theorem (`checked_by_runs`).** A path is accepted by the text as it stands: by its length and by
the length of each *run* between its slashes. A path of a file that is not blank is therefore
accepted in one place exactly when it is in the other.

A run is a piece of the text without slashes that cannot be made longer, which says nothing of how
segments are found. The segments are the runs (`mem_segments_iff`), and components and segments
differ in short pieces only (`mem_segments_of_mem_components`, `mem_components_of_mem_segments`).
-/

namespace FederationRegistry

namespace Path

/-! ## Runs -/

/-- A piece of a text that has no slash in it and a slash or an end of the text on either side. -/
def IsRun (text run : List Char) : Prop :=
  '/' ∉ run ∧ ∃ before after, text = before ++ run ++ after ∧
    (before = [] ∨ ∃ front, before = front ++ ['/']) ∧ (after = [] ∨ ∃ rest, after = '/' :: rest)

theorem segments_eq_splitOnP (cs : List Char) : segments cs = cs.splitOnP (· == '/') := by
  induction cs with
  | nil => rfl
  | cons c cs ih =>
    rw [segments, List.splitOnP_cons_eq_if_modifyHead, ih]
    by_cases hc : c = '/'
    · simp [hc]
    · obtain ⟨s, ss, hs⟩ := List.exists_cons_of_ne_nil (List.splitOnP_ne_nil (· == '/') cs)
      simp [hc, hs]

theorem beq_slash_eq_false {run : List Char} (h : '/' ∉ run) : ∀ c ∈ run, (c == '/') = false :=
  fun _ hc => beq_eq_false_iff_ne.mpr fun e => h (e ▸ hc)

theorem segments_of_notMem {run : List Char} (h : '/' ∉ run) : segments run = [run] := by
  rw [segments_eq_splitOnP, List.splitOnP_eq_singleton (beq_slash_eq_false h)]

theorem segments_append_slash (front rest : List Char) :
    segments (front ++ '/' :: rest) = segments front ++ segments rest := by
  simp only [segments_eq_splitOnP]
  exact List.splitOnP_append_cons front rest rfl

theorem mem_segments_of_isRun {text run : List Char} (h : IsRun text run) :
    run ∈ segments text := by
  obtain ⟨hrun, before, after, rfl, hbefore, hafter⟩ := h
  have hafter' : run ∈ segments (run ++ after) := by
    rcases hafter with rfl | ⟨rest, rfl⟩
    · simp [segments_of_notMem hrun]
    · simp [segments_append_slash, segments_of_notMem hrun]
  rcases hbefore with rfl | ⟨front, rfl⟩
  · exact hafter'
  · simpa [segments_append_slash] using Or.inr hafter'

/-- The run that a text starts with. -/
theorem isRun_head {run rest : List Char} (h : '/' ∉ run) : IsRun (run ++ '/' :: rest) run :=
  ⟨h, [], '/' :: rest, by simp, .inl rfl, .inr ⟨rest, rfl⟩⟩

/-- A run after a slash is a run of the whole text. -/
theorem IsRun.append_left {rest run : List Char} (h : IsRun rest run) (front : List Char) :
    IsRun (front ++ '/' :: rest) run := by
  obtain ⟨hrun, before, after, rfl, hbefore, hafter⟩ := h
  refine ⟨hrun, front ++ '/' :: before, after, by simp, .inr ?_, hafter⟩
  rcases hbefore with rfl | ⟨start, rfl⟩
  · exact ⟨front, rfl⟩
  · exact ⟨front ++ '/' :: start, by simp⟩

/-- By induction on the length of the text, which is cut at its first slash. -/
theorem isRun_of_mem_segments {text run : List Char} (h : run ∈ segments text) :
    IsRun text run := by
  by_cases hslash : '/' ∈ text
  · obtain ⟨first, rest, rfl, hfirst⟩ := List.eq_append_cons_of_mem hslash
    rw [segments_append_slash, segments_of_notMem hfirst] at h
    rcases List.mem_cons.mp h with rfl | h
    · exact isRun_head hfirst
    · exact (isRun_of_mem_segments h).append_left first
  · rw [segments_of_notMem hslash, List.mem_singleton] at h
    subst h
    exact ⟨hslash, [], [], by simp, .inl rfl, .inl rfl⟩
termination_by text.length
decreasing_by subst_vars; simp; omega

/-- The segments of a text are its runs. -/
theorem mem_segments_iff {text run : List Char} : run ∈ segments text ↔ IsRun text run :=
  ⟨isRun_of_mem_segments, mem_segments_of_isRun⟩

/-! ## Components -/

/-- A piece that is short enough for a component. -/
def IsShort (piece : List Char) : Prop :=
  (String.ofList piece).utf8ByteSize ≤ maxSegmentLength

instance (piece : List Char) : Decidable (IsShort piece) :=
  inferInstanceAs (Decidable (_ ≤ _))

theorem isShort_of_not_isStep {segment : List Char} (h : isStep segment = false) :
    IsShort segment := by
  have hskip : segment = [] ∨ segment = ['.'] := by
    simpa [isStep, Decidable.or_iff_not_imp_left] using h
  rcases hskip with rfl | rfl <;> decide

/-- A component is a segment or the root. -/
theorem mem_segments_of_mem_components {path : String} {c : List Char} (h : c ∈ components path) :
    c ∈ segments path.toList ∨ c = ['/'] := by
  unfold components at h
  split at h
  · next cs hroot =>
    rw [hroot, segments, if_pos rfl]
    rcases List.mem_cons.mp h with rfl | h
    · exact .inr rfl
    · exact .inl (List.mem_cons_of_mem _ (List.mem_filter.mp h).1)
  · split at h
    · next hdot =>
      rw [hdot]
      rcases List.mem_cons.mp h with rfl | h
      · exact .inl List.mem_cons_self
      · exact .inl (List.mem_cons_of_mem _ (List.mem_filter.mp h).1)
    · exact .inl (List.mem_filter.mp h).1

/-- A segment that says something about the way is a component. -/
theorem mem_components_of_mem_segments {path : String} {c : List Char}
    (h : c ∈ segments path.toList) (hstep : isStep c) : c ∈ components path := by
  unfold components
  split
  · next cs hroot =>
    rw [hroot, segments, if_pos rfl] at h
    rcases List.mem_cons.mp h with rfl | h
    · cases hstep
    · exact List.mem_cons_of_mem _ (List.mem_filter.mpr ⟨h, hstep⟩)
  · split
    · next hdot =>
      rw [hdot] at h
      rcases List.mem_cons.mp h with rfl | h
      · cases hstep
      · exact List.mem_cons_of_mem _ (List.mem_filter.mpr ⟨h, hstep⟩)
    · exact List.mem_filter.mpr ⟨h, hstep⟩

theorem isLong_eq_false_iff {path : String} :
    isLong path = false ↔ path.utf8ByteSize ≤ maxLength := by
  simp [isLong]

/-- No component is too long exactly when no run of the text is. -/
theorem hasLongComponent_eq_false_iff {path : String} :
    hasLongComponent path = false ↔ ∀ run, IsRun path.toList run → IsShort run := by
  have hall : hasLongComponent path = false ↔ ∀ c ∈ components path, IsShort c := by
    simp [hasLongComponent, IsShort]
  rw [hall]
  constructor
  · intro h run hrun
    cases hstep : isStep run with
    | true => exact h run (mem_components_of_mem_segments (mem_segments_iff.mpr hrun) hstep)
    | false => exact isShort_of_not_isStep hstep
  · intro h c hc
    rcases mem_segments_of_mem_components hc with hc | rfl
    · exact h c (mem_segments_iff.mp hc)
    · decide

end Path

/-! ## The two checks -/

theorem StoreSettings.checkPath_eq_ok_iff (isDirectory : String → Bool) (path : String) :
    StoreSettings.checkPath isDirectory path = .ok () ↔
      path ≠ "" ∧ Path.isLong path = false ∧ Path.hasLongComponent path = false ∧
        isDirectory path = false := by
  rw [StoreSettings.checkPath]
  by_cases hempty : path = ""
  · simp [hempty]
  · cases Path.isLong path <;> cases Path.hasLongComponent path <;> cases isDirectory path <;>
      simp [hempty]

theorem checkPath_eq_ok_iff (role : PathRole) (path : String) :
    checkPath role path = .ok () ↔
      Text.isBlank path = false ∧ Path.isLong path = false ∧
        Path.hasLongComponent path = false := by
  rw [checkPath]
  cases Text.isBlank path <;> cases Path.isLong path <;> cases Path.hasLongComponent path <;> simp

/-- **What the checks measure.** A store accepts a path that is not empty, within the limits as a
text, and not one of a directory. A document and an audit file accept a path that is not blank and
within the same limits. The two agree on every path that is not blank and not of a directory,
whatever slashes and dots are in it. -/
theorem checked_by_runs (isDirectory : String → Bool) (role : PathRole) (path : String) :
    (StoreSettings.checkPath isDirectory path = .ok () ↔
      path ≠ "" ∧ path.utf8ByteSize ≤ 4096 ∧
        (∀ run, Path.IsRun path.toList run → (String.ofList run).utf8ByteSize ≤ 255) ∧
        isDirectory path = false) ∧
    (checkPath role path = .ok () ↔
      Text.isBlank path = false ∧ path.utf8ByteSize ≤ 4096 ∧
        ∀ run, Path.IsRun path.toList run → (String.ofList run).utf8ByteSize ≤ 255) ∧
    (Text.isBlank path = false → isDirectory path = false →
      (StoreSettings.checkPath isDirectory path = .ok () ↔ checkPath role path = .ok ())) := by
  have hstore := StoreSettings.checkPath_eq_ok_iff isDirectory path
  have hrole := checkPath_eq_ok_iff role path
  rw [Path.isLong_eq_false_iff, Path.hasLongComponent_eq_false_iff] at hstore hrole
  refine ⟨hstore, hrole, fun hblank hfile => ?_⟩
  have hne : path ≠ "" := by
    rintro rfl
    cases hblank
  rw [hstore, hrole]
  exact ⟨fun h => ⟨hblank, h.2.1, h.2.2.1⟩, fun h => ⟨hne, h.2.1, h.2.2, hfile⟩⟩

/-- Both checks accept a path with an empty segment and with dots. -/
theorem dotted_path_accepted :
    checkPath .audit "/var//./lib/../registry.db" = .ok () ∧
      StoreSettings.checkPath (fun _ => false) "/var//./lib/../registry.db" = .ok () := by
  have haudit : checkPath .audit "/var//./lib/../registry.db" = .ok () :=
    (checkPath_eq_ok_iff _ _).mpr (by decide +kernel)
  have hagree := checked_by_runs (fun _ => false) .audit "/var//./lib/../registry.db"
  exact ⟨haudit, (hagree.2.2 (by decide +kernel) rfl).mpr haudit⟩

end FederationRegistry
