import BranchGuard.Proofs.CoherentObservations

/-!
# The drift that late initialization leaves

An observed rule contradicts a record in a policy field if it reports the field and holds another
value there (`Desired.Contradicts`): another opinion, another count, or other texts, where only the
set of the texts counts.  Of the fields that a record has set, exactly those in which it is
contradicted are drift (`differs_overlay_iff`), and of those that it leaves open, exactly those that
late initialization fills in (`differs_overlay_iff_filled`).

Late initialization therefore leaves the caller's own disagreement and nothing else
(`drift_after_lateInitialize`).
-/

namespace BranchGuard

theorem PolicyField.name_injective : Function.Injective PolicyField.name := by
  have distinct : ∀ first ∈ all, ∀ second ∈ all, name first = name second → first = second := by
    decide
  intro first second sameName
  exact distinct first (mem_all first) second (mem_all second) sameName

/-- The observed rule reports the policy field with another value than the record has. -/
def Desired.Contradicts (observed : Observed) (desired : Desired) : PolicyField → Prop
  | .allowances list =>
    ∃ actors, observed.allowances.get list = some actors ∧
      ¬ ∀ reference, reference ∈ desired.allowances.get list ↔
        reference ∈ normalizeActors desired.owner actors
  | .flag flag =>
    (observed.flags.get flag).isSet ∧ desired.flags.get flag ≠ observed.flags.get flag
  | .reviewCount => ∃ count, observed.reviewCount = some count ∧ desired.reviewCount ≠ some count
  | .contexts =>
    ∃ contexts, observed.contexts = some contexts ∧
      ¬ ∀ context, context ∈ desired.contexts ↔ context ∈ contexts

namespace Desired

variable {desired : Desired} {observed : Observed} {field : PolicyField}

/-! ## A record and its overlay -/

/-- A record differs from its overlay where the observed rule contradicts it. -/
theorem differs_overlay_iff :
    desired.view field ≠ (desired.overlay observed).view field ↔
      desired.Contradicts observed field := by
  cases field with
  | allowances list =>
      rw [Contradicts, view, view, ne_eq, FieldView.set.injEq, Text.canonical_eq_iff]
      cases reported : observed.allowances.get list with
      | none => simp [overlay, reported]
      | some actors => simp [overlay, reported]
  | flag flag =>
      rw [Contradicts, view, view, ne_eq, FieldView.opinion.injEq, overlay, Flags.get_ofFn]
      cases reported : (observed.flags.get flag).isSet with
      | false => simp [Opinion.orElse_of_not_isSet reported]
      | true => simp [Opinion.orElse_of_isSet reported]
  | reviewCount =>
      rw [Contradicts, view, view, ne_eq, FieldView.count.injEq]
      cases reported : observed.reviewCount with
      | none => simp [overlay, reported]
      | some count => simp [overlay, reported]
  | contexts =>
      rw [Contradicts, view, view, ne_eq, FieldView.set.injEq, Text.canonical_eq_iff]
      cases reported : observed.contexts with
      | none => simp [overlay, reported]
      | some contexts => simp [overlay, reported]

/-- Two rules of which one leaves a field open differ there if the other does not. -/
theorem differs_iff_of_leavesOpen {current : Desired} (isOpen : desired.leavesOpen field = true) :
    desired.view field ≠ current.view field ↔ current.leavesOpen field = false := by
  cases field with
  | allowances list =>
      have isEmpty : desired.allowances.get list = [] := List.isEmpty_iff.mp isOpen
      rw [view, view, ne_eq, FieldView.set.injEq, Text.canonical_eq_iff, isEmpty, leavesOpen]
      simp [List.eq_nil_iff_forall_not_mem]
  | flag flag =>
      have isUnset : desired.flags.get flag = .unset :=
        Opinion.eq_unset_of_not_isSet (by simpa [leavesOpen] using isOpen)
      rw [view, view, isUnset, leavesOpen]
      cases current.flags.get flag <;> simp [Opinion.isSet]
  | reviewCount =>
      have isNone : desired.reviewCount = none := Option.isNone_iff_eq_none.mp isOpen
      rw [view, view, isNone, leavesOpen]
      cases current.reviewCount <;> simp
  | contexts =>
      have isEmpty : desired.contexts = [] := List.isEmpty_iff.mp isOpen
      rw [view, view, ne_eq, FieldView.set.injEq, Text.canonical_eq_iff, isEmpty, leavesOpen]
      simp [List.eq_nil_iff_forall_not_mem]

/-- An open field is drift if late initialization fills it in. -/
theorem differs_overlay_iff_filled (isOpen : desired.leavesOpen field = true) :
    desired.view field ≠ (desired.overlay observed).view field ↔
      field ∈ desired.lateFields observed := by
  rw [differs_iff_of_leavesOpen isOpen, lateFields, filledFields, List.mem_filter]
  simp [isOpen]

end Desired

namespace Drift

variable {desired current : Desired} {observed : Observed} {field : PolicyField}

/-- A drift names a field if it has an entry for it. -/
theorem contains_name_iff {drift : Drift} :
    drift.contains field.name = true ↔ ∃ entry ∈ drift.entries, entry.field = field := by
  rw [contains, List.any_eq_true]
  constructor
  · rintro ⟨entry, member, sameName⟩
    exact ⟨entry, member, PolicyField.name_injective (beq_iff_eq.mp sameName)⟩
  · rintro ⟨entry, member, rfl⟩
    exact ⟨entry, member, beq_self_eq_true _⟩

theorem contains_between_iff :
    (between desired current).contains field.name = true ↔
      desired.view field ≠ current.view field := by
  rw [contains_name_iff]
  constructor
  · rintro ⟨entry, member, rfl⟩
    exact (mem_between.mp member).1
  · intro differs
    exact ⟨⟨field, desired.view field, current.view field⟩, mem_between.mpr ⟨differs, rfl⟩, rfl⟩

/-- What is drift after late initialization was set by the caller and is contradicted. -/
theorem contains_against_lateInitialize_iff :
    (against (desired.lateInitialize observed) observed).contains field.name = true ↔
      desired.leavesOpen field = false ∧ desired.Contradicts observed field := by
  rw [against, Desired.overlay_lateInitialize, contains_between_iff, Desired.lateInitialize,
    Desired.view_fillFrom]
  cases isOpen : desired.leavesOpen field with
  | true => simp
  | false => simp [Desired.differs_overlay_iff]

/-- The drift gets shorter if there is an open field in it. -/
theorem length_lateInitialize_lt_iff :
    (against (desired.lateInitialize observed) observed).entries.length <
        (against desired observed).entries.length ↔
      desired.isLateInitialized observed = true := by
  rw [entries_against_lateInitialize, List.length_filter_lt_length_iff_exists,
    Desired.isLateInitialized, Bool.not_eq_true', List.isEmpty_eq_false_iff_exists_mem]
  constructor
  · rintro ⟨entry, member, isOpen⟩
    have isOpen : desired.leavesOpen entry.field = true := by simpa using isOpen
    exact ⟨entry.field, (Desired.differs_overlay_iff_filled isOpen).mp (mem_between.mp member).1⟩
  · rintro ⟨field, filled⟩
    have isOpen : desired.leavesOpen field = true := by
      have both := (List.mem_filter.mp filled).2
      exact (Bool.and_eq_true_iff.mp both).1
    have differs := (Desired.differs_overlay_iff_filled isOpen).mpr filled
    refine ⟨⟨field, desired.view field, (desired.overlay observed).view field⟩, ?_, ?_⟩
    · exact mem_between.mpr ⟨differs, rfl⟩
    · simp [isOpen]

/--
After late initialization the drift is exactly the caller's own disagreement.

Its entries are the former ones, in their order, for the fields that the caller had set, and it names
a field if and only if the caller had set it and the observed rule contradicts it there.  Late
initialization is reported if and only if it changes the record, and if and only if the drift gets
shorter.  It keeps all that was set, and what the record is about.
-/
theorem drift_after_lateInitialize (desired : Desired) (observed : Observed) :
    (against (desired.lateInitialize observed) observed).entries =
        (against desired observed).entries.filter (fun entry =>
          !desired.leavesOpen entry.field) ∧
      (∀ field : PolicyField,
        (against (desired.lateInitialize observed) observed).contains field.name = true ↔
          desired.leavesOpen field = false ∧ desired.Contradicts observed field) ∧
      (desired.isLateInitialized observed = true ↔ desired.lateInitialize observed ≠ desired) ∧
      (desired.isLateInitialized observed = true ↔
        (against (desired.lateInitialize observed) observed).entries.length <
          (against desired observed).entries.length) ∧
      (desired.lateInitialize observed).Retains desired ∧
      (desired.lateInitialize observed).repositoryId = desired.repositoryId := by
  refine ⟨entries_against_lateInitialize desired observed, ?_, ?_, ?_, ?_, rfl⟩
  · intro field
    exact contains_against_lateInitialize_iff
  · exact Desired.isLateInitialized_iff desired observed
  · exact length_lateInitialize_lt_iff.symm
  · exact Desired.retains_lateInitialize desired observed

end Drift

end BranchGuard
