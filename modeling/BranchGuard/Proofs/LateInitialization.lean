import BranchGuard.Drift.Overlay
import Mathlib.Data.List.Sort

/-!
# Late initialization and drift

Late initialization fills a rule from its own overlay, and filling does not change the overlay
(`overlay_lateInitialize`).  So one pass is enough: what is still open afterwards is open in the
overlay as well (`lateFields_lateInitialize`), and a second pass changes nothing.

What is seen of a rule that was filled in is the overlay where the caller had left a field open and
the caller's own value where it was set (`view_fillFrom`).  The drift after late initialization is
therefore the drift before it, restricted to the fields that the caller had set
(`entries_against_lateInitialize`).
-/

namespace BranchGuard

namespace Text

theorem mem_insertSorted {text member : String} {texts : List String} :
    member ∈ insertSorted text texts ↔ member = text ∨ member ∈ texts := by
  induction texts with
  | nil => simp [insertSorted]
  | cons first rest ih =>
      simp only [insertSorted]
      split
      · simp
      · split
        next isFirst => simp [isFirst]
        next => simp [ih, or_left_comm]

/-- The canonical list holds the same texts. -/
@[simp]
theorem mem_canonical {member : String} {texts : List String} :
    member ∈ canonical texts ↔ member ∈ texts := by
  induction texts with
  | nil => simp [canonical]
  | cons text rest ih =>
      change member ∈ insertSorted text (canonical rest) ↔ member ∈ text :: rest
      rw [mem_insertSorted, ih, List.mem_cons]

/-- Texts with one canonical list are texts of both lists or of neither. -/
theorem mem_iff_of_canonical_eq {first second : List String}
    (same : canonical first = canonical second) (member : String) :
    member ∈ first ↔ member ∈ second := by
  rw [← mem_canonical, same, mem_canonical]

theorem pairwise_insertSorted {text : String} {texts : List String}
    (ascending : texts.Pairwise (· < ·)) : (insertSorted text texts).Pairwise (· < ·) := by
  induction texts with
  | nil => exact List.pairwise_singleton _ _
  | cons first rest ih =>
      rcases List.pairwise_cons.mp ascending with ⟨isFirst, ascendingRest⟩
      simp only [insertSorted]
      split
      next before =>
        refine List.pairwise_cons.mpr ⟨?_, ascending⟩
        intro other member
        rcases List.mem_cons.mp member with rfl | member
        · exact before
        · exact String.lt_trans before (isFirst other member)
      next notBefore =>
        split
        next => exact ascending
        next differs =>
          refine List.pairwise_cons.mpr ⟨?_, ih ascendingRest⟩
          intro other member
          rcases mem_insertSorted.mp member with rfl | member
          · have below : first ≤ other := String.not_lt.mp notBefore
            have notBelow : ¬ other ≤ first := fun above =>
              differs (String.le_antisymm above below)
            exact String.not_le.mp notBelow
          · exact isFirst other member

theorem pairwise_canonical (texts : List String) : (canonical texts).Pairwise (· < ·) := by
  induction texts with
  | nil => exact List.Pairwise.nil
  | cons text rest ih => exact pairwise_insertSorted ih

/-- Two lists have one canonical list if and only if they hold the same texts. -/
theorem canonical_eq_iff {first second : List String} :
    canonical first = canonical second ↔ ∀ text, text ∈ first ↔ text ∈ second := by
  refine ⟨mem_iff_of_canonical_eq, ?_⟩
  intro same
  have irreflexive : Std.Irrefl (α := String) (· < ·) := ⟨String.lt_irrefl⟩
  have asymmetric : Std.Asymm (α := String) (· < ·) := ⟨fun _ _ => String.lt_asymm⟩
  apply (pairwise_canonical first).eq_of_mem_iff (pairwise_canonical second)
  intro text
  rw [mem_canonical, mem_canonical, same]

end Text

namespace Opinion

@[simp]
theorem orElse_self (opinion : Opinion) : opinion.orElse opinion = opinion := by
  cases opinion <;> rfl

@[simp]
theorem isSet_orElse (first second : Opinion) :
    (first.orElse second).isSet = (first.isSet || second.isSet) := by
  cases first <;> rfl

theorem orElse_of_isSet {first : Opinion} (isSet : first.isSet) (second : Opinion) :
    first.orElse second = first := by
  simp [orElse, isSet]

theorem orElse_of_not_isSet {first : Opinion} (notSet : first.isSet = false)
    (second : Opinion) :
    first.orElse second = second := by
  simp [orElse, notSet]

theorem eq_unset_of_not_isSet {opinion : Opinion} (notSet : opinion.isSet = false) :
    opinion = .unset := by
  cases opinion <;> simp_all [isSet]

end Opinion

namespace PolicyField

@[simp]
theorem mem_all (field : PolicyField) : field ∈ all := by
  cases field with
  | allowances list => cases list <;> decide
  | flag flag => cases flag <;> decide
  | reviewCount => decide
  | contexts => decide

end PolicyField

namespace Desired

variable (desired current : Desired) (observed : Observed)

/-! ## Filling one rule from another -/

/-- Filling in keeps what was set and takes the rest from the other rule. -/
theorem view_fillFrom (field : PolicyField) :
    (desired.fillFrom current).view field =
      if desired.leavesOpen field then current.view field else desired.view field := by
  cases field with
  | allowances list =>
      by_cases isOpen : desired.allowances.get list = [] <;>
        simp [view, fillFrom, leavesOpen, isOpen]
  | flag flag =>
      cases isSet : (desired.flags.get flag).isSet <;>
        simp [view, fillFrom, leavesOpen, Opinion.orElse, isSet]
  | reviewCount =>
      cases count : desired.reviewCount <;>
        simp [view, fillFrom, leavesOpen, count]
  | contexts =>
      by_cases isOpen : desired.contexts = [] <;>
        simp [view, fillFrom, leavesOpen, isOpen]

/-- A field is still open after filling in if both rules leave it open. -/
theorem leavesOpen_fillFrom (field : PolicyField) :
    (desired.fillFrom current).leavesOpen field =
      (desired.leavesOpen field && current.leavesOpen field) := by
  cases field with
  | allowances list =>
      simp only [fillFrom, leavesOpen, Allowances.get_ofFn]
      split <;> simp_all
  | flag flag =>
      simp [fillFrom, leavesOpen]
  | reviewCount =>
      simp only [fillFrom, leavesOpen]
      cases desired.reviewCount <;> rfl
  | contexts =>
      simp only [fillFrom, leavesOpen]
      split <;> simp_all

/-- Filling in twice from the same rule is filling in once. -/
theorem fillFrom_fillFrom :
    (desired.fillFrom current).fillFrom current = desired.fillFrom current := by
  unfold fillFrom
  congr 1
  · ext list : 1
    simp only [Allowances.get_ofFn]
    split <;> simp_all
  · ext flag : 1
    simp only [Flags.get_ofFn, Opinion.orElse]
    cases isSet : (desired.flags.get flag).isSet <;> simp [isSet]
  · cases desired.reviewCount <;> simp
  · split <;> simp_all

/-- A rule with nothing to be filled in stays as it is. -/
theorem fillFrom_of_filledFields_nil (nothing : desired.filledFields current = []) :
    desired.fillFrom current = desired := by
  have bothOpen (field : PolicyField) (isOpen : desired.leavesOpen field) :
      current.leavesOpen field := by
    have notFilled := List.filter_eq_nil_iff.mp nothing field (PolicyField.mem_all field)
    simpa [isOpen] using notFilled
  unfold fillFrom
  congr 1
  · ext list : 1
    have isEmpty := bothOpen (.allowances list)
    simp only [leavesOpen, List.isEmpty_iff] at isEmpty
    simp only [Allowances.get_ofFn, List.isEmpty_iff]
    split
    next none => rw [isEmpty none, none]
    next => rfl
  · ext flag : 1
    have isUnset := bothOpen (.flag flag)
    simp only [leavesOpen, Bool.not_eq_true'] at isUnset
    rw [Flags.get_ofFn]
    cases isSet : (desired.flags.get flag).isSet with
    | true => exact Opinion.orElse_of_isSet isSet _
    | false =>
        rw [Opinion.orElse_of_not_isSet isSet,
          Opinion.eq_unset_of_not_isSet (isUnset isSet),
          Opinion.eq_unset_of_not_isSet isSet]
  · have isNone := bothOpen .reviewCount
    simp only [leavesOpen, Option.isNone_iff_eq_none] at isNone
    cases count : desired.reviewCount with
    | none => rw [isNone count, Option.none_or]
    | some value => rfl
  · have isEmpty := bothOpen .contexts
    simp only [leavesOpen, List.isEmpty_iff] at isEmpty
    simp only [List.isEmpty_iff]
    split
    next none => rw [isEmpty none, none]
    next => rfl

/-! ## One pass of late initialization -/

/-- Late initialization does not change what the rule would have to say. -/
theorem overlay_lateInitialize :
    (desired.lateInitialize observed).overlay observed = desired.overlay observed := by
  unfold lateInitialize fillFrom overlay
  congr 1
  · ext list : 1
    simp only [Allowances.get_ofFn]
    cases observed.allowances.get list <;> simp
  · ext flag : 1
    simp only [Flags.get_ofFn, Opinion.orElse]
    cases (observed.flags.get flag).isSet <;> simp
  · cases observed.reviewCount <;> simp
  · cases observed.contexts <;> simp

theorem lateInitialize_lateInitialize :
    (desired.lateInitialize observed).lateInitialize observed =
      desired.lateInitialize observed := by
  rw [lateInitialize, overlay_lateInitialize, lateInitialize, fillFrom_fillFrom]

/-- Nothing is left for a second pass. -/
theorem lateFields_lateInitialize :
    (desired.lateInitialize observed).lateFields observed = [] := by
  rw [lateFields, overlay_lateInitialize, filledFields, List.filter_eq_nil_iff]
  intro field _
  rw [lateInitialize, leavesOpen_fillFrom]
  cases (desired.overlay observed).leavesOpen field <;> simp

theorem isLateInitialized_lateInitialize :
    (desired.lateInitialize observed).isLateInitialized observed = false := by
  rw [isLateInitialized, lateFields_lateInitialize]
  rfl

/-- A rule that late initialization does not report as changed is not changed. -/
theorem lateInitialize_of_not_isLateInitialized
    (nothing : desired.isLateInitialized observed = false) :
    desired.lateInitialize observed = desired := by
  apply fillFrom_of_filledFields_nil
  simpa [isLateInitialized, lateFields] using nothing

/-- What late initialization reports is whether it changes the rule. -/
theorem isLateInitialized_iff :
    desired.isLateInitialized observed ↔ desired.lateInitialize observed ≠ desired := by
  constructor
  · intro filled same
    have nothing := isLateInitialized_lateInitialize desired observed
    rw [same, filled] at nothing
    cases nothing
  · intro changed
    by_contra notFilled
    apply changed
    apply lateInitialize_of_not_isLateInitialized
    simpa using notFilled

end Desired

/-! ## Drift after late initialization -/

namespace Drift

variable {desired current : Desired} {observed : Observed} {field : PolicyField}

theorem field_of_difference? {entry : DriftEntry}
    (found : difference? desired current field = some entry) : entry.field = field := by
  simp only [difference?] at found
  split at found
  · simp at found
  · cases Option.some.inj found
    rfl

theorem mem_between {entry : DriftEntry} :
    entry ∈ (between desired current).entries ↔
      desired.view entry.field ≠ current.view entry.field ∧
        entry = ⟨entry.field, desired.view entry.field, current.view entry.field⟩ := by
  simp only [between, List.mem_filterMap, PolicyField.mem_all, true_and, difference?]
  constructor
  · rintro ⟨field, found⟩
    split at found
    · simp at found
    next differs =>
      cases Option.some.inj found
      exact ⟨differs, rfl⟩
  · rintro ⟨differs, isEntry⟩
    exact ⟨entry.field, by rw [if_neg differs, ← isEntry]⟩

/-- A drift without entries: the two rules show the same everywhere. -/
theorem isEmpty_between_iff :
    (between desired current).isEmpty ↔
      ∀ field, desired.view field = current.view field := by
  rw [isEmpty, List.isEmpty_iff, between, List.filterMap_eq_nil_iff]
  constructor
  · intro noEntry field
    have absent := noEntry field (PolicyField.mem_all field)
    simp only [difference?] at absent
    split at absent
    next same => exact same
    next => simp at absent
  · intro same field _
    rw [difference?, if_pos (same field)]

/-- The drift in words is empty if the drift is. -/
theorem text_of_isEmpty {drift : Drift} (isEmpty : drift.isEmpty) : drift.text = "" := by
  rw [Drift.isEmpty, List.isEmpty_iff] at isEmpty
  rw [text, isEmpty]
  rfl

theorem entry_text_ne_empty (entry : DriftEntry) : entry.text ≠ "" := by
  simp [DriftEntry.text]

/-- The drift in words is empty only if the drift is. -/
theorem text_eq_empty_iff {drift : Drift} : drift.text = "" ↔ drift.isEmpty := by
  refine ⟨?_, text_of_isEmpty⟩
  intro silent
  rw [Drift.isEmpty, List.isEmpty_iff]
  cases found : drift.entries with
  | nil => rfl
  | cons entry rest =>
      rw [text, found, List.map_cons] at silent
      cases rest with
      | nil =>
          rw [List.map_nil, String.intercalate_singleton] at silent
          exact absurd silent (entry_text_ne_empty entry)
      | cons next rest =>
          rw [List.map_cons, String.intercalate_cons_cons, String.append_eq_empty_iff,
            String.append_eq_empty_iff] at silent
          exact absurd silent.1.1 (entry_text_ne_empty entry)

/-- A field that was filled in differs no more, and the others differ as before. -/
theorem difference?_fillFrom (field : PolicyField) :
    difference? (desired.fillFrom current) current field =
      if desired.leavesOpen field then none else difference? desired current field := by
  simp only [difference?, Desired.view_fillFrom]
  cases desired.leavesOpen field <;> simp

/--
The drift after late initialization is the drift before it, without the fields that the caller
had left open.
-/
theorem entries_against_lateInitialize (desired : Desired) (observed : Observed) :
    (against (desired.lateInitialize observed) observed).entries =
      (against desired observed).entries.filter fun entry =>
        !desired.leavesOpen entry.field := by
  rw [against, Desired.overlay_lateInitialize, Desired.lateInitialize, between, against, between,
    List.filter_filterMap]
  apply List.filterMap_congr
  intro field _
  rw [difference?_fillFrom]
  cases found : difference? desired (desired.overlay observed) field with
  | none => simp
  | some entry =>
      cases isOpen : desired.leavesOpen field <;>
        simp [Option.filter, field_of_difference? found, isOpen]

end Drift

end BranchGuard
