import BranchGuard.Proofs.ListsAsSets
import BranchGuard.Proofs.RemainingDrift

/-!
# Drift as a comparison

Two records agree on a policy field if they hold the same opinion or count there, or lists with the
same members (`Desired.AgreesOn`).  The drift between them has one entry for each field on which
they do not agree, in the order of the fields (`entries_between`), and this is all there is to it:
it depends on nothing but the policy, turns around with the records, and is empty for records of
one policy only (`between_compares_policies`).
-/

namespace BranchGuard

namespace Desired

variable {first second : Desired} {field : PolicyField}

/-- The records hold the same in a policy field, where of a list only the set of its texts counts. -/
def AgreesOn (first second : Desired) : PolicyField → Prop
  | .allowances list => SameMembers (first.allowances.get list) (second.allowances.get list)
  | .flag flag => first.flags.get flag = second.flags.get flag
  | .reviewCount => first.reviewCount = second.reviewCount
  | .contexts => SameMembers first.contexts second.contexts

instance (first second : Desired) : DecidablePred (first.AgreesOn second)
  | .allowances list =>
    inferInstanceAs (Decidable (SameMembers (first.allowances.get list) (second.allowances.get list)))
  | .flag flag => inferInstanceAs (Decidable (first.flags.get flag = second.flags.get flag))
  | .reviewCount => inferInstanceAs (Decidable (first.reviewCount = second.reviewCount))
  | .contexts => inferInstanceAs (Decidable (SameMembers first.contexts second.contexts))

/-- Records show the same in a field exactly if they agree on it. -/
theorem view_eq_iff : first.view field = second.view field ↔ first.AgreesOn second field := by
  cases field with
  | allowances list =>
      rw [view, view, FieldView.set.injEq, Text.canonical_eq_iff]
      rfl
  | flag flag =>
      rw [view, view, FieldView.opinion.injEq]
      rfl
  | reviewCount =>
      rw [view, view, FieldView.count.injEq]
      rfl
  | contexts =>
      rw [view, view, FieldView.set.injEq, Text.canonical_eq_iff]
      rfl

theorem agreesOn_comm : first.AgreesOn second field ↔ second.AgreesOn first field := by
  rw [← view_eq_iff, ← view_eq_iff]
  exact eq_comm

/-- The policy of the record for the pattern, owner and repository of another one. -/
def transferredTo (desired subject : Desired) : Desired :=
  { desired with
    pattern := subject.pattern
    owner := subject.owner
    repository := subject.repository
    repositoryId := subject.repositoryId }

end Desired

/-- The entry seen from the other side. -/
def DriftEntry.swap (entry : DriftEntry) : DriftEntry :=
  ⟨entry.field, entry.current, entry.desired⟩

namespace Drift

open PolicyField (all)

variable {first second subject other : Desired}

/-- The drift has one entry for each field on which the records do not agree. -/
theorem entries_between :
    (between first second).entries =
      (all.filter fun field => ¬ first.AgreesOn second field).map fun field =>
        ⟨field, first.view field, second.view field⟩ := by
  rw [between, ← List.filterMap_eq_map, List.filterMap_filter]
  apply List.filterMap_congr
  intro field _
  simp only [difference?, Desired.view_eq_iff, Function.comp_apply, decide_not]
  by_cases agrees : first.AgreesOn second field <;> simp [agrees]

theorem nodup_names_all : (all.map PolicyField.name).Nodup := by
  decide

/-- No field is named twice, since the fields come from a list in which none is. -/
theorem nodup_names_between :
    ((between first second).entries.map fun entry => entry.field.name).Nodup := by
  rw [entries_between, List.map_map]
  exact nodup_names_all.sublist (List.filter_sublist.map _)

theorem contains_between_iff_not_agreesOn {field : PolicyField} :
    (between first second).contains field.name = true ↔ ¬ first.AgreesOn second field := by
  rw [contains_between_iff, ne_eq, Desired.view_eq_iff]

theorem exists_name_of_contains {drift : Drift} {name : String}
    (named : drift.contains name = true) : ∃ field : PolicyField, field.name = name := by
  rcases List.any_eq_true.mp named with ⟨entry, -, sameName⟩
  exact ⟨entry.field, beq_iff_eq.mp sameName⟩

theorem entries_between_swap :
    (between second first).entries = (between first second).entries.map DriftEntry.swap := by
  rw [entries_between, entries_between, List.map_map]
  have sameFields : (all.filter fun field => ¬ second.AgreesOn first field) =
      all.filter fun field => ¬ first.AgreesOn second field := by
    apply List.filter_congr
    intro field _
    exact decide_eq_decide.mpr (not_congr Desired.agreesOn_comm)
  rw [sameFields]
  rfl

/-- What a record shows of its policy is not about where it applies. -/
theorem between_transferredTo :
    between (first.transferredTo subject) (second.transferredTo other) = between first second := by
  have sameView (desired about : Desired) (field : PolicyField) :
      (desired.transferredTo about).view field = desired.view field := by
    cases field <;> rfl
  have sameDifference : difference? (first.transferredTo subject) (second.transferredTo other) =
      difference? first second := by
    funext field
    rw [difference?, difference?, sameView, sameView]
  rw [between, between, sameDifference]

/-- Having no drift between them is being seen the same in every field. -/
theorem equivalence_isEmpty_between :
    Equivalence fun first second => (between first second).isEmpty = true := by
  simp only [isEmpty_between_iff]
  exact {
    refl := fun _ _ => rfl
    symm := fun same field => (same field).symm
    trans := fun same next field => (same field).trans (next field) }

/--
The drift between two records is a comparison of their policies.

It has an entry for each policy field on which they do not agree, in the order of the fields and
with what each of them shows there.  It names these fields, each of them once, and nothing else.  It
is empty if and only if it is empty in words.  From the other side it has the same entries, turned
around.  To have no drift between them is an equivalence of records, and no drift depends on the
patterns, owners and repositories that the records are about.
-/
theorem between_compares_policies (first second : Desired) :
    (between first second).entries =
        (all.filter fun field => ¬ first.AgreesOn second field).map (fun field =>
          ⟨field, first.view field, second.view field⟩) ∧
      ((between first second).entries.map fun entry => entry.field.name).Nodup ∧
      (∀ field : PolicyField,
        (between first second).contains field.name = true ↔ ¬ first.AgreesOn second field) ∧
      (∀ name, (between first second).contains name = true →
        ∃ field : PolicyField, field.name = name) ∧
      ((between first second).isEmpty = true ↔ (between first second).text = "") ∧
      (between second first).entries = (between first second).entries.map DriftEntry.swap ∧
      (Equivalence fun desired current => (between desired current).isEmpty = true) ∧
      ∀ subject other,
        between (first.transferredTo subject) (second.transferredTo other) =
          between first second := by
  refine ⟨entries_between, nodup_names_between, ?_, ?_, text_eq_empty_iff.symm,
    entries_between_swap, equivalence_isEmpty_between, ?_⟩
  · intro field
    exact contains_between_iff_not_agreesOn
  · intro name
    exact exists_name_of_contains
  · intro subject other
    exact between_transferredTo

end Drift

end BranchGuard
