import BranchGuard.Proofs.LateInitialization

/-!
# First opinions

A record may be late-initialized from one observed rule after the other
(`Desired.lateInitializeAll`).  Each policy field then has the first value that is present among the
record's own and the reported ones in their order (`Desired.FirstOpinions`): what was decided once
is never taken from a later report.

The proof is the same for every field.  One pass takes the first value present among the field and
its report (`flag_lateInitialize` and its kin), and such choices compose (`firstPresent_append`), so
that one induction over the reports serves all fields (`value_lateInitializeAll`).  A pass that
reports a change closes an open field, and no field is opened again, which bounds the number of
such passes (`count_lateReports_add_le`).
-/

namespace BranchGuard

/-! ## The first value that is present -/

section FirstPresent

variable {α : Type} [DecidableEq α] {absent value : α} {first rest : List α}

/-- The first of the values that is not `absent`, or else `absent`. -/
def firstPresent (absent : α) (values : List α) : α :=
  (values.find? fun value => value ≠ absent).getD absent

theorem firstPresent_cons_absent :
    firstPresent absent (absent :: rest) = firstPresent absent rest := by
  simp [firstPresent]

theorem firstPresent_cons_of_ne (isPresent : value ≠ absent) :
    firstPresent absent (value :: rest) = value := by
  simp [firstPresent, isPresent]

theorem firstPresent_singleton : firstPresent absent [value] = value := by
  by_cases isAbsent : value = absent
  · rw [isAbsent, firstPresent_cons_absent]
    rfl
  · exact firstPresent_cons_of_ne isAbsent

/-- The first value of a part may stand for the whole part. -/
theorem firstPresent_append :
    firstPresent absent (firstPresent absent first :: rest) =
      firstPresent absent (first ++ rest) := by
  induction first with
  | nil => exact firstPresent_cons_absent
  | cons value first ih =>
      rw [List.cons_append]
      by_cases isAbsent : value = absent
      · rw [isAbsent, firstPresent_cons_absent, ih, firstPresent_cons_absent]
      · rw [firstPresent_cons_of_ne isAbsent, firstPresent_cons_of_ne isAbsent,
          firstPresent_cons_of_ne isAbsent]

end FirstPresent

namespace Desired

/-! ## Passes in a row -/

/-- The record after late initialization from each of the observed rules in turn. -/
def lateInitializeAll (desired : Desired) (rules : List Observed) : Desired :=
  rules.foldl lateInitialize desired

/-- What each pass of such a late initialization reports. -/
def lateReports (desired : Desired) : List Observed → List Bool
  | [] => []
  | observed :: rest =>
    desired.isLateInitialized observed :: (desired.lateInitialize observed).lateReports rest

/-- The policy fields that the record leaves open. -/
def openFields (desired : Desired) : List PolicyField :=
  PolicyField.all.filter desired.leavesOpen

/--
The record `left` has, in each policy field, the first value present in `desired` and in the
observed rules after it, and is about the same pattern, owner and repository.
-/
structure FirstOpinions (left desired : Desired) (rules : List Observed) : Prop where
  pattern : left.pattern = desired.pattern
  owner : left.owner = desired.owner
  repository : left.repository = desired.repository
  repositoryId : left.repositoryId = desired.repositoryId
  flags : ∀ flag, left.flags.get flag =
    firstPresent .unset (desired.flags.get flag :: rules.map fun rule => rule.flags.get flag)
  reviewCount : left.reviewCount =
    firstPresent none (desired.reviewCount :: rules.map Observed.reviewCount)
  /-- A rule that does not report a list has no part in it. -/
  allowances : ∀ list, left.allowances.get list =
    firstPresent [] (desired.allowances.get list ::
      rules.filterMap fun rule =>
        (rule.allowances.get list).map (normalizeActors desired.owner))
  contexts : left.contexts =
    firstPresent [] (desired.contexts :: rules.filterMap Observed.contexts)

/-! ## One pass -/

variable {desired : Desired} {observed : Observed} {rules : List Observed}

theorem flag_lateInitialize (flag : Flag) :
    (desired.lateInitialize observed).flags.get flag =
      firstPresent .unset [desired.flags.get flag, observed.flags.get flag] := by
  simp only [lateInitialize, fillFrom, overlay, Flags.get_ofFn]
  cases desired.flags.get flag <;> cases observed.flags.get flag <;> rfl

theorem reviewCount_lateInitialize :
    (desired.lateInitialize observed).reviewCount =
      firstPresent none [desired.reviewCount, observed.reviewCount] := by
  simp only [lateInitialize, fillFrom, overlay]
  cases desired.reviewCount with
  | none => rw [firstPresent_cons_absent, firstPresent_singleton, Option.none_or, Option.or_none]
  | some count => rw [firstPresent_cons_of_ne (Option.some_ne_none count), Option.some_or]

/-- A list that is filled in if it is empty, and stays as it is if there is no report of it. -/
theorem filled_eq_firstPresent (own : List String) (reported : Option (List String)) :
    (if own.isEmpty then reported.getD own else own) =
      firstPresent [] (own :: reported.toList) := by
  simp only [List.isEmpty_iff]
  split
  next isEmpty =>
    rw [isEmpty, firstPresent_cons_absent]
    cases reported with
    | none => rfl
    | some texts => exact firstPresent_singleton.symm
  next notEmpty => exact (firstPresent_cons_of_ne notEmpty).symm

theorem allowances_lateInitialize (list : AllowanceList) :
    (desired.lateInitialize observed).allowances.get list =
      firstPresent [] (desired.allowances.get list ::
        ((observed.allowances.get list).map (normalizeActors desired.owner)).toList) := by
  rw [← filled_eq_firstPresent]
  simp only [lateInitialize, fillFrom, overlay, Allowances.get_ofFn]
  cases observed.allowances.get list <;> rfl

theorem contexts_lateInitialize :
    (desired.lateInitialize observed).contexts =
      firstPresent [] (desired.contexts :: observed.contexts.toList) :=
  filled_eq_firstPresent desired.contexts observed.contexts

theorem isLateInitialized_iff_exists :
    desired.isLateInitialized observed = true ↔
      ∃ field, desired.leavesOpen field = true ∧
        (desired.lateInitialize observed).leavesOpen field = false := by
  rw [isLateInitialized, Bool.not_eq_true', List.isEmpty_eq_false_iff_exists_mem]
  refine exists_congr fun field => ?_
  rw [lateFields, filledFields, List.mem_filter, lateInitialize, leavesOpen_fillFrom]
  cases desired.leavesOpen field <;> simp

/-- No field is opened by late initialization. -/
theorem openFields_lateInitialize :
    (desired.lateInitialize observed).openFields =
      desired.openFields.filter (desired.lateInitialize observed).leavesOpen := by
  rw [openFields, openFields, List.filter_filter]
  apply List.filter_congr
  intro field _
  rw [lateInitialize, leavesOpen_fillFrom]
  cases desired.leavesOpen field <;> simp

theorem length_openFields_lateInitialize_lt (filled : desired.isLateInitialized observed = true) :
    (desired.lateInitialize observed).openFields.length < desired.openFields.length := by
  rcases isLateInitialized_iff_exists.mp filled with ⟨field, isOpen, isClosed⟩
  rw [openFields_lateInitialize, List.length_filter_lt_length_iff_exists]
  refine ⟨field, List.mem_filter.mpr ⟨PolicyField.mem_all field, isOpen⟩, ?_⟩
  rw [isClosed]
  exact Bool.false_ne_true

/-! ## All passes -/

theorem keeps_lateInitializeAll {α : Type} (part : Desired → α)
    (step : ∀ desired observed, part (desired.lateInitialize observed) = part desired) :
    part (desired.lateInitializeAll rules) = part desired := by
  induction rules generalizing desired with
  | nil => rfl
  | cons observed rules ih =>
      change part ((desired.lateInitialize observed).lateInitializeAll rules) = part desired
      rw [ih, step]

/--
A value of the record that each pass chooses as the first one present, of its own and the reported
one, is the first one present of all in the end.  The choice may depend on the owner, which no pass
changes.
-/
theorem value_lateInitializeAll {α : Type} [DecidableEq α] {owner : String} {absent : α}
    (value : Desired → α) (reported : Observed → Option α)
    (step : ∀ desired observed, desired.owner = owner →
      value (desired.lateInitialize observed) =
        firstPresent absent (value desired :: (reported observed).toList))
    (isOwner : desired.owner = owner) :
    value (desired.lateInitializeAll rules) =
      firstPresent absent (value desired :: rules.filterMap reported) := by
  induction rules generalizing desired with
  | nil => exact firstPresent_singleton.symm
  | cons observed rules ih =>
      have stillOwner : (desired.lateInitialize observed).owner = owner := isOwner
      change value ((desired.lateInitialize observed).lateInitializeAll rules) = _
      rw [ih stillOwner, step desired observed isOwner, firstPresent_append, List.filterMap_cons]
      cases reported observed <;> rfl

theorem firstOpinions_lateInitializeAll :
    (desired.lateInitializeAll rules).FirstOpinions desired rules where
  pattern := keeps_lateInitializeAll pattern fun _ _ => rfl
  owner := keeps_lateInitializeAll owner fun _ _ => rfl
  repository := keeps_lateInitializeAll repository fun _ _ => rfl
  repositoryId := keeps_lateInitializeAll repositoryId fun _ _ => rfl
  flags := by
    intro flag
    rw [← List.filterMap_eq_map]
    refine value_lateInitializeAll (fun record => record.flags.get flag) _ ?_ rfl
    intro record observed _
    exact flag_lateInitialize flag
  reviewCount := by
    rw [← List.filterMap_eq_map]
    refine value_lateInitializeAll Desired.reviewCount _ ?_ rfl
    intro record observed _
    exact reviewCount_lateInitialize
  allowances := by
    intro list
    refine value_lateInitializeAll (fun record => record.allowances.get list) _ ?_ rfl
    intro record observed isOwner
    rw [← isOwner]
    exact allowances_lateInitialize list
  contexts := by
    refine value_lateInitializeAll Desired.contexts _ ?_ rfl
    intro record observed _
    exact contexts_lateInitialize

theorem length_lateReports : (desired.lateReports rules).length = rules.length := by
  induction rules generalizing desired with
  | nil => rfl
  | cons observed rules ih => rw [lateReports, List.length_cons, ih, List.length_cons]

/-- A pass reports a change if and only if it closes a field that the passes before it left open. -/
theorem getElem?_lateReports_iff {turn : Nat} :
    (desired.lateReports rules)[turn]? = some true ↔
      ∃ field, (desired.lateInitializeAll (rules.take turn)).leavesOpen field = true ∧
        (desired.lateInitializeAll (rules.take (turn + 1))).leavesOpen field = false := by
  induction rules generalizing desired turn with
  | nil => simp [lateReports]
  | cons observed rules ih =>
      rw [lateReports, List.take_succ_cons]
      cases turn with
      | zero =>
          rw [List.getElem?_cons_zero, Option.some.injEq]
          exact isLateInitialized_iff_exists
      | succ turn =>
          rw [List.getElem?_cons_succ, List.take_succ_cons]
          exact ih

/-- Each change that is reported leaves at least one open field less. -/
theorem count_lateReports_add_le :
    (desired.lateReports rules).count true +
        (desired.lateInitializeAll rules).openFields.length ≤
      desired.openFields.length := by
  induction rules generalizing desired with
  | nil => exact Nat.le_of_eq (Nat.zero_add _)
  | cons observed rules ih =>
      have rest : ((desired.lateInitialize observed).lateReports rules).count true +
          (desired.lateInitializeAll (observed :: rules)).openFields.length ≤
            (desired.lateInitialize observed).openFields.length := ih
      rw [lateReports]
      cases filled : desired.isLateInitialized observed with
      | true =>
          have fewer := length_openFields_lateInitialize_lt filled
          rw [List.count_cons_self]
          omega
      | false =>
          rw [List.count_cons_of_ne Bool.false_ne_true]
          rw [lateInitialize_of_not_isLateInitialized _ _ filled] at rest ⊢
          exact rest

/--
The first opinion wins, over any run of observations.

After late initialization from observed rules in a row, the record has in each policy field the
first value present among its own and the reported ones, in their order, and is about what it was
about.  A pass reports a change if and only if it fills in a field that was still open, and so no
more passes report one than fields were open at first.
-/
theorem first_opinion_wins (desired : Desired) (rules : List Observed) :
    (desired.lateInitializeAll rules).FirstOpinions desired rules ∧
      (desired.lateReports rules).length = rules.length ∧
      (∀ turn : Nat, (desired.lateReports rules)[turn]? = some true ↔
        ∃ field, (desired.lateInitializeAll (rules.take turn)).leavesOpen field = true ∧
          (desired.lateInitializeAll (rules.take (turn + 1))).leavesOpen field = false) ∧
      (desired.lateReports rules).count true ≤ desired.openFields.length := by
  refine ⟨firstOpinions_lateInitializeAll, length_lateReports, ?_, ?_⟩
  · intro turn
    exact getElem?_lateReports_iff
  · exact Nat.le_of_add_right_le count_lateReports_add_le

end Desired

end BranchGuard
