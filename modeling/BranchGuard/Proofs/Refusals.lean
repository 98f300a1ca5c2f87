import BranchGuard.Proofs.References

/-!
# What the engine can act on

A record can be acted on if its owner, its pattern, its repository and its review count are fit and
all its references can be read (`Desired.validate_eq_ok_iff`).  Any other record is refused, for a
setting that is not fit, or, if there is none, for the first reference that cannot be read
(`Desired.validate_eq_error`).
-/

namespace BranchGuard.Desired

variable {desired : Desired} {references : List String}

/-! ## Parts that are accepted -/

theorem checkReviewCount_eq_ok {reviewCount : Option UInt8} :
    checkReviewCount reviewCount = .ok () ↔
      ∀ count, reviewCount = some count → count ≤ maxReviewCount := by
  cases reviewCount with
  | none => simp [checkReviewCount]
  | some count =>
      simp only [checkReviewCount, Option.some.injEq, forall_eq']
      split
      next tooMany => simpa using tooMany
      next inRange => simpa using inRange

theorem checkReferences_eq_ok :
    checkReferences references = .ok () ↔
      ∀ reference ∈ references, ∃ actor, ActorReference.parse reference = .ok actor := by
  induction references with
  | nil => simp [checkReferences]
  | cons reference rest ih =>
      rw [List.forall_mem_cons, ← ih, checkReferences]
      simp only [← readReference_eq_ok]
      cases readReference reference <;> simp

theorem mem_references {reference : String} :
    reference ∈ desired.references ↔ ∃ list, reference ∈ desired.allowances.get list := by
  rw [references, Allowances.toList, ← List.flatMap_def, List.mem_flatMap]
  simp

/-- The references of a rule can be read if those of each list can. -/
theorem checkReferences_references_eq_ok :
    checkReferences desired.references = .ok () ↔
      ∀ list, ∀ reference ∈ desired.allowances.get list,
        ∃ actor, ActorReference.parse reference = .ok actor := by
  rw [checkReferences_eq_ok]
  constructor
  · intro readable list reference member
    exact readable reference (mem_references.mpr ⟨list, member⟩)
  · intro readable reference member
    rcases mem_references.mp member with ⟨list, inList⟩
    exact readable list reference inList

theorem validate_eq_ok :
    desired.validate = .ok () ↔
      Text.isBlank desired.owner = false ∧ Text.isBlank desired.pattern = false ∧
        desired.repositoryName.isSome ∧
        (∀ count, desired.reviewCount = some count → count ≤ maxReviewCount) ∧
        checkReferences desired.references = .ok () := by
  rw [← checkReviewCount_eq_ok]
  unfold validate
  cases Text.isBlank desired.owner <;> cases Text.isBlank desired.pattern <;>
    cases desired.repositoryName <;> cases checkReviewCount desired.reviewCount <;> simp

/-- The name of the repository is the recorded one if it is not blank. -/
theorem repositoryName_of_isSome {name : String}
    (isRepository : desired.repository = some name) (named : desired.repositoryName.isSome) :
    desired.repositoryName = some name := by
  rw [repositoryName, isRepository] at named ⊢
  simpa [Option.isSome_filter] using named

/-! ## What a record is refused for -/

/-- What a fault of the owner, the pattern, the repository or the review count is reported as. -/
inductive RefusedFor (desired : Desired) : EngineError → Prop where
  | owner (isBlank : Text.isBlank desired.owner = true) :
      RefusedFor desired (.missingField "owner")
  | pattern (isBlank : Text.isBlank desired.pattern = true) :
      RefusedFor desired (.missingField "pattern")
  | repository (unnamed : desired.repositoryName = none) :
      RefusedFor desired (.missingField "repository")
  | reviewCount (count : UInt8) (isCount : desired.reviewCount = some count)
      (tooMany : maxReviewCount < count) :
      RefusedFor desired (.invalidField "requiredApprovingReviewCount"
        (toString count.toNat ++ " is outside the range 0..=" ++ toString maxReviewCount.toNat))

/-- The owner, the pattern, the repository or the review count is refused. -/
def IsUnfit (desired : Desired) : Prop :=
  ∃ cause, desired.RefusedFor cause

/-- All references of the record can be read. -/
def IsReadable (desired : Desired) : Prop :=
  ∀ reference ∈ desired.references, ∃ actor, ActorReference.parse reference = .ok actor

/-- The reference is the first of the list that cannot be read, and this is its fault. -/
def FirstUnreadable (references : List String) (reference : String) (fault : ReferenceFault) :
    Prop :=
  ∃ before after, references = before ++ reference :: after ∧
    (∀ earlier ∈ before, ∃ actor, ActorReference.parse earlier = .ok actor) ∧
    ActorReference.parse reference = .error fault

theorem RefusedFor.kind_eq {cause : EngineError} (refused : desired.RefusedFor cause) :
    cause.kind = .precondition := by
  cases refused <;> rfl

theorem not_isReadable_of_firstUnreadable {reference : String} {fault : ReferenceFault}
    (unreadable : FirstUnreadable desired.references reference fault) : ¬ desired.IsReadable := by
  rcases unreadable with ⟨before, after, isSplit, -, unread⟩
  intro readable
  have member : reference ∈ desired.references := by
    rw [isSplit]
    exact List.mem_append_right before (List.mem_cons_self ..)
  rcases readable reference member with ⟨actor, read⟩
  rw [unread] at read
  cases read

theorem checkReferences_eq_error {cause : EngineError}
    (refused : checkReferences references = .error cause) :
    ∃ reference fault, FirstUnreadable references reference fault ∧
      cause = .invalidReference reference fault.reason := by
  induction references with
  | nil => cases refused
  | cons first rest ih =>
      rw [checkReferences] at refused
      cases read : readReference first with
      | error found =>
          rw [read] at refused
          cases refused
          rcases readReference_eq_error read with ⟨fault, unread, isCause⟩
          refine ⟨first, fault, ⟨[], rest, rfl, ?_, unread⟩, isCause⟩
          intro earlier member
          cases member
      | ok actor =>
          rw [read] at refused
          rcases ih refused with ⟨reference, fault, ⟨before, after, rfl, readable, unread⟩, isCause⟩
          refine ⟨reference, fault, ⟨first :: before, after, rfl, ?_, unread⟩, isCause⟩
          intro earlier member
          rcases List.mem_cons.mp member with rfl | member
          · exact ⟨actor, readReference_eq_ok.mp read⟩
          · exact readable earlier member

theorem refusedFor_of_checkReviewCount {cause : EngineError}
    (refused : checkReviewCount desired.reviewCount = .error cause) : desired.RefusedFor cause := by
  unfold checkReviewCount at refused
  split at refused
  next => cases refused
  next count isCount =>
    split at refused
    next tooMany =>
      cases refused
      exact .reviewCount count isCount tooMany
    next => cases refused

theorem not_isUnfit_iff :
    ¬ desired.IsUnfit ↔
      Text.isBlank desired.owner = false ∧ Text.isBlank desired.pattern = false ∧
        desired.repositoryName.isSome ∧ checkReviewCount desired.reviewCount = .ok () := by
  rw [checkReviewCount_eq_ok]
  constructor
  · intro fit
    refine ⟨?_, ?_, ?_, ?_⟩
    · exact Bool.eq_false_iff.mpr fun isBlank => fit ⟨_, .owner isBlank⟩
    · exact Bool.eq_false_iff.mpr fun isBlank => fit ⟨_, .pattern isBlank⟩
    · exact Option.isSome_iff_ne_none.mpr fun unnamed => fit ⟨_, .repository unnamed⟩
    · intro count isCount
      exact UInt8.not_lt.mp fun tooMany => fit ⟨_, .reviewCount count isCount tooMany⟩
  · rintro ⟨owner, pattern, repository, inRange⟩ ⟨cause, refused⟩
    cases refused with
    | owner isBlank => simp [isBlank] at owner
    | pattern isBlank => simp [isBlank] at pattern
    | repository unnamed => simp [unnamed] at repository
    | reviewCount count isCount tooMany =>
        exact absurd tooMany (UInt8.not_lt.mpr (inRange count isCount))

theorem validate_eq_ok_iff :
    desired.validate = .ok () ↔ ¬ desired.IsUnfit ∧ desired.IsReadable := by
  rw [validate_eq_ok, not_isUnfit_iff, IsReadable, ← checkReferences_eq_ok,
    checkReviewCount_eq_ok]
  simp only [and_assoc]

/-- A record is refused for an unfit setting, or, if there is none, for its first bad reference. -/
theorem validate_eq_error {cause : EngineError} (invalid : desired.validate = .error cause) :
    desired.RefusedFor cause ∨
      ¬ desired.IsUnfit ∧ ∃ reference fault,
        FirstUnreadable desired.references reference fault ∧
        cause = .invalidReference reference fault.reason := by
  unfold validate at invalid
  split at invalid
  next isBlank =>
    cases invalid
    exact .inl (.owner isBlank)
  next owner =>
    split at invalid
    next isBlank =>
      cases invalid
      exact .inl (.pattern isBlank)
    next pattern =>
      split at invalid
      next unnamed =>
        cases invalid
        exact .inl (.repository (Option.isNone_iff_eq_none.mp unnamed))
      next named =>
        cases checked : checkReviewCount desired.reviewCount with
        | error reason =>
            rw [checked] at invalid
            cases invalid
            exact .inl (refusedFor_of_checkReviewCount checked)
        | ok _ =>
            rw [checked] at invalid
            refine .inr ⟨not_isUnfit_iff.mpr ⟨?_, ?_, ?_, checked⟩,
              checkReferences_eq_error invalid⟩
            · exact Bool.eq_false_iff.mpr owner
            · exact Bool.eq_false_iff.mpr pattern
            · simpa [Option.isSome_iff_ne_none] using named

end BranchGuard.Desired
