import BranchGuard.Proofs.CoherentObservations

/-!
# Reported and unreported changes

Observing may change the record, and the caller learns of it from the report of a cycle that
succeeds.  A cycle that fails has no report, and it need not leave the record as it was:

* an observation that fails has changed the record exactly if the lookup named another repository
  than the recorded one and the fetch then failed (`failed_observation_changes_iff`);
* what was filled in by an observation that succeeds stays in the record when the creation or the
  update after it fails.

The next cycle finds the record filled in and has nothing to report
(`late_initialization_goes_unreported`).  These two are the only ways: wherever the record differs
between two points of a run, a cycle in between has reported it or has lost its report in one of them
(`changes_between_points`).
-/

namespace BranchGuard

open Dialogue

namespace RuleVerbs

/-! ## Observations that fail -/

section Observe

variable {desired left : Desired} {failure : VerbError} {calls : List Call}

theorem ObserveRun.failed_changes_iff (run : ObserveRun desired (.error failure, left) calls) :
    left ≠ desired ↔
      ∃ lookup ruleId cause,
        calls = [⟨desired.lookupRequest, .ok lookup⟩, ⟨.fetchRule ruleId, .error cause⟩] ∧
        desired.repositoryId ≠ some lookup.repositoryId ∧
        left = desired.recorded lookup.repositoryId := by
  generalize isResult : (Except.error failure, left) = result at run
  cases run with
  | refused | unreached =>
      cases isResult
      simp
  | unfetched lookup ruleId cause =>
      cases isResult
      constructor
      · intro changed
        exact ⟨lookup, ruleId, cause, rfl, Desired.recorded_ne_iff.mp changed, rfl⟩
      · rintro ⟨other, _, _, -, isNew, isLeft⟩
        rw [isLeft]
        exact Desired.recorded_ne_iff.mpr isNew
  | nowhere | absent | vanished | seen => cases isResult

variable {σ : Type} {responder : Responder Request.Reply σ} {state : σ}

/--
An observation that fails has changed the record exactly if the lookup named another repository than
the recorded one and the fetch then failed; the change is that the repository is recorded.
-/
theorem failed_observation_changes_iff
    (observed : ((observe desired).run responder state).value = (.error failure, left)) :
    left ≠ desired ↔
      ∃ lookup ruleId cause,
        ((observe desired).run responder state).transcript.calls =
          [⟨desired.lookupRequest, .ok lookup⟩, ⟨.fetchRule ruleId, .error cause⟩] ∧
        desired.repositoryId ≠ some lookup.repositoryId ∧
        left = desired.recorded lookup.repositoryId :=
  (observeRun_of_value responder observed).failed_changes_iff

end Observe

/-- The repository is recorded before the fetch that fails. -/
theorem failed_observation_changes_sample :
    let hub : Hub := { Hub.sample with outages := [(.fetchRule, ⟨0, .rateLimited⟩)] }
    ∃ lookup ruleId cause,
      (hub.observing Hub.sampleRecord).transcript.calls =
        [⟨Hub.sampleRecord.lookupRequest, .ok lookup⟩, ⟨.fetchRule ruleId, .error cause⟩] ∧
      Hub.sampleRecord.repositoryId ≠ some lookup.repositoryId ∧
      (hub.observing Hub.sampleRecord).value.2 =
        Hub.sampleRecord.recorded lookup.repositoryId := by
  intro hub
  have observed : ((observe Hub.sampleRecord).run Hub.respond hub).value =
      (.error ⟨.observe, .remote .rateLimited⟩, Hub.sampleRecord.recorded "R_test") := rfl
  exact (failed_observation_changes_iff observed).mp (by decide)

/-- The repository is looked up for the first time, and the rule cannot be fetched. -/
theorem failed_observation_changes_record :
    ∃ left, (Hub.observing { Hub.sample with outages := [(.fetchRule, ⟨0, .rateLimited⟩)] }
        Hub.sampleRecord).value = (.error ⟨.observe, .remote .rateLimited⟩, left) ∧
      left ≠ Hub.sampleRecord := by
  refine ⟨_, rfl, ?_⟩
  decide

/-! ## Runs of cycles -/

/-- Somebody who answers calls, in a state of their own. -/
structure Counterpart : Type 1 where
  State : Type
  respond : Dialogue.Responder Request.Reply State
  state : State

/-- A hub that answers calls. -/
def Counterpart.ofHub (hub : Hub) : Counterpart :=
  ⟨Hub, Hub.respond, hub⟩

/-- A cycle of a run: the record that it starts from, and who answers its calls. -/
structure Turn : Type 1 where
  record : Desired
  counterpart : Counterpart

namespace Turn

variable (turn : Turn)

/-- What observing concludes in the cycle. -/
def observing : Observing :=
  ((observe turn.record).run turn.counterpart.respond turn.counterpart.state).value

/-- The calls of observing in the cycle. -/
def sightings : List Call :=
  ((observe turn.record).run turn.counterpart.respond turn.counterpart.state).transcript.calls

/-- The result of the cycle, with the record that it leaves. -/
def value : Except VerbError (Outcome RuleIdentity) × Desired :=
  ((ruleVerbs.reconcileOnce turn.record).run turn.counterpart.respond
    turn.counterpart.state).value

/-- The record that the cycle leaves. -/
def left : Desired := turn.value.2

/-- The cycle succeeds and reports that something was filled in. -/
def Reports : Prop :=
  ∃ outcome, turn.value.1 = .ok outcome ∧ outcome.lateInitialized

/-- The cycle fails after something was filled in. -/
inductive LosesReport : Prop where
  /-- The repository was recorded, and the fetch failed. -/
  | unfetched (failure : VerbError) (lookup : Lookup) (ruleId : String) (cause : RemoteError)
      (failed : turn.value.1 = .error failure)
      (observed : turn.observing = (.error failure, turn.record.recorded lookup.repositoryId))
      (calls : turn.sightings =
        [⟨turn.record.lookupRequest, .ok lookup⟩, ⟨.fetchRule ruleId, .error cause⟩])
      (isNew : turn.record.repositoryId ≠ some lookup.repositoryId)
  /-- Observing had something to report, and what it called for failed. -/
  | unfinished (failure : VerbError) (observation : Observation RuleIdentity)
      (failed : turn.value.1 = .error failure)
      (observed : turn.observing.1 = .ok observation) (filled : observation.lateInitialized)

variable {turn}

theorem LosesReport.failed (lost : turn.LosesReport) : ∃ failure, turn.value.1 = .error failure := by
  cases lost with
  | unfetched failure _ _ _ failed => exact ⟨failure, failed⟩
  | unfinished failure _ failed => exact ⟨failure, failed⟩

/-- A cycle that succeeds reports exactly whether it has changed the record. -/
theorem lateInitialized_iff {outcome : Outcome RuleIdentity} {left : Desired}
    (succeeded : turn.value = (.ok outcome, left)) :
    outcome.lateInitialized ↔ left ≠ turn.record := by
  cases Verbs.cycleRun_of_value ruleVerbs _ succeeded with
  | completed observation _ identity observed acted =>
      exact (observeRun_of_value _ observed).coherent.lateInitialized

/-- A cycle that fails has changed the record exactly if it has lost a report. -/
theorem losesReport_iff {failure : VerbError} {left : Desired}
    (failed : turn.value = (.error failure, left)) :
    turn.LosesReport ↔ left ≠ turn.record := by
  have isFailure : turn.value.1 = .error failure := by rw [failed]
  -- A failed observation may have recorded the repository; one that succeeded says what it changed.
  cases Verbs.cycleRun_of_value ruleVerbs _ failed with
  | unobserved _ _ observed =>
      have isObserving : turn.observing = (.error failure, left) := observed
      constructor
      · intro lost
        cases lost with
        | unfetched _ lookup _ _ _ observed' _ isNew =>
            cases isObserving.symm.trans observed'
            exact Desired.recorded_ne_iff.mpr isNew
        | unfinished _ observation _ observed' =>
            rw [isObserving] at observed'
            cases observed'
      · intro changed
        rcases (observeRun_of_value _ observed).failed_changes_iff.mp changed with
          ⟨lookup, ruleId, cause, calls, isNew, rfl⟩
        exact .unfetched failure lookup ruleId cause isFailure isObserving calls isNew
  | unfinished observation _ _ observed acted =>
      have isObserving : turn.observing = (.ok observation, left) := observed
      rw [← (observeRun_of_value _ observed).coherent.lateInitialized]
      constructor
      · intro lost
        cases lost with
        | unfetched _ _ _ _ _ observed' => cases isObserving.symm.trans observed'
        | unfinished _ _ _ observed' filled =>
            rw [isObserving] at observed'
            cases observed'
            exact filled
      · intro filled
        exact .unfinished failure observation isFailure (congrArg Prod.fst isObserving) filled

variable (turn)

/-- A cycle has changed the record exactly if it reports so or has lost its report. -/
theorem changes_iff : turn.left ≠ turn.record ↔ turn.Reports ∨ turn.LosesReport := by
  rcases result : turn.value with ⟨failure | outcome, record⟩
  · have noReport : ¬ turn.Reports := by
      rintro ⟨outcome, succeeded, -⟩
      rw [result] at succeeded
      cases succeeded
    rw [left, result, ← losesReport_iff result, or_iff_right noReport]
  · have noLoss : ¬ turn.LosesReport := by
      intro lost
      rcases lost.failed with ⟨failure, failed⟩
      rw [result] at failed
      cases failed
    have reports : turn.Reports ↔ outcome.lateInitialized := by
      simp [Reports, result]
    rw [left, result, ← lateInitialized_iff result, or_iff_left noLoss, reports]

end Turn

/-- Cycles on a record, one after the other. -/
def turns (record : Desired) : List Counterpart → List Turn
  | [] => []
  | counterpart :: rest => ⟨record, counterpart⟩ :: turns (Turn.left ⟨record, counterpart⟩) rest

/-- The record after cycles on it. -/
def recordAfter (record : Desired) : List Counterpart → Desired
  | [] => record
  | counterpart :: rest => recordAfter (Turn.left ⟨record, counterpart⟩) rest

theorem recordAfter_append (record : Desired) (before after : List Counterpart) :
    recordAfter record (before ++ after) = recordAfter (recordAfter record before) after := by
  induction before generalizing record with
  | nil => rfl
  | cons counterpart rest ih => exact ih _

theorem exists_turn_of_changed {record : Desired} {counterparts : List Counterpart}
    (changed : recordAfter record counterparts ≠ record) :
    ∃ turn ∈ turns record counterparts, turn.left ≠ turn.record := by
  induction counterparts generalizing record with
  | nil => exact absurd rfl changed
  | cons counterpart rest ih =>
      -- A turn that changes nothing hands the same record to the rest of the run.
      by_cases same : Turn.left ⟨record, counterpart⟩ = record
      · rw [recordAfter, same] at changed
        rcases ih changed with ⟨turn, member, changes⟩
        refine ⟨turn, ?_, changes⟩
        rw [turns, same]
        exact List.mem_cons_of_mem _ member
      · exact ⟨⟨record, counterpart⟩, List.mem_cons_self, same⟩

/--
Wherever the record differs between two points of a run, a cycle in between has reported it or has
lost its report.
-/
theorem changes_between_points (record : Desired) (before between : List Counterpart)
    (changed : recordAfter record (before ++ between) ≠ recordAfter record before) :
    ∃ turn ∈ turns (recordAfter record before) between, turn.Reports ∨ turn.LosesReport := by
  rw [recordAfter_append] at changed
  rcases exists_turn_of_changed changed with ⟨turn, member, changes⟩
  exact ⟨turn, member, turn.changes_iff.mp changes⟩

/-- A cycle without a lookup, one without an update, and one that works. -/
theorem changes_between_points_sample :
    let before : List Counterpart :=
      [.ofHub { Hub.sample with outages := [(.findRule, ⟨0, .transport⟩)] }]
    let between : List Counterpart :=
      [.ofHub { Hub.sample with outages := [(.updateRule, ⟨0, .rateLimited⟩)] },
        .ofHub Hub.sample]
    ∃ turn ∈ turns (recordAfter Hub.sampleRecord before) between,
      turn.Reports ∨ turn.LosesReport := by
  intro before between
  exact changes_between_points Hub.sampleRecord before between (by decide)

/-- A cycle that cannot create the rule, and one that can. -/
def interruptedCreation : List Counterpart :=
  [.ofHub { outages := [(.createRule, ⟨0, .rateLimited⟩)] }, .ofHub {}]

/--
The repository is recorded in the cycle that then cannot create the rule, and the cycle that creates
it has nothing to report.
-/
theorem late_initialization_goes_unreported :
    (∃ failure outcome,
      (turns (.named "test-org" "test-repo" "main") interruptedCreation).map
        (fun turn => turn.value.1) = [.error failure, .ok outcome]) ∧
      recordAfter (.named "test-org" "test-repo" "main") interruptedCreation ≠
        .named "test-org" "test-repo" "main" ∧
      ¬ ∃ turn ∈ turns (.named "test-org" "test-repo" "main") interruptedCreation,
        turn.Reports := by
  have results : ∃ failure outcome,
      (turns (.named "test-org" "test-repo" "main") interruptedCreation).map
        (fun turn => turn.value.1) = [.error failure, .ok outcome] ∧
      outcome.lateInitialized = false := by
    refine ⟨_, _, rfl, ?_⟩
    rfl
  rcases results with ⟨failure, outcome, results, silent⟩
  refine ⟨⟨failure, outcome, results⟩, by decide, ?_⟩
  rintro ⟨turn, member, reported, succeeded, filled⟩
  have isResult := List.mem_map_of_mem (f := fun turn : Turn => turn.value.1) member
  simp only [results, succeeded, List.mem_cons, reduceCtorEq, Except.ok.injEq, List.not_mem_nil,
    or_false, false_or] at isResult
  rw [isResult, silent] at filled
  cases filled

end RuleVerbs

end BranchGuard
