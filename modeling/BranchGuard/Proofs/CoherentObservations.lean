import BranchGuard.Proofs.Calls
import BranchGuard.Proofs.HubCycles

/-!
# Coherent observations

An observation reports five things, and they fit together (`CoherentObservation`): the rule is
located exactly if it exists, at the place that the lookup named; there is drift in words exactly if
it exists and is not up to date; and something is reported as filled in exactly if the record has
changed.  Whatever changed, the record retains all that the caller had set (`Desired.Retains`).

A cycle relies on this.  It can act on every observation, so no cycle ends because nobody said where
the rule lives, and it reports a drift exactly if it has updated the rule (`observations_coherent`).
-/

namespace BranchGuard

open Dialogue

/-! ## What an observation calls for -/

namespace Observation

variable {Identity : Type} {observation : Observation Identity}

theorem requiredAction_eq_create_iff :
    observation.requiredAction = .create ↔ observation.present = false := by
  unfold requiredAction
  cases observation.present <;> cases observation.upToDate <;> simp

theorem requiredAction_eq_update_iff :
    observation.requiredAction = .update ↔
      observation.present = true ∧ observation.upToDate = false := by
  unfold requiredAction
  cases observation.present <;> cases observation.upToDate <;> simp

end Observation

/-! ## What a record retains -/

namespace Desired

variable {desired : Desired}

/-- A record is about the same rule as another one, and says all that was set there. -/
structure Retains (left desired : Desired) : Prop where
  pattern : left.pattern = desired.pattern
  owner : left.owner = desired.owner
  repository : left.repository = desired.repository
  allowances : ∀ list, desired.allowances.get list ≠ [] →
    left.allowances.get list = desired.allowances.get list
  flags : ∀ flag, (desired.flags.get flag).isSet → left.flags.get flag = desired.flags.get flag
  reviewCount : ∀ count, desired.reviewCount = some count → left.reviewCount = some count
  contexts : desired.contexts ≠ [] → left.contexts = desired.contexts

theorem retains_recorded (desired : Desired) (repositoryId : String) :
    (desired.recorded repositoryId).Retains desired where
  pattern := rfl
  owner := rfl
  repository := rfl
  allowances := fun _ _ => rfl
  flags := fun _ _ => rfl
  reviewCount := fun _ isSet => isSet
  contexts := fun _ => rfl

theorem retains_self (desired : Desired) : desired.Retains desired where
  pattern := rfl
  owner := rfl
  repository := rfl
  allowances := fun _ _ => rfl
  flags := fun _ _ => rfl
  reviewCount := fun _ isSet => isSet
  contexts := fun _ => rfl

theorem retains_lateInitialize (desired : Desired) (observed : Observed) :
    (desired.lateInitialize observed).Retains desired where
  pattern := rfl
  owner := rfl
  repository := rfl
  allowances := by
    intro list isSet
    simp [lateInitialize, fillFrom, isSet]
  flags := by
    intro flag isSet
    simp [lateInitialize, fillFrom, Opinion.orElse_of_isSet isSet]
  reviewCount := by
    intro count isSet
    simp [lateInitialize, fillFrom, isSet]
  contexts := by
    intro isSet
    simp [lateInitialize, fillFrom, isSet]

theorem Retains.trans {first second third : Desired} (later : third.Retains second)
    (earlier : second.Retains first) : third.Retains first where
  pattern := later.pattern.trans earlier.pattern
  owner := later.owner.trans earlier.owner
  repository := later.repository.trans earlier.repository
  allowances := by
    intro list isSet
    have same := earlier.allowances list isSet
    rw [later.allowances list (by rwa [same]), same]
  flags := by
    intro flag isSet
    have same := earlier.flags flag isSet
    rw [later.flags flag (by rwa [same]), same]
  reviewCount := fun count isSet => later.reviewCount count (earlier.reviewCount count isSet)
  contexts := by
    intro isSet
    have same := earlier.contexts isSet
    rw [later.contexts (by rwa [same]), same]

/-- Recording a repository changes a record in which another one or none was recorded. -/
theorem recorded_ne_iff {repositoryId : String} :
    desired.recorded repositoryId ≠ desired ↔ desired.repositoryId ≠ some repositoryId := by
  apply not_congr
  constructor
  · intro same
    rw [← same]
    rfl
  · exact recorded_of_eq

/-- Filling in after a repository was recorded changes a record if either of the two does. -/
theorem lateInitialize_recorded_ne_iff {repositoryId : String} {observed : Observed} :
    (desired.recorded repositoryId).lateInitialize observed ≠ desired ↔
      (desired.recorded repositoryId).isLateInitialized observed ∨
        desired.repositoryId ≠ some repositoryId := by
  by_cases known : desired.repositoryId = some repositoryId
  · rw [recorded_of_eq known]
    simp [known, isLateInitialized_iff]
  · -- Filling in does not touch the repository, so the newly recorded one still differs.
    simp only [ne_eq, known, not_false_eq_true, or_true, iff_true]
    intro same
    apply known
    rw [← same]
    rfl

end Desired

namespace RuleVerbs

variable {desired left : Desired} {observation : Observation RuleIdentity} {calls : List Call}

/-! ## Observations -/

/-- What an observation reports fits together, and fits the calls and the record that is left. -/
structure CoherentObservation (desired left : Desired) (observation : Observation RuleIdentity)
    (calls : List Call) : Prop where
  identity : observation.identity.isSome ↔ observation.present
  located : ∀ identity, observation.identity = some identity → ∃ later,
    calls = ⟨desired.lookupRequest, .ok ⟨identity.repositoryId, some identity.ruleId⟩⟩ :: later
  upToDate : observation.upToDate → observation.present
  drift : observation.drift = "" ↔ observation.present = false ∨ observation.upToDate
  lateInitialized : observation.lateInitialized ↔ left ≠ desired
  retains : left.Retains desired

theorem coherent_absent {isNew : Bool} (isReport : isNew ↔ left ≠ desired)
    (retains : left.Retains desired) :
    CoherentObservation desired left (.absent isNew) calls where
  identity := by simp [Observation.absent]
  located := by simp [Observation.absent]
  upToDate := by simp [Observation.absent]
  drift := by simp [Observation.absent]
  lateInitialized := isReport
  retains := retains

/-- Every observation is coherent, whichever way it went. -/
theorem ObserveRun.coherent (run : ObserveRun desired (.ok observation, left) calls) :
    CoherentObservation desired left observation calls := by
  generalize isResult : (Except.ok observation, left) = result at run
  cases run with
  | refused | unreached | unfetched => cases isResult
  | nowhere =>
      cases isResult
      exact coherent_absent (by simp) (Desired.retains_self desired)
  | absent lookup | vanished lookup =>
      cases isResult
      exact coherent_absent (by simp [Desired.recorded_ne_iff]) (Desired.retains_recorded desired _)
  | seen lookup ruleId rule valid named =>
      cases isResult
      constructor
      · simp
      · rintro identity ⟨⟩
        exact ⟨_, by rw [← named]⟩
      · simp
      · simp [Drift.text_eq_empty_iff]
      · simp [Desired.lateInitialize_recorded_ne_iff]
      · exact (Desired.retains_lateInitialize _ _).trans (Desired.retains_recorded desired _)

/-! ## Failures of the verbs -/

/-- The failure is not that nobody said where the rule lives. -/
abbrev NotMissingIdentity (cause : EngineError) : Prop :=
  cause ≠ .missingField "identity"

theorem notMissingIdentity_of_invalid {cause : EngineError}
    (invalid : desired.validate = .error cause) : NotMissingIdentity cause := by
  rcases Desired.validate_eq_error invalid with refused | ⟨-, reference, fault, -, rfl⟩
  · cases refused <;> simp
  · simp

theorem ObserveRun.notMissingIdentity {failure : VerbError}
    (run : ObserveRun desired (.error failure, left) calls) :
    NotMissingIdentity failure.cause := by
  generalize isResult : (Except.error failure, left) = result at run
  cases run with
  | refused cause invalid =>
      cases isResult
      exact notMissingIdentity_of_invalid invalid
  | unreached | unfetched =>
      cases isResult
      simp
  | nowhere | absent | vanished | seen => cases isResult

theorem MutatingRun.notMissingIdentity {α : Type} {verb : Verb} {homeless : Prop}
    {mutation : ActorIds → Request} {failure : VerbError}
    (run : MutatingRun verb desired homeless mutation calls (.error failure : Except VerbError α)) :
    NotMissingIdentity failure.cause := by
  cases run with
  | refused cause invalid => exact notMissingIdentity_of_invalid invalid
  | unplaced => simp
  | unresolved reference cause => cases cause <;> simp [Resolution.lookupFailure]
  | rejected => simp

section Runs

variable {σ : Type} (responder : Responder Request.Reply σ) {state : σ} {failure : VerbError}

theorem notMissingIdentity_of_create
    (failed : ((create desired).run responder state).value = .error failure) :
    NotMissingIdentity failure.cause := by
  have run := mutatingRun_create responder desired state
  rw [failed] at run
  exact run.notMissingIdentity

theorem notMissingIdentity_of_update {identity : RuleIdentity}
    (failed : ((update desired identity).run responder state).value = .error failure) :
    NotMissingIdentity failure.cause := by
  have run := mutatingRun_update responder desired identity state
  rw [failed] at run
  exact run.notMissingIdentity

/-- A coherent observation can be acted on. -/
theorem CoherentObservation.notMissingIdentity
    (coherent : CoherentObservation desired left observation calls)
    (failed : ((ruleVerbs.act left observation).run responder state).value = .error failure) :
    NotMissingIdentity failure.cause := by
  cases required : observation.requiredAction with
  | create =>
      rw [Verbs.act_of_create ruleVerbs required] at failed
      exact notMissingIdentity_of_create responder failed
  | update =>
      have present := (Observation.requiredAction_eq_update_iff.mp required).1
      rcases Option.isSome_iff_exists.mp (coherent.identity.mpr present) with ⟨identity, located⟩
      rw [Verbs.run_act_of_update ruleVerbs responder required located] at failed
      cases updated : ((ruleVerbs.update left identity).run responder state).value with
      | ok _ => simp [updated, Except.map] at failed
      | error cause =>
          simp only [updated, Except.map, Except.error.injEq] at failed
          rw [← failed]
          exact notMissingIdentity_of_update responder updated
  | skip =>
      have present : observation.present = true := by
        by_contra absent
        rw [Bool.not_eq_true] at absent
        rw [Observation.requiredAction_eq_create_iff.mpr absent] at required
        cases required
      rcases Option.isSome_iff_exists.mp (coherent.identity.mpr present) with ⟨identity, located⟩
      rw [Verbs.act_of_skip ruleVerbs required located] at failed
      cases failed

/-- There is drift in words exactly if it calls for an update. -/
theorem CoherentObservation.drift_ne_empty_iff
    (coherent : CoherentObservation desired left observation calls) :
    observation.drift ≠ "" ↔ observation.requiredAction = .update := by
  rw [ne_eq, coherent.drift, Observation.requiredAction_eq_update_iff]
  simp

/--
Every observation is coherent.  So a cycle never fails because nobody said where the rule lives, and
one that succeeds reports a drift exactly if it has updated the rule.
-/
theorem observations_coherent (desired : Desired) (state : σ) :
    (∀ observation left,
      ((observe desired).run responder state).value = (.ok observation, left) →
        CoherentObservation desired left observation
          ((observe desired).run responder state).transcript.calls) ∧
    (∀ failure left,
      ((ruleVerbs.reconcileOnce desired).run responder state).value = (.error failure, left) →
        failure.cause ≠ .missingField "identity") ∧
    ∀ outcome left,
      ((ruleVerbs.reconcileOnce desired).run responder state).value = (.ok outcome, left) →
        (outcome.drift ≠ "" ↔ outcome.action = .update) := by
  have coherent (observation : Observation RuleIdentity) (left : Desired)
      (observed : ((observe desired).run responder state).value = (.ok observation, left)) :
      CoherentObservation desired left observation
        ((observe desired).run responder state).transcript.calls :=
    (observeRun_of_value responder observed).coherent
  refine ⟨coherent, ?_, ?_⟩
  · intro failure left failed
    cases Verbs.cycleRun_of_value ruleVerbs responder failed with
    | unobserved _ _ observed =>
        exact (observeRun_of_value responder observed).notMissingIdentity
    | unfinished observation _ _ observed acted =>
        exact (coherent observation left observed).notMissingIdentity responder acted
  · intro outcome left completed
    cases Verbs.cycleRun_of_value ruleVerbs responder completed with
    | completed observation _ identity observed acted =>
        exact (coherent observation left observed).drift_ne_empty_iff

end Runs

/-- A rule that has drifted, and a cycle that cannot update it. -/
theorem observations_coherent_sample :
    CoherentObservation Hub.sampleRecord (Hub.sample.observing Hub.sampleRecord).value.2
        { present := true
          upToDate := false
          lateInitialized := true
          drift := "isAdminEnforced: desired true, observed false"
          identity := some ⟨"R_test", "BPR_0"⟩ }
        (Hub.sample.observing Hub.sampleRecord).transcript.calls ∧
      (∃ failure left,
        (Hub.cycle { Hub.sample with outages := [(.updateRule, ⟨0, .rateLimited⟩)] }
          Hub.sampleRecord).value = (.error failure, left) ∧
        failure.cause ≠ .missingField "identity") ∧
      ∃ outcome left, (Hub.sample.cycle Hub.sampleRecord).value = (.ok outcome, left) ∧
        (outcome.drift ≠ "" ↔ outcome.action = .update) := by
  refine ⟨?_, ⟨⟨.update, .remote .rateLimited⟩, _, rfl, ?_⟩, _, _, rfl, ?_⟩
  · exact (observations_coherent Hub.respond Hub.sampleRecord Hub.sample).1 _ _ rfl
  · exact (observations_coherent Hub.respond Hub.sampleRecord
      { Hub.sample with outages := [(.updateRule, ⟨0, .rateLimited⟩)] }).2.1 _ _ rfl
  · exact (observations_coherent Hub.respond Hub.sampleRecord Hub.sample).2.2 _ _ rfl

end RuleVerbs

end BranchGuard
