import BranchGuard.Proofs.LateInitialization
import BranchGuard.Proofs.StoredRules

/-!
# Cycles on a hub

What a cycle does to a hub, outages or not, said once.  What was observed decides how it goes on
(`cycle_of_absent`, `cycle_of_sight_drifted`, `cycle_of_sight_upToDate`).  A cycle that succeeds has
therefore created a rule, has revised the one that the pattern leads to, or has found that rule up
to date; `SuccessfulCycle` lists the three with everything they imply.

Without outages the converse holds as well: a record that leads to a stored rule is up to date or
updated, as the drift demands (`cycle_of_upToDate`, `cycle_of_drifted`).
-/

namespace BranchGuard

open Dialogue

namespace Drift

/-- The drift that is reported when a desired rule leads to a stored one. -/
def seen (desired : Desired) (rule : Rule) : Drift :=
  against (desired.lateInitialize (.ofRule rule)) (.ofRule rule)

end Drift

namespace Hub

variable {hub : Hub} {desired left : Desired} {outcome : Outcome RuleIdentity}

/-- Observing on a hub. -/
def observing (hub : Hub) (desired : Desired) :
    Run Request.Reply Event Hub RuleVerbs.Observing :=
  (RuleVerbs.observe desired).run respond hub

/-- A reconciliation cycle on a hub. -/
def cycle (hub : Hub) (desired : Desired) :
    Run Request.Reply Event Hub (Except VerbError (Outcome RuleIdentity) × Desired) :=
  (ruleVerbs.reconcileOnce desired).run respond hub

theorem valid_of_observed {observation : Observation RuleIdentity}
    (observed : (hub.observing desired).value = (.ok observation, left)) :
    desired.validate = .ok () := by
  rw [observing, RuleVerbs.observe_value, RuleVerbs.finding.eq_def] at observed
  cases valid : desired.validate with
  | error cause => simp [valid] at observed
  | ok _ => rfl

/-- The record that observing leaves behind when it leads to a stored rule. -/
def recordLeft (desired : Desired) (identity : RuleIdentity) (rule : Rule) : Desired :=
  (desired.recorded identity.repositoryId).lateInitialize (.ofRule rule)

theorem recordLeft_of_home {identity : RuleIdentity}
    (home : desired.repositoryId = some identity.repositoryId) (rule : Rule) :
    recordLeft desired identity rule = desired.lateInitialize (.ofRule rule) := by
  rw [recordLeft, Desired.recorded_of_eq home]

/-- Nothing is left for another pass over the same rule. -/
theorem recordLeft_recordLeft (desired : Desired) (identity : RuleIdentity) (rule : Rule) :
    recordLeft (recordLeft desired identity rule) identity rule =
      recordLeft desired identity rule := by
  rw [recordLeft_of_home rfl rule, recordLeft, Desired.lateInitialize_lateInitialize]

theorem seen_recordLeft (desired : Desired) (identity : RuleIdentity) (rule : Rule) :
    Drift.seen (recordLeft desired identity rule) rule = Drift.seen desired rule := by
  rw [Drift.seen, recordLeft, Desired.lateInitialize_lateInitialize]
  rfl

/-- What is observed of a record that leads to a stored rule. -/
def sight (desired : Desired) (isNew : Bool) (identity : RuleIdentity) (rule : Rule) :
    Observation RuleIdentity where
  present := true
  upToDate := (Drift.seen desired rule).isEmpty
  lateInitialized :=
    (desired.recorded identity.repositoryId).isLateInitialized (.ofRule rule) || isNew
  drift := (Drift.seen desired rule).text
  identity := some identity

/-! ## How a cycle goes on -/

section Observed

variable {observation : Observation RuleIdentity} {record : Desired}

theorem cycle_value_of_observed
    (observed : (hub.observing desired).value = (.ok observation, record)) :
    (hub.cycle desired).value =
      (((ruleVerbs.act record observation).run respond (hub.observing desired).state).value.map
        fun identity =>
          { action := observation.requiredAction
            identity := identity
            lateInitialized := observation.lateInitialized
            drift := observation.drift }, record) :=
  congrArg Run.value (Verbs.reconcileOnce_of_ok ruleVerbs respond observed)

theorem cycle_state_of_observed
    (observed : (hub.observing desired).value = (.ok observation, record)) :
    (hub.cycle desired).state =
      ((ruleVerbs.act record observation).run respond (hub.observing desired).state).state :=
  congrArg Run.state (Verbs.reconcileOnce_of_ok ruleVerbs respond observed)

theorem cycle_value_of_failure {failure : VerbError}
    (observed : (hub.observing desired).value = (.error failure, record)) :
    (hub.cycle desired).value = (.error failure, record) :=
  congrArg Run.value (Verbs.reconcileOnce_of_error ruleVerbs respond observed)

theorem cycle_state_of_failure {failure : VerbError}
    (observed : (hub.observing desired).value = (.error failure, record)) :
    (hub.cycle desired).state = (hub.observing desired).state :=
  congrArg Run.state (Verbs.reconcileOnce_of_error ruleVerbs respond observed)

end Observed

section Verdict

variable {isNew : Bool} {identity : RuleIdentity} {rule : Rule} {record : Desired}

/-- A rule that was not seen is created. -/
theorem cycle_of_absent (unseen : (hub.observing desired).value = (.ok (.absent isNew), record)) :
    (hub.cycle desired).value =
        (((RuleVerbs.create record).run respond (hub.observing desired).state).value.map
          fun identity =>
            { action := .create, identity := identity, lateInitialized := isNew, drift := "" },
          record) ∧
      (hub.cycle desired).state =
        ((RuleVerbs.create record).run respond (hub.observing desired).state).state := by
  rw [cycle_value_of_observed unseen, cycle_state_of_observed unseen,
    Verbs.act_of_create ruleVerbs rfl]
  exact ⟨rfl, rfl⟩

/-- A rule that has drifted is updated. -/
theorem cycle_of_sight_drifted
    (observed : (hub.observing desired).value =
      (.ok (sight desired isNew identity rule), recordLeft desired identity rule))
    (drifted : (Drift.seen desired rule).isEmpty = false) :
    (hub.cycle desired).value =
        (((RuleVerbs.update (recordLeft desired identity rule) identity).run respond
          (hub.observing desired).state).value.map
          fun _ =>
            { action := .update
              identity := identity
              lateInitialized := (sight desired isNew identity rule).lateInitialized
              drift := (Drift.seen desired rule).text },
          recordLeft desired identity rule) ∧
      (hub.cycle desired).state =
        ((RuleVerbs.update (recordLeft desired identity rule) identity).run respond
          (hub.observing desired).state).state := by
  have required : (sight desired isNew identity rule).requiredAction = .update := by
    simp [Observation.requiredAction, sight, drifted]
  rw [cycle_value_of_observed observed, cycle_state_of_observed observed,
    Verbs.run_act_of_update ruleVerbs respond required rfl, required]
  refine ⟨?_, rfl⟩
  simp only [ruleVerbs]
  cases ((RuleVerbs.update (recordLeft desired identity rule) identity).run respond
    (hub.observing desired).state).value <;> rfl

/-- A rule that is up to date is left alone. -/
theorem cycle_of_sight_upToDate
    (observed : (hub.observing desired).value =
      (.ok (sight desired isNew identity rule), recordLeft desired identity rule))
    (upToDate : (Drift.seen desired rule).isEmpty) :
    hub.cycle desired =
      ⟨(.ok
          { action := .skip
            identity := identity
            lateInitialized := (sight desired isNew identity rule).lateInitialized
            drift := "" }, recordLeft desired identity rule),
        (hub.observing desired).transcript, (hub.observing desired).state⟩ := by
  have required : (sight desired isNew identity rule).requiredAction = .skip := by
    simp [Observation.requiredAction, sight, upToDate]
  have concluded := Verbs.reconcileOnce_of_ok ruleVerbs respond observed
  rw [Verbs.act_of_skip ruleVerbs required rfl, required] at concluded
  refine concluded.trans ?_
  simp [Except.map, sight, Drift.text_of_isEmpty upToDate, observing, ruleVerbs]

end Verdict

/-! ## Cycles that succeed -/

/-- What a successful cycle has done. -/
inductive SuccessfulCycle (hub : Hub) (desired : Desired) (outcome : Outcome RuleIdentity)
    (left : Desired) (after : Hub) : Prop where
  | created (isNew : Bool) (actorIds : ActorIds) (isCreate : outcome.action = .create)
      (unseen : (hub.observing desired).value = (.ok (.absent isNew), left))
      (isIdentity : outcome.identity.ruleId = ruleId hub.nextNumber)
      (home : left.repositoryId = some outcome.identity.repositoryId)
      (valid : left.validate = .ok ()) (resolves : hub.Resolves left actorIds)
      (content : after.working =
        { hub.working with
          rules := hub.rules ++ [hub.revised left actorIds
            (blankRule (ruleId hub.nextNumber) left.pattern outcome.identity.repositoryId)]
          nextNumber := hub.nextNumber + 1 })
  | updated (rule : Rule) (actorIds : ActorIds) (isUpdate : outcome.action = .update)
      (leads : hub.LeadsTo desired outcome.identity rule)
      (isLeft : left = recordLeft desired outcome.identity rule)
      (isDrift : outcome.drift = (Drift.seen desired rule).text)
      (valid : left.validate = .ok ()) (resolves : hub.Resolves left actorIds)
      (isChanged : changeFirst? outcome.identity.ruleId (hub.revised left actorIds) hub.rules =
        some after.rules)
      (content : after.working = { hub.working with rules := after.rules })
  | skipped (rule : Rule) (isSkip : outcome.action = .skip)
      (leads : hub.LeadsTo desired outcome.identity rule)
      (isLeft : left = recordLeft desired outcome.identity rule)
      (upToDate : (Drift.seen desired rule).isEmpty) (content : after.working = hub.working)

theorem working_observing (hub : Hub) (desired : Desired) :
    (hub.observing desired).state.working = hub.working :=
  working_run_of_lookups (RuleVerbs.asks_observe desired) hub

theorem working_resolving (hub : Hub) (desired : Desired) :
    (RuleVerbs.resolving respond desired hub).state.working = hub.working :=
  working_run_of_lookups (RuleVerbs.asks_resolveRule desired) hub

theorem updateRule_eq_ok {update : Update} (answered : (hub.updateRule update).1 = .ok ()) :
    ∃ changed,
      changeFirst? update.ruleId (fun rule =>
        hub.applySettings update.settings { rule with pattern := update.pattern }) hub.rules =
          some changed ∧
      (hub.updateRule update).2 = { hub with rules := changed } := by
  unfold updateRule at answered ⊢
  split
  next changed isChanged => exact ⟨changed, isChanged, rfl⟩
  next absent => simp [absent] at answered

theorem updateRule_of_stored {update : Update} {rule : Rule}
    (stored : hub.storedRule? update.ruleId = some rule) :
    (hub.updateRule update).1 = .ok () := by
  rcases exists_changeFirst? (fun rule =>
    hub.applySettings update.settings { rule with pattern := update.pattern }) stored with
    ⟨changed, isChanged⟩
  rw [updateRule, isChanged]

/-- A creation that succeeds has added a rule with the next number. -/
theorem successfulCreation {state : Hub} {record : Desired} {identity : RuleIdentity}
    (same : state.working = hub.working)
    (succeeded : ((RuleVerbs.create record).run respond state).value = .ok identity) :
    ∃ actorIds, identity.ruleId = ruleId hub.nextNumber ∧
      record.repositoryId = some identity.repositoryId ∧ record.validate = .ok () ∧
      hub.Resolves record actorIds ∧
      ((RuleVerbs.create record).run respond state).state.working =
        { hub.working with
          rules := hub.rules ++ [hub.revised record actorIds
            (blankRule (ruleId hub.nextNumber) record.pattern identity.repositoryId)]
          nextNumber := hub.nextNumber + 1 } := by
  cases RuleVerbs.createRun respond record state with
  | refused cause invalid value leftHub => simp [value] at succeeded
  | homeless valid unknown value leftHub => simp [value] at succeeded
  | unresolved repositoryId cause valid home failed value leftHub => simp [value] at succeeded
  | rejected repositoryId actorIds cause valid home resolved answered value leftHub =>
      simp [value] at succeeded
  | created repositoryId actorIds id valid home resolved answered value leftHub =>
      rw [value, Except.ok.injEq] at succeeded
      subst succeeded
      rcases respond_of_ok answered with ⟨performed, content⟩
      rw [(working_resolving state record).trans same] at performed content
      have isIdentity : id = ruleId hub.nextNumber := (Except.ok.inj performed).symm
      refine ⟨actorIds, isIdentity, home, valid,
        (resolves_of_resolving resolved).congr (names_of_working_eq same), ?_⟩
      rw [leftHub, content]
      rfl

theorem successfulCycle_of_absent {isNew : Bool} {record : Desired}
    (unseen : (hub.observing desired).value = (.ok (.absent isNew), record))
    (succeeded : (hub.cycle desired).value = (.ok outcome, left)) :
    SuccessfulCycle hub desired outcome left (hub.cycle desired).state := by
  have same := working_observing hub desired
  rcases cycle_of_absent unseen with ⟨cycleValue, cycleState⟩
  rw [cycleValue, Prod.mk.injEq] at succeeded
  rw [cycleState]
  rcases succeeded with ⟨succeeded, rfl⟩
  cases created : ((RuleVerbs.create record).run respond (hub.observing desired).state).value with
  | error failure => simp [created, Except.map] at succeeded
  | ok identity =>
      simp only [created, Except.map, Except.ok.injEq] at succeeded
      subst succeeded
      rcases successfulCreation same created with
        ⟨actorIds, isIdentity, home, valid, resolves, content⟩
      exact .created isNew actorIds rfl unseen isIdentity home valid resolves content

/-- An update that succeeds has revised the rule with the ID. -/
theorem successfulUpdate {state : Hub} {identity : RuleIdentity}
    (same : state.working = hub.working)
    (succeeded : ((RuleVerbs.update desired identity).run respond state).value = .ok ()) :
    ∃ actorIds, desired.validate = .ok () ∧ hub.Resolves desired actorIds ∧
      changeFirst? identity.ruleId (hub.revised desired actorIds) hub.rules =
        some ((RuleVerbs.update desired identity).run respond state).state.rules ∧
      ((RuleVerbs.update desired identity).run respond state).state.working =
        { hub.working with
          rules := ((RuleVerbs.update desired identity).run respond state).state.rules } := by
  cases RuleVerbs.updateRun respond desired identity state with
  | refused cause invalid value leftHub => simp [value] at succeeded
  | unresolved cause valid failed value leftHub => simp [value] at succeeded
  | rejected actorIds cause valid resolved answered value leftHub => simp [value] at succeeded
  | updated actorIds valid resolved answered value leftHub =>
      rcases respond_of_ok answered with ⟨performed, content⟩
      rw [(working_resolving state desired).trans same] at performed content
      rcases updateRule_eq_ok performed with ⟨changed, isChanged, isContent⟩
      rw [← leftHub] at content
      have isAfter := content.trans isContent
      have areRules : ((RuleVerbs.update desired identity).run respond state).state.rules =
          changed :=
        congrArg (fun state : Hub => state.rules) isAfter
      refine ⟨actorIds, valid,
        (resolves_of_resolving resolved).congr (names_of_working_eq same), ?_, ?_⟩
      · rw [areRules]
        exact isChanged
      · rw [areRules]
        exact isAfter

theorem successfulCycle_of_sight {isNew : Bool} {identity : RuleIdentity} {rule : Rule}
    (observed : (hub.observing desired).value =
      (.ok (sight desired isNew identity rule), recordLeft desired identity rule))
    (leads : hub.LeadsTo desired identity rule)
    (succeeded : (hub.cycle desired).value = (.ok outcome, left)) :
    SuccessfulCycle hub desired outcome left (hub.cycle desired).state := by
  have same := working_observing hub desired
  cases upToDate : (Drift.seen desired rule).isEmpty with
  | true =>
      rw [cycle_of_sight_upToDate observed upToDate, Prod.mk.injEq, Except.ok.injEq] at succeeded
      rcases succeeded with ⟨rfl, rfl⟩
      rw [cycle_of_sight_upToDate observed upToDate]
      exact .skipped rule rfl leads rfl upToDate same
  | false =>
      rcases cycle_of_sight_drifted observed upToDate with ⟨cycleValue, cycleState⟩
      rw [cycleValue, Prod.mk.injEq] at succeeded
      rw [cycleState]
      generalize (hub.observing desired).state = sighted at succeeded same ⊢
      rcases succeeded with ⟨succeeded, rfl⟩
      cases updated : ((RuleVerbs.update (recordLeft desired identity rule) identity).run respond
          sighted).value with
      | error failure => simp [updated, Except.map] at succeeded
      | ok _ =>
          simp only [updated, Except.map, Except.ok.injEq] at succeeded
          subst succeeded
          rcases successfulUpdate same updated with
            ⟨actorIds, valid, resolves, isChanged, content⟩
          exact .updated rule actorIds rfl leads rfl rfl valid resolves isChanged content

/-- A cycle that succeeds is one of the three. -/
theorem successfulCycle (succeeded : (hub.cycle desired).value = (.ok outcome, left)) :
    SuccessfulCycle hub desired outcome left (hub.cycle desired).state := by
  have sight := sighting hub desired
  generalize observed : ((RuleVerbs.observe desired).run respond hub).value = result at sight
  cases sight with
  | refused cause invalid =>
      simp [cycle_value_of_failure observed] at succeeded
  | unreached cause valid =>
      simp [cycle_value_of_failure observed] at succeeded
  | unfetched lookup cause valid found =>
      simp [cycle_value_of_failure observed] at succeeded
  | homeless valid => exact successfulCycle_of_absent observed succeeded
  | absent lookup isNew valid found => exact successfulCycle_of_absent observed succeeded
  | present identity rule isNew valid leads =>
      exact successfulCycle_of_sight observed leads succeeded

/-! ## Cycles without outages -/

section Unbroken

variable {identity : RuleIdentity} {rule : Rule} (unbroken : hub.outages = [])
include unbroken

theorem observing_state (desired : Desired) : (hub.observing desired).state = hub :=
  run_of_lookups (RuleVerbs.asks_observe desired) unbroken

theorem observing_of_leads (valid : desired.validate = .ok ())
    (leads : hub.LeadsTo desired identity rule) :
    (hub.observing desired).value =
      (.ok (sight desired (decide (desired.repositoryId ≠ some identity.repositoryId))
        identity rule), recordLeft desired identity rule) := by
  have fetched : orNotFound (hub.storedRule? identity.ruleId) = .ok rule :=
    orNotFound_eq_ok.mpr leads.stored
  rw [observing, observe_of_no_outages unbroken]
  simp only [RuleVerbs.finding, valid, leads.found, RuleVerbs.lookupFinding, fetched]
  rfl

/-- A rule that is up to date is left alone, and nothing but lookups is sent. -/
theorem cycle_of_upToDate (valid : desired.validate = .ok ())
    (leads : hub.LeadsTo desired identity rule) (upToDate : (Drift.seen desired rule).isEmpty) :
    (hub.cycle desired).value =
        (.ok
          { action := .skip
            identity := identity
            lateInitialized :=
              (desired.recorded identity.repositoryId).isLateInitialized (.ofRule rule) ||
                decide (desired.repositoryId ≠ some identity.repositoryId)
            drift := "" }, recordLeft desired identity rule) ∧
      (hub.cycle desired).state = hub ∧
      ∀ request ∈ (hub.cycle desired).transcript.questions, request.isMutation = false := by
  rw [cycle_of_sight_upToDate (observing_of_leads unbroken valid leads) upToDate]
  exact ⟨rfl, observing_state unbroken desired,
    (RuleVerbs.asks_observe desired).questions respond hub⟩

/-- A rule that has drifted is updated, if the record can be acted on. -/
theorem cycle_of_drifted (valid : desired.validate = .ok ())
    (leads : hub.LeadsTo desired identity rule)
    (drifted : (Drift.seen desired rule).isEmpty = false)
    (leftValid : (recordLeft desired identity rule).validate = .ok ()) {actorIds : ActorIds}
    (resolves : hub.Resolves (recordLeft desired identity rule) actorIds) :
    (hub.cycle desired).value =
      (.ok
        { action := .update
          identity := identity
          lateInitialized :=
            (desired.recorded identity.repositoryId).isLateInitialized (.ofRule rule) ||
              decide (desired.repositoryId ≠ some identity.repositoryId)
          drift := (Drift.seen desired rule).text }, recordLeft desired identity rule) := by
  have resolved := resolving_of_resolves unbroken resolves
  have stays : (RuleVerbs.resolving respond (recordLeft desired identity rule) hub).state = hub :=
    run_of_lookups (RuleVerbs.asks_resolveRule _) unbroken
  have updated : ((RuleVerbs.update (recordLeft desired identity rule) identity).run respond
      hub).value = .ok () := by
    cases RuleVerbs.updateRun respond (recordLeft desired identity rule) identity hub with
    | refused cause invalid value leftHub =>
        rw [leftValid] at invalid
        simp at invalid
    | unresolved cause _ failed value leftHub =>
        rw [resolved] at failed
        simp at failed
    | rejected _ cause _ _ answered value leftHub =>
        rw [stays, respond_of_no_outages unbroken] at answered
        exact absurd (answered.symm.trans (updateRule_of_stored leads.stored)) (by simp)
    | updated _ _ _ _ value leftHub => exact value
  rw [(cycle_of_sight_drifted (observing_of_leads unbroken valid leads) drifted).1,
    observing_state unbroken, updated]
  rfl

end Unbroken

/-! ## A small hub -/

/-- A rule that restricts pushes to one user and requires two approving reviews. -/
def sampleRule : Rule :=
  { blankRule "BPR_0" "main" "R_test" with
    reviewCount := some 2
    requiresApprovingReviews := some true
    restrictsPushes := some true
    allowances := ⟨some .empty, some .empty, some (.ofActors [.known (.user "alice")])⟩ }

/-- A hub with that rule and that user. -/
def sample : Hub where
  rules := [sampleRule]
  users := [("alice", "U_alice")]

/-- A record that asks for the rule to bind administrators. -/
def sampleRecord : Desired :=
  { Desired.named "test-org" "test-repo" "main" with
    flags := (Flags.replicate .unset).set .isAdminEnforced .on }

end Hub

end BranchGuard
