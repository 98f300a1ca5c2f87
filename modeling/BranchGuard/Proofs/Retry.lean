import BranchGuard.Proofs.HubCycles

/-!
# Retrying after failures

A cycle that fails leaves the content of the hub alone and the record at one of three stages
(`Stage`, `stage_of_failure`): as it was, with the repository recorded, or filled in from a rule
that is out of date.  Without outages, a record leads from each of these stages to the same verdict
as from the start, with the same record left behind; only the report of what was filled in can
differ (`cycle_of_stage`).

So any number of failed cycles, each with outages of its own, can go before the one that works, and
it does what it would have done at once (`retry_after_failures`).
-/

namespace BranchGuard

open Dialogue

namespace Hub

variable {hub : Hub} {desired left : Desired} {outcome : Outcome RuleIdentity}

/-! ## What a failed cycle leaves behind -/

/-- How far a record can come in a cycle that fails. -/
inductive Stage (hub : Hub) (desired : Desired) : Desired → Prop where
  | untouched : Stage hub desired desired
  | recorded (lookup : Lookup) (found : hub.lookUp desired = .ok lookup) :
      Stage hub desired (desired.recorded lookup.repositoryId)
  | filled (identity : RuleIdentity) (rule : Rule) (leads : hub.LeadsTo desired identity rule)
      (drifted : (Drift.seen desired rule).isEmpty = false) :
      Stage hub desired (recordLeft desired identity rule)

/-- Outages have no part in it. -/
theorem Stage.working {record : Desired} (stage : Stage hub desired record) :
    Stage hub.working desired record := by
  cases stage with
  | untouched => exact .untouched
  | recorded lookup found => exact .recorded lookup found
  | filled identity rule leads drifted =>
      exact .filled identity rule ⟨leads.found, leads.stored⟩ drifted

theorem working_create_of_error {record : Desired} {failure : VerbError}
    (failed : ((RuleVerbs.create record).run respond hub).value = .error failure) :
    ((RuleVerbs.create record).run respond hub).state.working = hub.working := by
  cases RuleVerbs.createRun respond record hub with
  | refused cause invalid value leftHub => rw [leftHub]
  | homeless valid unknown value leftHub => rw [leftHub]
  | unresolved repositoryId cause valid home unresolved value leftHub =>
      rw [leftHub, working_resolving]
  | rejected repositoryId actorIds cause valid home resolved answered value leftHub =>
      rw [leftHub, respond_of_error answered, working_resolving]
  | created repositoryId actorIds id valid home resolved answered value leftHub =>
      simp [value] at failed

theorem working_update_of_error {record : Desired} {identity : RuleIdentity}
    {failure : VerbError}
    (failed : ((RuleVerbs.update record identity).run respond hub).value = .error failure) :
    ((RuleVerbs.update record identity).run respond hub).state.working = hub.working := by
  cases RuleVerbs.updateRun respond record identity hub with
  | refused cause invalid value leftHub => rw [leftHub]
  | unresolved cause valid unresolved value leftHub => rw [leftHub, working_resolving]
  | rejected actorIds cause valid resolved answered value leftHub =>
      rw [leftHub, respond_of_error answered, working_resolving]
  | updated actorIds valid resolved answered value leftHub => simp [value] at failed

/-- A cycle that fails in creating leaves the record as observing left it. -/
theorem left_of_failed_creation {isNew : Bool} {record : Desired} {failure : VerbError}
    (unseen : (hub.observing desired).value = (.ok (.absent isNew), record))
    (failed : (hub.cycle desired).value = (.error failure, left)) :
    left = record ∧ (hub.cycle desired).state.working = hub.working := by
  rcases cycle_of_absent unseen with ⟨cycleValue, cycleState⟩
  rw [cycleValue, Prod.mk.injEq] at failed
  rw [cycleState, ← working_observing hub desired]
  refine ⟨failed.2.symm, ?_⟩
  cases created : ((RuleVerbs.create record).run respond (hub.observing desired).state).value with
  | ok identity => simp [created, Except.map] at failed
  | error cause => exact working_create_of_error created

/-- A cycle that fails when a rule was found fails in updating it. -/
theorem left_of_failed_update {isNew : Bool} {identity : RuleIdentity} {rule : Rule}
    {failure : VerbError}
    (observed : (hub.observing desired).value =
      (.ok (sight desired isNew identity rule), recordLeft desired identity rule))
    (failed : (hub.cycle desired).value = (.error failure, left)) :
    left = recordLeft desired identity rule ∧ (Drift.seen desired rule).isEmpty = false ∧
      (hub.cycle desired).state.working = hub.working := by
  cases upToDate : (Drift.seen desired rule).isEmpty with
  | true => simp [cycle_of_sight_upToDate observed upToDate] at failed
  | false =>
      rcases cycle_of_sight_drifted observed upToDate with ⟨cycleValue, cycleState⟩
      rw [cycleValue, Prod.mk.injEq] at failed
      rw [cycleState, ← working_observing hub desired]
      refine ⟨failed.2.symm, rfl, ?_⟩
      cases updated : ((RuleVerbs.update (recordLeft desired identity rule) identity).run respond
          (hub.observing desired).state).value with
      | ok _ => simp [updated, Except.map] at failed
      | error cause => exact working_update_of_error updated

/-- A cycle that fails leaves the hub alone and the record at one of its stages. -/
theorem stage_of_failure {failure : VerbError}
    (failed : (hub.cycle desired).value = (.error failure, left)) :
    Stage hub desired left ∧ (hub.cycle desired).state.working = hub.working := by
  have sight := sighting hub desired
  generalize observed : ((RuleVerbs.observe desired).run respond hub).value = result at sight
  cases sight with
  | refused cause invalid =>
      rw [cycle_value_of_failure observed] at failed
      cases failed
      rw [cycle_state_of_failure observed]
      exact ⟨.untouched, working_observing hub desired⟩
  | unreached cause valid =>
      rw [cycle_value_of_failure observed] at failed
      cases failed
      rw [cycle_state_of_failure observed]
      exact ⟨.untouched, working_observing hub desired⟩
  | unfetched lookup cause valid found =>
      rw [cycle_value_of_failure observed] at failed
      cases failed
      rw [cycle_state_of_failure observed]
      exact ⟨.recorded lookup found, working_observing hub desired⟩
  | homeless valid =>
      rcases left_of_failed_creation observed failed with ⟨rfl, stays⟩
      exact ⟨.untouched, stays⟩
  | absent lookup isNew valid found =>
      rcases left_of_failed_creation observed failed with ⟨rfl, stays⟩
      exact ⟨.recorded lookup found, stays⟩
  | present identity rule isNew valid leads =>
      rcases left_of_failed_update observed failed with ⟨rfl, drifted, stays⟩
      exact ⟨.filled identity rule leads drifted, stays⟩

/-! ## What a stage leads to -/

theorem leadsTo_unique {identity other : RuleIdentity} {rule otherRule : Rule}
    (leads : hub.LeadsTo desired identity rule)
    (leadsOther : hub.LeadsTo desired other otherRule) :
    identity = other ∧ rule = otherRule := by
  have sameLookup := Except.ok.inj (leads.found.symm.trans leadsOther.found)
  simp only [Lookup.mk.injEq, Option.some.injEq] at sameLookup
  have sameIdentity : identity = other := by
    cases identity
    cases other
    simpa using sameLookup
  subst sameIdentity
  exact ⟨rfl, Option.some.inj (leads.stored.symm.trans leadsOther.stored)⟩

/-- Whether the repository is recorded for the first time matters for the report alone. -/
theorem lookupFinding_isNew {lookup : Lookup} {fetched : String → Except RemoteError Rule}
    {observation : Observation RuleIdentity} {isNew : Bool}
    (found : RuleVerbs.lookupFinding desired isNew lookup fetched = (.ok observation, left))
    (isNew' : Bool) :
    ∃ report, RuleVerbs.lookupFinding desired isNew' lookup fetched =
      (.ok { observation with lateInitialized := report }, left) := by
  cases located : lookup.ruleId with
  | none =>
      simp only [RuleVerbs.lookupFinding, located, Prod.mk.injEq, Except.ok.injEq] at found ⊢
      rcases found with ⟨rfl, rfl⟩
      exact ⟨isNew', rfl, rfl⟩
  | some id =>
      simp only [RuleVerbs.lookupFinding, located] at found ⊢
      cases answer : fetched id with
      | ok rule =>
          simp only [answer, RuleVerbs.ruleFinding, Prod.mk.injEq, Except.ok.injEq] at found ⊢
          rcases found with ⟨rfl, rfl⟩
          exact ⟨_, rfl, rfl⟩
      | error cause =>
          cases cause with
          | notFound =>
              simp only [answer, Prod.mk.injEq, Except.ok.injEq] at found ⊢
              rcases found with ⟨rfl, rfl⟩
              exact ⟨isNew', rfl, rfl⟩
          | _ => simp [answer] at found

section Unbroken

variable (unbroken : hub.outages = [])
include unbroken

/-- A record with the repository recorded is seen as the record before. -/
theorem observing_recorded {lookup : Lookup} (found : hub.lookUp desired = .ok lookup)
    {observation : Observation RuleIdentity}
    (observed : (hub.observing desired).value = (.ok observation, left)) :
    ∃ report, (hub.observing (desired.recorded lookup.repositoryId)).value =
      (.ok { observation with lateInitialized := report }, left) := by
  rw [observing, observe_of_no_outages unbroken, RuleVerbs.finding.eq_def] at observed ⊢
  have sameLookup : hub.lookUp (desired.recorded lookup.repositoryId) = .ok lookup := found
  rw [found] at observed
  rw [sameLookup, Desired.validate_recorded]
  cases valid : desired.validate with
  | error cause => simp [valid] at observed
  | ok _ =>
      rw [valid] at observed
      exact lookupFinding_isNew observed _

/-- A record that was filled in is seen as the record before. -/
theorem observing_recordLeft {identity : RuleIdentity} {rule : Rule}
    (leads : hub.LeadsTo desired identity rule)
    (valid : (recordLeft desired identity rule).validate = .ok ()) {isNew : Bool} :
    ∃ report, (hub.observing (recordLeft desired identity rule)).value =
      (.ok { sight desired isNew identity rule with lateInitialized := report },
        recordLeft desired identity rule) := by
  have leadsAgain : hub.LeadsTo (recordLeft desired identity rule) identity rule :=
    ⟨leads.found, leads.stored⟩
  rw [observing_of_leads unbroken valid leadsAgain, recordLeft_recordLeft]
  simp only [sight, seen_recordLeft]
  exact ⟨_, rfl⟩

/-- Records that are seen alike lead to the same cycle, the report apart. -/
theorem cycle_of_observed_alike {record : Desired} {observation : Observation RuleIdentity}
    {report : Bool} {seen : Desired}
    (observed : (hub.observing desired).value = (.ok observation, seen))
    (alike : (hub.observing record).value =
      (.ok { observation with lateInitialized := report }, seen))
    (direct : (hub.cycle desired).value = (.ok outcome, left)) :
    (hub.cycle record).value = (.ok { outcome with lateInitialized := report }, left) ∧
      (hub.cycle record).state = (hub.cycle desired).state := by
  have sameAct : ruleVerbs.act seen { observation with lateInitialized := report } =
      ruleVerbs.act seen observation := rfl
  rw [cycle_value_of_observed observed, observing_state unbroken] at direct
  rw [cycle_value_of_observed alike, cycle_state_of_observed alike,
    cycle_state_of_observed observed, observing_state unbroken, observing_state unbroken, sameAct]
  refine ⟨?_, rfl⟩
  simp only [Prod.mk.injEq] at direct
  rcases direct with ⟨acted, rfl⟩
  cases result : ((ruleVerbs.act seen observation).run respond hub).value with
  | error failure => simp [result, Except.map] at acted
  | ok identity =>
      simp only [result, Except.map, Except.ok.injEq] at acted
      rw [← acted]
      rfl

/-- A record that was filled in and led to an update can be acted on. -/
theorem valid_of_filled {identity : RuleIdentity} {rule : Rule}
    (leads : hub.LeadsTo desired identity rule)
    (drifted : (Drift.seen desired rule).isEmpty = false)
    (direct : (hub.cycle desired).value = (.ok outcome, left)) :
    (recordLeft desired identity rule).validate = .ok () := by
  cases successfulCycle direct with
  | created isNew actorIds isCreate unseen isIdentity home valid resolves content =>
      have seenOnce := observing_of_leads unbroken (valid_of_observed unseen) leads
      rw [seenOnce] at unseen
      simp [sight, Observation.absent] at unseen
  | updated rule' actorIds isUpdate leads' isLeft isDrift valid resolves isChanged content =>
      rcases leadsTo_unique leads leads' with ⟨rfl, rfl⟩
      rw [← isLeft]
      exact valid
  | skipped rule' isSkip leads' isLeft upToDate content =>
      rcases leadsTo_unique leads leads' with ⟨rfl, rfl⟩
      rw [drifted] at upToDate
      simp at upToDate

/-- The verdict is the same from every stage. -/
theorem cycle_of_stage {record : Desired} (stage : Stage hub desired record)
    (direct : (hub.cycle desired).value = (.ok outcome, left)) :
    ∃ report, (hub.cycle record).value = (.ok { outcome with lateInitialized := report }, left) ∧
      (hub.cycle record).state = (hub.cycle desired).state := by
  cases observed : (hub.observing desired).value with
  | mk result seen =>
      cases result with
      | error failure => simp [cycle_value_of_failure observed] at direct
      | ok observation =>
          cases stage with
          | untouched => exact ⟨outcome.lateInitialized, direct, rfl⟩
          | recorded lookup found =>
              rcases observing_recorded unbroken found observed with ⟨report, alike⟩
              exact ⟨report, cycle_of_observed_alike unbroken observed alike direct⟩
          | filled identity rule leads drifted =>
              have valid := valid_of_filled unbroken leads drifted direct
              have seenOnce := observing_of_leads unbroken (valid_of_observed observed) leads
              rcases observing_recordLeft unbroken leads valid with ⟨report, alike⟩
              exact ⟨report, cycle_of_observed_alike unbroken seenOnce alike direct⟩

end Unbroken

/-! ## Any number of failures -/

/-- Cycles one after the other that all failed, each under outages of its own. -/
inductive FailedCycles : Hub → Desired → Hub → Desired → Prop where
  | none (hub : Hub) (desired : Desired) : FailedCycles hub desired hub desired
  | next {hub lastHub : Hub} {desired record lastRecord : Desired} {failure : VerbError}
      (outages : List (RemoteOperation × Outage))
      (failed : (cycle { hub with outages := outages } desired).value = (.error failure, record))
      (rest : FailedCycles (cycle { hub with outages := outages } desired).state record
        lastHub lastRecord) :
      FailedCycles hub desired lastHub lastRecord

/--
After any number of failed cycles, a cycle without outages does what it would have done at once: the
same action on the same rule for the same drift, with the same record and the same hub left behind.
-/
theorem retry_after_failures {lastHub : Hub} {lastRecord : Desired}
    (direct : (hub.working.cycle desired).value = (.ok outcome, left))
    (failures : FailedCycles hub desired lastHub lastRecord) :
    ∃ report,
      (lastHub.working.cycle lastRecord).value =
        (.ok { outcome with lateInitialized := report }, left) ∧
      (lastHub.working.cycle lastRecord).state = (hub.working.cycle desired).state := by
  induction failures generalizing outcome with
  | none => exact ⟨outcome.lateInitialized, direct, rfl⟩
  | next outages failed rest ih =>
      rcases stage_of_failure failed with ⟨stage, stays⟩
      rcases cycle_of_stage rfl stage.working direct with ⟨report, value, sameState⟩
      rw [stays] at ih
      rcases ih value with ⟨report', value', sameState'⟩
      exact ⟨report', value', sameState'.trans sameState⟩

/-- The small hub after a cycle that could not fetch the rule and one that could not update it. -/
theorem retry_after_failures_sample :
    ∃ lastHub lastRecord report, FailedCycles sample sampleRecord lastHub lastRecord ∧
      (lastHub.working.cycle lastRecord).value.1 =
        .ok
          { action := .update
            identity := ⟨"R_test", "BPR_0"⟩
            lateInitialized := report
            drift := "isAdminEnforced: desired true, observed false" } := by
  have direct : (sample.working.cycle sampleRecord).value =
      (.ok
        { action := .update
          identity := ⟨"R_test", "BPR_0"⟩
          lateInitialized := true
          drift := "isAdminEnforced: desired true, observed false" },
        (sample.working.cycle sampleRecord).value.2) := rfl
  have failures : FailedCycles sample sampleRecord _ _ :=
    .next [(.fetchRule, ⟨0, .rateLimited⟩)] rfl
      (.next [(.updateRule, ⟨0, .transport⟩)] rfl (.none _ _))
  rcases retry_after_failures direct failures with ⟨report, value, -⟩
  exact ⟨_, _, report, failures, congrArg Prod.fst value⟩

end Hub

end BranchGuard
