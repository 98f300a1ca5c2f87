import BranchGuard.Proofs.Runs
import BranchGuard.RuleVerbs

/-!
# Runs of the verbs

What each verb does against an arbitrary responder, said once.

* Observing concludes from two answers, the one to the lookup and the one to the fetch; `finding` is
  the conclusion as a function of them (`observe_value`).
* An update is refused before anything is asked, stops at an actor that cannot be resolved, is
  rejected by the answer to its mutation, or goes through (`UpdateRun`); a creation in addition
  needs a recorded repository (`CreateRun`).
* A cycle is an observation followed by what it calls for (`reconcileOnce_of_ok`), so it goes one of
  three ways (`CycleRun`).

Nothing here depends on who answers.
-/

namespace BranchGuard

open Dialogue

namespace Desired

/-- The rule with a repository recorded. -/
def recorded (desired : Desired) (repositoryId : String) : Desired :=
  { desired with repositoryId := some repositoryId }

@[simp]
theorem validate_recorded (desired : Desired) (repositoryId : String) :
    (desired.recorded repositoryId).validate = desired.validate := rfl

theorem recorded_of_eq {desired : Desired} {repositoryId : String}
    (known : desired.repositoryId = some repositoryId) :
    desired.recorded repositoryId = desired := by
  rw [recorded, ← known]

/-- The lookup that observing starts with. -/
abbrev lookupRequest (desired : Desired) : Request :=
  .findRule desired.owner (desired.repositoryName.getD "") desired.pattern

end Desired

/-- Whether the call looks for a rule or fetches one. -/
def Request.isSighting : Request → Bool
  | .findRule _ _ _ | .fetchRule _ => true
  | _ => false

theorem Request.isMutation_of_isSighting {request : Request} (isSighting : request.isSighting) :
    request.isMutation = false := by
  cases request <;> first | rfl | cases isSighting

/-- Whether the call looks up an actor. -/
def Request.isResolution : Request → Bool
  | .resolveTeam _ _ | .resolveUser _ => true
  | _ => false

theorem Request.isMutation_of_isResolution {request : Request}
    (isResolution : request.isResolution) : request.isMutation = false := by
  cases request <;> first | rfl | cases isResolution

namespace RuleVerbs

/-! ## Observing -/

/-- The conclusion when the rule was fetched. -/
def ruleFinding (desired : Desired) (isNew : Bool) (identity : RuleIdentity)
    (observed : Observed) : Observing :=
  (.ok
    { present := true
      upToDate := (Drift.against (desired.lateInitialize observed) observed).isEmpty
      lateInitialized := desired.isLateInitialized observed || isNew
      drift := (Drift.against (desired.lateInitialize observed) observed).text
      identity := some identity }, desired.lateInitialize observed)

/-- The conclusion when the repository was found, from the answers to fetching its rules. -/
def lookupFinding (desired : Desired) (isNew : Bool) (lookup : Lookup)
    (fetched : String → Except RemoteError Rule) : Observing :=
  match lookup.ruleId with
  | none => (.ok (.absent isNew), desired)
  | some ruleId =>
    match fetched ruleId with
    | .ok rule => ruleFinding desired isNew ⟨lookup.repositoryId, ruleId⟩ (.ofRule rule)
    | .error .notFound => (.ok (.absent isNew), desired)
    | .error cause => (.error ⟨.observe, .remote cause⟩, desired)

/-- What observing concludes from the answer to the lookup and the answers to fetching. -/
def finding (desired : Desired) (found : Except RemoteError Lookup)
    (fetched : String → Except RemoteError Rule) : Observing :=
  match desired.validate with
  | .error cause => (.error ⟨.observe, cause⟩, desired)
  | .ok () =>
    match found with
    | .ok lookup =>
      lookupFinding (desired.recorded lookup.repositoryId)
        (decide (desired.repositoryId ≠ some lookup.repositoryId)) lookup fetched
    | .error .notFound => (.ok (.absent false), desired)
    | .error cause => (.error ⟨.observe, .remote cause⟩, desired)

section Observe

variable {σ : Type} (responder : Responder Request.Reply σ)

theorem observeFetched_value (desired : Desired) (lookup : Lookup) (ruleId : String)
    (isNew : Bool) (rule : Rule) (state : σ) :
    ((observeFetched desired lookup ruleId isNew rule).run responder state).value =
      ruleFinding desired isNew ⟨lookup.repositoryId, ruleId⟩ (.ofRule rule) := by
  unfold observeFetched
  simp only [run_bind_value, run_sayAll, run_say]
  split <;> rfl

theorem observeFound_value (desired : Desired) (lookup : Lookup) (isNew : Bool) (state : σ) :
    ((observeFound desired lookup isNew).run responder state).value =
      lookupFinding desired isNew lookup
        (fun ruleId => (responder (.fetchRule ruleId) state).1) := by
  unfold observeFound lookupFinding
  cases lookup.ruleId with
  | none => rfl
  | some ruleId =>
      simp only [Request.send, run_bind_value, run_query]
      cases (responder (.fetchRule ruleId) state).1 with
      | ok rule => exact observeFetched_value responder _ _ _ _ _ _
      | error cause => cases cause <;> rfl

/-- Observing concludes from the answers to the lookup and to the fetch. -/
theorem observe_value (desired : Desired) (state : σ) :
    ((observe desired).run responder state).value =
      finding desired (responder desired.lookupRequest state).1
        (fun ruleId =>
          (responder (.fetchRule ruleId) (responder desired.lookupRequest state).2).1) := by
  unfold observe finding
  cases desired.validate with
  | error cause => rfl
  | ok _ =>
      simp only [Request.send, run_bind_value, run_query]
      cases (responder desired.lookupRequest state).1 with
      | error cause => cases cause <;> rfl
      | ok lookup =>
          simp only [observeRepository]
          split
          next known =>
            rw [observeFound_value, Desired.recorded_of_eq known]
            simp [known]
          next unknown =>
            rw [run_bind_value, observeFound_value]
            simp [unknown, Desired.recorded]

end Observe

/-! ## Questions that change nothing -/

/-- The requests that only look something up. -/
abbrev Lookups (request : Request) : Prop :=
  request.isMutation = false

/-- The requests that look for a rule or fetch one. -/
abbrev Sightings (request : Request) : Prop :=
  request.isSighting

theorem asks_observeFetched (desired : Desired) (lookup : Lookup) (ruleId : String)
    (isNew : Bool) (rule : Rule) :
    (observeFetched desired lookup ruleId isNew rule).Asks Sightings := by
  unfold observeFetched
  refine (asks_sayAll _).bind fun _ => (asks_sayAll _).bind fun _ =>
    (asks_sayAll _).bind fun _ => (asks_say _).bind fun _ => ?_
  split <;> exact trivial

theorem asks_observeFound (desired : Desired) (lookup : Lookup) (isNew : Bool) :
    (observeFound desired lookup isNew).Asks Sightings := by
  unfold observeFound
  cases lookup.ruleId with
  | none => exact trivial
  | some ruleId =>
      refine Asks.bind (asks_query.mpr rfl) fun answer => ?_
      cases answer with
      | ok rule => exact asks_observeFetched _ _ _ _ _
      | error cause => cases cause <;> exact trivial

theorem asks_sightings (desired : Desired) : (observe desired).Asks Sightings := by
  unfold observe
  cases desired.validate with
  | error cause => exact trivial
  | ok _ =>
      refine Asks.bind (asks_query.mpr rfl) fun answer => ?_
      cases answer with
      | error cause => cases cause <;> exact trivial
      | ok lookup =>
          simp only [observeRepository]
          split
          · exact asks_observeFound _ _ _
          · exact (asks_say _).bind fun _ => asks_observeFound _ _ _

/-- Observing changes nothing. -/
theorem asks_observe (desired : Desired) : (observe desired).Asks Lookups :=
  (asks_sightings desired).mono fun _ => Request.isMutation_of_isSighting

/-- The requests that look an actor up. -/
abbrev Resolutions (request : Request) : Prop :=
  request.isResolution

theorem resolutions_resolveActor (reference : String) :
    (Resolution.resolveActor reference).run.Asks Resolutions := by
  have concludes (answer : Except RemoteError String) :
      (Resolution.conclude reference answer).run.Asks Resolutions := by
    cases answer with
    | ok nodeId => exact trivial
    | error cause => cases cause <;> exact trivial
  unfold Resolution.resolveActor
  cases Desired.readReference reference with
  | error cause => exact trivial
  | ok actor =>
      cases actor with
      | user login => exact Attempt.asks_bind (Attempt.asks_answer rfl) concludes
      | team organization slug => exact Attempt.asks_bind (Attempt.asks_answer rfl) concludes
      | app slug => exact trivial

theorem resolutions_resolveActors (references : List String) :
    (Resolution.resolveActors references).run.Asks Resolutions := by
  induction references with
  | nil => exact trivial
  | cons reference rest ih =>
      exact Attempt.asks_bind (resolutions_resolveActor reference) fun _ =>
        Attempt.asks_bind ih fun _ => trivial

theorem resolutions_resolveList (list : AllowanceList) (references : List String) :
    (Resolution.resolveList list references).run.Asks Resolutions := by
  unfold Resolution.resolveList
  split
  · exact trivial
  · exact Attempt.asks_bind (resolutions_resolveActors references) fun _ => trivial

/-- Resolving the actors of a rule looks up actors and nothing else. -/
theorem resolutions_resolveRule (desired : Desired) :
    (Resolution.resolveRule desired).run.Asks Resolutions :=
  Attempt.asks_bind (resolutions_resolveList _ _) fun _ =>
    Attempt.asks_bind (resolutions_resolveList _ _) fun _ =>
      Attempt.asks_bind (resolutions_resolveList _ _) fun _ => trivial

theorem asks_resolveActor (reference : String) :
    (Resolution.resolveActor reference).run.Asks Lookups :=
  (resolutions_resolveActor reference).mono fun _ => Request.isMutation_of_isResolution

theorem asks_resolveList (list : AllowanceList) (references : List String) :
    (Resolution.resolveList list references).run.Asks Lookups :=
  (resolutions_resolveList list references).mono fun _ => Request.isMutation_of_isResolution

/-- Resolving the actors of a rule changes nothing. -/
theorem asks_resolveRule (desired : Desired) :
    (Resolution.resolveRule desired).run.Asks Lookups :=
  (resolutions_resolveRule desired).mono fun _ => Request.isMutation_of_isResolution

/-! ## Mutating -/

section Mutate

variable {σ : Type} (responder : Responder Request.Reply σ)

/-- The run of resolving the actors of a rule. -/
abbrev resolving (desired : Desired) (state : σ) :
    Run Request.Reply Event σ (Except EngineError ActorIds) :=
  Attempt.play responder (Resolution.resolveRule desired) state

/-- How an update can go. -/
inductive UpdateRun (desired : Desired) (identity : RuleIdentity) (state : σ)
    (run : Run Request.Reply Event σ (Except VerbError Unit)) : Prop where
  /-- The desired rule cannot be acted on. -/
  | refused (cause : EngineError) (invalid : desired.validate = .error cause)
      (value : run.value = .error ⟨.update, cause⟩) (left : run.state = state)
  /-- An actor cannot be resolved. -/
  | unresolved (cause : EngineError) (valid : desired.validate = .ok ())
      (failed : (resolving responder desired state).value = .error cause)
      (value : run.value = .error ⟨.update, cause⟩)
      (left : run.state = (resolving responder desired state).state)
  /-- The mutation failed. -/
  | rejected (actorIds : ActorIds) (cause : RemoteError) (valid : desired.validate = .ok ())
      (resolved : (resolving responder desired state).value = .ok actorIds)
      (answered : (responder (.updateRule (desired.update actorIds identity.ruleId))
        (resolving responder desired state).state).1 = .error cause)
      (value : run.value = .error ⟨.update, .remote cause⟩)
      (left : run.state = (responder (.updateRule (desired.update actorIds identity.ruleId))
        (resolving responder desired state).state).2)
  /-- The mutation was carried out. -/
  | updated (actorIds : ActorIds) (valid : desired.validate = .ok ())
      (resolved : (resolving responder desired state).value = .ok actorIds)
      (answered : (responder (.updateRule (desired.update actorIds identity.ruleId))
        (resolving responder desired state).state).1 = .ok ())
      (value : run.value = .ok ())
      (left : run.state = (responder (.updateRule (desired.update actorIds identity.ruleId))
        (resolving responder desired state).state).2)

theorem updateRun (desired : Desired) (identity : RuleIdentity) (state : σ) :
    UpdateRun responder desired identity state
      ((update desired identity).run responder state) := by
  unfold update
  rw [Attempt.run_carryOut]
  simp only [Attempt.play_bind, Attempt.play_check]
  cases valid : desired.validate with
  | error cause => exact .refused cause valid rfl rfl
  | ok _ =>
      cases resolved : (resolving responder desired state).value with
      | error cause =>
          exact .unresolved cause valid resolved rfl rfl
      | ok actorIds =>
          dsimp only
          rw [Attempt.play_call]
          cases answered : (responder (.updateRule (desired.update actorIds identity.ruleId))
              (resolving responder desired state).state).1 with
          | error cause =>
              exact .rejected actorIds cause valid resolved answered
                (by simp [answered])
                (by simp [answered])
          | ok _ =>
              exact .updated actorIds valid resolved answered
                (by simp [answered])
                (by simp [answered])

/-- What an update results in, from the actors that were resolved and the answer to its mutation. -/
theorem update_value (desired : Desired) (identity : RuleIdentity) (state : σ) :
    ((update desired identity).run responder state).value =
      Except.mapError (VerbError.mk .update) (do
        desired.validate
        let actorIds ← (resolving responder desired state).value
        (responder (.updateRule (desired.update actorIds identity.ruleId))
          (resolving responder desired state).state).1.mapError .remote) := by
  cases updateRun responder desired identity state with
  | refused cause invalid value left => rw [value, invalid]; rfl
  | unresolved cause valid failed value left => rw [value, valid, failed]; rfl
  | rejected actorIds cause valid resolved answered value left =>
      simp [value, valid, resolved, answered, Bind.bind, Except.bind]
  | updated actorIds valid resolved answered value left =>
      simp [value, valid, resolved, answered, Bind.bind, Except.bind]

/-- How a creation can go. -/
inductive CreateRun (desired : Desired) (state : σ)
    (run : Run Request.Reply Event σ (Except VerbError RuleIdentity)) : Prop where
  /-- The desired rule cannot be acted on. -/
  | refused (cause : EngineError) (invalid : desired.validate = .error cause)
      (value : run.value = .error ⟨.create, cause⟩) (left : run.state = state)
  /-- No repository was recorded. -/
  | homeless (valid : desired.validate = .ok ()) (unknown : desired.repositoryId = none)
      (value : run.value = .error ⟨.create, .missingField "repositoryId"⟩)
      (left : run.state = state)
  /-- An actor cannot be resolved. -/
  | unresolved (repositoryId : String) (cause : EngineError) (valid : desired.validate = .ok ())
      (home : desired.repositoryId = some repositoryId)
      (failed : (resolving responder desired state).value = .error cause)
      (value : run.value = .error ⟨.create, cause⟩)
      (left : run.state = (resolving responder desired state).state)
  /-- The mutation failed. -/
  | rejected (repositoryId : String) (actorIds : ActorIds) (cause : RemoteError)
      (valid : desired.validate = .ok ())
      (home : desired.repositoryId = some repositoryId)
      (resolved : (resolving responder desired state).value = .ok actorIds)
      (answered : (responder (.createRule (desired.creation actorIds repositoryId))
        (resolving responder desired state).state).1 = .error cause)
      (value : run.value = .error ⟨.create, .remote cause⟩)
      (left : run.state = (responder (.createRule (desired.creation actorIds repositoryId))
        (resolving responder desired state).state).2)
  /-- The mutation was carried out. -/
  | created (repositoryId : String) (actorIds : ActorIds) (ruleId : String)
      (valid : desired.validate = .ok ())
      (home : desired.repositoryId = some repositoryId)
      (resolved : (resolving responder desired state).value = .ok actorIds)
      (answered : (responder (.createRule (desired.creation actorIds repositoryId))
        (resolving responder desired state).state).1 = .ok ruleId)
      (value : run.value = .ok ⟨repositoryId, ruleId⟩)
      (left : run.state = (responder (.createRule (desired.creation actorIds repositoryId))
        (resolving responder desired state).state).2)

theorem createRun (desired : Desired) (state : σ) :
    CreateRun responder desired state ((create desired).run responder state) := by
  unfold create
  rw [Attempt.run_carryOut]
  simp only [Attempt.play_bind, Attempt.play_check]
  cases valid : desired.validate with
  | error cause => exact .refused cause valid rfl rfl
  | ok _ =>
      cases home : desired.repositoryId with
      | none => exact .homeless valid home rfl rfl
      | some repositoryId =>
          simp only [Attempt.play_bind]
          cases resolved : (resolving responder desired state).value with
          | error cause =>
              exact .unresolved repositoryId cause valid home resolved rfl rfl
          | ok actorIds =>
              dsimp only
              rw [Attempt.play_call]
              cases answered : (responder (.createRule (desired.creation actorIds repositoryId))
                  (resolving responder desired state).state).1 with
              | error cause =>
                  exact .rejected repositoryId actorIds cause valid home resolved answered
                    (by simp [answered])
                    (by simp [answered])
              | ok ruleId =>
                  exact .created repositoryId actorIds ruleId valid home resolved answered
                    (by simp [answered])
                    (by simp [answered])

/-- What a creation results in, from the actors that were resolved and the answer to its
mutation. -/
theorem create_value (desired : Desired) (state : σ) :
    ((create desired).run responder state).value =
      Except.mapError (VerbError.mk .create) (do
        desired.validate
        match desired.repositoryId with
        | none => .error (.missingField "repositoryId")
        | some repositoryId =>
          let actorIds ← (resolving responder desired state).value
          let ruleId ← (responder (.createRule (desired.creation actorIds repositoryId))
            (resolving responder desired state).state).1.mapError .remote
          return ⟨repositoryId, ruleId⟩) := by
  cases createRun responder desired state with
  | refused cause invalid value left => rw [value, invalid]; rfl
  | homeless valid unknown value left => rw [value, valid, unknown]; rfl
  | unresolved repositoryId cause valid home failed value left =>
      rw [value, valid, home, failed]; rfl
  | rejected repositoryId actorIds cause valid home resolved answered value left =>
      simp [value, valid, home, resolved, answered, Bind.bind, Except.bind]
  | created repositoryId actorIds ruleId valid home resolved answered value left =>
      simp [value, valid, home, resolved, answered, Bind.bind, Except.bind]
      rfl

/-- A deletion is one call. -/
theorem run_delete (identity : RuleIdentity) (state : σ) :
    ((delete identity).run responder state).value =
        (responder (.deleteRule identity.ruleId) state).1.mapError
          (fun cause => ⟨.delete, .remote cause⟩) ∧
      ((delete identity).run responder state).state =
        (responder (.deleteRule identity.ruleId) state).2 := by
  unfold delete
  rw [Attempt.run_carryOut]
  simp only [Attempt.play_bind]
  rw [Attempt.play_call]
  cases (responder (.deleteRule identity.ruleId) state).1 <;> exact ⟨rfl, rfl⟩

end Mutate

end RuleVerbs

/-! ## Cycles -/

namespace Verbs

variable {Question : Type} {Answer : Question → Type} {Note σ Resource Identity : Type}
variable (verbs : Verbs (Dialogue Answer Note) Resource Identity)
variable (responder : Responder Answer σ)
variable {resource left : Resource} {observation : Observation Identity} {state : σ}

/-- A cycle ends with the failure to observe. -/
theorem reconcileOnce_of_error {failure : VerbError}
    (observed : ((verbs.observe resource).run responder state).value = (.error failure, left)) :
    (verbs.reconcileOnce resource).run responder state =
      ⟨(.error failure, left), ((verbs.observe resource).run responder state).transcript,
        ((verbs.observe resource).run responder state).state⟩ := by
  simp only [reconcileOnce, run_bind, observed]
  simp

/-- A cycle goes on with what the observation calls for, and reports it. -/
theorem reconcileOnce_of_ok
    (observed : ((verbs.observe resource).run responder state).value = (.ok observation, left)) :
    (verbs.reconcileOnce resource).run responder state =
      let before := (verbs.observe resource).run responder state
      let acted := (verbs.act left observation).run responder before.state
      ⟨(acted.value.map fun identity =>
          { action := observation.requiredAction
            identity := identity
            lateInitialized := observation.lateInitialized
            drift := observation.drift }, left),
        before.transcript ++ acted.transcript, acted.state⟩ := by
  simp only [reconcileOnce, run_bind, observed]
  cases ((verbs.act left observation).run responder
      ((verbs.observe resource).run responder state).state).value <;>
    simp [Except.map]

/-- A cycle leaves the record that observing left. -/
theorem reconcileOnce_left (resource : Resource) (state : σ) :
    ((verbs.reconcileOnce resource).run responder state).value.2 =
      ((verbs.observe resource).run responder state).value.2 := by
  rcases observed : ((verbs.observe resource).run responder state).value with
    ⟨failure | observation, left⟩
  · rw [reconcileOnce_of_error verbs responder observed]
  · rw [reconcileOnce_of_ok verbs responder observed]

/-- How a cycle can go. -/
inductive CycleRun (resource : Resource) (state : σ) :
    Except VerbError (Outcome Identity) × Resource → Prop where
  /-- The resource could not be observed. -/
  | unobserved (failure : VerbError) (left : Resource)
      (observed :
        ((verbs.observe resource).run responder state).value = (.error failure, left)) :
      CycleRun resource state (.error failure, left)
  /-- What the observation called for failed. -/
  | unfinished (observation : Observation Identity) (left : Resource) (failure : VerbError)
      (observed :
        ((verbs.observe resource).run responder state).value = (.ok observation, left))
      (acted : ((verbs.act left observation).run responder
        ((verbs.observe resource).run responder state).state).value = .error failure) :
      CycleRun resource state (.error failure, left)
  /-- What the observation called for was done. -/
  | completed (observation : Observation Identity) (left : Resource) (identity : Identity)
      (observed :
        ((verbs.observe resource).run responder state).value = (.ok observation, left))
      (acted : ((verbs.act left observation).run responder
        ((verbs.observe resource).run responder state).state).value = .ok identity) :
      CycleRun resource state
        (.ok
          { action := observation.requiredAction
            identity := identity
            lateInitialized := observation.lateInitialized
            drift := observation.drift }, left)

/-- A cycle goes one of the three ways. -/
theorem cycleRun (resource : Resource) (state : σ) :
    CycleRun verbs responder resource state
      ((verbs.reconcileOnce resource).run responder state).value := by
  rcases observed : ((verbs.observe resource).run responder state).value with
    ⟨failure | observation, left⟩
  · rw [reconcileOnce_of_error verbs responder observed]
    exact .unobserved failure left observed
  · rw [reconcileOnce_of_ok verbs responder observed]
    cases acted : ((verbs.act left observation).run responder
        ((verbs.observe resource).run responder state).state).value with
    | error failure =>
        simp only [acted, Except.map]
        exact .unfinished observation left failure observed acted
    | ok identity =>
        simp only [acted, Except.map]
        exact .completed observation left identity observed acted

theorem cycleRun_of_value {result : Except VerbError (Outcome Identity) × Resource}
    (concluded : ((verbs.reconcileOnce resource).run responder state).value = result) :
    CycleRun verbs responder resource state result := by
  rw [← concluded]
  exact cycleRun verbs responder resource state

theorem act_of_create (required : observation.requiredAction = .create) :
    verbs.act resource observation = verbs.create resource := by
  rw [act, required]

theorem act_of_skip {identity : Identity} (required : observation.requiredAction = .skip)
    (located : observation.identity = some identity) :
    verbs.act resource observation = .done (.ok identity) := by
  rw [act, required, located]
  rfl

theorem run_act_of_update {identity : Identity}
    (required : observation.requiredAction = .update)
    (located : observation.identity = some identity) :
    (verbs.act resource observation).run responder state =
      let updated := (verbs.update resource identity).run responder state
      ⟨updated.value.map fun _ => identity, updated.transcript, updated.state⟩ := by
  simp only [act, required, located, run_bind]
  cases ((verbs.update resource identity).run responder state).value <;>
    simp [Except.map]

end Verbs

end BranchGuard
