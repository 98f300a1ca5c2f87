import BranchGuard.Proofs.Calls
import BranchGuard.Proofs.HubCycles

/-!
# The call protocol of a cycle

Against any responder, the calls of a cycle come in one order (`cycle_follows_protocol`): the
lookup, the fetch of the rule that it names, and then, if the observation leaves something to be
done that can be done, the lookups of the actors and one mutation.  The mutation is what was
observed to be due, and carries the node IDs that the lookups answered (`CarriesOut`).  A failed
call ends the cycle, except that a lookup or a fetch may find nothing.

The repository in which a rule is created is the one that was looked up in the same cycle
(`creation_home`), with one exception.  When the lookup finds no repository, the record keeps the
one of an earlier observation, and the rule is created there (`creation_in_former_repository`).
-/

namespace BranchGuard

open Dialogue

namespace RuleVerbs

open Resolution

/-! ## Observing -/

/-- The calls of observing for a record that can be acted on. -/
inductive SightingCalls (desired : Desired) : List Call → Prop where
  | unfetched {repository : String} (found : Except RemoteError Lookup)
      (named : desired.repository = some repository)
      (noRule : ∀ lookup, found = .ok lookup → lookup.ruleId = none) :
      SightingCalls desired [⟨.findRule desired.owner repository desired.pattern, found⟩]
  | fetched {repository ruleId : String} (lookup : Lookup) (rule : Except RemoteError Rule)
      (named : desired.repository = some repository) (found : lookup.ruleId = some ruleId) :
      SightingCalls desired
        [⟨.findRule desired.owner repository desired.pattern, .ok lookup⟩,
          ⟨.fetchRule ruleId, rule⟩]

variable {desired left : Desired} {observed : Observing} {calls : List Call}

theorem exists_lookup (valid : desired.validate = .ok ()) :
    ∃ repository, desired.repository = some repository ∧ ∀ found,
      (⟨desired.lookupRequest, found⟩ : Call) =
        ⟨.findRule desired.owner repository desired.pattern, found⟩ := by
  rcases Desired.validate_eq_ok.mp valid with ⟨-, -, isNamed, -⟩
  cases named : desired.repository with
  | none => simp [Desired.repositoryName, named] at isNamed
  | some repository =>
      have isRepository : desired.repositoryName.getD "" = repository := by
        rw [Desired.repositoryName_of_isSome named isNamed, Option.getD_some]
      refine ⟨repository, rfl, ?_⟩
      intro found
      exact congrArg (fun name => (⟨.findRule desired.owner name desired.pattern, found⟩ : Call))
        isRepository

theorem ObserveRun.sightingCalls (run : ObserveRun desired observed calls)
    (valid : desired.validate = .ok ()) : SightingCalls desired calls := by
  rcases exists_lookup valid with ⟨repository, named, sameCall⟩
  cases run with
  | refused cause invalid =>
      rw [valid] at invalid
      cases invalid
  | unreached cause _ isFailure =>
      rw [sameCall]
      exact .unfetched (.error cause) named (by simp)
  | nowhere _ =>
      rw [sameCall]
      exact .unfetched (.error .notFound) named (by simp)
  | absent lookup _ noRule =>
      rw [sameCall]
      refine .unfetched (.ok lookup) named ?_
      rintro other ⟨⟩
      exact noRule
  | unfetched lookup ruleId cause _ found isFailure =>
      rw [sameCall]
      exact .fetched lookup _ named found
  | vanished lookup ruleId _ found =>
      rw [sameCall]
      exact .fetched lookup _ named found
  | seen lookup ruleId rule _ found =>
      rw [sameCall]
      exact .fetched lookup _ named found

/-- Only the last call of observing can fail. -/
theorem SightingCalls.succeeded (sighted : SightingCalls desired calls) :
    ∀ call ∈ calls.dropLast, call.failure? = none := by
  intro call member
  cases sighted with
  | unfetched found named noRule => cases member
  | fetched lookup rule named found =>
      rcases List.mem_singleton.mp member with rfl
      rfl

theorem ObserveRun.isSighting (run : ObserveRun desired observed calls) :
    ∀ call ∈ calls, call.request.isSighting := by
  cases run <;> simp [Request.isSighting]

/-- Where observing succeeds, a call that failed has found nothing. -/
theorem ObserveRun.notFound {observation : Observation RuleIdentity}
    (run : ObserveRun desired (.ok observation, left) calls) :
    ∀ call ∈ calls, ∀ cause, call.failure? = some cause → cause = .notFound := by
  generalize isResult : (Except.ok observation, left) = result at run
  cases run <;> simp_all [Call.failure?]

/-! ## Acting -/

/--
The mutation that is due after observing, once the node IDs of the actors are known.  None is due if
observing failed, if nothing has to be done, if the record that is left cannot be acted on, or if a
rule has to be created and no repository is recorded.
-/
def dueMutation? : Observing → Option (ActorIds → Request)
  | (.error _, _) => none
  | (.ok observation, left) =>
    match left.validate with
    | .error _ => none
    | .ok () =>
      match observation.requiredAction with
      | .create => left.repositoryId.map fun home actorIds =>
          .createRule (left.creation actorIds home)
      | .update => observation.identity.map fun identity actorIds =>
          .updateRule (left.update actorIds identity.ruleId)
      | .skip => none

/-- How a mutation can be due: a creation in the recorded repository, or an update of the rule that
was observed. -/
inductive IsDue : Observing → (ActorIds → Request) → Prop where
  | creation {observation : Observation RuleIdentity} {left : Desired} {home : String}
      (valid : left.validate = .ok ()) (required : observation.requiredAction = .create)
      (recorded : left.repositoryId = some home) :
      IsDue (.ok observation, left) fun actorIds => .createRule (left.creation actorIds home)
  | update {observation : Observation RuleIdentity} {left : Desired} {identity : RuleIdentity}
      (valid : left.validate = .ok ()) (required : observation.requiredAction = .update)
      (located : observation.identity = some identity) :
      IsDue (.ok observation, left) fun actorIds =>
        .updateRule (left.update actorIds identity.ruleId)

theorem isDue_of_dueMutation {mutation : ActorIds → Request}
    (due : dueMutation? observed = some mutation) : IsDue observed mutation := by
  rcases observed with ⟨failure | observation, left⟩
  · cases due
  · simp only [dueMutation?] at due
    split at due
    next => cases due
    next valid =>
      split at due
      next required =>
        rcases Option.map_eq_some_iff.mp due with ⟨home, recorded, rfl⟩
        exact .creation valid required recorded
      next required =>
        rcases Option.map_eq_some_iff.mp due with ⟨identity, located, rfl⟩
        exact .update valid required located
      next => cases due

/--
The request is the mutation that an observation calls for, with these node IDs of the actors: it
creates a rule in the recorded repository or updates the observed one, and protects the pattern of
the record.
-/
inductive CarriesOut : Observing → ActorIds → Request → Prop where
  | creation {observation : Observation RuleIdentity} {left : Desired} {actorIds : ActorIds}
      (creation : Creation) (required : observation.requiredAction = .create)
      (home : left.repositoryId = some creation.repositoryId)
      (pattern : creation.pattern = left.pattern)
      (actors : creation.settings.actorIds = actorIds) :
      CarriesOut (.ok observation, left) actorIds (.createRule creation)
  | update {observation : Observation RuleIdentity} {left : Desired} {actorIds : ActorIds}
      (update : Update) (identity : RuleIdentity) (required : observation.requiredAction = .update)
      (located : observation.identity = some identity) (rule : update.ruleId = identity.ruleId)
      (pattern : update.pattern = left.pattern)
      (actors : update.settings.actorIds = actorIds) :
      CarriesOut (.ok observation, left) actorIds (.updateRule update)

theorem carriesOut_of_dueMutation {mutation : ActorIds → Request}
    (due : dueMutation? observed = some mutation) (actorIds : ActorIds) :
    CarriesOut observed actorIds (mutation actorIds) := by
  cases isDue_of_dueMutation due with
  | creation valid required recorded => exact .creation _ required recorded rfl rfl
  | update valid required located => exact .update _ _ required located rfl rfl rfl

/-- The calls that act on what was observed. -/
inductive ActingCalls (observed : Observing) : List Call → Prop where
  | idle (nothing : dueMutation? observed = none) : ActingCalls observed []
  | mutating {mutation : ActorIds → Request} {calls : List Call}
      (due : dueMutation? observed = some mutation)
      (made : MutationCalls observed.2 mutation calls) : ActingCalls observed calls

theorem MutationCalls.succeeded {mutation : ActorIds → Request}
    (made : MutationCalls desired mutation calls) :
    ∀ call ∈ calls.dropLast, call.failure? = none := by
  cases made with
  | brokenOff broken => exact broken.succeeded
  | sent actorIds reply resolved =>
      intro call member
      rw [List.dropLast_concat] at member
      exact resolved.forall_call Call.LooksUp.failure?_of_ok call member

theorem MutationCalls.ne_nil {mutation : ActorIds → Request}
    (made : MutationCalls desired mutation calls) : calls ≠ [] := by
  cases made with
  | brokenOff broken => exact broken.ne_nil
  | sent actorIds reply resolved => simp

/-- A mutation comes after the lookups, and carries the node IDs that were found for the record. -/
theorem MutationCalls.exists_resolved {mutation : ActorIds → Request} {call : Call}
    (made : MutationCalls desired mutation calls) (member : call ∈ calls)
    (isMutation : call.request.isMutation) :
    ∃ lookups actorIds, calls = lookups ++ [call] ∧ RuleResolved desired lookups actorIds ∧
      call.request = mutation actorIds := by
  cases made with
  | brokenOff broken =>
      rw [broken.not_isMutation call member] at isMutation
      cases isMutation
  | @sent lookups actorIds reply resolved =>
      rcases List.mem_append.mp member with member | member
      · rw [resolved.forall_call Call.LooksUp.not_isMutation call member] at isMutation
        cases isMutation
      · rcases List.mem_singleton.mp member with rfl
        exact ⟨lookups, actorIds, rfl, resolved, rfl⟩

theorem ActingCalls.carried {call : Call} (acted : ActingCalls observed calls)
    (member : call ∈ calls) (isMutation : call.request.isMutation) :
    ∃ lookups actorIds, calls = lookups ++ [call] ∧ RuleResolved observed.2 lookups actorIds ∧
      CarriesOut observed actorIds call.request := by
  cases acted with
  | idle nothing => cases member
  | mutating due made =>
      rcases made.exists_resolved member isMutation with
        ⟨lookups, actorIds, isSequence, resolved, isDue⟩
      refine ⟨lookups, actorIds, isSequence, resolved, ?_⟩
      rw [isDue]
      exact carriesOut_of_dueMutation due actorIds

section Acting

variable {σ : Type} (responder : Responder Request.Reply σ)

theorem actingCalls (observation : Observation RuleIdentity) (left : Desired) (state : σ) :
    ActingCalls (.ok observation, left)
      ((ruleVerbs.act left observation).run responder state).transcript.calls := by
  cases required : observation.requiredAction with
  | create =>
      rw [Verbs.act_of_create ruleVerbs required]
      change ActingCalls _ ((RuleVerbs.create left).run responder state).transcript.calls
      cases valid : left.validate with
      | error cause =>
          rw [calls_create_of_invalid responder valid]
          exact .idle (by simp [dueMutation?, valid])
      | ok _ =>
          cases home : left.repositoryId with
          | none =>
              rw [calls_create_of_homeless responder home]
              exact .idle (by simp [dueMutation?, valid, required, home])
          | some repositoryId =>
              refine .mutating ?_ (calls_create responder valid home state)
              simp [dueMutation?, valid, required, home]
  | update =>
      cases located : observation.identity with
      | none =>
          simp only [Verbs.act, required, located]
          refine .idle ?_
          cases valid : left.validate <;> simp [dueMutation?, valid, required, located]
      | some identity =>
          rw [Verbs.run_act_of_update ruleVerbs responder required located]
          change ActingCalls _
            ((RuleVerbs.update left identity).run responder state).transcript.calls
          cases valid : left.validate with
          | error cause =>
              rw [calls_update_of_invalid responder valid]
              exact .idle (by simp [dueMutation?, valid])
          | ok _ =>
              refine .mutating ?_ (calls_update responder valid identity state)
              simp [dueMutation?, valid, required, located]
  | skip =>
      have silent :
          ((ruleVerbs.act left observation).run responder state).transcript.calls = [] := by
        simp only [Verbs.act, required]
        cases observation.identity <;> rfl
      rw [silent]
      refine .idle ?_
      cases valid : left.validate <;> simp [dueMutation?, valid, required]

/-! ## Cycles -/

/-- A cycle makes the calls of observing, and then those of acting on what was observed. -/
theorem calls_cycle (desired : Desired) (state : σ) :
    ∃ acting, ((ruleVerbs.reconcileOnce desired).run responder state).transcript.calls =
        ((observe desired).run responder state).transcript.calls ++ acting ∧
      ActingCalls ((observe desired).run responder state).value acting := by
  rcases observed : ((observe desired).run responder state).value with
    ⟨failure | observation, left⟩
  · rw [Verbs.reconcileOnce_of_error ruleVerbs responder observed]
    exact ⟨[], (List.append_nil _).symm, .idle rfl⟩
  · rw [Verbs.reconcileOnce_of_ok ruleVerbs responder observed]
    refine ⟨_, Transcript.calls_append _ _, ?_⟩
    apply actingCalls

end Acting

/-- The protocol of a cycle, given what was concluded from observing. -/
structure FollowsProtocol (desired : Desired) (observed : Observing) (calls : List Call) :
    Prop where
  ordered : ∃ sighting acting, calls = sighting ++ acting ∧
    SightingCalls desired sighting ∧ ActingCalls observed acting
  /-- A mutation is what is due, with the node IDs that were answered right before it. -/
  carried : ∀ call ∈ calls, call.request.isMutation → ∃ lookups actorIds,
    lookups ++ [call] <:+ calls ∧ RuleResolved observed.2 lookups actorIds ∧
      CarriesOut observed actorIds call.request
  /-- Only a lookup or a fetch that finds nothing is a failure after which calls are made. -/
  failuresLast : ∀ call ∈ calls.dropLast, ∀ cause, call.failure? = some cause →
    cause = .notFound ∧ call.request.isSighting

theorem ObserveRun.followsProtocol {acting : List Call} (run : ObserveRun desired observed calls)
    (valid : desired.validate = .ok ()) (acted : ActingCalls observed acting) :
    FollowsProtocol desired observed (calls ++ acting) := by
  have sighted := run.sightingCalls valid
  constructor
  case ordered => exact ⟨calls, acting, rfl, sighted, acted⟩
  case carried =>
    intro call member isMutation
    rcases List.mem_append.mp member with sighting | inActing
    · rw [Request.isMutation_of_isSighting (run.isSighting call sighting)] at isMutation
      cases isMutation
    · rcases acted.carried inActing isMutation with ⟨lookups, actorIds, rfl, resolved, carries⟩
      exact ⟨lookups, actorIds, List.suffix_append _ _, resolved, carries⟩
  case failuresLast =>
    intro call member cause failed
    cases acted with
    | idle nothing =>
        rw [List.append_nil] at member
        rw [sighted.succeeded call member] at failed
        cases failed
    | mutating due made =>
        -- A mutation is due only where observing succeeded, so a failed sighting found nothing.
        rw [List.dropLast_append_of_ne_nil made.ne_nil] at member
        rcases List.mem_append.mp member with member | member
        · rcases observed with ⟨failure | observation, left⟩
          · cases due
          · exact ⟨run.notFound call member cause failed, run.isSighting call member⟩
        · rw [made.succeeded call member] at failed
          cases failed

/--
A record that cannot be acted on is refused and left alone, without a call.  For any other record
the calls follow the protocol.
-/
theorem cycle_follows_protocol {σ : Type} (responder : Responder Request.Reply σ)
    (desired : Desired) (state : σ) :
    let cycle := (ruleVerbs.reconcileOnce desired).run responder state
    match desired.validate with
    | .error cause =>
      cycle.value = (.error ⟨.observe, cause⟩, desired) ∧ cycle.transcript.calls = []
    | .ok () =>
      FollowsProtocol desired ((observe desired).run responder state).value
        cycle.transcript.calls := by
  intro cycle
  cases valid : desired.validate with
  | error cause =>
      have refused := observe_of_invalid responder valid state
      have stopped : cycle = _ :=
        Verbs.reconcileOnce_of_error ruleVerbs responder (congrArg Run.value refused)
      constructor
      · rw [stopped]
      · rw [stopped]
        exact congrArg (fun run => run.transcript.calls) refused
  | ok _ =>
      rcases calls_cycle responder desired state with ⟨acting, isSequence, acted⟩
      rw [isSequence]
      exact (observeRun responder desired state).followsProtocol valid acted

/-! ## Where a rule is created -/

/-- Where the repository in a record comes from that observing has left. -/
theorem ObserveRun.repositoryId {observation : Observation RuleIdentity}
    (run : ObserveRun desired (.ok observation, left) calls) :
    ∃ found later, calls = ⟨desired.lookupRequest, found⟩ :: later ∧
      ((∃ lookup, found = .ok lookup ∧ left.repositoryId = some lookup.repositoryId) ∨
        (found = .error .notFound ∧ left.repositoryId = desired.repositoryId)) := by
  generalize isResult : (Except.ok observation, left) = result at run
  cases run with
  | refused => simp at isResult
  | unreached => simp at isResult
  | unfetched => simp at isResult
  | nowhere =>
      cases isResult
      exact ⟨.error .notFound, [], rfl, .inr ⟨rfl, rfl⟩⟩
  | absent lookup =>
      cases isResult
      exact ⟨.ok lookup, [], rfl, .inl ⟨lookup, rfl, rfl⟩⟩
  | vanished lookup =>
      cases isResult
      exact ⟨.ok lookup, _, rfl, .inl ⟨lookup, rfl, rfl⟩⟩
  | seen lookup =>
      cases isResult
      exact ⟨.ok lookup, _, rfl, .inl ⟨lookup, rfl, rfl⟩⟩

/--
A rule is created in the repository that the cycle has looked up, or, if the lookup found no
repository, in the one that the record had before.
-/
theorem creation_home {σ : Type} (responder : Responder Request.Reply σ) (desired : Desired)
    (state : σ) {call : Call} {creation : Creation}
    (member : call ∈
      ((ruleVerbs.reconcileOnce desired).run responder state).transcript.calls)
    (isCreation : call.request = .createRule creation) :
    ∃ found later,
      ((ruleVerbs.reconcileOnce desired).run responder state).transcript.calls =
        ⟨desired.lookupRequest, found⟩ :: later ∧
      ((∃ lookup, found = .ok lookup ∧ creation.repositoryId = lookup.repositoryId) ∨
        (found = .error .notFound ∧ desired.repositoryId = some creation.repositoryId)) := by
  rcases calls_cycle responder desired state with ⟨acting, isSequence, acted⟩
  have run := observeRun responder desired state
  rw [isSequence] at member ⊢
  rcases List.mem_append.mp member with sighting | inActing
  · have observing := run.isSighting call sighting
    rw [isCreation] at observing
    cases observing
  · rcases acted.carried inActing (by rw [isCreation]; rfl) with ⟨lookups, actorIds, -, -, carries⟩
    rw [isCreation] at carries
    generalize concluded : ((observe desired).run responder state).value = observed at carries
    cases carries with
    | creation _ _ recorded =>
        rcases (observeRun_of_value responder concluded).repositoryId with
          ⟨found, later, isFirst, origin⟩
        rw [recorded] at origin
        refine ⟨found, later ++ acting, by rw [isFirst, List.cons_append], ?_⟩
        rcases origin with ⟨lookup, isLookup, isHome⟩ | ⟨missing, isHome⟩
        · exact .inl ⟨lookup, isLookup, Option.some.inj isHome⟩
        · exact .inr ⟨missing, isHome.symm⟩

/-- On a hub without rules, a rule for its repository is created there. -/
theorem creation_home_sample :
    ∃ call ∈ (({} : Hub).cycle (.named "test-org" "test-repo" "main")).transcript.calls,
      ∃ creation, call.request = .createRule creation ∧ creation.repositoryId = "R_test" := by
  obtain ⟨creation, reply, isSequence⟩ : ∃ creation reply,
      (({} : Hub).cycle (.named "test-org" "test-repo" "main")).transcript.calls =
        [⟨.findRule "test-org" "test-repo" "main", .ok ⟨"R_test", none⟩⟩,
          ⟨.createRule creation, reply⟩] := ⟨_, _, rfl⟩
  have member : (⟨.createRule creation, reply⟩ : Call) ∈
      (({} : Hub).cycle (.named "test-org" "test-repo" "main")).transcript.calls := by
    rw [isSequence]
    exact List.mem_cons_of_mem _ (List.mem_singleton_self _)
  refine ⟨_, member, creation, rfl, ?_⟩
  rcases creation_home Hub.respond _ {} member rfl with ⟨found, later, isFirst, origin⟩
  cases isSequence.symm.trans isFirst
  rcases origin with ⟨lookup, isLookup, isHome⟩ | ⟨missing, -⟩
  · cases isLookup
    exact isHome
  · cases missing

/--
A record whose repository was looked up once and then renamed to one that does not exist: the rule
is created in the repository of before.
-/
theorem creation_in_former_repository :
    let first := ({} : Hub).observing (.named "test-org" "test-repo" "main")
    let renamed : Desired := { first.value.2 with repository := some "gone-repo" }
    ∃ creation reply, (first.state.cycle renamed).transcript.calls =
        [⟨.findRule "test-org" "gone-repo" "main", .error .notFound⟩,
          ⟨.createRule creation, reply⟩] ∧
      creation.repositoryId = "R_test" :=
  ⟨_, _, rfl, rfl⟩

end RuleVerbs

end BranchGuard
