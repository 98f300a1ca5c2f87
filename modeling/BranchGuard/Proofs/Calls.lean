import BranchGuard.Proofs.Refusals
import BranchGuard.Proofs.VerbRuns

/-!
# Calls on record

A run records its calls in order, each with its answer (`Transcript.calls`).  This module says which
calls the parts of a verb make, whoever answers.

* Observing makes the lookup, and then the fetch of the rule that the lookup names
  (`calls_observe`).
* Resolving the actors of a rule looks its references up one after the other, list after list,
  without the lists that name an app.  Either every lookup is answered with a node ID
  (`RuleResolved`), or the first one that fails is the last one made (`BrokenOff`).
* Creating and updating resolve the actors and then send one mutation, which carries the node IDs
  that were answered (`MutationCalls`).  What they conclude goes with the calls (`MutatingRun`).
-/

namespace BranchGuard

open Dialogue

/-- A call of a remote operation together with its answer. -/
structure Call where
  request : Request
  reply : request.Reply

/-- Why the call failed, if it did. -/
def Call.failure? (call : Call) : Option RemoteError :=
  match call.reply with
  | .ok _ => none
  | .error cause => some cause

theorem Call.failure?_eq_some {call : Call} {cause : RemoteError} :
    call.failure? = some cause ↔ call.reply = .error cause := by
  unfold Call.failure?
  cases call.reply <;> simp

/-- The first of the calls that failed. -/
def Call.firstFailed? (calls : List Call) : Option Call :=
  calls.find? fun call => call.failure?.isSome

theorem Call.firstFailed?_append {before : List Call}
    (succeeded : ∀ call ∈ before, call.failure? = none) (after : List Call) :
    firstFailed? (before ++ after) = firstFailed? after := by
  have noneFailed : before.find? (fun call => call.failure?.isSome) = none := by
    rw [List.find?_eq_none]
    intro call member
    simp [succeeded call member]
  rw [firstFailed?, List.find?_append, noneFailed, Option.none_or, firstFailed?]

/-- The call looks up the actor that a reference names, and gets this answer. -/
inductive Call.LooksUp : String → Call → Except RemoteError String → Prop where
  | user {reference login : String} (answer : Except RemoteError String)
      (read : ActorReference.parse reference = .ok (.user login)) :
      LooksUp reference ⟨.resolveUser login, answer⟩ answer
  | team {reference organization slug : String} (answer : Except RemoteError String)
      (read : ActorReference.parse reference = .ok (.team organization slug)) :
      LooksUp reference ⟨.resolveTeam organization slug, answer⟩ answer

theorem Call.LooksUp.failure?_of_ok {reference nodeId : String} {call : Call}
    (looksUp : call.LooksUp reference (.ok nodeId)) : call.failure? = none := by
  cases looksUp <;> rfl

theorem Call.LooksUp.not_isMutation {reference : String} {call : Call}
    {answer : Except RemoteError String} (looksUp : call.LooksUp reference answer) :
    call.request.isMutation = false := by
  cases looksUp <;> rfl

namespace Transcript

/-- The calls that were made, in order. -/
def calls (transcript : Transcript Request.Reply Event) : List Call :=
  transcript.filterMap fun
    | .exchange request reply => some ⟨request, reply⟩
    | .note _ => none

@[simp]
theorem calls_nil : calls [] = [] := rfl

@[simp]
theorem calls_exchange (request : Request) (reply : request.Reply)
    (rest : Transcript Request.Reply Event) :
    calls (.exchange request reply :: rest) = ⟨request, reply⟩ :: calls rest := rfl

@[simp]
theorem calls_note (event : Event) (rest : Transcript Request.Reply Event) :
    calls (.note event :: rest) = calls rest := rfl

@[simp]
theorem calls_append (first second : Transcript Request.Reply Event) :
    calls (first ++ second) = calls first ++ calls second := by
  simp [calls]

@[simp]
theorem calls_map_note (events : List Event) : calls (events.map .note) = [] := by
  induction events with
  | nil => rfl
  | cons event rest ih => simpa using ih

/-- The questions are those of the calls. -/
theorem questions_eq_map (transcript : Transcript Request.Reply Event) :
    transcript.questions = transcript.calls.map (·.request) := by
  induction transcript with
  | nil => rfl
  | cons entry rest ih =>
      cases entry with
      | exchange request reply => simp [ih]
      | note event => simpa using ih

end Transcript

namespace RuleVerbs

/-! ## Observing -/

/-- The calls of observing, with the answers to the lookup and to the fetch. -/
def sightingCalls (desired : Desired) (found : Except RemoteError Lookup)
    (fetched : String → Except RemoteError Rule) : List Call :=
  ⟨desired.lookupRequest, found⟩ ::
    match found with
    | .ok lookup =>
      match lookup.ruleId with
      | some ruleId => [⟨.fetchRule ruleId, fetched ruleId⟩]
      | none => []
    | .error _ => []

/-- Whether a lookup records a repository that was not recorded before. -/
abbrev records (desired : Desired) (lookup : Lookup) : Bool :=
  decide (desired.repositoryId ≠ some lookup.repositoryId)

/-- How observing can go: what it concludes, and the calls that it makes. -/
inductive ObserveRun (desired : Desired) : Observing → List Call → Prop where
  /-- The desired rule cannot be acted on. -/
  | refused (cause : EngineError) (invalid : desired.validate = .error cause) :
      ObserveRun desired (.error ⟨.observe, cause⟩, desired) []
  /-- The lookup failed. -/
  | unreached (cause : RemoteError) (valid : desired.validate = .ok ())
      (isFailure : cause ≠ .notFound) :
      ObserveRun desired (.error ⟨.observe, .remote cause⟩, desired)
        [⟨desired.lookupRequest, .error cause⟩]
  /-- There is no such repository. -/
  | nowhere (valid : desired.validate = .ok ()) :
      ObserveRun desired (.ok (.absent false), desired)
        [⟨desired.lookupRequest, .error .notFound⟩]
  /-- The repository has no such rule. -/
  | absent (lookup : Lookup) (valid : desired.validate = .ok ())
      (noRule : lookup.ruleId = none) :
      ObserveRun desired
        (.ok (.absent (records desired lookup)), desired.recorded lookup.repositoryId)
        [⟨desired.lookupRequest, .ok lookup⟩]
  /-- The fetch failed. -/
  | unfetched (lookup : Lookup) (ruleId : String) (cause : RemoteError)
      (valid : desired.validate = .ok ()) (named : lookup.ruleId = some ruleId)
      (isFailure : cause ≠ .notFound) :
      ObserveRun desired
        (.error ⟨.observe, .remote cause⟩, desired.recorded lookup.repositoryId)
        [⟨desired.lookupRequest, .ok lookup⟩, ⟨.fetchRule ruleId, .error cause⟩]
  /-- The rule was gone when it was fetched. -/
  | vanished (lookup : Lookup) (ruleId : String) (valid : desired.validate = .ok ())
      (named : lookup.ruleId = some ruleId) :
      ObserveRun desired
        (.ok (.absent (records desired lookup)), desired.recorded lookup.repositoryId)
        [⟨desired.lookupRequest, .ok lookup⟩, ⟨.fetchRule ruleId, .error .notFound⟩]
  /-- The rule was fetched. -/
  | seen (lookup : Lookup) (ruleId : String) (rule : Rule) (valid : desired.validate = .ok ())
      (named : lookup.ruleId = some ruleId) :
      ObserveRun desired
        (ruleFinding (desired.recorded lookup.repositoryId) (records desired lookup)
          ⟨lookup.repositoryId, ruleId⟩ (.ofRule rule))
        [⟨desired.lookupRequest, .ok lookup⟩, ⟨.fetchRule ruleId, .ok rule⟩]

theorem observeRun_of_answers {desired : Desired} (valid : desired.validate = .ok ())
    (found : Except RemoteError Lookup) (fetched : String → Except RemoteError Rule) :
    ObserveRun desired (finding desired found fetched) (sightingCalls desired found fetched) := by
  rw [finding.eq_def, sightingCalls.eq_def, valid]
  rcases found with cause | ⟨repositoryId, _ | ruleId⟩
  · by_cases isMissing : cause = .notFound
    · subst isMissing
      exact .nowhere valid
    · have concluded := ObserveRun.unreached cause valid isMissing
      cases cause with
      | notFound => exact absurd rfl isMissing
      | _ => exact concluded
  · exact .absent ⟨repositoryId, none⟩ valid rfl
  · simp only [lookupFinding]
    rcases fetched ruleId with cause | rule
    · by_cases isMissing : cause = .notFound
      · subst isMissing
        exact .vanished ⟨repositoryId, some ruleId⟩ ruleId valid rfl
      · have concluded :=
          ObserveRun.unfetched ⟨repositoryId, some ruleId⟩ ruleId cause valid rfl isMissing
        cases cause with
        | notFound => exact absurd rfl isMissing
        | _ => exact concluded
    · exact .seen ⟨repositoryId, some ruleId⟩ ruleId rule valid rfl

section Observe

variable {σ : Type} (responder : Responder Request.Reply σ)

theorem observe_of_invalid {desired : Desired} {cause : EngineError}
    (invalid : desired.validate = .error cause) (state : σ) :
    (observe desired).run responder state =
      ⟨(.error ⟨.observe, cause⟩, desired), [.note (.verbFailed ⟨.observe, cause⟩)], state⟩ := by
  rw [observe, invalid]
  rfl

theorem calls_observeFetched (desired : Desired) (lookup : Lookup) (ruleId : String)
    (isNew : Bool) (rule : Rule) (state : σ) :
    ((observeFetched desired lookup ruleId isNew rule).run responder state).transcript.calls =
      [] := by
  unfold observeFetched
  simp only [run_bind_transcript, run_sayAll, run_say, Transcript.calls_append,
    Transcript.calls_map_note, Transcript.calls_note, Transcript.calls_nil]
  split <;> rfl

theorem calls_observeFound (desired : Desired) (lookup : Lookup) (isNew : Bool) (state : σ) :
    ((observeFound desired lookup isNew).run responder state).transcript.calls =
      match lookup.ruleId with
      | some ruleId => [⟨.fetchRule ruleId, (responder (.fetchRule ruleId) state).1⟩]
      | none => [] := by
  unfold observeFound
  cases lookup.ruleId with
  | none => rfl
  | some ruleId =>
      simp only [Request.send, run_bind_transcript, run_query, Transcript.calls_append,
        Transcript.calls_exchange, Transcript.calls_nil]
      cases (responder (.fetchRule ruleId) state).1 with
      | ok rule => simp only [calls_observeFetched, List.append_nil]
      | error cause => cases cause <;> rfl

/-- Observing makes the lookup, and then the fetch of the rule that the lookup names. -/
theorem calls_observe {desired : Desired} (valid : desired.validate = .ok ()) (state : σ) :
    ((observe desired).run responder state).transcript.calls =
      sightingCalls desired (responder desired.lookupRequest state).1
        (fun ruleId =>
          (responder (.fetchRule ruleId) (responder desired.lookupRequest state).2).1) := by
  unfold observe sightingCalls
  rw [valid]
  simp only [Request.send, run_bind_transcript, run_query, Transcript.calls_append,
    Transcript.calls_exchange, Transcript.calls_nil]
  cases (responder desired.lookupRequest state).1 with
  | error cause => cases cause <;> rfl
  | ok lookup =>
      simp only [observeRepository]
      split
      · rw [calls_observeFound]
        rfl
      · rw [run_bind_transcript, Transcript.calls_append, calls_observeFound]
        rfl

/-- Observing asks for the pattern, and then for the rule that was found. -/
theorem asked_observe {desired : Desired} {state : σ} {request : Request}
    (asked : request ∈ ((observe desired).run responder state).transcript.questions) :
    request = desired.lookupRequest ∨
      ∃ lookup ruleId, (responder desired.lookupRequest state).1 = .ok lookup ∧
        lookup.ruleId = some ruleId ∧ request = .fetchRule ruleId := by
  cases valid : desired.validate with
  | error cause =>
      rw [observe_of_invalid responder valid] at asked
      simp at asked
  | ok _ =>
      rw [Transcript.questions_eq_map, calls_observe responder valid, sightingCalls.eq_def] at asked
      rcases List.mem_cons.mp asked with isLookup | asked
      · exact .inl isLookup
      · right
        cases found : (responder desired.lookupRequest state).1 with
        | error cause => simp [found] at asked
        | ok lookup =>
            cases named : lookup.ruleId with
            | none => simp [found, named] at asked
            | some ruleId =>
                simp only [found, named, List.map_cons, List.map_nil, List.mem_singleton] at asked
                exact ⟨lookup, ruleId, rfl, named, asked⟩

/-- Observing goes one of the seven ways. -/
theorem observeRun (desired : Desired) (state : σ) :
    ObserveRun desired ((observe desired).run responder state).value
      ((observe desired).run responder state).transcript.calls := by
  cases valid : desired.validate with
  | error cause =>
      rw [observe_of_invalid responder valid]
      exact .refused cause valid
  | ok _ =>
      rw [observe_value, calls_observe responder valid]
      exact observeRun_of_answers valid _ _

theorem observeRun_of_value {desired : Desired} {state : σ} {observed : Observing}
    (concluded : ((observe desired).run responder state).value = observed) :
    ObserveRun desired observed ((observe desired).run responder state).transcript.calls := by
  rw [← concluded]
  exact observeRun responder desired state

end Observe

end RuleVerbs

/-! ## Resolving -/

namespace Resolution

/-- Lookups of references, one for each in their order, all of them answered with a node ID. -/
inductive Resolved : List String → List Call → List String → Prop where
  | nil : Resolved [] [] []
  | cons {reference nodeId : String} {call : Call} {references nodeIds : List String}
      {calls : List Call} (looksUp : call.LooksUp reference (.ok nodeId))
      (rest : Resolved references calls nodeIds) :
      Resolved (reference :: references) (call :: calls) (nodeId :: nodeIds)

/-- Lookups of references in their order up to the first one that failed. -/
inductive BrokenOff : List String → List Call → Prop where
  | here {reference : String} {call : Call} {cause : RemoteError} (references : List String)
      (looksUp : call.LooksUp reference (.error cause)) :
      BrokenOff (reference :: references) [call]
  | later {reference nodeId : String} {call : Call} {references : List String}
      {calls : List Call} (looksUp : call.LooksUp reference (.ok nodeId))
      (rest : BrokenOff references calls) :
      BrokenOff (reference :: references) (call :: calls)

variable {references others nodeIds otherIds : List String} {calls : List Call}

theorem Resolved.append {more : List Call} (first : Resolved references calls nodeIds)
    (second : Resolved others more otherIds) :
    Resolved (references ++ others) (calls ++ more) (nodeIds ++ otherIds) := by
  induction first with
  | nil => exact second
  | cons looksUp rest ih => exact .cons looksUp ih

theorem Resolved.brokenOff {more : List Call} (first : Resolved references calls nodeIds)
    (second : BrokenOff others more) : BrokenOff (references ++ others) (calls ++ more) := by
  induction first with
  | nil => exact second
  | cons looksUp rest ih => exact .later looksUp ih

theorem BrokenOff.append (broken : BrokenOff references calls) (others : List String) :
    BrokenOff (references ++ others) calls := by
  induction broken with
  | here references looksUp => exact .here _ looksUp
  | later looksUp rest ih => exact .later looksUp ih

theorem Resolved.forall_call {holds : Call → Prop} (resolved : Resolved references calls nodeIds)
    (each : ∀ {reference nodeId call}, Call.LooksUp reference call (.ok nodeId) → holds call) :
    ∀ call ∈ calls, holds call := by
  induction resolved with
  | nil =>
      intro call member
      cases member
  | cons looksUp rest ih =>
      intro call member
      rcases List.mem_cons.mp member with rfl | member
      · exact each looksUp
      · exact ih call member

/-- All lookups succeeded but the last. -/
theorem BrokenOff.exists_concat (broken : BrokenOff references calls) :
    ∃ before last resolved nodeIds reference cause, calls = before ++ [last] ∧
      Resolved resolved before nodeIds ∧ last.LooksUp reference (.error cause) := by
  induction broken with
  | here references looksUp => exact ⟨[], _, [], [], _, _, rfl, .nil, looksUp⟩
  | later looksUp rest ih =>
      rcases ih with ⟨before, last, resolved, nodeIds, reference, cause, rfl, first, failed⟩
      exact ⟨_ :: before, last, _, _, reference, cause, rfl, .cons looksUp first, failed⟩

theorem BrokenOff.ne_nil (broken : BrokenOff references calls) : calls ≠ [] := by
  rintro rfl
  cases broken

theorem BrokenOff.succeeded (broken : BrokenOff references calls) :
    ∀ call ∈ calls.dropLast, call.failure? = none := by
  rcases broken.exists_concat with ⟨before, last, _, _, _, _, rfl, first, -⟩
  rw [List.dropLast_concat]
  exact first.forall_call Call.LooksUp.failure?_of_ok

theorem BrokenOff.not_isMutation (broken : BrokenOff references calls) :
    ∀ call ∈ calls, call.request.isMutation = false := by
  rcases broken.exists_concat with ⟨before, last, _, _, _, _, rfl, first, failed⟩
  intro call member
  rcases List.mem_append.mp member with member | member
  · exact first.forall_call Call.LooksUp.not_isMutation call member
  · rcases List.mem_singleton.mp member with rfl
    exact failed.not_isMutation

/-- What is looked up for a list: nothing if it names an app. -/
def lookedUp (references : List String) : List String :=
  if namesApp references then [] else references

/-- The lookups for a list and what the mutation gets for it. -/
inductive ListResolved (references : List String) : List Call → Option (List String) → Prop where
  | leftOut (app : namesApp references = true) : ListResolved references [] none
  | sent {calls : List Call} {nodeIds : List String} (noApp : namesApp references = false)
      (resolved : Resolved references calls nodeIds) :
      ListResolved references calls (some nodeIds)

theorem ListResolved.resolved {found : Option (List String)}
    (list : ListResolved references calls found) :
    ∃ nodeIds, Resolved (lookedUp references) calls nodeIds := by
  cases list with
  | leftOut app =>
      rw [lookedUp, if_pos app]
      exact ⟨[], .nil⟩
  | sent noApp resolved =>
      rw [lookedUp, noApp]
      exact ⟨_, resolved⟩

/-- The lookups for the three lists of a rule, one list after the other. -/
def RuleResolved (desired : Desired) (calls : List Call) (actorIds : ActorIds) : Prop :=
  ∃ lookups : Allowances (List Call), calls = lookups.toList.flatten ∧
    ∀ list, ListResolved (desired.allowances.get list) (lookups.get list) (actorIds.get list)

theorem RuleResolved.forall_call {desired : Desired} {actorIds : ActorIds} {holds : Call → Prop}
    (rule : RuleResolved desired calls actorIds)
    (each : ∀ {reference nodeId call}, Call.LooksUp reference call (.ok nodeId) → holds call) :
    ∀ call ∈ calls, holds call := by
  rcases rule with ⟨lookups, rfl, lists⟩
  intro call member
  rcases List.mem_flatten.mp member with ⟨some, isSome, member⟩
  rcases List.mem_map.mp isSome with ⟨list, -, rfl⟩
  rcases (lists list).resolved with ⟨nodeIds, resolved⟩
  exact resolved.forall_call each call member

/-- The references that are looked up for a rule, in order. -/
def ruleLookedUp (desired : Desired) : List String :=
  AllowanceList.all.flatMap fun list => lookedUp (desired.allowances.get list)

/-- What a failed lookup of an actor means. -/
def lookupFailure (reference : String) : RemoteError → EngineError
  | .notFound => .actorNotFound reference
  | cause => .remote cause

/-- The first call that failed is the lookup of this reference, and it failed with this cause. -/
def StopsAt (calls : List Call) (reference : String) (cause : RemoteError) : Prop :=
  ∃ call, Call.firstFailed? calls = some call ∧ call.LooksUp reference (.error cause)

theorem stopsAt_single {call : Call} {reference : String} {cause : RemoteError}
    (looksUp : call.LooksUp reference (.error cause)) : StopsAt [call] reference cause := by
  refine ⟨call, ?_, looksUp⟩
  cases looksUp <;> rfl

theorem Resolved.stopsAt {more : List Call} {reference : String} {cause : RemoteError}
    (first : Resolved references calls nodeIds) (stops : StopsAt more reference cause) :
    StopsAt (calls ++ more) reference cause := by
  have succeeded := first.forall_call Call.LooksUp.failure?_of_ok
  rcases stops with ⟨call, isFirst, looksUp⟩
  exact ⟨call, (Call.firstFailed?_append succeeded more).trans isFirst, looksUp⟩

section Runs

variable {σ α β : Type} (responder : Responder Request.Reply σ)

/-- A run that looks references up: all are resolved, or the first failure is the end. -/
inductive LookingUp (references : List String) (finds : List Call → α → Prop)
    (run : Run Request.Reply Event σ (Except EngineError α)) : Prop where
  | resolved (value : α) (isValue : run.value = .ok value)
      (found : finds run.transcript.calls value)
  | brokenOff (reference : String) (cause : RemoteError)
      (isFailure : run.value = .error (lookupFailure reference cause))
      (broken : BrokenOff references run.transcript.calls)
      (stops : StopsAt run.transcript.calls reference cause)

theorem LookingUp.mono {finds finds' : List Call → α → Prop}
    {run : Run Request.Reply Event σ (Except EngineError α)}
    (looking : LookingUp references finds run)
    (weaker : ∀ calls value, finds calls value → finds' calls value) :
    LookingUp references finds' run := by
  cases looking with
  | resolved value isValue found => exact .resolved value isValue (weaker _ _ found)
  | brokenOff reference cause isFailure broken stops =>
      exact .brokenOff reference cause isFailure broken stops

/-- Two attempts look up what the first and then the second looks up. -/
theorem LookingUp.bind {attempt : Attempt α} {next : α → Attempt β} {state : σ}
    {finds : List Call → α → Prop} {finds' : α → List Call → β → Prop}
    (first : LookingUp references finds (Attempt.play responder attempt state))
    (complete : ∀ calls value, finds calls value → ∃ nodeIds, Resolved references calls nodeIds)
    (second : ∀ value state,
      LookingUp others (finds' value) (Attempt.play responder (next value) state)) :
    LookingUp (references ++ others)
      (fun calls result => ∃ value before after,
        calls = before ++ after ∧ finds before value ∧ finds' value after result)
      (Attempt.play responder (attempt >>= next) state) := by
  simp only [Attempt.play_bind]
  cases first with
  | brokenOff reference cause isFailure broken stops =>
      rw [isFailure]
      exact .brokenOff reference cause rfl (broken.append others) stops
  | resolved value isValue found =>
      rw [isValue]
      cases second value (Attempt.play responder attempt state).state with
      | resolved result isResult foundNext =>
          refine .resolved result isResult ⟨value, _, _, ?_, found, foundNext⟩
          exact Transcript.calls_append _ _
      | brokenOff reference cause isFailure broken stops =>
          rcases complete _ value found with ⟨nodeIds, resolved⟩
          refine .brokenOff reference cause isFailure ?_ ?_
          · rw [Transcript.calls_append]
            exact resolved.brokenOff broken
          · rw [Transcript.calls_append]
            exact resolved.stopsAt stops

theorem play_conclude_value (reference : String) (answer : Except RemoteError String)
    (state : σ) :
    (Attempt.play responder (conclude reference answer) state).value =
      answer.mapError (lookupFailure reference) := by
  cases answer with
  | ok nodeId => rfl
  | error cause => cases cause <;> rfl

theorem play_resolveActor_user {reference login : String}
    (read : Desired.readReference reference = .ok (.user login)) (state : σ) :
    (Attempt.play responder (resolveActor reference) state).value =
      Except.mapError (lookupFailure reference) (responder (.resolveUser login) state).1 := by
  rw [resolveActor, read]
  exact (Attempt.play_bind_answer_value responder (.resolveUser login) _ state).trans
    (play_conclude_value responder reference _ _)

theorem play_resolveActor_team {reference organization slug : String}
    (read : Desired.readReference reference = .ok (.team organization slug)) (state : σ) :
    (Attempt.play responder (resolveActor reference) state).value =
      Except.mapError (lookupFailure reference)
        (responder (.resolveTeam organization slug) state).1 := by
  rw [resolveActor, read]
  exact (Attempt.play_bind_answer_value responder (.resolveTeam organization slug) _ state).trans
    (play_conclude_value responder reference _ _)

theorem calls_answer_bind (request : Request) (next : request.Reply → Attempt β) (state : σ) :
    (Attempt.play responder (Attempt.answer request >>= next) state).transcript.calls =
      ⟨request, (responder request state).1⟩ ::
        (Attempt.play responder (next (responder request state).1)
          (responder request state).2).transcript.calls := by
  rw [Attempt.play_bind, Attempt.play_answer]
  rfl

theorem calls_conclude (reference : String) (answer : Except RemoteError String) (state : σ) :
    (Attempt.play responder (conclude reference answer) state).transcript.calls = [] := by
  cases answer with
  | ok nodeId => rfl
  | error cause => cases cause <;> rfl

theorem lookingUp_of_answer {reference : String} {call : Call}
    {answer : Except RemoteError String} (looksUp : call.LooksUp reference answer)
    {run : Run Request.Reply Event σ (Except EngineError String)}
    (isValue : run.value = answer.mapError (lookupFailure reference))
    (onlyCall : run.transcript.calls = [call]) :
    LookingUp [reference] (fun calls nodeId => Resolved [reference] calls [nodeId]) run := by
  cases answer with
  | ok nodeId =>
      refine .resolved nodeId isValue ?_
      rw [onlyCall]
      exact .cons looksUp .nil
  | error cause =>
      refine .brokenOff reference cause isValue ?_ ?_
      · rw [onlyCall]
        exact .here [] looksUp
      · rw [onlyCall]
        exact stopsAt_single looksUp

theorem lookingUp_resolveActor {reference : String} {actor : ActorReference}
    (read : ActorReference.parse reference = .ok actor) (notApp : actor.isApp = false)
    (state : σ) :
    LookingUp [reference] (fun calls nodeId => Resolved [reference] calls [nodeId])
      (Attempt.play responder (resolveActor reference) state) := by
  have isRead := Desired.readReference_eq_ok.mpr read
  cases actor with
  | user login =>
      refine lookingUp_of_answer (.user _ read) (play_resolveActor_user responder isRead state) ?_
      rw [resolveActor, isRead]
      exact (calls_answer_bind responder (.resolveUser login) _ state).trans
        (congrArg (List.cons _) (calls_conclude responder reference _ _))
  | team organization slug =>
      refine lookingUp_of_answer (.team _ read) (play_resolveActor_team responder isRead state) ?_
      rw [resolveActor, isRead]
      exact (calls_answer_bind responder (.resolveTeam organization slug) _ state).trans
        (congrArg (List.cons _) (calls_conclude responder reference _ _))
  | app slug => simp [ActorReference.isApp] at notApp

theorem lookingUp_pure (value : α) (state : σ) :
    LookingUp [] (fun calls result => calls = [] ∧ result = value)
      (Attempt.play responder (pure value) state) :=
  .resolved value rfl ⟨rfl, rfl⟩

/-- The references of a list are looked up one after the other. -/
theorem lookingUp_resolveActors {references : List String}
    (readable : ∀ reference ∈ references, ∃ actor, ActorReference.parse reference = .ok actor)
    (noApp : namesApp references = false) (state : σ) :
    LookingUp references (Resolved references)
      (Attempt.play responder (resolveActors references) state) := by
  induction references generalizing state with
  | nil => exact .resolved [] rfl .nil
  | cons reference rest ih =>
      rcases readable reference (List.mem_cons_self ..) with ⟨actor, read⟩
      simp only [namesApp, List.any_cons, Bool.or_eq_false_iff, read] at noApp
      have restReadable : ∀ reference ∈ rest, ∃ actor,
          ActorReference.parse reference = .ok actor :=
        fun other member => readable other (List.mem_cons_of_mem _ member)
      have looking := (lookingUp_resolveActor responder read noApp.1 state).bind responder
        (fun calls nodeId resolved => ⟨_, resolved⟩)
        (fun nodeId state => (ih restReadable noApp.2 state).bind responder
          (fun calls nodeIds resolved => ⟨_, resolved⟩)
          (fun nodeIds state => lookingUp_pure responder (nodeId :: nodeIds) state))
      rw [List.append_nil] at looking
      refine looking.mono ?_
      rintro calls result
        ⟨nodeId, before, after, rfl, first, nodeIds, others, none, rfl, second, rfl, rfl⟩
      rw [List.append_nil]
      exact first.append second

/-- A list that names an app is passed over. -/
theorem lookingUp_resolveList (list : AllowanceList) {references : List String}
    (readable : ∀ reference ∈ references, ∃ actor, ActorReference.parse reference = .ok actor)
    (state : σ) :
    LookingUp (lookedUp references) (ListResolved references)
      (Attempt.play responder (resolveList list references) state) := by
  unfold resolveList lookedUp
  cases app : namesApp references with
  | true => exact .resolved none rfl (.leftOut app)
  | false =>
      have looking := (lookingUp_resolveActors responder readable app state).bind responder
        (fun calls nodeIds resolved => ⟨nodeIds, resolved⟩)
        (fun nodeIds state => lookingUp_pure responder (some nodeIds) state)
      rw [List.append_nil] at looking
      refine looking.mono ?_
      rintro calls result ⟨nodeIds, before, after, rfl, resolved, rfl, rfl⟩
      rw [List.append_nil]
      exact .sent app resolved

theorem lookingUp_note (event : Event) (value : α) (state : σ) :
    LookingUp [] (fun calls result => calls = [] ∧ result = value)
      (Attempt.play responder (Attempt.note event >>= fun _ => pure value) state) :=
  .resolved value rfl ⟨rfl, rfl⟩

/-- The three lists are looked up in their order. -/
theorem lookingUp_resolveRule {desired : Desired}
    (readable : ∀ list, ∀ reference ∈ desired.allowances.get list,
      ∃ actor, ActorReference.parse reference = .ok actor) (state : σ) :
    LookingUp (ruleLookedUp desired) (RuleResolved desired)
      (RuleVerbs.resolving responder desired state) := by
  have looking := (lookingUp_resolveList responder .bypassForcePush
      (readable .bypassForcePush) state).bind responder (fun _ _ found => found.resolved)
    (fun force state => (lookingUp_resolveList responder .bypassPullRequest
        (readable .bypassPullRequest) state).bind responder (fun _ _ found => found.resolved)
      (fun pull state => (lookingUp_resolveList responder .push
          (readable .push) state).bind responder (fun _ _ found => found.resolved)
        (fun push state => lookingUp_note responder .allowancesResolved
          (⟨force, pull, push⟩ : ActorIds) state)))
  refine looking.mono ?_
  rintro calls actorIds
    ⟨force, forced, _, rfl, first, pull, pulled, _, rfl, second, push, pushed, _, rfl, third,
      rfl, rfl⟩
  refine ⟨⟨forced, pulled, pushed⟩, rfl, ?_⟩
  intro list
  cases list with
  | bypassForcePush => exact first
  | bypassPullRequest => exact second
  | push => exact third

end Runs

end Resolution

namespace RuleVerbs

/-! ## Mutating -/

open Resolution

/-- The calls of creating or updating: the lookups, and the mutation if all of them succeeded. -/
inductive MutationCalls (desired : Desired) (mutation : ActorIds → Request) :
    List Call → Prop where
  | brokenOff {calls : List Call} (broken : BrokenOff (ruleLookedUp desired) calls) :
      MutationCalls desired mutation calls
  | sent {lookups : List Call} (actorIds : ActorIds) (reply : (mutation actorIds).Reply)
      (resolved : RuleResolved desired lookups actorIds) :
      MutationCalls desired mutation (lookups ++ [⟨mutation actorIds, reply⟩])

/-- A run that makes one call and ends as that ends. -/
inductive Sends {σ α : Type} (request : Request)
    (run : Run Request.Reply Event σ (Except EngineError α)) : Prop where
  | rejected (cause : RemoteError) (isFailure : run.value = .error (.remote cause))
      (onlyCall : run.transcript.calls = [⟨request, .error cause⟩])
  | accepted (result : request.Result) (value : α) (isValue : run.value = .ok value)
      (onlyCall : run.transcript.calls = [⟨request, .ok result⟩])

/--
How creating or updating can go: the calls that are made, and the result.  `homeless` says that a
repository is needed and none was recorded.
-/
inductive MutatingRun {α : Type} (verb : Verb) (desired : Desired) (homeless : Prop)
    (mutation : ActorIds → Request) : List Call → Except VerbError α → Prop where
  /-- The desired rule cannot be acted on. -/
  | refused (cause : EngineError) (invalid : desired.validate = .error cause) :
      MutatingRun verb desired homeless mutation [] (.error ⟨verb, cause⟩)
  /-- The repository is missing. -/
  | unplaced (valid : desired.validate = .ok ()) (isHomeless : homeless) :
      MutatingRun verb desired homeless mutation [] (.error ⟨verb, .missingField "repositoryId"⟩)
  /-- An actor cannot be resolved. -/
  | unresolved {calls : List Call} (reference : String) (cause : RemoteError)
      (valid : desired.validate = .ok ()) (isPlaced : ¬ homeless)
      (broken : BrokenOff (ruleLookedUp desired) calls)
      (stops : StopsAt calls reference cause) :
      MutatingRun verb desired homeless mutation calls
        (.error ⟨verb, lookupFailure reference cause⟩)
  /-- The mutation failed. -/
  | rejected {lookups : List Call} (actorIds : ActorIds) (cause : RemoteError)
      (valid : desired.validate = .ok ()) (isPlaced : ¬ homeless)
      (resolved : RuleResolved desired lookups actorIds) :
      MutatingRun verb desired homeless mutation
        (lookups ++ [⟨mutation actorIds, .error cause⟩]) (.error ⟨verb, .remote cause⟩)
  /-- The mutation was carried out. -/
  | accepted {lookups : List Call} (actorIds : ActorIds) (result : (mutation actorIds).Result)
      (value : α) (valid : desired.validate = .ok ()) (isPlaced : ¬ homeless)
      (resolved : RuleResolved desired lookups actorIds) :
      MutatingRun verb desired homeless mutation
        (lookups ++ [⟨mutation actorIds, .ok result⟩]) (.ok value)

section Mutate

variable {σ α : Type} (responder : Responder Request.Reply σ) {desired : Desired}
variable {verb : Verb} {homeless : Prop} {mutation : ActorIds → Request}

theorem MutatingRun.mutationCalls {calls : List Call} {value : Except VerbError α}
    (run : MutatingRun verb desired homeless mutation calls value)
    (valid : desired.validate = .ok ()) (isPlaced : ¬ homeless) :
    MutationCalls desired mutation calls := by
  cases run with
  | refused cause invalid =>
      rw [valid] at invalid
      cases invalid
  | unplaced _ isHomeless => exact absurd isHomeless isPlaced
  | unresolved _ _ _ _ broken => exact .brokenOff broken
  | rejected actorIds cause _ _ resolved => exact .sent actorIds _ resolved
  | accepted actorIds result _ _ _ resolved => exact .sent actorIds _ resolved

theorem MutatingRun.calls_eq_nil {calls : List Call} {value : Except VerbError α}
    (run : MutatingRun verb desired homeless mutation calls value)
    (unready : ¬ (desired.validate = .ok () ∧ ¬ homeless)) : calls = [] := by
  cases run with
  | refused => rfl
  | unplaced => rfl
  | unresolved _ _ valid isPlaced => exact absurd ⟨valid, isPlaced⟩ unready
  | rejected _ _ valid isPlaced => exact absurd ⟨valid, isPlaced⟩ unready
  | accepted _ _ _ valid isPlaced => exact absurd ⟨valid, isPlaced⟩ unready

theorem calls_carryOut (verb : Verb) (attempt : Attempt α) (state : σ) :
    ((Attempt.carryOut verb attempt).run responder state).transcript.calls =
      (Attempt.play responder attempt state).transcript.calls := by
  rw [Attempt.run_carryOut]
  cases value : (Attempt.play responder attempt state).value with
  | ok result => simp [value]
  | error cause => simp [value]

theorem value_carryOut (verb : Verb) (attempt : Attempt α) (state : σ) :
    ((Attempt.carryOut verb attempt).run responder state).value =
      (Attempt.play responder attempt state).value.mapError (VerbError.mk verb) := by
  rw [Attempt.run_carryOut]
  cases value : (Attempt.play responder attempt state).value with
  | ok result => simp [value]
  | error cause => simp [value]

/-- Taking notes, making a call and going on in silence. -/
theorem sends_noteAll_call (events : List Event) (request : Request)
    {next : request.Result → Attempt α}
    (finishes : ∀ result state, ∃ value,
      (Attempt.play responder (next result) state).value = .ok value ∧
        (Attempt.play responder (next result) state).transcript.calls = []) (state : σ) :
    Sends request (Attempt.play responder
      (Attempt.noteAll events >>= fun _ => Attempt.call request >>= next) state) := by
  simp only [Attempt.play_bind, Attempt.play_noteAll, Attempt.play_call]
  cases answered : (responder request state).1 with
  | error cause =>
      refine .rejected cause rfl ?_
      simp
  | ok result =>
      rcases finishes result (responder request state).2 with ⟨value, isValue, silent⟩
      refine .accepted result value isValue ?_
      simp [silent]

/-- Resolving the actors of a rule that can be acted on, and then sending a mutation. -/
theorem mutatingRun_of_sends {next : ActorIds → Attempt α} (valid : desired.validate = .ok ())
    (isPlaced : ¬ homeless)
    (sends : ∀ actorIds state,
      Sends (mutation actorIds) (Attempt.play responder (next actorIds) state)) (state : σ) :
    MutatingRun verb desired homeless mutation
      (Attempt.play responder (resolveRule desired >>= next) state).transcript.calls
      ((Attempt.play responder (resolveRule desired >>= next) state).value.mapError
        (VerbError.mk verb)) := by
  have readable := Desired.checkReferences_references_eq_ok.mp
    (Desired.validate_eq_ok.mp valid).2.2.2.2
  simp only [Attempt.play_bind]
  cases lookingUp_resolveRule responder readable state with
  | brokenOff reference cause isFailure broken stops =>
      rw [isFailure]
      exact .unresolved reference cause valid isPlaced broken stops
  | resolved actorIds isValue found =>
      rw [isValue]
      simp only [Transcript.calls_append]
      cases sends actorIds (resolving responder desired state).state with
      | rejected cause isFailure onlyCall =>
          rw [isFailure, onlyCall]
          exact .rejected actorIds cause valid isPlaced found
      | accepted result value isResult onlyCall =>
          rw [isResult, onlyCall]
          exact .accepted actorIds result value valid isPlaced found

/-- Creating goes one of the five ways. -/
theorem mutatingRun_create (desired : Desired) (state : σ) :
    MutatingRun .create desired (desired.repositoryId = none)
      (fun actorIds => .createRule (desired.creation actorIds (desired.repositoryId.getD "")))
      ((create desired).run responder state).transcript.calls
      ((create desired).run responder state).value := by
  rw [create, calls_carryOut, value_carryOut]
  cases valid : desired.validate with
  | error cause => exact .refused cause valid
  | ok _ =>
      cases home : desired.repositoryId with
      | none => exact .unplaced valid rfl
      | some repositoryId =>
          refine mutatingRun_of_sends responder valid (by simp) ?_ state
          intro actorIds state
          exact sends_noteAll_call responder _ _ (fun _ _ => ⟨_, rfl, rfl⟩) state

/-- Updating goes one of the five ways, of which it cannot go the second. -/
theorem mutatingRun_update (desired : Desired) (identity : RuleIdentity) (state : σ) :
    MutatingRun .update desired False
      (fun actorIds => .updateRule (desired.update actorIds identity.ruleId))
      ((update desired identity).run responder state).transcript.calls
      ((update desired identity).run responder state).value := by
  rw [update, calls_carryOut, value_carryOut]
  cases valid : desired.validate with
  | error cause => exact .refused cause valid
  | ok _ =>
      refine mutatingRun_of_sends responder valid not_false ?_ state
      intro actorIds state
      exact sends_noteAll_call responder _ _ (fun _ _ => ⟨_, rfl, rfl⟩) state

theorem calls_create (valid : desired.validate = .ok ()) {home : String}
    (recorded : desired.repositoryId = some home) (state : σ) :
    MutationCalls desired (fun actorIds => .createRule (desired.creation actorIds home))
      ((create desired).run responder state).transcript.calls := by
  have run := mutatingRun_create responder desired state
  rw [recorded] at run
  exact run.mutationCalls valid (by simp)

theorem calls_update (valid : desired.validate = .ok ()) (identity : RuleIdentity) (state : σ) :
    MutationCalls desired (fun actorIds => .updateRule (desired.update actorIds identity.ruleId))
      ((update desired identity).run responder state).transcript.calls :=
  (mutatingRun_update responder desired identity state).mutationCalls valid not_false

/-- Deleting makes one call. -/
theorem calls_delete (identity : RuleIdentity) (state : σ) :
    ((delete identity).run responder state).transcript.calls =
      [⟨.deleteRule identity.ruleId, (responder (.deleteRule identity.ruleId) state).1⟩] := by
  rw [delete, calls_carryOut]
  simp only [Attempt.play_bind]
  rw [Attempt.play_call]
  cases (responder (.deleteRule identity.ruleId) state).1 <;> rfl

theorem calls_create_of_invalid {cause : EngineError} (invalid : desired.validate = .error cause)
    (state : σ) : ((create desired).run responder state).transcript.calls = [] := by
  refine (mutatingRun_create responder desired state).calls_eq_nil ?_
  simp [invalid]

theorem calls_create_of_homeless (unknown : desired.repositoryId = none) (state : σ) :
    ((create desired).run responder state).transcript.calls = [] := by
  refine (mutatingRun_create responder desired state).calls_eq_nil ?_
  simp [unknown]

theorem calls_update_of_invalid {cause : EngineError} (invalid : desired.validate = .error cause)
    (identity : RuleIdentity) (state : σ) :
    ((update desired identity).run responder state).transcript.calls = [] := by
  refine (mutatingRun_update responder desired identity state).calls_eq_nil ?_
  simp [invalid]

end Mutate

end RuleVerbs

end BranchGuard
