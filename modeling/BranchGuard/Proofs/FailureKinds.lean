import BranchGuard.Proofs.Calls

/-!
# Kinds of failures

Creating and updating fail in four kinds, and what a call fails with does not decide the kind: a
missing object is an unknown actor where a reference was looked up, and a failure of the remote side
where the mutation was sent.  `ErrorKind.Applies` says of each kind what brings it about, from the
record and from the calls that were made, and `EngineError.Reports` what a failure tells of them.
`FailsByKind` says that a verb fails in a kind exactly where the kind applies, under its own name
and with a true report, and that it succeeds where no kind applies.

This holds of both verbs, whoever answers (`mutating_fails_by_kind`).  An app is no failure: the
check of the record lets it pass, and the list that names it is not looked up.
-/

namespace BranchGuard

open Dialogue Resolution

/-! ## What makes a verb fail -/

/-- The first call that failed is the mutation, and it failed with this cause. -/
def MutationFails (calls : List Call) (cause : RemoteError) : Prop :=
  ∃ call, Call.firstFailed? calls = some call ∧ call.request.isMutation = true ∧
    call.failure? = some cause

/--
What makes creating or updating fail in a kind, given the record, whether a repository is needed and
missing, and the calls that were made.
-/
def ErrorKind.Applies (desired : Desired) (homeless : Prop) (calls : List Call) :
    ErrorKind → Prop
  | .precondition => desired.IsUnfit ∨ desired.IsReadable ∧ homeless
  | .classification => ¬ desired.IsUnfit ∧ ¬ desired.IsReadable
  | .resolution => desired.validate = .ok () ∧ ∃ reference, StopsAt calls reference .notFound
  | .remote =>
    (∃ reference cause, StopsAt calls reference cause ∧ cause ≠ .notFound) ∨
      ∃ cause, MutationFails calls cause

/-- What a failure tells of the record and of the calls that were made. -/
def EngineError.Reports (desired : Desired) (homeless : Prop) (calls : List Call)
    (cause : EngineError) : Prop :=
  match cause with
  | .invalidReference reference reason =>
    ∃ fault, Desired.FirstUnreadable desired.references reference fault ∧ reason = fault.reason
  | .unsupportedActor _ => False
  | .actorNotFound reference => StopsAt calls reference .notFound
  | .missingField field => desired.RefusedFor cause ∨ homeless ∧ field = "repositoryId"
  | .invalidField _ _ => desired.RefusedFor cause
  | .remote answer =>
    (∃ reference, StopsAt calls reference answer ∧ answer ≠ .notFound) ∨
      MutationFails calls answer

section Kinds

variable {desired : Desired} {homeless : Prop} {calls lookups : List Call} {reference : String}
variable {cause : RemoteError}

theorem not_stopsAt_nil : ¬ StopsAt [] reference cause := by
  rintro ⟨call, isFirst, -⟩
  cases isFirst

theorem not_mutationFails_nil : ¬ MutationFails [] cause := by
  rintro ⟨call, isFirst, -⟩
  cases isFirst

/-- There is one first failure, and its call names one reference. -/
theorem stopsAt_unique {other : String} {cause' : RemoteError}
    (stops : StopsAt calls reference cause) (stops' : StopsAt calls other cause') :
    reference = other ∧ cause = cause' := by
  rcases stops with ⟨call, isFirst, looksUp⟩
  rcases stops' with ⟨call', isFirst', looksUp'⟩
  rw [isFirst] at isFirst'
  cases isFirst'
  cases looksUp with
  | user answer read =>
      cases looksUp' with
      | user answer' read' =>
          rw [← ActorReference.text_of_parse read, ← ActorReference.text_of_parse read']
          exact ⟨rfl, rfl⟩
  | team answer read =>
      cases looksUp' with
      | team answer' read' =>
          rw [← ActorReference.text_of_parse read, ← ActorReference.text_of_parse read']
          exact ⟨rfl, rfl⟩

theorem not_mutationFails_of_stopsAt {cause' : RemoteError}
    (stops : StopsAt calls reference cause) : ¬ MutationFails calls cause' := by
  rcases stops with ⟨call, isFirst, looksUp⟩
  rintro ⟨call', isFirst', isMutation, -⟩
  rw [isFirst] at isFirst'
  cases isFirst'
  rw [looksUp.not_isMutation] at isMutation
  cases isMutation

/-- After lookups that succeeded the first failure is that of the mutation, if it is one. -/
theorem firstFailed?_sent {actorIds : ActorIds} (resolved : RuleResolved desired lookups actorIds)
    (last : Call) :
    Call.firstFailed? (lookups ++ [last]) = if last.failure?.isSome then some last else none := by
  rw [Call.firstFailed?_append (resolved.forall_call Call.LooksUp.failure?_of_ok)]
  rw [Call.firstFailed?, List.find?_singleton]

theorem ErrorKind.of_applies_of_ready {kind : ErrorKind} (valid : desired.validate = .ok ())
    (isPlaced : ¬ homeless) (applies : kind.Applies desired homeless calls) :
    kind = .resolution ∨ kind = .remote := by
  rcases Desired.validate_eq_ok_iff.mp valid with ⟨fit, readable⟩
  cases kind with
  | classification => exact absurd readable applies.2
  | resolution => exact .inl rfl
  | precondition =>
      rcases applies with unfit | ⟨-, isHomeless⟩
      · exact absurd unfit fit
      · exact absurd isHomeless isPlaced
  | remote => exact .inr rfl

theorem ErrorKind.of_applies_nil {kind : ErrorKind}
    (applies : kind.Applies desired homeless []) :
    kind = .precondition ∨ kind = .classification := by
  cases kind with
  | classification => exact .inr rfl
  | resolution =>
      rcases applies with ⟨-, reference, stops⟩
      exact absurd stops not_stopsAt_nil
  | precondition => exact .inl rfl
  | remote =>
      rcases applies with ⟨reference, cause, stops, -⟩ | ⟨cause, fails⟩
      · exact absurd stops not_stopsAt_nil
      · exact absurd fails not_mutationFails_nil

theorem Desired.RefusedFor.reports {cause : EngineError} (refused : desired.RefusedFor cause) :
    cause.Reports desired homeless calls := by
  have isReported := refused
  cases refused with
  | reviewCount => exact isReported
  | _ => exact .inl isReported

end Kinds

namespace RuleVerbs

variable {α : Type} {verb : Verb} {desired : Desired} {homeless : Prop}
variable {mutation : ActorIds → Request} {calls : List Call} {value : Except VerbError α}

/-- A verb fails in a kind exactly where the kind applies, and tells why. -/
structure FailsByKind (verb : Verb) (desired : Desired) (homeless : Prop)
    (mutation : ActorIds → Request) (calls : List Call) (value : Except VerbError α) : Prop where
  kind (kind : ErrorKind) :
    (∃ failure, value = .error failure ∧ failure.cause.kind = kind) ↔
      kind.Applies desired homeless calls
  reports (failure : VerbError) (failed : value = .error failure) :
    failure.verb = verb ∧ failure.cause.Reports desired homeless calls
  succeeds :
    (∃ result, value = .ok result) ↔ ∀ kind, ¬ ErrorKind.Applies desired homeless calls kind
  /-- The lookups come first, in the order of the lists, and the mutation after them. -/
  sends (valid : desired.validate = .ok ()) (isPlaced : ¬ homeless) :
    MutationCalls desired mutation calls
  silent (unready : ¬ (desired.validate = .ok () ∧ ¬ homeless)) : calls = []

/-- What is left to be shown of a failure: its kind applies, and no other kind does. -/
theorem failsByKind_of_error {cause : EngineError}
    (run : MutatingRun verb desired homeless mutation calls
      (.error ⟨verb, cause⟩ : Except VerbError α))
    (applies : cause.kind.Applies desired homeless calls)
    (only : ∀ kind, ErrorKind.Applies desired homeless calls kind → cause.kind = kind)
    (reports : cause.Reports desired homeless calls) :
    FailsByKind verb desired homeless mutation calls
      (.error ⟨verb, cause⟩ : Except VerbError α) where
  kind kind := by
    constructor
    · rintro ⟨failure, isFailure, rfl⟩
      cases isFailure
      exact applies
    · intro applies
      exact ⟨⟨verb, cause⟩, rfl, only kind applies⟩
  reports failure failed := by
    cases failed
    exact ⟨rfl, reports⟩
  succeeds := by
    constructor
    · rintro ⟨result, isResult⟩
      cases isResult
    · intro noKind
      exact absurd applies (noKind _)
  sends := run.mutationCalls
  silent := run.calls_eq_nil

/-- What is left to be shown of a success: no kind applies. -/
theorem failsByKind_of_ok {result : α}
    (run : MutatingRun verb desired homeless mutation calls (.ok result))
    (noKind : ∀ kind, ¬ ErrorKind.Applies desired homeless calls kind) :
    FailsByKind verb desired homeless mutation calls (.ok result) where
  kind kind := by
    constructor
    · rintro ⟨failure, isFailure, -⟩
      cases isFailure
    · intro applies
      exact absurd applies (noKind kind)
  reports failure failed := by cases failed
  succeeds := ⟨fun _ => noKind, fun _ => ⟨result, rfl⟩⟩
  sends := run.mutationCalls
  silent := run.calls_eq_nil

theorem failsByKind_refused {cause : EngineError} (invalid : desired.validate = .error cause) :
    FailsByKind verb desired homeless mutation [] (.error ⟨verb, cause⟩ : Except VerbError α) := by
  have run : MutatingRun (α := α) verb desired homeless mutation [] _ := .refused cause invalid
  rcases Desired.validate_eq_error invalid with refused | ⟨fit, reference, fault, unreadable, rfl⟩
  · have isKind := refused.kind_eq
    have unfit : desired.IsUnfit := ⟨cause, refused⟩
    refine failsByKind_of_error run (isKind ▸ .inl unfit) ?_ refused.reports
    intro kind applies
    rcases ErrorKind.of_applies_nil applies with rfl | rfl
    · exact isKind
    · exact absurd unfit applies.1
  · have unread := Desired.not_isReadable_of_firstUnreadable unreadable
    refine failsByKind_of_error run ⟨fit, unread⟩ ?_ ⟨fault, unreadable, rfl⟩
    intro kind applies
    rcases ErrorKind.of_applies_nil applies with rfl | rfl
    · rcases applies with unfit | ⟨readable, -⟩
      · exact absurd unfit fit
      · exact absurd readable unread
    · rfl

theorem failsByKind_unplaced (valid : desired.validate = .ok ()) (isHomeless : homeless) :
    FailsByKind verb desired homeless mutation []
      (.error ⟨verb, .missingField "repositoryId"⟩ : Except VerbError α) := by
  have readable := (Desired.validate_eq_ok_iff.mp valid).2
  refine failsByKind_of_error (.unplaced valid isHomeless) (.inr ⟨readable, isHomeless⟩) ?_
    (.inr ⟨isHomeless, rfl⟩)
  intro kind applies
  rcases ErrorKind.of_applies_nil applies with rfl | rfl
  · rfl
  · exact absurd readable applies.2

theorem failsByKind_unresolved {reference : String} {cause : RemoteError}
    (valid : desired.validate = .ok ()) (isPlaced : ¬ homeless)
    (broken : BrokenOff (ruleLookedUp desired) calls) (stops : StopsAt calls reference cause) :
    FailsByKind verb desired homeless mutation calls
      (.error ⟨verb, lookupFailure reference cause⟩ : Except VerbError α) := by
  have run : MutatingRun (α := α) verb desired homeless mutation calls _ :=
    .unresolved reference cause valid isPlaced broken stops
  by_cases isMissing : cause = .notFound
  · subst isMissing
    refine failsByKind_of_error run ⟨valid, reference, stops⟩ ?_ stops
    intro kind applies
    rcases ErrorKind.of_applies_of_ready valid isPlaced applies with rfl | rfl
    · rfl
    · rcases applies with ⟨other, cause, stops', isFailure⟩ | ⟨cause, fails⟩
      · exact absurd (stopsAt_unique stops stops').2.symm isFailure
      · exact absurd fails (not_mutationFails_of_stopsAt stops)
  · have isRemote : lookupFailure reference cause = .remote cause := by
      cases cause with
      | notFound => exact absurd rfl isMissing
      | _ => rfl
    rw [isRemote] at run ⊢
    refine failsByKind_of_error run (.inl ⟨reference, cause, stops, isMissing⟩) ?_
      (.inl ⟨reference, stops, isMissing⟩)
    intro kind applies
    rcases ErrorKind.of_applies_of_ready valid isPlaced applies with rfl | rfl
    · rcases applies with ⟨-, other, stops'⟩
      exact absurd (stopsAt_unique stops stops').2 isMissing
    · rfl

section Sent

variable {lookups : List Call} {actorIds : ActorIds}

theorem failsByKind_rejected {cause : RemoteError} (valid : desired.validate = .ok ())
    (isPlaced : ¬ homeless) (resolved : RuleResolved desired lookups actorIds)
    (mutates : (mutation actorIds).isMutation = true) :
    FailsByKind verb desired homeless mutation (lookups ++ [⟨mutation actorIds, .error cause⟩])
      (.error ⟨verb, .remote cause⟩ : Except VerbError α) := by
  have fails : MutationFails (lookups ++ [⟨mutation actorIds, .error cause⟩]) cause :=
    ⟨_, firstFailed?_sent resolved _, mutates, rfl⟩
  refine failsByKind_of_error (.rejected actorIds cause valid isPlaced resolved)
    (.inr ⟨cause, fails⟩) ?_ (.inr fails)
  intro kind applies
  rcases ErrorKind.of_applies_of_ready valid isPlaced applies with rfl | rfl
  · rcases applies with ⟨-, reference, stops⟩
    exact absurd fails (not_mutationFails_of_stopsAt stops)
  · rfl

theorem failsByKind_accepted {result : (mutation actorIds).Result} {value : α}
    (valid : desired.validate = .ok ()) (isPlaced : ¬ homeless)
    (resolved : RuleResolved desired lookups actorIds) :
    FailsByKind verb desired homeless mutation (lookups ++ [⟨mutation actorIds, .ok result⟩])
      (.ok value) := by
  have noFailure : Call.firstFailed? (lookups ++ [⟨mutation actorIds, .ok result⟩]) = none :=
    firstFailed?_sent resolved _
  refine failsByKind_of_ok (.accepted actorIds result value valid isPlaced resolved) ?_
  intro kind applies
  rcases ErrorKind.of_applies_of_ready valid isPlaced applies with rfl | rfl
  · rcases applies with ⟨-, reference, call, isFirst, -⟩
    simp [noFailure] at isFirst
  · rcases applies with ⟨reference, cause, ⟨call, isFirst, -⟩, -⟩ | ⟨cause, call, isFirst, -⟩
    · simp [noFailure] at isFirst
    · simp [noFailure] at isFirst

end Sent

theorem MutatingRun.failsByKind (run : MutatingRun verb desired homeless mutation calls value)
    (mutates : ∀ actorIds, (mutation actorIds).isMutation = true) :
    FailsByKind verb desired homeless mutation calls value := by
  cases run with
  | refused cause invalid => exact failsByKind_refused invalid
  | unplaced valid isHomeless => exact failsByKind_unplaced valid isHomeless
  | unresolved reference cause valid isPlaced broken stops =>
      exact failsByKind_unresolved valid isPlaced broken stops
  | rejected actorIds cause valid isPlaced resolved =>
      exact failsByKind_rejected valid isPlaced resolved (mutates actorIds)
  | accepted actorIds result value valid isPlaced resolved =>
      exact failsByKind_accepted valid isPlaced resolved

/--
Creating and updating fail in the kind that applies, with a true report, and succeed where no kind
applies.  Only creating needs the repository to be recorded.
-/
theorem mutating_fails_by_kind {σ : Type} (responder : Responder Request.Reply σ)
    (desired : Desired) (state : σ) :
    FailsByKind .create desired (desired.repositoryId = none)
        (fun actorIds => .createRule (desired.creation actorIds (desired.repositoryId.getD "")))
        ((create desired).run responder state).transcript.calls
        ((create desired).run responder state).value ∧
      ∀ identity : RuleIdentity,
        FailsByKind .update desired False
          (fun actorIds => .updateRule (desired.update actorIds identity.ruleId))
          ((update desired identity).run responder state).transcript.calls
          ((update desired identity).run responder state).value := by
  constructor
  · exact (mutatingRun_create responder desired state).failsByKind fun _ => rfl
  · intro identity
    exact (mutatingRun_update responder desired identity state).failsByKind fun _ => rfl

-- The same answer to every call: a missing user is unknown, a missing rule is a remote failure.
example :
    ((update { Desired.named "acme" "web" "main" with allowances := ⟨["/alice"], [], []⟩ }
        ⟨"R", "B"⟩).run (fun _ _ => (.error .notFound, ())) ()).value =
      .error ⟨.update, .actorNotFound "/alice"⟩ := by
  rfl

example :
    ((update (.named "acme" "web" "main") ⟨"R", "B"⟩).run
        (fun _ _ => (.error .notFound, ())) ()).value =
      .error ⟨.update, .remote .notFound⟩ := by
  rfl

end RuleVerbs

end BranchGuard
