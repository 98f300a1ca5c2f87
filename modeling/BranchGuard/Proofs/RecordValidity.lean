import BranchGuard.Proofs.Calls
import BranchGuard.Proofs.HubCycles
import BranchGuard.Proofs.ReferenceGrammar

/-!
# Whether a record can still be acted on

Late initialization takes over what a rule reports for the parts that a record leaves open, and what
is taken over has to pass the checks that a caller's own values have to pass.  Observing keeps a
record valid exactly if the fetched rule fits it (`observe_valid_iff`): a review count that is taken
over does not exceed the greatest that is accepted, and the references to the actors that are taken
over can be read.

A count that does not fit eight bits is ignored, but one from 7 to 255 is taken over, and then the
record is refused for good (`observe_takes_over_excess`).  With a count that is accepted, and with
names that are not blank and hold no slash, this cannot happen (`observe_valid_of_plain`).
-/

namespace BranchGuard

open Dialogue

/-! ## What a record can take over -/

namespace Observed

theorem reviewCount?_le_iff {count : Int32} :
    (∀ value, reviewCount? count = some value → value ≤ maxReviewCount) ↔
      count.toInt ≤ maxReviewCount.toNat ∨ 255 < count.toInt := by
  unfold reviewCount?
  split
  next inRange =>
    have isValue : (UInt8.ofNat count.toInt.toNat).toNat = count.toInt.toNat := by
      rw [UInt8.toNat_ofNat']
      omega
    simp only [Option.some.injEq, forall_eq']
    rw [UInt8.le_iff_toNat_le, isValue]
    omega
  next outOfRange =>
    constructor
    · intro _
      omega
    · intro _ value isSome
      cases isSome

end Observed

/-- The count that the rule reports is accepted, and the names of its actors are plain. -/
structure Rule.IsPlain (rule : Rule) : Prop where
  reviewCount : ∀ count, rule.reviewCount = some count → count.toInt ≤ maxReviewCount.toNat
  names : ∀ list connection, rule.allowances.get list = some connection →
    ∀ actor ∈ connection.actors, Text.IsPlain actor.name

namespace Desired

variable {desired : Desired} {rule : Rule}

/-- What the rule reports for the open parts of the record can be put into the record. -/
structure Fits (desired : Desired) (rule : Rule) : Prop where
  reviewCount : desired.reviewCount = none → ∀ count, rule.reviewCount = some count →
    count.toInt ≤ maxReviewCount.toNat ∨ 255 < count.toInt
  readable : ∀ list, desired.allowances.get list = [] →
    ∀ connection, rule.allowances.get list = some connection → ∀ actor ∈ connection.actors,
      ∃ reference,
        ActorReference.parse (ActorReference.ofActor desired.owner actor).text = .ok reference

theorem fits_recorded (repositoryId : String) :
    (desired.recorded repositoryId).Fits rule ↔ desired.Fits rule := by
  constructor
  · intro fits
    exact ⟨fits.reviewCount, fits.readable⟩
  · intro fits
    exact ⟨fits.reviewCount, fits.readable⟩

theorem reviewCount_lateInitialize_le_iff (rule : Rule)
    (inRange : ∀ count, desired.reviewCount = some count → count ≤ maxReviewCount) :
    (∀ value, (desired.lateInitialize (.ofRule rule)).reviewCount = some value →
        value ≤ maxReviewCount) ↔
      (desired.reviewCount = none → ∀ count, rule.reviewCount = some count →
        count.toInt ≤ maxReviewCount.toNat ∨ 255 < count.toInt) := by
  cases own : desired.reviewCount with
  | some count =>
      have kept : (desired.lateInitialize (.ofRule rule)).reviewCount = some count := by
        simp [lateInitialize, fillFrom, own]
      simpa [kept] using inRange count own
  | none =>
      have taken : (desired.lateInitialize (.ofRule rule)).reviewCount =
          rule.reviewCount.bind Observed.reviewCount? := by
        simp [lateInitialize, fillFrom, overlay, Observed.ofRule, own]
      cases reported : rule.reviewCount with
      | none => simp [taken, reported]
      | some count => simpa [taken, reported] using Observed.reviewCount?_le_iff

theorem readable_lateInitialize_iff (rule : Rule)
    (readable : ∀ list, ∀ reference ∈ desired.allowances.get list,
      ∃ actor, ActorReference.parse reference = .ok actor) :
    (∀ list, ∀ reference ∈ (desired.lateInitialize (.ofRule rule)).allowances.get list,
        ∃ actor, ActorReference.parse reference = .ok actor) ↔
      ∀ list, desired.allowances.get list = [] →
        ∀ connection, rule.allowances.get list = some connection → ∀ actor ∈ connection.actors,
          ∃ reference,
            ActorReference.parse (ActorReference.ofActor desired.owner actor).text =
              .ok reference := by
  -- A list that was not open keeps the caller's references, and they can be read already.
  apply forall_congr'
  intro list
  by_cases isOpen : desired.allowances.get list = []
  · cases reported : rule.allowances.get list with
    | none =>
        have nothing : (desired.lateInitialize (.ofRule rule)).allowances.get list = [] := by
          simp [lateInitialize, fillFrom, overlay, Observed.ofRule, isOpen, reported]
        simp [nothing]
    | some connection =>
        have taken : (desired.lateInitialize (.ofRule rule)).allowances.get list =
            normalizeActors desired.owner connection.actors := by
          simp [lateInitialize, fillFrom, overlay, Observed.ofRule, isOpen, reported]
        simp [taken, isOpen, normalizeActors]
  · have kept : (desired.lateInitialize (.ofRule rule)).allowances.get list =
        desired.allowances.get list := by
      simp [lateInitialize, fillFrom, isOpen]
    simpa [kept, isOpen] using readable list

/-- A valid record stays valid when it is filled in from a rule that fits, and not otherwise. -/
theorem validate_lateInitialize_iff (valid : desired.validate = .ok ()) :
    (desired.lateInitialize (.ofRule rule)).validate = .ok () ↔ desired.Fits rule := by
  rcases validate_eq_ok.mp valid with ⟨owner, pattern, repository, inRange, references⟩
  have countIff := reviewCount_lateInitialize_le_iff rule inRange
  have listsIff := readable_lateInitialize_iff rule
    (checkReferences_references_eq_ok.mp references)
  rw [validate_eq_ok, checkReferences_references_eq_ok, countIff, listsIff]
  constructor
  · rintro ⟨-, -, -, reviewCount, readable⟩
    exact ⟨reviewCount, readable⟩
  · intro fits
    exact ⟨owner, pattern, repository, fits.reviewCount, fits.readable⟩

/-- A rule fits if its count is accepted and all its names, like the owner, are plain. -/
theorem fits_of_plain (owner : Text.IsPlain desired.owner) (plain : rule.IsPlain) :
    desired.Fits rule := by
  constructor
  · intro _ count reported
    exact Or.inl (plain.reviewCount count reported)
  · intro list _ connection reported actor member
    have named := plain.names list connection reported actor member
    have read := ActorReference.readReference_text_ofActor owner named
    exact ⟨_, readReference_eq_ok.mp read⟩

end Desired

/-! ## Observing -/

/-- The rule that the call has fetched, if it is a fetch that succeeded. -/
def Call.fetched? : Call → Option Rule
  | ⟨.fetchRule _, .ok rule⟩ => some rule
  | _ => none

namespace RuleVerbs

variable {desired left : Desired} {observation : Observation RuleIdentity} {calls : List Call}

/-- What is fetched decides whether the record stays valid. -/
theorem ObserveRun.valid_iff (run : ObserveRun desired (.ok observation, left) calls) :
    left.validate = .ok () ↔ ∀ rule ∈ calls.filterMap Call.fetched?, desired.Fits rule := by
  generalize isResult : (Except.ok observation, left) = result at run
  cases run with
  | refused => cases isResult
  | unreached => cases isResult
  | unfetched => cases isResult
  | nowhere valid =>
      cases isResult
      simp [valid, Call.fetched?]
  | absent lookup valid =>
      cases isResult
      simp [valid, Call.fetched?]
  | vanished lookup ruleId valid =>
      cases isResult
      simp [valid, Call.fetched?]
  | seen lookup ruleId rule valid =>
      cases isResult
      have recordedValid : (desired.recorded lookup.repositoryId).validate = .ok () := valid
      rw [Desired.validate_lateInitialize_iff recordedValid, Desired.fits_recorded]
      simp [Call.fetched?]

section Observe

variable {σ : Type} {responder : Responder Request.Reply σ} {state : σ}

/-- Observing keeps a record valid exactly if the fetched rule fits it. -/
theorem observe_valid_iff
    (observed : ((observe desired).run responder state).value = (.ok observation, left)) :
    left.validate = .ok () ↔
      ∀ rule ∈ ((observe desired).run responder state).transcript.calls.filterMap Call.fetched?,
        desired.Fits rule :=
  (observeRun_of_value responder observed).valid_iff

/-- Two approving reviews and the user `alice` fit. -/
theorem observe_valid_iff_sample :
    (Hub.sample.observing Hub.sampleRecord).value.2.validate = .ok () := by
  have observed : ((observe Hub.sampleRecord).run Hub.respond Hub.sample).value =
      (.ok
        { present := true
          upToDate := false
          lateInitialized := true
          drift := "isAdminEnforced: desired true, observed false"
          identity := some ⟨"R_test", "BPR_0"⟩ },
        (Hub.sample.observing Hub.sampleRecord).value.2) := rfl
  rw [observe_valid_iff observed]
  intro rule member
  rcases List.mem_singleton.mp (show rule ∈ [Hub.sampleRule] from member) with rfl
  constructor
  · rintro - count ⟨⟩
    decide
  · intro list _ connection reported actor member
    cases list with
    | bypassForcePush =>
        cases reported
        cases member
    | bypassPullRequest =>
        cases reported
        cases member
    | push =>
        cases reported
        rcases List.mem_singleton.mp (show actor ∈ [.user "alice"] from member) with rfl
        exact ⟨.user "alice", rfl⟩

/-- Seven approving reviews are taken over, and the record is refused from then on. -/
theorem observe_takes_over_excess :
    let rule : Rule := { Hub.blankRule "BPR_0" "main" "R_test" with reviewCount := some 7 }
    let hub : Hub := { rules := [rule] }
    let record : Desired := .named "test-org" "test-repo" "main"
    let left := (hub.observing record).value.2
    let excess : EngineError :=
      .invalidField "requiredApprovingReviewCount" "7 is outside the range 0..=6"
    record.validate = .ok () ∧ (hub.observing record).value.1.isOk ∧
      left.validate = .error excess ∧
      (hub.observing left).value = (.error ⟨.observe, excess⟩, left) := by
  intro rule hub record left excess
  have invalid : left.validate = .error excess := by decide
  refine ⟨by decide, by decide, invalid, ?_⟩
  exact congrArg Run.value (observe_of_invalid Hub.respond invalid hub)

/-- A login that holds two slashes is taken over as well, and cannot be read as a reference. -/
example :
    let push : Connection := .ofActors [.known (.user "a/b/c")]
    let rule : Rule :=
      { Hub.blankRule "BPR_0" "main" "R_test" with allowances := ⟨none, none, some push⟩ }
    (({ rules := [rule] } : Hub).observing
        (.named "test-org" "test-repo" "main")).value.2.validate =
      .error (.invalidReference "/a/b/c" ReferenceFault.tooManySegments.reason) := by
  decide

/-- Observing keeps a record valid if only plain rules are fetched. -/
theorem observe_valid_of_plain (owner : Text.IsPlain desired.owner)
    (observed : ((observe desired).run responder state).value = (.ok observation, left))
    (plain : ∀ rule ∈
      ((observe desired).run responder state).transcript.calls.filterMap Call.fetched?,
        rule.IsPlain) :
    left.validate = .ok () := by
  rw [(observeRun_of_value responder observed).valid_iff]
  intro rule member
  exact Desired.fits_of_plain owner (plain rule member)

end Observe

end RuleVerbs

end BranchGuard
