import BranchGuard.Proofs.Calls
import BranchGuard.Proofs.HubCycles
import BranchGuard.Proofs.LateInitialization

/-!
# Observing again

A responder is steady if its answers to lookups and fetches stay the same while nothing else is
asked (`Steady`).  Against a steady responder an observation that succeeds has said everything: if
the record that it leaves can still be acted on, every further observation makes the same calls,
comes to the same conclusion, reports nothing as filled in and leaves the record as it is
(`observe_idempotent`).

The reason is in the conclusion alone (`finding_again`).  The repository is recorded by the first
observation, and one pass of late initialization leaves nothing for a second.
-/

namespace BranchGuard

open Dialogue

section Steadiness

variable {σ : Type} (responder : Responder Request.Reply σ)

/-- The states that a responder can be in when it was only asked for lookups and fetches. -/
inductive AfterSightings (start : σ) : σ → Prop where
  | start : AfterSightings start start
  | next {state : σ} (request : Request) (isSighting : request.isSighting)
      (reached : AfterSightings start state) :
      AfterSightings start (responder request state).2

/-- The answers to lookups and fetches stay the same, whichever of them are made. -/
def Steady (state : σ) : Prop :=
  ∀ later, AfterSightings responder state later →
    ∀ request, request.isSighting → (responder request later).1 = (responder request state).1

variable {responder} {state later : σ}

theorem AfterSightings.trans {last : σ} (first : AfterSightings responder state later)
    (second : AfterSightings responder later last) : AfterSightings responder state last := by
  induction second with
  | start => exact first
  | next request isSighting reached ih => exact .next request isSighting ih

theorem Steady.of_reached (steady : Steady responder state)
    (reached : AfterSightings responder state later) : Steady responder later := by
  intro last further request isSighting
  rw [steady last (reached.trans further) request isSighting,
    steady later reached request isSighting]

end Steadiness

/-- Without outages a hub is steady. -/
theorem Hub.steady {hub : Hub} (unbroken : hub.outages = []) : Steady respond hub := by
  intro later reached request isSighting
  have same : later = hub := by
    induction reached with
    | start => rfl
    | next request isSighting reached ih =>
        rw [ih, respond_of_no_outages unbroken]
        exact perform_of_lookup (Request.isMutation_of_isSighting isSighting)
  rw [same]

namespace RuleVerbs

open Hub (recordLeft sight)

variable {desired left : Desired} {observation : Observation RuleIdentity}
variable {found : Except RemoteError Lookup} {fetched : String → Except RemoteError Rule}

/-! ## The conclusion -/

/-- What is concluded where observing succeeds, and the record that is left. -/
inductive Conclusion (desired : Desired) (found : Except RemoteError Lookup)
    (fetched : String → Except RemoteError Rule) : Observation RuleIdentity → Desired → Prop where
  | nowhere (missing : found = .error .notFound) :
      Conclusion desired found fetched (.absent false) desired
  | absent (lookup : Lookup) (isFound : found = .ok lookup)
      (noRule : ∀ ruleId, lookup.ruleId = some ruleId → fetched ruleId = .error .notFound) :
      Conclusion desired found fetched (.absent (records desired lookup))
        (desired.recorded lookup.repositoryId)
  | seen (identity : RuleIdentity) (rule : Rule)
      (isFound : found = .ok ⟨identity.repositoryId, some identity.ruleId⟩)
      (isFetched : fetched identity.ruleId = .ok rule) :
      Conclusion desired found fetched
        (sight desired (decide (desired.repositoryId ≠ some identity.repositoryId)) identity rule)
        (recordLeft desired identity rule)

theorem lookupFinding_of_noRule {lookup : Lookup} (isNew : Bool)
    (noRule : ∀ ruleId, lookup.ruleId = some ruleId → fetched ruleId = .error .notFound) :
    lookupFinding desired isNew lookup fetched = (.ok (.absent isNew), desired) := by
  unfold lookupFinding
  cases named : lookup.ruleId with
  | none => rfl
  | some ruleId =>
      simp only [noRule ruleId named]

theorem finding_eq_ok :
    finding desired found fetched = (.ok observation, left) ↔
      desired.validate = .ok () ∧ Conclusion desired found fetched observation left := by
  constructor
  · intro concluded
    unfold finding at concluded
    cases valid : desired.validate with
    | error cause => simp [valid] at concluded
    | ok _ =>
        refine ⟨rfl, ?_⟩
        rw [valid] at concluded
        rcases found with cause | ⟨repositoryId, _ | ruleId⟩
        · cases cause with
          | notFound =>
              cases concluded
              exact .nowhere rfl
          | _ => cases concluded
        · cases concluded
          exact .absent ⟨repositoryId, none⟩ rfl (by simp)
        · simp only [lookupFinding] at concluded
          cases isFetched : fetched ruleId with
          | ok rule =>
              rw [isFetched] at concluded
              cases concluded
              exact .seen ⟨repositoryId, ruleId⟩ rule rfl isFetched
          | error cause =>
              rw [isFetched] at concluded
              cases cause with
              | notFound =>
                  cases concluded
                  exact .absent ⟨repositoryId, some ruleId⟩ rfl (by simpa using isFetched)
              | _ => cases concluded
  · rintro ⟨valid, conclusion⟩
    unfold finding
    rw [valid]
    cases conclusion with
    | nowhere missing => rw [missing]
    | absent lookup isFound noRule =>
        rw [isFound]
        exact lookupFinding_of_noRule _ noRule
    | seen identity rule isFound isFetched =>
        rw [isFound]
        simp only [lookupFinding, isFetched]
        rfl

/-- Observing does not change which rule the record is about. -/
structure SameTarget (desired left : Desired) : Prop where
  owner : left.owner = desired.owner
  repository : left.repositoryName = desired.repositoryName
  pattern : left.pattern = desired.pattern

theorem Conclusion.sameTarget (conclusion : Conclusion desired found fetched observation left) :
    SameTarget desired left := by
  cases conclusion <;> exact ⟨rfl, rfl, rfl⟩

/-- The conclusion from the same answers for the record that is left. -/
theorem Conclusion.again (conclusion : Conclusion desired found fetched observation left) :
    Conclusion left found fetched { observation with lateInitialized := false } left := by
  cases conclusion with
  | nowhere missing => exact .nowhere missing
  | absent lookup isFound noRule =>
      have isKnown : records (desired.recorded lookup.repositoryId) lookup = false := by
        simp [records, Desired.recorded]
      have again : Conclusion (desired.recorded lookup.repositoryId) found fetched
          (.absent (records (desired.recorded lookup.repositoryId) lookup))
          (desired.recorded lookup.repositoryId) := .absent lookup isFound noRule
      rw [isKnown] at again
      exact again
  | seen identity rule isFound isFetched =>
      have again : Conclusion (recordLeft desired identity rule) found fetched _ _ :=
        .seen identity rule isFound isFetched
      have sameSight :
          sight (recordLeft desired identity rule)
              (decide ((recordLeft desired identity rule).repositoryId ≠
                some identity.repositoryId)) identity rule =
            { sight desired (decide (desired.repositoryId ≠ some identity.repositoryId)) identity
                rule with lateInitialized := false } := by
        have nothingOpen : ((recordLeft desired identity rule).recorded
            identity.repositoryId).isLateInitialized (.ofRule rule) = false :=
          Desired.isLateInitialized_lateInitialize _ _
        have isKnown : (recordLeft desired identity rule).repositoryId =
            some identity.repositoryId := rfl
        simp only [sight, Hub.seen_recordLeft, nothingOpen, isKnown, ne_eq, not_true_eq_false,
          decide_false, Bool.or_false]
      rw [sameSight, Hub.recordLeft_recordLeft] at again
      exact again

/-! ## The observations that follow -/

section Observations

variable {σ : Type} (responder : Responder Request.Reply σ)

theorem afterSightings_observe (desired : Desired) (state : σ) :
    AfterSightings responder state ((observe desired).run responder state).state := by
  apply (asks_sightings desired).invariant responder (AfterSightings responder state)
  · intro request later isSighting reached
    exact .next request isSighting reached
  · exact .start

variable {responder} {state later : σ}

/-- A steady responder can be asked at once for everything that observing needs. -/
theorem observe_of_steady (steady : Steady responder state)
    (reached : AfterSightings responder state later) (valid : desired.validate = .ok ()) :
    ((observe desired).run responder later).value =
        finding desired (responder desired.lookupRequest state).1
          (fun ruleId => (responder (.fetchRule ruleId) state).1) ∧
      ((observe desired).run responder later).transcript.calls =
        sightingCalls desired (responder desired.lookupRequest state).1
          (fun ruleId => (responder (.fetchRule ruleId) state).1) := by
  have found : (responder desired.lookupRequest later).1 =
      (responder desired.lookupRequest state).1 := steady later reached _ rfl
  have fetched : (fun ruleId =>
        (responder (.fetchRule ruleId) (responder desired.lookupRequest later).2).1) =
      fun ruleId => (responder (.fetchRule ruleId) state).1 := by
    funext ruleId
    exact steady _ (.next desired.lookupRequest rfl reached) _ rfl
  constructor
  · rw [observe_value, found, fetched]
  · rw [calls_observe responder valid, found, fetched]

theorem observe_again (steady : Steady responder state)
    (observed : ((observe desired).run responder state).value = (.ok observation, left))
    (leftValid : left.validate = .ok ()) (reached : AfterSightings responder state later) :
    ((observe left).run responder later).value =
        (.ok { observation with lateInitialized := false }, left) ∧
      ((observe left).run responder later).transcript.calls =
        ((observe desired).run responder state).transcript.calls := by
  have valid : desired.validate = .ok () := by
    rw [observe_value] at observed
    exact (finding_eq_ok.mp observed).1
  rcases observe_of_steady steady .start valid with ⟨value, calls⟩
  rcases observe_of_steady steady reached leftValid with ⟨valueAgain, callsAgain⟩
  rw [value] at observed
  have conclusion := (finding_eq_ok.mp observed).2
  -- The type of an answer depends on its request, so the request is rewritten by its parts.
  rcases conclusion.sameTarget with ⟨owner, repository, pattern⟩
  unfold Desired.lookupRequest at valueAgain callsAgain
  rw [owner, repository, pattern] at valueAgain callsAgain
  constructor
  · rw [valueAgain]
    exact finding_eq_ok.mpr ⟨leftValid, conclusion.again⟩
  · rw [callsAgain, calls]
    unfold sightingCalls Desired.lookupRequest
    rw [owner, repository, pattern]

/--
The observation with a number, counted from zero, when each goes on from what the one before left.
-/
def nthObserve (responder : Responder Request.Reply σ) (desired : Desired) (state : σ) :
    Nat → Run Request.Reply Event σ Observing
  | 0 => (observe desired).run responder state
  | number + 1 =>
    nthObserve responder ((observe desired).run responder state).value.2
      ((observe desired).run responder state).state number

theorem nthObserve_succ {result : Except VerbError (Observation RuleIdentity)}
    (observed : (nthObserve responder desired state 0).value = (result, left)) (number : Nat) :
    nthObserve responder desired state (number + 1) =
      nthObserve responder left (nthObserve responder desired state 0).state number := by
  have isLeft : (nthObserve responder desired state 0).value.2 = left :=
    congrArg Prod.snd observed
  rw [← isLeft]
  rfl

/--
Against a steady responder every observation after a successful one makes the same calls and comes
to the same conclusion, with nothing filled in, if the record can still be acted on.
-/
theorem observe_idempotent (steady : Steady responder state)
    (observed : (nthObserve responder desired state 0).value = (.ok observation, left))
    (leftValid : left.validate = .ok ()) (number : Nat) :
    (nthObserve responder desired state (number + 1)).value =
        (.ok { observation with lateInitialized := false }, left) ∧
      (nthObserve responder desired state (number + 1)).transcript.calls =
        (nthObserve responder desired state 0).transcript.calls := by
  -- On the number, for every record and state: the next observation starts from what is left.
  induction number generalizing desired state observation with
  | zero =>
      rw [nthObserve_succ observed]
      exact observe_again steady observed leftValid
        (afterSightings_observe responder desired state)
  | succ number ih =>
      have reached := afterSightings_observe responder desired state
      rcases observe_again steady observed leftValid reached with ⟨value, calls⟩
      rcases ih (steady.of_reached reached) value with ⟨lastValue, lastCalls⟩
      rw [nthObserve_succ observed]
      exact ⟨lastValue, lastCalls.trans calls⟩

end Observations

/-- The sixth observation of a rule that has drifted. -/
theorem observe_idempotent_sample :
    (nthObserve Hub.respond Hub.sampleRecord Hub.sample 5).value.1 =
        .ok
          { present := true
            upToDate := false
            lateInitialized := false
            drift := "isAdminEnforced: desired true, observed false"
            identity := some ⟨"R_test", "BPR_0"⟩ } ∧
      (nthObserve Hub.respond Hub.sampleRecord Hub.sample 5).transcript.calls =
        (nthObserve Hub.respond Hub.sampleRecord Hub.sample 0).transcript.calls := by
  have first : (nthObserve Hub.respond Hub.sampleRecord Hub.sample 0).value =
      (.ok
        { present := true
          upToDate := false
          lateInitialized := true
          drift := "isAdminEnforced: desired true, observed false"
          identity := some ⟨"R_test", "BPR_0"⟩ },
        (nthObserve Hub.respond Hub.sampleRecord Hub.sample 0).value.2) := rfl
  have again := observe_idempotent (Hub.steady rfl) first (by decide) 4
  exact ⟨congrArg Prod.fst again.1, again.2⟩

end RuleVerbs

end BranchGuard
