import BranchGuard.Proofs.CycleProtocol
import BranchGuard.Proofs.ImpliedSettings
import BranchGuard.Proofs.Sessions

/-!
# The settings that are sent

The derived settings of a mutation are worked out from the references in the record, the node IDs
that stand beside them come from resolving, and a list that names an app is not sent at all.  That
the two agree (`Settings.Consistent`) takes both sides: resolving keeps the number of the entries of
a list, so a list is sent empty exactly if the record holds an empty one, and a record that passed
its check names a review count in the range of GitHub.

Every mutation of a session is consistent in this sense with the record that it was made from
(`mutations_consistent`), whoever answers.
-/

namespace BranchGuard

open Dialogue

namespace Settings

/-- The settings agree with one another and with the record that they were made from. -/
structure Consistent (settings : Settings) (record : Desired) : Prop where
  /-- Pushes are left open exactly where it is said that nobody is exempt. -/
  opensPushes : settings.restrictsPushes = some false ↔ settings.actorIds.push = some []
  /-- Whether pushes are restricted is always said. -/
  decidesPushes : settings.restrictsPushes.isSome
  /-- Reviews are waived exactly where nothing that is sent implies them. -/
  waivesReviews : settings.requiresApprovingReviews = some false ↔
    settings.actorIds.bypassPullRequest = some [] ∧
      settings.flags.dismissesStaleReviews ≠ some true ∧
      settings.flags.requiresCodeOwnerReviews ≠ some true ∧
      (settings.reviewCount = none ∨ settings.reviewCount = some 0)
  /-- Whether reviews are required is always said. -/
  decidesReviews : settings.requiresApprovingReviews.isSome
  requiresStatusChecks : settings.requiresStatusChecks = some true
  reviewCount : ∀ count, settings.reviewCount = some count →
    0 ≤ count.toInt ∧ count.toInt ≤ 6
  contexts : settings.contexts ≠ some []
  /-- One node ID is sent for each reference of a list. -/
  actorIds : ∀ list nodeIds, settings.actorIds.get list = some nodeIds →
    nodeIds.length = (record.allowances.get list).length

end Settings

/-- The settings that the request carries, if it is a mutation with settings. -/
def Request.settings? : Request → Option Settings
  | .createRule creation => some creation.settings
  | .updateRule update => some update.settings
  | _ => none

/-! ## Lists of node IDs -/

namespace Resolution

variable {references nodeIds : List String} {calls : List Call}

theorem Resolved.length_eq (resolved : Resolved references calls nodeIds) :
    nodeIds.length = references.length := by
  induction resolved with
  | nil => rfl
  | cons looksUp rest ih => rw [List.length_cons, List.length_cons, ih]

variable {sent : Option (List String)}

theorem ListResolved.length_eq (list : ListResolved references calls (some nodeIds)) :
    nodeIds.length = references.length := by
  cases list with
  | sent noApp resolved => exact resolved.length_eq

/-- A list is sent empty exactly if it is empty. -/
theorem ListResolved.eq_some_nil_iff (list : ListResolved references calls sent) :
    sent = some [] ↔ references = [] := by
  cases list with
  | leftOut app =>
      have named : references ≠ [] := by
        rintro rfl
        cases app
      simp [named]
  | sent noApp resolved =>
      rw [Option.some.injEq, ← List.length_eq_zero_iff, resolved.length_eq,
        List.length_eq_zero_iff]

end Resolution

/-! ## Settings made from a record -/

namespace Desired

variable {record : Desired}

/-- A review count is sent as zero exactly if it is zero. -/
theorem sentCount_eq_zero_iff {count : UInt8} :
    Int32.ofNat count.toNat = 0 ↔ count = 0 := by
  have bound := count.toNat_lt
  have sent : (Int32.ofNat count.toNat).toInt = count.toNat :=
    Int32.toInt_ofNat_of_lt (by omega)
  rw [← Int32.toInt_inj, sent, ← UInt8.toNat_inj]
  simp

/-- Nothing implies approving reviews if the settings that are sent do not. -/
theorem requiresApprovingReviews_eq_false_iff :
    record.requiresApprovingReviews = false ↔
      record.allowances.bypassPullRequest = [] ∧
        record.flags.dismissesStaleReviews.toOption ≠ some true ∧
        record.flags.requiresCodeOwnerReviews.toOption ≠ some true ∧
        ((record.reviewCount.map fun count => Int32.ofNat count.toNat) = none ∨
          (record.reviewCount.map fun count => Int32.ofNat count.toNat) = some 0) := by
  have isOn (opinion : Opinion) : opinion.toOption = some true ↔ opinion = .on := by
    cases opinion <;> simp [Opinion.toOption]
  rw [← Bool.not_eq_true, requiresApprovingReviews_iff]
  cases record.reviewCount with
  | none => simp [isOn, Flags.get, Allowances.get]
  | some count => simp [isOn, Flags.get, Allowances.get, sentCount_eq_zero_iff]

theorem sentCount_inRange (valid : record.validate = .ok ()) {actorIds : ActorIds}
    {count : Int32} (sent : (record.settings actorIds).reviewCount = some count) :
    0 ≤ count.toInt ∧ count.toInt ≤ 6 := by
  rcases Option.map_eq_some_iff.mp sent with ⟨wanted, isWanted, rfl⟩
  have atMost := (validate_eq_ok.mp valid).2.2.2.1 wanted isWanted
  have bound : wanted.toNat ≤ 6 := UInt8.le_iff_toNat_le.mp atMost
  have isCount : (Int32.ofNat wanted.toNat).toInt = wanted.toNat :=
    Int32.toInt_ofNat_of_lt (by omega)
  rw [isCount]
  omega

/-- What is sent for a record that passed its check, with the node IDs found for it. -/
theorem consistent_settings (valid : record.validate = .ok ()) {calls : List Call}
    {actorIds : ActorIds} (resolved : Resolution.RuleResolved record calls actorIds) :
    (record.settings actorIds).Consistent record := by
  rcases resolved with ⟨lookups, -, lists⟩
  have isEmptied (list : AllowanceList) :
      actorIds.get list = some [] ↔ record.allowances.get list = [] :=
    (lists list).eq_some_nil_iff
  constructor
  case opensPushes =>
    have emptied : actorIds.push = some [] ↔ record.allowances.push = [] := isEmptied .push
    simp [settings, restrictsPushes, emptied]
  case decidesPushes => rfl
  case waivesReviews =>
    have emptied : actorIds.bypassPullRequest = some [] ↔
        record.allowances.bypassPullRequest = [] := isEmptied .bypassPullRequest
    apply Option.some_inj.trans
    rw [requiresApprovingReviews_eq_false_iff, ← emptied]
    exact Iff.rfl
  case decidesReviews => rfl
  case requiresStatusChecks => rfl
  case reviewCount => exact fun count sent => sentCount_inRange valid sent
  case contexts =>
    simp only [settings]
    split <;> simp_all
  case actorIds =>
    intro list nodeIds sent
    have resolved := lists list
    rw [show actorIds.get list = some nodeIds from sent] at resolved
    exact resolved.length_eq

end Desired

/-! ## Mutations of a step -/

theorem Request.isMutation_of_settings? {request : Request} {settings : Settings}
    (carried : request.settings? = some settings) : request.isMutation := by
  cases request <;> first | rfl | cases carried

theorem Request.settings?_of_isSighting {request : Request} (isSighting : request.isSighting) :
    request.settings? = none := by
  cases request <;> first | rfl | cases isSighting

namespace RuleVerbs

variable {record : Desired} {calls : List Call} {call : Call} {settings : Settings}

/-- A mutation that carries the settings of a record that passed its check is consistent with it. -/
theorem MutationCalls.consistent {mutation : ActorIds → Request}
    (made : MutationCalls record mutation calls) (valid : record.validate = .ok ())
    (carries : ∀ actorIds, (mutation actorIds).settings? = some (record.settings actorIds))
    (member : call ∈ calls) (sent : call.request.settings? = some settings) :
    settings.Consistent record := by
  rcases made.exists_resolved member (Request.isMutation_of_settings? sent) with
    ⟨lookups, actorIds, -, resolved, isDue⟩
  rw [isDue, carries, Option.some.injEq] at sent
  rw [← sent]
  exact Desired.consistent_settings valid resolved

theorem MutatingRun.consistent {α : Type} {verb : Verb} {homeless : Prop}
    {mutation : ActorIds → Request} {value : Except VerbError α}
    (run : MutatingRun verb record homeless mutation calls value)
    (carries : ∀ actorIds, (mutation actorIds).settings? = some (record.settings actorIds))
    (member : call ∈ calls) (sent : call.request.settings? = some settings) :
    settings.Consistent record := by
  by_cases ready : record.validate = .ok () ∧ ¬ homeless
  · exact (run.mutationCalls ready.1 ready.2).consistent ready.1 carries member sent
  · rw [run.calls_eq_nil ready] at member
    cases member

/-- What is due after observing carries the settings of the record that observing left. -/
theorem settings?_of_dueMutation {observed : Observing} {mutation : ActorIds → Request}
    (due : dueMutation? observed = some mutation) :
    observed.2.validate = .ok () ∧
      ∀ actorIds, (mutation actorIds).settings? = some (observed.2.settings actorIds) := by
  cases isDue_of_dueMutation due with
  | creation valid required recorded => exact ⟨valid, fun _ => rfl⟩
  | update valid required located => exact ⟨valid, fun _ => rfl⟩

end RuleVerbs

section Sessions

open RuleVerbs

variable {σ : Type} (responder : Responder Request.Reply σ)

/-- The mutations of a deed are consistent with the record that they were made from. -/
def Deed.IsConsistent (done : Deed) : Prop :=
  ∀ call ∈ done.calls, ∀ settings, call.request.settings? = some settings →
    ∃ record, done.step.record? done.result = some record ∧ settings.Consistent record

theorem isConsistent_of_noSettings {done : Deed}
    (without : ∀ call ∈ done.calls, call.request.settings? = none) : done.IsConsistent := by
  intro call member settings sent
  rw [without call member] at sent
  cases sent

theorem isConsistent_create (desired : Desired) (state : σ) :
    (deed responder (.create desired) state).IsConsistent := by
  intro call member settings sent
  refine ⟨desired, rfl, ?_⟩
  have run := mutatingRun_create responder desired state
  exact run.consistent (fun _ => rfl) member sent

theorem isConsistent_update (desired : Desired) (identity : RuleIdentity) (state : σ) :
    (deed responder (.update desired identity) state).IsConsistent := by
  intro call member settings sent
  refine ⟨desired, rfl, ?_⟩
  have run := mutatingRun_update responder desired identity state
  exact run.consistent (fun _ => rfl) member sent

theorem isConsistent_reconcile (desired : Desired) (state : σ) :
    (deed responder (.reconcile desired) state).IsConsistent := by
  intro call member settings sent
  have made : call ∈
      ((ruleVerbs.reconcileOnce desired).run responder state).transcript.calls := member
  rcases calls_cycle responder desired state with ⟨acting, isSequence, acted⟩
  rw [isSequence] at made
  refine ⟨_, rfl, ?_⟩
  change settings.Consistent ((ruleVerbs.reconcileOnce desired).run responder state).value.2
  rw [Verbs.reconcileOnce_left]
  rcases List.mem_append.mp made with sighting | inActing
  · have isSighting := (observeRun responder desired state).isSighting call sighting
    rw [Request.settings?_of_isSighting isSighting] at sent
    cases sent
  · cases acted with
    | idle nothing => cases inActing
    | mutating due made =>
        rcases settings?_of_dueMutation due with ⟨valid, carries⟩
        exact made.consistent valid carries inActing sent

/-- Whatever a step sends is consistent. -/
theorem isConsistent_deed (step : Step) (state : σ) :
    (deed responder step state).IsConsistent := by
  cases step with
  | observe desired =>
      apply isConsistent_of_noSettings
      intro call member
      exact Request.settings?_of_isSighting
        ((observeRun responder desired state).isSighting call member)
  | create desired => exact isConsistent_create responder desired state
  | update desired identity => exact isConsistent_update responder desired identity state
  | delete identity =>
      apply isConsistent_of_noSettings
      intro call member
      have made : call ∈ ((delete identity).run responder state).transcript.calls := member
      rw [calls_delete, List.mem_singleton] at made
      rw [made]
      rfl
  | reconcile desired => exact isConsistent_reconcile responder desired state

/--
Every creation and every update that is sent in a session agrees with itself and with the record
that it was made from.
-/
theorem mutations_consistent (steps : List Step) (state : σ) :
    ∀ done ∈ deeds responder steps state, ∀ call ∈ done.calls, ∀ settings,
      call.request.settings? = some settings →
        ∃ record, done.step.record? done.result = some record ∧ settings.Consistent record :=
  forall_deeds responder (isConsistent_deed responder) steps state

end Sessions

/-- A record that exempts a user and leaves everything else open. -/
def exemptingRecord : Desired :=
  { Desired.named "test-org" "test-repo" "main" with
    allowances := ⟨[], ["/alice", "/app/ci"], ["/alice"]⟩ }

/-- Against a hub without rules: one list is sent empty, one is left out, and one is resolved. -/
theorem mutations_consistent_sample :
    ∃ done ∈ deeds Hub.respond [.observe exemptingRecord, .reconcile exemptingRecord]
        { Hub.sample with rules := [] },
      ∃ call ∈ done.calls, ∃ settings, call.request.settings? = some settings ∧
        settings.actorIds = ⟨some [], none, some ["U_alice"]⟩ ∧
        ∃ record, done.step.record? done.result = some record ∧ settings.Consistent record := by
  obtain ⟨found, lookedUp, creation, reply, isSequence, isSent⟩ :
      ∃ found lookedUp creation reply,
        (deed Hub.respond (.reconcile exemptingRecord) { Hub.sample with rules := [] }).calls =
            [found, lookedUp, ⟨.createRule creation, reply⟩] ∧
          creation.settings.actorIds = ⟨some [], none, some ["U_alice"]⟩ :=
    ⟨_, _, _, _, rfl, rfl⟩
  have member : deed Hub.respond (.reconcile exemptingRecord) { Hub.sample with rules := [] } ∈
      deeds Hub.respond [.observe exemptingRecord, .reconcile exemptingRecord]
        { Hub.sample with rules := [] } :=
    List.mem_cons_of_mem _ (List.mem_singleton_self _)
  have made : (⟨.createRule creation, reply⟩ : Call) ∈
      (deed Hub.respond (.reconcile exemptingRecord) { Hub.sample with rules := [] }).calls := by
    rw [isSequence]
    simp
  exact ⟨_, member, _, made, creation.settings, rfl, isSent,
    mutations_consistent Hub.respond _ _ _ member _ made _ rfl⟩

end BranchGuard
