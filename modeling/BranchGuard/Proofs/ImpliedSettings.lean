import BranchGuard.Proofs.RemainingDrift
import Mathlib.Data.Finset.Dedup

/-!
# Implied settings

Two settings are not the caller's to choose.  Pushes are restricted when the record names actors
that may push, and approving reviews are required when one of four other fields implies it.  Both
are sent with every mutation, whatever GitHub reports for them, so an update brings a rule in line
with its other fields.

What is implied depends on what a record shows in those fields alone
(`restrictsPushes_of_view_eq`, `requiresApprovingReviews_of_view_eq`).  Hence an update takes a
restriction away only where neither the record nor the rule names anybody who may push, and a
requirement only where the drift names one of its fields or neither of the two implies it
(`update_keeps_protection`).  An update of a rule that was found up to date changes nothing else
(`update_after_skip`).
-/

namespace BranchGuard

open Dialogue

/-! ## Fields that imply a setting -/

namespace PolicyField

/-- The fields from which the requirement of approving reviews follows. -/
def reviewFields : List PolicyField :=
  [.allowances .bypassPullRequest, .flag .dismissesStaleReviews, .flag .requiresCodeOwnerReviews,
   .reviewCount]

end PolicyField

theorem Text.isEmpty_eq_of_canonical_eq {first second : List String}
    (same : canonical first = canonical second) : first.isEmpty = second.isEmpty := by
  have members := mem_iff_of_canonical_eq same
  cases first with
  | nil =>
      cases second with
      | nil => rfl
      | cons text rest => simpa using members text
  | cons text rest =>
      cases second with
      | nil => simpa using members text
      | cons other others => rfl

namespace Desired

variable {first second : Desired}

/-- Whether pushes are restricted can be seen from who may push. -/
theorem restrictsPushes_of_view_eq
    (same : first.view (.allowances .push) = second.view (.allowances .push)) :
    first.restrictsPushes = second.restrictsPushes := by
  have sameSet : Text.canonical first.allowances.push = Text.canonical second.allowances.push :=
    FieldView.set.inj same
  rw [restrictsPushes, restrictsPushes, Text.isEmpty_eq_of_canonical_eq sameSet]

/-- Whether approving reviews are required can be seen from the four fields. -/
theorem requiresApprovingReviews_of_view_eq
    (same : ∀ field ∈ PolicyField.reviewFields, first.view field = second.view field) :
    first.requiresApprovingReviews = second.requiresApprovingReviews := by
  have sameBypass : Text.canonical first.allowances.bypassPullRequest =
      Text.canonical second.allowances.bypassPullRequest :=
    FieldView.set.inj (same (.allowances .bypassPullRequest) (by decide))
  have sameStale : first.flags.dismissesStaleReviews = second.flags.dismissesStaleReviews :=
    FieldView.opinion.inj (same (.flag .dismissesStaleReviews) (by decide))
  have sameOwners : first.flags.requiresCodeOwnerReviews = second.flags.requiresCodeOwnerReviews :=
    FieldView.opinion.inj (same (.flag .requiresCodeOwnerReviews) (by decide))
  have sameCount : first.reviewCount = second.reviewCount :=
    FieldView.count.inj (same .reviewCount (by decide))
  rw [requiresApprovingReviews, requiresApprovingReviews,
    Text.isEmpty_eq_of_canonical_eq sameBypass, sameStale, sameOwners, sameCount]

end Desired

/-! ## What a rule implies -/

namespace Rule

/-- Whether an allowance list is reported and names a supported actor. -/
def namesActor (rule : Rule) (list : AllowanceList) : Bool :=
  (rule.allowances.get list).any fun connection => !connection.actors.isEmpty

/-- Whether something that is reported of the rule implies that approving reviews are required. -/
def impliesReviews (rule : Rule) : Bool :=
  rule.namesActor .bypassPullRequest ||
    rule.flags.dismissesStaleReviews == some true ||
    rule.flags.requiresCodeOwnerReviews == some true ||
    (Observed.ofRule rule).reviewCount.any (· != 0)

/-- Everything is reported of the rule, in the range of a desired one and with supported actors. -/
structure IsComplete (rule : Rule) : Prop where
  flag : ∀ flag, ∃ value, rule.flags.get flag = some value
  reviewCount : ∃ count, rule.reviewCount = some count ∧ 0 ≤ count.toInt ∧ count.toInt ≤ 6
  contexts : ∃ contexts, rule.contexts = some contexts
  allowance : ∀ list, ∃ connection, rule.allowances.get list = some connection ∧
    ∀ reported ∈ connection.reported, ∃ actor, reported = .known actor

theorem isComplete_iff {rule : Rule} :
    rule.IsComplete ↔
      (∀ flag ∈ Flag.all, (rule.flags.get flag).isSome = true) ∧
        rule.reviewCount.any (fun count => 0 ≤ count.toInt && count.toInt ≤ 6) = true ∧
        rule.contexts.isSome = true ∧
        ∀ list ∈ AllowanceList.all, (rule.allowances.get list).any
          (fun connection => connection.reported.all fun reported => reported.toActor?.isSome) =
            true := by
  have supported_iff (reported : ReportedActor) :
      reported.toActor?.isSome = true ↔ ∃ actor, reported = .known actor := by
    cases reported <;> simp [ReportedActor.toActor?]
  constructor
  · rintro ⟨flag, ⟨count, isCount, inRange⟩, ⟨contexts, areContexts⟩, allowance⟩
    refine ⟨fun name _ => ?_, ?_, ?_, fun list _ => ?_⟩
    · rcases flag name with ⟨value, isValue⟩
      rw [isValue, Option.isSome_some]
    · simp [isCount, inRange]
    · rw [areContexts, Option.isSome_some]
    · rcases allowance list with ⟨connection, isConnection, supported⟩
      simpa [isConnection, supported_iff] using supported
  · rintro ⟨flag, count, contexts, allowance⟩
    constructor
    case flag => exact fun name => Option.isSome_iff_exists.mp (flag name (Flag.mem_all name))
    case reviewCount => simpa [Option.any_eq_true] using count
    case contexts => exact Option.isSome_iff_exists.mp contexts
    case allowance =>
      intro list
      simpa [Option.any_eq_true, supported_iff] using
        allowance list (AllowanceList.mem_all list)

instance (rule : Rule) : Decidable rule.IsComplete :=
  decidable_of_iff _ isComplete_iff.symm

theorem IsComplete.reads_reviewCount {rule : Rule} (complete : rule.IsComplete) :
    ∃ count, (Observed.ofRule rule).reviewCount = some count := by
  rcases complete.reviewCount with ⟨count, reported, atLeast, atMost⟩
  have inRange : 0 ≤ count.toInt ∧ count.toInt < 256 := by omega
  simp [Observed.ofRule, reported, Observed.reviewCount?, inRange]

end Rule

namespace Desired

variable {desired : Desired} {rule : Rule}

theorem requiresApprovingReviews_iff :
    desired.requiresApprovingReviews = true ↔
      (desired.allowances.get .bypassPullRequest).isEmpty = false ∨
        desired.flags.get .dismissesStaleReviews = .on ∨
        desired.flags.get .requiresCodeOwnerReviews = .on ∨
        ∃ count, desired.reviewCount = some count ∧ count ≠ 0 := by
  cases count : desired.reviewCount <;>
    simp [requiresApprovingReviews, count, Opinion.isOn, Flags.get, Allowances.get, or_assoc]

/-- A record that retains what implies approving reviews implies them as well. -/
theorem Retains.requiresApprovingReviews {left : Desired} (retains : left.Retains desired)
    (implied : desired.requiresApprovingReviews = true) : left.requiresApprovingReviews = true := by
  rw [requiresApprovingReviews_iff] at implied ⊢
  rcases implied with names | stale | owners | ⟨count, wanted, notZero⟩
  · left
    have named : desired.allowances.get .bypassPullRequest ≠ [] := by simpa using names
    rw [retains.allowances _ named]
    exact names
  · right; left
    rw [retains.flags _ (by rw [stale]; rfl)]
    exact stale
  · right; right; left
    rw [retains.flags _ (by rw [owners]; rfl)]
    exact owners
  · right; right; right
    exact ⟨count, retains.reviewCount count wanted, notZero⟩

theorem impliesReviews_iff :
    rule.impliesReviews = true ↔
      rule.namesActor .bypassPullRequest = true ∨
        rule.flags.get .dismissesStaleReviews = some true ∨
        rule.flags.get .requiresCodeOwnerReviews = some true ∨
        ∃ count, (Observed.ofRule rule).reviewCount = some count ∧ count ≠ 0 := by
  cases count : (Observed.ofRule rule).reviewCount <;>
    simp [Rule.impliesReviews, count, Flags.get, or_assoc]

theorem allowance_overlay (desired : Desired) {list : AllowanceList} {connection : Connection}
    (reported : rule.allowances.get list = some connection) :
    (desired.overlay (.ofRule rule)).allowances.get list =
      normalizeActors desired.owner connection.actors := by
  simp [overlay, Observed.ofRule, reported]

theorem allowance_overlay_isEmpty (desired : Desired) {list : AllowanceList}
    {connection : Connection} (reported : rule.allowances.get list = some connection) :
    ((desired.overlay (.ofRule rule)).allowances.get list).isEmpty =
      !rule.namesActor list := by
  rw [allowance_overlay desired reported]
  simp [reported, normalizeActors, Rule.namesActor]

/-- A list that the rule names actors in is not empty in the overlay. -/
theorem allowance_overlay_of_namesActor (desired : Desired) {list : AllowanceList}
    (names : rule.namesActor list = true) :
    ((desired.overlay (.ofRule rule)).allowances.get list).isEmpty = false := by
  cases reported : rule.allowances.get list with
  | none => simp [Rule.namesActor, reported] at names
  | some connection => rw [allowance_overlay_isEmpty desired reported, names, Bool.not_true]

theorem flag_overlay (desired : Desired) {flag : Flag} {value : Bool}
    (reported : rule.flags.get flag = some value) :
    (desired.overlay (.ofRule rule)).flags.get flag = .ofOption (some value) := by
  cases value <;> simp [overlay, Observed.ofRule, reported, Opinion.ofOption, Opinion.orElse,
    Opinion.isSet]

theorem reviewCount_overlay (desired : Desired) {count : UInt8}
    (reported : (Observed.ofRule rule).reviewCount = some count) :
    (desired.overlay (.ofRule rule)).reviewCount = some count := by
  simp [overlay, reported]

/-- What the rule implies is implied by the overlay. -/
theorem requiresApprovingReviews_overlay (desired : Desired)
    (implied : rule.impliesReviews = true) :
    (desired.overlay (.ofRule rule)).requiresApprovingReviews = true := by
  rw [requiresApprovingReviews_iff]
  rcases impliesReviews_iff.mp implied with
    names | stale | owners | ⟨count, reported, notZero⟩
  · exact Or.inl (allowance_overlay_of_namesActor desired names)
  · exact Or.inr (Or.inl (flag_overlay desired stale))
  · exact Or.inr (Or.inr (Or.inl (flag_overlay desired owners)))
  · exact Or.inr (Or.inr (Or.inr ⟨count, reviewCount_overlay desired reported, notZero⟩))

/-- For a rule of which everything is reported, nothing else is. -/
theorem requiresApprovingReviews_overlay_of_isComplete (desired : Desired)
    (complete : rule.IsComplete) :
    (desired.overlay (.ofRule rule)).requiresApprovingReviews = rule.impliesReviews := by
  rw [Bool.eq_iff_iff]
  refine ⟨?_, requiresApprovingReviews_overlay desired⟩
  intro required
  rw [impliesReviews_iff]
  rcases requiresApprovingReviews_iff.mp required with
    names | stale | owners | ⟨count, shown, notZero⟩
  · rcases complete.allowance .bypassPullRequest with ⟨connection, reported, -⟩
    rw [allowance_overlay_isEmpty desired reported] at names
    exact Or.inl (by simpa using names)
  · rcases complete.flag .dismissesStaleReviews with ⟨value, reported⟩
    rw [flag_overlay desired reported] at stale
    cases value <;> simp_all [Opinion.ofOption]
  · rcases complete.flag .requiresCodeOwnerReviews with ⟨value, reported⟩
    rw [flag_overlay desired reported] at owners
    cases value <;> simp_all [Opinion.ofOption]
  · rcases complete.reads_reviewCount with ⟨value, reported⟩
    rw [reviewCount_overlay desired reported] at shown
    exact Or.inr (Or.inr (Or.inr ⟨count, reported.trans shown, notZero⟩))

theorem restrictsPushes_overlay_of_isComplete (desired : Desired) (complete : rule.IsComplete) :
    (desired.overlay (.ofRule rule)).restrictsPushes = rule.namesActor .push := by
  rcases complete.allowance .push with ⟨connection, reported, -⟩
  have isEmpty := allowance_overlay_isEmpty desired reported
  rw [Allowances.get] at isEmpty
  rw [restrictsPushes, isEmpty, Bool.not_not]

end Desired

namespace Hub

variable {hub : Hub} {desired left : Desired} {outcome : Outcome RuleIdentity}
variable {identity : RuleIdentity} {rule : Rule}

/-! ## Updates -/

/-- A rule that restricts pushes to nobody and requires approving reviews, but not one. -/
def idleRule : Rule :=
  { blankRule "BPR_0" "main" "R_test" with
    requiresApprovingReviews := some true
    restrictsPushes := some true }

/-- A hub with that rule. -/
def idle : Hub where
  rules := [idleRule]

/-- A record that leads to the rule of a small hub and has no opinion about it. -/
def idleRecord : Desired :=
  .named "test-org" "test-repo" "main"

section UpToDate

variable (upToDate : (Drift.seen desired rule).isEmpty) (identity)
include upToDate

/-- The record shows what the rule would have to say. -/
theorem view_of_upToDate (field : PolicyField) :
    (recordLeft desired identity rule).view field =
      ((recordLeft desired identity rule).overlay (.ofRule rule)).view field :=
  Drift.isEmpty_between_iff.mp upToDate field

variable (complete : rule.IsComplete)
include complete

theorem restrictsPushes_of_upToDate :
    (recordLeft desired identity rule).restrictsPushes = rule.namesActor .push := by
  rw [Desired.restrictsPushes_of_view_eq (view_of_upToDate identity upToDate _),
    Desired.restrictsPushes_overlay_of_isComplete _ complete]

theorem requiresApprovingReviews_of_upToDate :
    (recordLeft desired identity rule).requiresApprovingReviews = rule.impliesReviews := by
  rw [Desired.requiresApprovingReviews_of_view_eq fun field _ =>
      view_of_upToDate identity upToDate field,
    Desired.requiresApprovingReviews_overlay_of_isComplete _ complete]

variable (hub) (actorIds : ActorIds)

theorem flags_of_upToDate :
    (hub.revised (recordLeft desired identity rule) actorIds rule).flags = rule.flags := by
  ext flag : 1
  rcases complete.flag flag with ⟨value, reported⟩
  have sameFlag := FieldView.opinion.inj (view_of_upToDate identity upToDate (.flag flag))
  rw [flag_revised, sameFlag, Desired.flag_overlay _ reported, Opinion.toOption_ofOption, reported]
  rfl

theorem reviewCount_of_upToDate :
    (hub.revised (recordLeft desired identity rule) actorIds rule).reviewCount =
      rule.reviewCount := by
  rcases complete.reviewCount with ⟨count, reported, -⟩
  rcases complete.reads_reviewCount with ⟨value, read⟩
  have sameCount := FieldView.count.inj (view_of_upToDate identity upToDate .reviewCount)
  have isRead : Observed.reviewCount? count = some value := by
    rw [← read]
    simp [Observed.ofRule, reported]
  rw [reviewCount_revised, sameCount, Desired.reviewCount_overlay _ read, reported,
    Option.map_some, ofNat_of_reviewCount? isRead, Option.some_or]

/-- The contexts are the same as a set. -/
theorem contexts_of_upToDate :
    (hub.revised (recordLeft desired identity rule) actorIds rule).contexts.map List.toFinset =
      rule.contexts.map List.toFinset := by
  rcases complete.contexts with ⟨contexts, reported⟩
  have sameSet := FieldView.set.inj (view_of_upToDate identity upToDate .contexts)
  have shown : ((recordLeft desired identity rule).overlay (.ofRule rule)).contexts = contexts := by
    simp [Desired.overlay, Observed.ofRule, reported]
  rw [shown] at sameSet
  rw [contexts_revised]
  split
  next => rfl
  next =>
    rw [reported, Option.map_some, Option.map_some, Option.some.injEq]
    ext context
    rw [List.mem_toFinset, List.mem_toFinset]
    exact Text.mem_iff_of_canonical_eq sameSet context

/-- A list is the same as a set, unless the login of a user reads as a team. -/
theorem allowance_of_upToDate (distinct : hub.DistinctNodeIds)
    (resolves : hub.Resolves (recordLeft desired identity rule) actorIds) {list : AllowanceList}
    {connection : Connection} (reported : rule.allowances.get list = some connection)
    (noTeam : ∀ login, .known (.user login) ∈ connection.reported →
      ¬ ActorReference.ReadsAsTeam login) :
    ∃ revised, (hub.revised (recordLeft desired identity rule) actorIds rule).allowances.get list =
      some revised ∧ revised.reported.toFinset = connection.reported.toFinset := by
  have known := resolves list
  have sameSet : ∀ text, text ∈ (recordLeft desired identity rule).allowances.get list ↔
      text ∈ normalizeActors desired.owner connection.actors := by
    have sameView := FieldView.set.inj (view_of_upToDate identity upToDate (.allowances list))
    rw [Desired.allowance_overlay _ reported] at sameView
    exact Text.mem_iff_of_canonical_eq sameView
  have supported : ∀ reported ∈ connection.reported, ∃ actor, reported = .known actor := by
    rcases complete.allowance list with ⟨other, reportedOther, supported⟩
    rw [reported, Option.some.injEq] at reportedOther
    rw [reportedOther]
    exact supported
  rw [allowance_revised]
  cases sent : actorIds.get list with
  | none => exact ⟨connection, reported, rfl⟩
  | some nodeIds =>
      rw [sent] at known
      refine ⟨_, rfl, ?_⟩
      ext actor
      rw [List.mem_toFinset, List.mem_toFinset, Connection.reported_ofActors]
      cases known with
      | sent _ noApp each =>
          rw [mem_actors_of_each distinct each]
          -- What a reference of the list is read as is the actor that it was written for.
          have restored (actor : Actor) (isActor : actor ∈ connection.actors)
              (member : (ActorReference.ofActor desired.owner actor).text ∈
                (recordLeft desired identity rule).allowances.get list)
              (named : ActorReference)
              (read : ActorReference.parse (ActorReference.ofActor desired.owner actor).text =
                .ok named) : named.toActor = actor := by
            have notTaken (login : String) (isUser : actor = .user login) :
                ¬ ActorReference.ReadsAsTeam login := by
              subst isUser
              exact noTeam login (Connection.mem_actors.mp isActor)
            rcases ActorReference.parse_text_ofActor read notTaken with rfl | isApp
            · exact ActorReference.toActor_ofActor _ _
            · rw [not_isApp_of_noApp noApp member read] at isApp
              simp at isApp
          constructor
          · rintro ⟨reference, member, named, read, rfl⟩
            rcases List.mem_map.mp ((sameSet reference).mp member) with ⟨actor, isActor, rfl⟩
            rw [restored actor isActor member named read]
            exact Connection.mem_actors.mp isActor
          · intro member
            rcases supported _ member with ⟨actor, rfl⟩
            have isActor := Connection.mem_actors.mpr member
            have inList := (sameSet _).mpr (List.mem_map_of_mem isActor)
            rcases exists_names_of_each each inList with ⟨_, named, read, -⟩
            exact ⟨_, inList, named, read, by rw [restored actor isActor inList named read]⟩

end UpToDate

/--
An update of a rule that was found up to date, with everything reported of it, changes none of its
flags, its review count, its contexts or its actors, those of a list excepted in which a login reads
as a team.  It restricts pushes exactly if somebody may push, and requires approving reviews exactly
if the rule reports something that they follow from.
-/
theorem update_after_skip (distinct : hub.DistinctNodeIds)
    (succeeded : (hub.cycle desired).value = (.ok outcome, left))
    (isSkip : outcome.action = .skip)
    (stored : hub.storedRule? outcome.identity.ruleId = some rule) (complete : rule.IsComplete)
    (updated : ((ruleVerbs.update left outcome.identity).run respond
      (hub.cycle desired).state).value = .ok ()) :
    ∃ after,
      ((ruleVerbs.update left outcome.identity).run respond
        (hub.cycle desired).state).state.storedRule? outcome.identity.ruleId = some after ∧
      after.flags = rule.flags ∧
      after.reviewCount = rule.reviewCount ∧
      after.contexts.map List.toFinset = rule.contexts.map List.toFinset ∧
      (∀ list connection, rule.allowances.get list = some connection →
        (∀ login, .known (.user login) ∈ connection.reported →
          ¬ ActorReference.ReadsAsTeam login) →
        ∃ revised, after.allowances.get list = some revised ∧
          revised.reported.toFinset = connection.reported.toFinset) ∧
      after.restrictsPushes = some (rule.namesActor .push) ∧
      after.requiresApprovingReviews = some rule.impliesReviews := by
  cases successfulCycle succeeded with
  | created isNew actorIds isCreate unseen isIdentity home valid resolves content =>
      rw [isCreate] at isSkip
      simp at isSkip
  | updated rule actorIds isUpdate leads isLeft isDrift valid resolves isChanged content =>
      rw [isUpdate] at isSkip
      simp at isSkip
  | skipped found _ leads isLeft upToDate content =>
      have isRule : found = rule := Option.some.inj (leads.stored.symm.trans stored)
      subst isRule
      subst isLeft
      rcases successfulUpdate content updated with ⟨actorIds, -, resolves, isChanged, -⟩
      refine ⟨_, find?_of_changed isChanged stored (id_revised ..),
        flags_of_upToDate hub _ upToDate complete actorIds,
        reviewCount_of_upToDate hub _ upToDate complete actorIds,
        contexts_of_upToDate hub _ upToDate complete actorIds, ?_, ?_, ?_⟩
      · intro list connection reported noTeam
        exact
          allowance_of_upToDate hub _ upToDate complete actorIds distinct resolves reported noTeam
      · rw [restrictsPushes_revised, restrictsPushes_of_upToDate _ upToDate complete]
      · rw [requiresApprovingReviews_revised,
          requiresApprovingReviews_of_upToDate _ upToDate complete]

/-- The rule of the small hub is found up to date, and its update keeps it as it is. -/
theorem update_after_skip_sample :
    ∃ after,
      ((ruleVerbs.update (sample.cycle idleRecord).value.2 ⟨"R_test", "BPR_0"⟩).run respond
        (sample.cycle idleRecord).state).state.storedRule? "BPR_0" = some after ∧
      after.flags = sampleRule.flags ∧ after.reviewCount = some 2 ∧
      after.restrictsPushes = some true ∧ after.requiresApprovingReviews = some true := by
  have succeeded : (sample.cycle idleRecord).value =
      (.ok
        { action := .skip
          identity := ⟨"R_test", "BPR_0"⟩
          lateInitialized := true
          drift := "" }, (sample.cycle idleRecord).value.2) := rfl
  have complete : sampleRule.IsComplete := by decide
  rcases update_after_skip (by decide) succeeded rfl rfl complete rfl with
    ⟨after, stored, flags, reviewCount, -, -, restricts, requires⟩
  exact ⟨after, stored, flags, reviewCount, restricts, requires⟩

/-- A rule that lets a user push whose login reads like a team. -/
def slashedRule : Rule :=
  { sampleRule with
    allowances := ⟨some .empty, some .empty, some (.ofActors [.known (.user "test-org/core")])⟩ }

/-- A hub with that rule, that user and that team. -/
def slashed : Hub where
  rules := [slashedRule]
  users := [("test-org/core", "U_core")]
  teams := [(("test-org", "core"), "T_core")]

/-- What a cycle does, whether an update after it succeeds, and the rules that it leaves. -/
def cycleThenUpdate (hub : Hub) (desired : Desired) (identity : RuleIdentity) :
    Option Action × Bool × List Rule :=
  let updated := (ruleVerbs.update (hub.cycle desired).value.2 identity).run respond
    (hub.cycle desired).state
  ((hub.cycle desired).value.1.toOption.map (·.action), updated.value.isOk, updated.state.rules)

/-- An update after a skip can switch settings off, and can put a team in the place of a user. -/
theorem update_after_skip_changes_rule :
    idleRule.IsComplete ∧ idle.DistinctNodeIds ∧
      cycleThenUpdate idle idleRecord ⟨"R_test", "BPR_0"⟩ =
        (some .skip, true, [{ idleRule with
          requiresApprovingReviews := some false
          requiresStatusChecks := some true
          restrictsPushes := some false }]) ∧
      slashedRule.IsComplete ∧ slashed.DistinctNodeIds ∧
      cycleThenUpdate slashed idleRecord ⟨"R_test", "BPR_0"⟩ =
        (some .skip, true, [{ slashedRule with
          requiresStatusChecks := some true
          allowances :=
            ⟨some .empty, some .empty, some (.ofActors [.known (.team "core")])⟩ }]) := by
  decide +kernel

end Hub

end BranchGuard
