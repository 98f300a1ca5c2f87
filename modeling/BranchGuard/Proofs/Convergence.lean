import BranchGuard.Proofs.HubCycles

/-!
# Convergence

After a cycle that created or updated a rule, the stored rule shows what the record says
(`Observed.Carries`): everything that was set was sent, and what was not sent reads as open.  The
next cycle can therefore only find a drift in a list with outsiders, whose actors are not reported
the way they were written (`outsider_of_mem_seen`).

Without outsiders nothing is left to be done.  `Hub.Agrees` is the invariant: the pattern leads to a
stored rule that carries the record.  A cycle keeps it and skips (`Agrees.next`), so every later
cycle skips as well, and from the second such cycle on there is nothing left to be filled in.
-/

namespace BranchGuard

open Dialogue

namespace Observed

/-- An observed rule shows what a desired rule says, outsiders apart. -/
structure Carries (observed : Observed) (desired : Desired) : Prop where
  flag : ∀ flag, (desired.flags.get flag).isSet →
    observed.flags.get flag = desired.flags.get flag
  reviewCount : ∀ count, desired.reviewCount = some count → observed.reviewCount = some count
  inRange : ∀ count, observed.reviewCount = some count → count ≤ maxReviewCount
  contexts : observed.contexts.getD [] = desired.contexts
  allowance : ∀ list, desired.namesOutsider list = false →
    (observed.allowances.get list).map (normalizeActors desired.owner) =
      some (desired.allowances.get list)

namespace Carries

variable {observed : Observed} {desired : Desired} (carries : observed.Carries desired)
include carries

theorem overlay_allowance {list : AllowanceList} (insiders : desired.namesOutsider list = false) :
    (desired.overlay observed).allowances.get list = desired.allowances.get list := by
  rcases Option.map_eq_some_iff.mp (carries.allowance list insiders) with ⟨actors, shown, same⟩
  simp [Desired.overlay, shown, same]

/-- The overlay differs from the record in open fields and in lists with outsiders alone. -/
theorem view_overlay {field : PolicyField} (isSet : desired.leavesOpen field = false)
    (insiders : ∀ list, field = .allowances list → desired.namesOutsider list = false) :
    desired.view field = (desired.overlay observed).view field := by
  cases field with
  | allowances list =>
      rw [Desired.view, Desired.view, carries.overlay_allowance (insiders list rfl)]
  | flag flag =>
      have flagSet : (desired.flags.get flag).isSet := by simpa [Desired.leavesOpen] using isSet
      have shown := carries.flag flag flagSet
      simp [Desired.view, Desired.overlay, shown]
  | reviewCount =>
      cases count : desired.reviewCount with
      | none => simp [Desired.leavesOpen, count] at isSet
      | some value =>
          simp [Desired.view, Desired.overlay, count, carries.reviewCount value count]
  | contexts =>
      have shown := carries.contexts
      cases reported : observed.contexts with
      | none => simp [Desired.view, Desired.overlay, reported]
      | some contexts =>
          rw [reported, Option.getD_some] at shown
          simp [Desired.view, Desired.overlay, reported, shown]

/-! ## Filling in -/

/-- An empty list has no outsiders and is filled with nothing. -/
theorem allowances_lateInitialize :
    (desired.lateInitialize observed).allowances = desired.allowances := by
  ext list : 1
  simp only [Desired.lateInitialize, Desired.fillFrom, Allowances.get_ofFn]
  split
  next isEmpty =>
    apply carries.overlay_allowance
    rw [Desired.namesOutsider, List.isEmpty_iff.mp isEmpty]
    rfl
  next => rfl

theorem contexts_lateInitialize :
    (desired.lateInitialize observed).contexts = desired.contexts := by
  have shown := carries.contexts
  simp only [Desired.lateInitialize, Desired.fillFrom, Desired.overlay]
  split
  next isEmpty =>
    rw [List.isEmpty_iff.mp isEmpty] at shown ⊢
    exact shown
  next => rfl

theorem reviewCount_lateInitialize :
    (desired.lateInitialize observed).reviewCount = observed.reviewCount := by
  simp only [Desired.lateInitialize, Desired.fillFrom, Desired.overlay]
  cases count : desired.reviewCount with
  | none => simp
  | some value => simp [carries.reviewCount value count]

theorem validate_lateInitialize (valid : desired.validate = .ok ()) :
    (desired.lateInitialize observed).validate = .ok () := by
  rw [Desired.validate_eq_ok] at valid ⊢
  rcases valid with ⟨owner, pattern, repository, -, references⟩
  refine ⟨owner, pattern, repository, ?_, ?_⟩
  · rw [carries.reviewCount_lateInitialize]
    exact carries.inRange
  · rw [Desired.references, carries.allowances_lateInitialize]
    exact references

/-- The rule still carries the record when what was open has been filled in from it. -/
theorem lateInitialize : observed.Carries (desired.lateInitialize observed) := by
  constructor
  case flag =>
    intro flag isSet
    simp only [Desired.lateInitialize, Desired.fillFrom, Desired.overlay, Flags.get_ofFn]
      at isSet ⊢
    cases wasSet : (desired.flags.get flag).isSet with
    | true => rw [Opinion.orElse_of_isSet wasSet, carries.flag flag wasSet]
    | false =>
        have unset := Opinion.eq_unset_of_not_isSet wasSet
        rw [unset] at isSet ⊢
        cases reported : observed.flags.get flag <;> simp_all [Opinion.orElse, Opinion.isSet]
  case reviewCount =>
    intro count isCount
    rw [← isCount, carries.reviewCount_lateInitialize]
  case inRange => exact carries.inRange
  case contexts =>
    rw [carries.contexts_lateInitialize]
    exact carries.contexts
  case allowance =>
    intro list insiders
    rw [Desired.namesOutsider, carries.allowances_lateInitialize] at insiders
    rw [carries.allowances_lateInitialize]
    exact carries.allowance list insiders

end Carries

end Observed

namespace Drift

variable {desired : Desired} {rule : Rule}

/-- A rule that carries the record has drifted in lists with outsiders alone. -/
theorem outsider_of_mem_seen (carries : (Observed.ofRule rule).Carries desired)
    {entry : DriftEntry} (member : entry ∈ (seen desired rule).entries) :
    ∃ list, entry.field = .allowances list ∧ desired.namesOutsider list = true := by
  rw [seen, entries_against_lateInitialize, List.mem_filter, against, mem_between] at member
  rcases member with ⟨⟨differs, -⟩, isSet⟩
  by_contra noOutsider
  apply differs
  apply carries.view_overlay
  · simpa using isSet
  · intro list isList
    cases insiders : desired.namesOutsider list with
    | false => rfl
    | true => exact absurd ⟨list, isList, insiders⟩ noOutsider

theorem isEmpty_seen (carries : (Observed.ofRule rule).Carries desired)
    (insiders : ∀ list, desired.namesOutsider list = false) :
    (seen desired rule).isEmpty := by
  rw [isEmpty, List.isEmpty_iff, List.eq_nil_iff_forall_not_mem]
  intro entry member
  rcases outsider_of_mem_seen carries member with ⟨list, -, outsider⟩
  rw [insiders list] at outsider
  exact absurd outsider (by simp)

end Drift

namespace Hub

variable {hub : Hub} {desired left : Desired} {identity : RuleIdentity} {rule : Rule}

/-! ## The rule that a mutation leaves behind -/

/-- A revised rule carries the record that it was revised for. -/
theorem carries_revised (distinct : hub.DistinctNodeIds) {actorIds : ActorIds}
    (valid : desired.validate = .ok ()) (resolves : hub.Resolves desired actorIds)
    (openCount : desired.reviewCount = none →
      ∀ count, (Observed.ofRule rule).reviewCount = some count → count ≤ maxReviewCount)
    (openContexts : desired.contexts = [] → (Observed.ofRule rule).contexts.getD [] = []) :
    (Observed.ofRule (hub.revised desired actorIds rule)).Carries desired := by
  rcases Desired.validate_eq_ok.mp valid with ⟨-, -, -, inRange, -⟩
  have shownCount : (Observed.ofRule (hub.revised desired actorIds rule)).reviewCount =
      desired.reviewCount.or (Observed.ofRule rule).reviewCount := by
    simp only [Observed.ofRule, reviewCount_revised]
    cases desired.reviewCount <;> simp [reviewCount?_ofNat]
  constructor
  case flag =>
    intro flag isSet
    simp only [Observed.ofRule, Flags.get_map, flag_revised]
    cases opinion : desired.flags.get flag with
    | unset => simp [opinion, Opinion.isSet] at isSet
    | off => rfl
    | on => rfl
  case reviewCount =>
    intro count isCount
    rw [shownCount, isCount, Option.some_or]
  case inRange =>
    intro count isCount
    rw [shownCount] at isCount
    cases wanted : desired.reviewCount with
    | none =>
        rw [wanted, Option.none_or] at isCount
        exact openCount wanted count isCount
    | some value =>
        rw [wanted, Option.some_or] at isCount
        exact inRange count (wanted.trans isCount)
  case contexts =>
    simp only [Observed.ofRule, contexts_revised]
    split
    next isEmpty =>
      rw [List.isEmpty_iff.mp isEmpty]
      exact openContexts (List.isEmpty_iff.mp isEmpty)
    next => rfl
  case allowance =>
    intro list insiders
    simp only [Observed.ofRule, Allowances.get_map, allowance_revised]
    have known := resolves list
    cases sent : actorIds.get list with
    | none =>
        rw [sent] at known
        cases known with
        | leftOut app => exact absurd (Desired.namesApp_of_insiders insiders) (by simp [app])
    | some nodeIds =>
        rw [sent] at known
        cases known with
        | sent _ noApp each =>
            simp only [Option.map_some]
            rw [normalizeActors_of_each distinct each fun reference member actor read =>
              Desired.not_isOutsider insiders member read]

/-! ## The invariant -/

/-- The pattern of a record leads to a stored rule that carries it. -/
structure Agrees (hub : Hub) (desired : Desired) (identity : RuleIdentity) (rule : Rule) :
    Prop where
  unbroken : hub.outages = []
  valid : desired.validate = .ok ()
  home : desired.repositoryId = some identity.repositoryId
  leads : hub.LeadsTo desired identity rule
  carries : (Observed.ofRule rule).Carries desired
  resolvable : ∃ actorIds, hub.Resolves desired actorIds

/-- What is open after filling in is open in the rule as well. -/
theorem agrees_of_updated (unbroken : hub.outages = []) (distinct : hub.DistinctNodeIds)
    {actorIds : ActorIds} {changed : List Rule}
    (leads : hub.LeadsTo desired identity rule)
    (isLeft : left = recordLeft desired identity rule) (valid : left.validate = .ok ())
    (resolves : hub.Resolves left actorIds)
    (isChanged : changeFirst? identity.ruleId (hub.revised left actorIds) hub.rules =
      some changed) :
    Agrees { hub with rules := changed } left identity (hub.revised left actorIds rule) := by
  constructor
  case unbroken => exact unbroken
  case valid => exact valid
  case home =>
    rw [isLeft]
    rfl
  case leads =>
    have leadsLeft : hub.LeadsTo left identity rule := by
      rw [isLeft]
      exact ⟨leads.found, leads.stored⟩
    exact leadsTo_of_changed leadsLeft isChanged (id_revised ..) (pattern_revised ..)
  case carries =>
    refine carries_revised distinct valid resolves ?_ ?_
    · intro isOpen count isCount
      have isFilled : left.reviewCount = desired.reviewCount.or
          ((Observed.ofRule rule).reviewCount.or desired.reviewCount) := by
        rw [isLeft]
        rfl
      rw [isOpen, isCount] at isFilled
      cases wanted : desired.reviewCount <;> simp [wanted] at isFilled
    · intro isOpen
      have isFilled : left.contexts = if desired.contexts.isEmpty
          then (Observed.ofRule rule).contexts.getD desired.contexts else desired.contexts := by
        rw [isLeft]
        rfl
      rw [isOpen] at isFilled
      cases wanted : desired.contexts with
      | nil => simpa [wanted] using isFilled.symm
      | cons context others => simp [wanted] at isFilled
  case resolvable =>
    have sameNames : Names { hub with rules := changed } = hub.Names := names_congr rfl rfl
    exact ⟨actorIds, resolves.congr sameNames.symm⟩

theorem agrees_of_created (unbroken : hub.outages = []) (distinct : hub.DistinctNodeIds)
    (fresh : ∀ rule ∈ hub.rules, rule.id ≠ ruleId hub.nextNumber) {actorIds : ActorIds}
    {repositoryId : String} (nowhere : hub.lookUp left = .ok ⟨repositoryId, none⟩)
    (home : left.repositoryId = some repositoryId) (valid : left.validate = .ok ())
    (resolves : hub.Resolves left actorIds) {created : Rule}
    (isCreated : created = hub.revised left actorIds
      (blankRule (ruleId hub.nextNumber) left.pattern repositoryId)) :
    Agrees { hub with rules := hub.rules ++ [created], nextNumber := hub.nextNumber + 1 }
      left ⟨repositoryId, ruleId hub.nextNumber⟩ created := by
  subst isCreated
  constructor
  case unbroken => exact unbroken
  case valid => exact valid
  case home => exact home
  case leads => exact leadsTo_of_created nowhere (pattern_revised ..) fresh
  case carries =>
    refine carries_revised distinct valid resolves ?_ ?_
    · intro _ count isCount
      have isZero : count = 0 := (Option.some.inj isCount).symm
      rw [isZero]
      decide
    · intro _
      rfl
  case resolvable =>
    have sameNames : hub.Names = Names
        { hub with
          rules := hub.rules ++ [hub.revised left actorIds
            (blankRule (ruleId hub.nextNumber) left.pattern repositoryId)]
          nextNumber := hub.nextNumber + 1 } :=
      names_congr rfl rfl
    exact ⟨actorIds, resolves.congr sameNames⟩

theorem lookUp_of_home (owner : desired.owner = hub.owner)
    (repository : desired.repository = some hub.repository) (valid : desired.validate = .ok ()) :
    hub.lookUp desired = .ok ⟨hub.repositoryId,
      (hub.rules.find? fun rule => rule.pattern == desired.pattern).map (·.id)⟩ := by
  rcases Desired.validate_eq_ok.mp valid with ⟨-, -, named, -, -⟩
  have isName := Desired.repositoryName_of_isSome repository named
  exact lookUp_eq_ok.mpr ⟨⟨owner, by rw [isName, Option.getD_some]⟩, rfl⟩

/-- A rule that was looked up can be fetched. -/
theorem exists_stored {lookup : Lookup} {id : String} (found : hub.lookUp desired = .ok lookup)
    (located : lookup.ruleId = some id) : ∃ rule, hub.storedRule? id = some rule := by
  rcases lookUp_eq_ok.mp found with ⟨-, rfl⟩
  rcases Option.map_eq_some_iff.mp located with ⟨rule, isFound, rfl⟩
  have member := List.mem_of_find?_eq_some isFound
  apply Option.isSome_iff_exists.mp
  rw [storedRule?, List.find?_isSome]
  exact ⟨rule, member, by simp⟩

/-- What was not seen is not there. -/
theorem nowhere_of_absent (unbroken : hub.outages = []) {isNew : Bool} {lookup : Lookup}
    (found : hub.lookUp desired = .ok lookup)
    (unseen : (hub.observing desired).value = (.ok (.absent isNew), left)) :
    lookup.ruleId = none ∧ left = desired.recorded lookup.repositoryId := by
  rw [observing, observe_of_no_outages unbroken, RuleVerbs.finding.eq_def, found] at unseen
  cases valid : desired.validate with
  | error cause => simp [valid] at unseen
  | ok _ =>
      simp only [valid, RuleVerbs.lookupFinding] at unseen
      cases located : lookup.ruleId with
      | none =>
          simp only [located, Prod.mk.injEq] at unseen
          exact ⟨rfl, unseen.2.symm⟩
      | some id =>
          rcases exists_stored found located with ⟨rule, stored⟩
          have fetched : orNotFound (hub.storedRule? id) = .ok rule := orNotFound_eq_ok.mpr stored
          simp [located, fetched, RuleVerbs.ruleFinding, Observation.absent] at unseen

theorem outages_cycle (unbroken : hub.outages = []) (desired : Desired) :
    (hub.cycle desired).state.outages = [] :=
  outages_run unbroken (ruleVerbs.reconcileOnce desired)

/-- A cycle that created or updated a rule leaves a rule that carries the record. -/
theorem exists_agrees (unbroken : hub.outages = []) (distinct : hub.DistinctNodeIds)
    (fresh : ∀ rule ∈ hub.rules, rule.id ≠ ruleId hub.nextNumber)
    (owner : desired.owner = hub.owner) (repository : desired.repository = some hub.repository)
    {outcome : Outcome RuleIdentity}
    (succeeded : (hub.cycle desired).value = (.ok outcome, left))
    (acted : outcome.action ≠ .skip) :
    ∃ rule, (hub.cycle desired).state.Agrees left outcome.identity rule := by
  have isHub : hub.working = hub := working_of_no_outages unbroken
  have isAfter : (hub.cycle desired).state.working = (hub.cycle desired).state :=
    working_of_no_outages (outages_cycle unbroken desired)
  cases successfulCycle succeeded with
  | created isNew actorIds isCreate unseen isIdentity home valid resolves content =>
      have found := lookUp_of_home owner repository (valid_of_observed unseen)
      rcases nowhere_of_absent unbroken found unseen with ⟨isNone, isLeft⟩
      have sameHome : outcome.identity.repositoryId = hub.repositoryId := by
        rw [isLeft] at home
        exact (Option.some.inj home).symm
      have nowhere : hub.lookUp left = .ok ⟨outcome.identity.repositoryId, none⟩ := by
        rw [isLeft, sameHome, ← isNone]
        exact found
      have isIdentity : outcome.identity = ⟨outcome.identity.repositoryId, _⟩ :=
        congrArg (RuleIdentity.mk outcome.identity.repositoryId) isIdentity
      rw [isAfter, isHub] at content
      rw [content, isIdentity]
      exact ⟨_, agrees_of_created unbroken distinct fresh nowhere home valid resolves rfl⟩
  | updated rule actorIds isUpdate leads isLeft isDrift valid resolves isChanged content =>
      rw [isAfter, isHub] at content
      rw [content]
      exact ⟨_, agrees_of_updated unbroken distinct leads isLeft valid resolves isChanged⟩
  | skipped rule isSkip leads isLeft upToDate content => exact absurd isSkip acted

/-! ## Later cycles -/

theorem Agrees.allowances_recordLeft (agrees : hub.Agrees desired identity rule) :
    (recordLeft desired identity rule).allowances = desired.allowances := by
  rw [recordLeft_of_home agrees.home, agrees.carries.allowances_lateInitialize]

theorem Agrees.namesOutsider_recordLeft (agrees : hub.Agrees desired identity rule)
    (list : AllowanceList) :
    (recordLeft desired identity rule).namesOutsider list = desired.namesOutsider list := by
  rw [Desired.namesOutsider, agrees.allowances_recordLeft]
  rfl

/-- Filling in keeps the invariant. -/
theorem Agrees.filled (agrees : hub.Agrees desired identity rule) :
    hub.Agrees (recordLeft desired identity rule) identity rule := by
  constructor
  case unbroken => exact agrees.unbroken
  case valid =>
    rw [recordLeft_of_home agrees.home]
    exact agrees.carries.validate_lateInitialize agrees.valid
  case home => rfl
  case leads => exact ⟨agrees.leads.found, agrees.leads.stored⟩
  case carries =>
    rw [recordLeft_of_home agrees.home]
    exact agrees.carries.lateInitialize
  case resolvable =>
    rcases agrees.resolvable with ⟨actorIds, resolves⟩
    refine ⟨actorIds, fun list => ?_⟩
    rw [agrees.allowances_recordLeft]
    exact resolves list

/-- The cycle after a mutation succeeds for the same rule and reports what it has seen. -/
theorem Agrees.next (agrees : hub.Agrees desired identity rule) :
    ∃ later, (hub.cycle desired).value = (.ok later, recordLeft desired identity rule) ∧
      later.identity = identity ∧ later.drift = (Drift.seen desired rule).text := by
  cases upToDate : (Drift.seen desired rule).isEmpty with
  | true =>
      have skipped := cycle_of_upToDate agrees.unbroken agrees.valid agrees.leads upToDate
      exact ⟨_, skipped.1, rfl, (Drift.text_of_isEmpty upToDate).symm⟩
  | false =>
      rcases agrees.filled.resolvable with ⟨actorIds, resolves⟩
      exact ⟨_, cycle_of_drifted agrees.unbroken agrees.valid agrees.leads upToDate
        agrees.filled.valid resolves, rfl, rfl⟩

/-- Without outsiders it is skipped, with nothing but lookups, and keeps the invariant. -/
theorem Agrees.next_of_insiders (agrees : hub.Agrees desired identity rule)
    (insiders : ∀ list, desired.namesOutsider list = false) :
    (hub.cycle desired).value =
        (.ok
          { action := .skip
            identity := identity
            lateInitialized := desired.isLateInitialized (.ofRule rule)
            drift := "" }, recordLeft desired identity rule) ∧
      (hub.cycle desired).state = hub ∧
      ∀ request ∈ (hub.cycle desired).transcript.questions, request.isMutation = false := by
  have skipped := cycle_of_upToDate agrees.unbroken agrees.valid agrees.leads
    (Drift.isEmpty_seen agrees.carries insiders)
  rw [Desired.recorded_of_eq agrees.home] at skipped
  simpa [agrees.home] using skipped

/-- The cycle with a number, counted from zero, when each goes on from what the one before left. -/
def nthCycle (hub : Hub) (desired : Desired) :
    Nat → Run Request.Reply Event Hub (Except VerbError (Outcome RuleIdentity) × Desired)
  | 0 => hub.cycle desired
  | number + 1 => nthCycle (hub.cycle desired).state (hub.cycle desired).value.2 number

/-- Every later cycle is skipped, and only the first of them can fill anything in. -/
theorem Agrees.later (agrees : hub.Agrees desired identity rule)
    (insiders : ∀ list, desired.namesOutsider list = false) (number : Nat) :
    (hub.nthCycle desired number).value.1 =
        .ok
          { action := .skip
            identity := identity
            lateInitialized := decide (number = 0) && desired.isLateInitialized (.ofRule rule)
            drift := "" } ∧
      (hub.nthCycle desired number).state = hub ∧
      ∀ request ∈ (hub.nthCycle desired number).transcript.questions,
        request.isMutation = false := by
  rcases agrees.next_of_insiders insiders with ⟨value, stays, onlyLookups⟩
  induction number generalizing desired with
  | zero =>
      refine ⟨?_, stays, onlyLookups⟩
      rw [nthCycle, value]
      rfl
  | succ number ih =>
      have stillInsiders (list : AllowanceList) :
          (recordLeft desired identity rule).namesOutsider list = false := by
        rw [agrees.namesOutsider_recordLeft, insiders]
      have nothingOpen :
          (recordLeft desired identity rule).isLateInitialized (.ofRule rule) = false := by
        rw [recordLeft_of_home agrees.home, Desired.isLateInitialized_lateInitialize]
      rcases agrees.filled.next_of_insiders stillInsiders with ⟨value', stays', onlyLookups'⟩
      have rest := ih agrees.filled stillInsiders value' stays' onlyLookups'
      rw [nothingOpen, Bool.and_false] at rest
      rw [nthCycle, stays, value]
      simpa using rest

/--
The cycle after one that created or updated a rule succeeds for the same rule, and whatever drift it
still reports is in lists with outsiders.  Without outsiders every later cycle is skipped, sends no
mutation and leaves the rules alone, and from the third cycle on nothing is filled in.
-/
theorem cycles_converge (unbroken : hub.outages = []) (distinct : hub.DistinctNodeIds)
    (fresh : ∀ rule ∈ hub.rules, rule.id ≠ ruleId hub.nextNumber)
    (owner : desired.owner = hub.owner) (repository : desired.repository = some hub.repository)
    {outcome : Outcome RuleIdentity}
    (succeeded : (hub.nthCycle desired 0).value = (.ok outcome, left))
    (acted : outcome.action = .create ∨ outcome.action = .update) :
    (∃ rule second,
      (hub.nthCycle desired 0).state.storedRule? outcome.identity.ruleId = some rule ∧
      (hub.nthCycle desired 1).value.1 = .ok second ∧
      second.identity = outcome.identity ∧
      second.drift = (Drift.seen left rule).text ∧
      ∀ entry ∈ (Drift.seen left rule).entries,
        ∃ list, entry.field = .allowances list ∧ left.namesOutsider list = true) ∧
    ((∀ list, left.namesOutsider list = false) → ∀ number, ∃ later,
      (hub.nthCycle desired (number + 1)).value.1 = .ok later ∧
      later.action = .skip ∧ later.identity = outcome.identity ∧ later.drift = "" ∧
      (1 ≤ number → later.lateInitialized = false) ∧
      (hub.nthCycle desired (number + 1)).state.rules = (hub.nthCycle desired 0).state.rules ∧
      ∀ request ∈ (hub.nthCycle desired (number + 1)).transcript.questions,
        request.isMutation = false) := by
  have notSkipped : outcome.action ≠ .skip := by
    rcases acted with isAction | isAction <;> simp [isAction]
  rcases exists_agrees unbroken distinct fresh owner repository succeeded notSkipped with
    ⟨rule, agrees⟩
  have goesOn (number : Nat) : hub.nthCycle desired (number + 1) =
      (hub.nthCycle desired 0).state.nthCycle left number := by
    have isLeft : (hub.nthCycle desired 0).value.2 = left := congrArg Prod.snd succeeded
    rw [← isLeft]
    rfl
  constructor
  · rcases agrees.next with ⟨second, value, sameRule, isDrift⟩
    refine ⟨rule, second, agrees.leads.stored, ?_, sameRule, isDrift,
      fun entry member => Drift.outsider_of_mem_seen agrees.carries member⟩
    rw [goesOn 0]
    exact congrArg Prod.fst value
  · intro insiders number
    rcases agrees.later insiders number with ⟨value, stays, onlyLookups⟩
    rw [goesOn number]
    refine ⟨_, value, rfl, rfl, rfl, ?_, congrArg Hub.rules stays, onlyLookups⟩
    intro isLater
    have notFirst : number ≠ 0 := Nat.ne_of_gt isLater
    simp [notFirst]

/-- The rule of the small hub is settled by one update. -/
theorem cycles_converge_sample :
    ∃ later, (sample.nthCycle sampleRecord 5).value.1 = .ok later ∧ later.action = .skip ∧
      later.lateInitialized = false := by
  have first : (sample.nthCycle sampleRecord 0).value =
      (.ok
        { action := .update
          identity := ⟨"R_test", "BPR_0"⟩
          lateInitialized := true
          drift := "isAdminEnforced: desired true, observed false" },
        (sample.nthCycle sampleRecord 0).value.2) := rfl
  have insiders (list : AllowanceList) :
      (sample.nthCycle sampleRecord 0).value.2.namesOutsider list = false := by
    cases list <;> rfl
  rcases (cycles_converge rfl (by decide) (by decide) rfl rfl first (Or.inr rfl)).2 insiders 4
    with ⟨later, value, isSkip, -, -, nothingFilled, -⟩
  exact ⟨later, value, isSkip, nothingFilled (by decide)⟩

end Hub

end BranchGuard
