import BranchGuard.Proofs.StoredEffects

/-!
# Patterns do not interfere

A cycle reaches a hub through one pattern.  What it gets to see is a facet of the hub (`Hub.facet`):
the first rule with the pattern, the users and teams, the repository and the outages.  The facet
answers every request of the cycle as the hub does (`run_facet`), up to the ID of a new rule, so
hubs with the same facet give the same result and leave the same record (`cycle_facet`).

What a cycle does to the stored rules is an edit (`Edit`): a rule with the pattern is added, or one
is revised and keeps its ID.  Rules with other patterns stay as they are (`Edit.others`).  A rule is
added next to one that has the pattern only if a lookup or a fetch fails as if there were none
(`unstored_of_absent`).
-/

namespace BranchGuard

open Dialogue

namespace Outcome

/-- The outcome without the ID of a rule that was created. -/
def withoutNewId (outcome : Outcome RuleIdentity) : Outcome RuleIdentity :=
  match outcome.action with
  | .create => { outcome with identity := ⟨outcome.identity.repositoryId, ""⟩ }
  | _ => outcome

end Outcome

namespace Hub

variable {hub : Hub} {pattern : String} {desired : Desired} {rule : Rule}

/-! ## Rules by their pattern -/

/-- The first stored rule with a pattern. -/
def firstRule? (hub : Hub) (pattern : String) : Option Rule :=
  hub.rules.find? fun rule => rule.pattern == pattern

theorem ids_of_working_eq {state : Hub} (same : state.working = hub.working) :
    state.ids = hub.ids := by
  rw [ids, ids, rules_of_working_eq same]

theorem firstRule?_of_working_eq {state : Hub} (same : state.working = hub.working)
    (pattern : String) : state.firstRule? pattern = hub.firstRule? pattern := by
  rw [firstRule?, firstRule?, rules_of_working_eq same]

theorem pattern_of_firstRule? (first : hub.firstRule? pattern = some rule) :
    rule.pattern = pattern := by
  simpa using List.find?_some first

theorem mem_of_firstRule? (first : hub.firstRule? pattern = some rule) : rule ∈ hub.rules :=
  List.mem_of_find?_eq_some first

/-- Where no two rules have the same ID, a rule is found under its ID. -/
theorem storedRule?_of_mem (distinct : hub.ids.Nodup) (member : rule ∈ hub.rules) :
    hub.storedRule? rule.id = some rule := by
  cases found : hub.storedRule? rule.id with
  | none =>
      have absent := List.find?_eq_none.mp found rule member
      simp at absent
  | some other =>
      have sameId : other.id = rule.id := by simpa using List.find?_some found
      have same := List.inj_on_of_nodup_map distinct (List.mem_of_find?_eq_some found) member sameId
      rw [same]

/-- The pattern leads to the first rule that has it. -/
theorem firstRule?_of_leads (distinct : hub.ids.Nodup) {identity : RuleIdentity}
    (leads : hub.LeadsTo desired identity rule) : hub.firstRule? desired.pattern = some rule := by
  have located := (lookUp_eq_ok.mp leads.found).2
  simp only [Lookup.mk.injEq] at located
  rcases Option.map_eq_some_iff.mp located.2.symm with ⟨first, found, isId⟩
  have stored := storedRule?_of_mem distinct (mem_of_firstRule? found)
  rw [isId, leads.stored] at stored
  cases stored
  exact found

/-! ## Facets -/

/-- What a record with the pattern gets to see of a hub. -/
def facet (hub : Hub) (pattern : String) : Hub :=
  { hub with rules := (hub.firstRule? pattern).toList, nextNumber := 0 }

/-- The lookups that the facet answers as the hub does. -/
def Sees (hub : Hub) (pattern : String) : Request → Prop
  | .findRule _ _ wanted => wanted = pattern
  | .fetchRule id => ∃ rule, hub.firstRule? pattern = some rule ∧ rule.id = id
  | .resolveTeam _ _ => True
  | .resolveUser _ => True
  | .createRule _ => False
  | .updateRule _ => False
  | .deleteRule _ => False

theorem sees_of_isResolution {request : Request} (isResolution : request.isResolution) :
    hub.Sees pattern request := by
  cases request <;> first | exact trivial | cases isResolution

theorem isMutation_of_sees {request : Request} (sees : hub.Sees pattern request) :
    request.isMutation = false := by
  cases request <;> first | rfl | cases sees

theorem firstRule?_facet : (hub.facet pattern).firstRule? pattern = hub.firstRule? pattern := by
  cases first : hub.firstRule? pattern with
  | none => simp [firstRule?, facet, show hub.rules.find? _ = none from first]
  | some rule =>
      have isFirst : (hub.facet pattern).rules = [rule] := by rw [facet, first]; rfl
      simp [firstRule?, isFirst, pattern_of_firstRule? first]

theorem perform_facet (distinct : hub.ids.Nodup) {request : Request}
    (sees : hub.Sees pattern request) :
    (hub.facet pattern).perform request =
      ((hub.perform request).1, (hub.perform request).2.facet pattern) := by
  cases request with
  | findRule owner repository wanted =>
      cases sees
      have sameFirst := @firstRule?_facet hub pattern
      simp only [firstRule?] at sameFirst
      simp only [perform, findRule, sameFirst]
      rfl
  | fetchRule id =>
      rcases sees with ⟨rule, first, rfl⟩
      have stored := storedRule?_of_mem distinct (mem_of_firstRule? first)
      rw [storedRule?] at stored
      have isFirst : (hub.facet pattern).rules = [rule] := by rw [facet, first]; rfl
      simp [perform, stored, isFirst]
  | resolveTeam organization slug => rfl
  | resolveUser login => rfl
  | createRule creation => cases sees
  | updateRule update => cases sees
  | deleteRule id => cases sees

theorem respond_facet (distinct : hub.ids.Nodup) {request : Request}
    (sees : hub.Sees pattern request) :
    respond request (hub.facet pattern) =
      ((respond request hub).1, (respond request hub).2.facet pattern) := by
  have sameOutages : (hub.facet pattern).outages = hub.outages := rfl
  rw [respond.eq_def, respond.eq_def, sameOutages]
  rcases hub.outages.lookup request.operation with _ | ⟨_ | callsLeft, cause⟩
  · exact perform_facet distinct sees
  · rfl
  · exact @perform_facet (hub.breakDown request.operation ⟨callsLeft, cause⟩) pattern distinct
      request sees

/-- One state shows the facet of another, which has the content of the hub. -/
def Mirrors (hub : Hub) (pattern : String) (state shown : Hub) : Prop :=
  shown = state.facet pattern ∧ state.working = hub.working

theorem Mirrors.respond {state shown : Hub} {request : Request} (distinct : hub.ids.Nodup)
    (mirrors : hub.Mirrors pattern state shown) (sees : hub.Sees pattern request) :
    (respond request state).1 = (Hub.respond request shown).1 ∧
      hub.Mirrors pattern (Hub.respond request state).2 (Hub.respond request shown).2 := by
  rcases mirrors with ⟨rfl, same⟩
  have distinctNow : state.ids.Nodup := ids_of_working_eq same ▸ distinct
  have sameFirst := firstRule?_of_working_eq same pattern
  have seesNow : state.Sees pattern request := by
    cases request <;> simp only [Sees, sameFirst] at sees ⊢ <;> exact sees
  rw [respond_facet distinctNow seesNow]
  refine ⟨rfl, rfl, ?_⟩
  rw [working_respond_of_lookup (isMutation_of_sees sees), same]

/-- A conversation that only asks for what the facet shows goes the same way. -/
theorem run_facet {α : Type} {conversation : Conversation α} (distinct : hub.ids.Nodup)
    (asked : ∀ request ∈ (conversation.run respond hub).transcript.questions,
      hub.Sees pattern request) :
    (conversation.run respond (hub.facet pattern)).value =
        (conversation.run respond hub).value ∧
      (conversation.run respond (hub.facet pattern)).state =
        (conversation.run respond hub).state.facet pattern := by
  have start : hub.Mirrors pattern hub (hub.facet pattern) := ⟨rfl, rfl⟩
  rcases run_coupled (fun _ _ _ sees mirrors => mirrors.respond distinct sees) start asked with
    ⟨sameValue, sameState, -⟩
  exact ⟨sameValue.symm, sameState⟩

/-! ## Cycles on a facet -/

theorem observing_facet (distinct : hub.ids.Nodup) (desired : Desired) :
    ((hub.facet desired.pattern).observing desired).value = (hub.observing desired).value ∧
      ((hub.facet desired.pattern).observing desired).state =
        (hub.observing desired).state.facet desired.pattern := by
  apply run_facet distinct
  intro request asked
  rcases RuleVerbs.asked_observe respond asked with rfl | ⟨lookup, id, answered, named, rfl⟩
  · exact rfl
  · have found : hub.lookUp desired = .ok lookup := (respond_of_ok answered).1
    rcases lookUp_eq_ok.mp found with ⟨-, rfl⟩
    exact Option.map_eq_some_iff.mp named

theorem resolving_facet (distinct : hub.ids.Nodup) (record : Desired) (pattern : String) :
    (RuleVerbs.resolving respond record (hub.facet pattern)).value =
        (RuleVerbs.resolving respond record hub).value ∧
      (RuleVerbs.resolving respond record (hub.facet pattern)).state =
        (RuleVerbs.resolving respond record hub).state.facet pattern := by
  apply run_facet distinct
  intro request asked
  have isResolution := (RuleVerbs.resolutions_resolveRule record).questions respond hub
  exact sees_of_isResolution (isResolution request asked)

/-- Outages strike the facet and the hub alike. -/
theorem answer_facet (hub : Hub) (pattern : String) (request : Request) :
    (∃ cause, (respond request (hub.facet pattern)).1 = .error cause ∧
        (respond request hub).1 = .error cause) ∨
      (respond request (hub.facet pattern)).1 = ((hub.facet pattern).perform request).1 ∧
        (respond request hub).1 = (hub.perform request).1 := by
  have sameOutages : (hub.facet pattern).outages = hub.outages := rfl
  rw [respond_answer, respond_answer, sameOutages]
  rcases hub.outages.lookup request.operation with _ | ⟨_ | callsLeft, cause⟩
  · exact .inr ⟨rfl, rfl⟩
  · exact .inl ⟨cause, rfl, rfl⟩
  · exact .inr ⟨rfl, rfl⟩

/-- A creation goes the same way, the ID of the new rule apart. -/
theorem creation_facet (distinct : hub.ids.Nodup) (record : Desired) (pattern : String) :
    ((RuleVerbs.create record).run respond (hub.facet pattern)).value.map (·.repositoryId) =
      ((RuleVerbs.create record).run respond hub).value.map (·.repositoryId) := by
  rcases resolving_facet distinct record pattern with ⟨sameValue, sameState⟩
  rw [RuleVerbs.create_value, RuleVerbs.create_value, sameValue, sameState]
  generalize (RuleVerbs.resolving respond record hub).state = resolved
  cases record.validate with
  | error cause => rfl
  | ok _ =>
      cases record.repositoryId with
      | none => rfl
      | some repositoryId =>
          cases (RuleVerbs.resolving respond record hub).value with
          | error cause => rfl
          | ok actorIds =>
              simp only [Bind.bind, Except.bind]
              rcases answer_facet resolved pattern
                (.createRule (record.creation actorIds repositoryId)) with
                ⟨cause, shown, answered⟩ | ⟨shown, answered⟩
              · rw [shown, answered]
              · rw [shown, answered]
                rfl

/-- An update of the first rule with the pattern is answered alike. -/
theorem answer_update_facet (distinct : hub.ids.Nodup) {update : Update}
    (first : hub.firstRule? pattern = some rule) (isId : rule.id = update.ruleId) :
    (respond (.updateRule update) (hub.facet pattern)).1 =
      (respond (.updateRule update) hub).1 := by
  have stored : hub.storedRule? update.ruleId = some rule := by
    rw [← isId]
    exact storedRule?_of_mem distinct (mem_of_firstRule? first)
  have shown : (hub.facet pattern).storedRule? update.ruleId = some rule := by
    simp [storedRule?, facet, first, isId]
  rcases answer_facet hub pattern (.updateRule update) with
    ⟨cause, isFailure, isFailure'⟩ | ⟨isAnswer, isAnswer'⟩
  · rw [isFailure, isFailure']
  · rw [isAnswer, isAnswer']
    exact (updateRule_of_stored shown).trans (updateRule_of_stored stored).symm

/-- An update of the first rule with the pattern goes the same way. -/
theorem update_facet (distinct : hub.ids.Nodup) (record : Desired) {identity : RuleIdentity}
    (first : hub.firstRule? pattern = some rule) (isId : rule.id = identity.ruleId) :
    ((RuleVerbs.update record identity).run respond (hub.facet pattern)).value =
      ((RuleVerbs.update record identity).run respond hub).value := by
  rcases resolving_facet distinct record pattern with ⟨sameValue, sameState⟩
  have same := working_resolving hub record
  rw [RuleVerbs.update_value, RuleVerbs.update_value, sameValue, sameState]
  generalize (RuleVerbs.resolving respond record hub).state = resolved at same
  cases record.validate with
  | error cause => rfl
  | ok _ =>
      cases (RuleVerbs.resolving respond record hub).value with
      | error cause => rfl
      | ok actorIds =>
          have sameAnswer := answer_update_facet (ids_of_working_eq same ▸ distinct)
            ((firstRule?_of_working_eq same pattern).trans first)
            (show rule.id = (record.update actorIds identity.ruleId).ruleId from isId)
          simp only [Bind.bind, Except.bind, sameAnswer]

/-- Outcomes of creations in the same repository differ in nothing but the new ID. -/
theorem map_withoutNewId {first second : Except VerbError RuleIdentity}
    (alike : first.map (·.repositoryId) = second.map (·.repositoryId)) (isNew : Bool) :
    (first.map fun identity => (⟨.create, identity, isNew, ""⟩ : Outcome RuleIdentity)).map
        Outcome.withoutNewId =
      (second.map fun identity => ⟨.create, identity, isNew, ""⟩).map Outcome.withoutNewId := by
  cases first with
  | error failure =>
      cases second with
      | error failure' => simpa [Except.map] using alike
      | ok identity' => simp [Except.map] at alike
  | ok identity =>
      cases second with
      | error failure' => simp [Except.map] at alike
      | ok identity' => simpa [Except.map, Outcome.withoutNewId] using alike

theorem cycle_facet_of_absent (distinct : hub.ids.Nodup) {isNew : Bool} {record : Desired}
    (unseen : (hub.observing desired).value = (.ok (.absent isNew), record)) :
    ((hub.facet desired.pattern).cycle desired).value.1.map Outcome.withoutNewId =
      (hub.cycle desired).value.1.map Outcome.withoutNewId := by
  rcases observing_facet distinct desired with ⟨sameValue, sameState⟩
  have distinctNow : (hub.observing desired).state.ids.Nodup :=
    ids_of_working_eq (working_observing hub desired) ▸ distinct
  rw [(cycle_of_absent unseen).1, (cycle_of_absent (sameValue.trans unseen)).1, sameState]
  exact map_withoutNewId (creation_facet distinctNow record desired.pattern) isNew

theorem cycle_facet_of_sight (distinct : hub.ids.Nodup) {isNew : Bool} {identity : RuleIdentity}
    (observed : (hub.observing desired).value =
      (.ok (sight desired isNew identity rule), recordLeft desired identity rule))
    (leads : hub.LeadsTo desired identity rule) :
    ((hub.facet desired.pattern).cycle desired).value = (hub.cycle desired).value := by
  rcases observing_facet distinct desired with ⟨sameValue, sameState⟩
  cases upToDate : (Drift.seen desired rule).isEmpty with
  | true =>
      rw [cycle_of_sight_upToDate observed upToDate,
        cycle_of_sight_upToDate (sameValue.trans observed) upToDate]
  | false =>
      have same := working_observing hub desired
      have distinctNow : (hub.observing desired).state.ids.Nodup :=
        ids_of_working_eq same ▸ distinct
      have first : (hub.observing desired).state.firstRule? desired.pattern = some rule :=
        (firstRule?_of_working_eq same _).trans (firstRule?_of_leads distinct leads)
      have isId : rule.id = identity.ruleId := by simpa using List.find?_some leads.stored
      rw [(cycle_of_sight_drifted observed upToDate).1,
        (cycle_of_sight_drifted (sameValue.trans observed) upToDate).1, sameState,
        update_facet distinctNow _ first isId]

/-- A cycle on the facet of its pattern goes the same way, the ID of a new rule apart. -/
theorem cycle_facet (distinct : hub.ids.Nodup) (desired : Desired) :
    ((hub.facet desired.pattern).cycle desired).value.1.map Outcome.withoutNewId =
        (hub.cycle desired).value.1.map Outcome.withoutNewId ∧
      ((hub.facet desired.pattern).cycle desired).value.2 = (hub.cycle desired).value.2 := by
  have sameValue := (observing_facet distinct desired).1
  constructor
  · have sight := sighting hub desired
    generalize observed : ((RuleVerbs.observe desired).run respond hub).value = result at sight
    cases sight with
    | refused cause invalid =>
        rw [cycle_value_of_failure observed, cycle_value_of_failure (sameValue.trans observed)]
    | unreached cause valid =>
        rw [cycle_value_of_failure observed, cycle_value_of_failure (sameValue.trans observed)]
    | unfetched lookup cause valid found =>
        rw [cycle_value_of_failure observed, cycle_value_of_failure (sameValue.trans observed)]
    | homeless valid => exact cycle_facet_of_absent distinct observed
    | absent lookup isNew valid found => exact cycle_facet_of_absent distinct observed
    | present identity rule isNew valid leads =>
        rw [cycle_facet_of_sight distinct observed leads]
  · exact (Verbs.reconcileOnce_left ruleVerbs respond desired _).trans
      ((congrArg Prod.snd sameValue).trans
        (Verbs.reconcileOnce_left ruleVerbs respond desired _).symm)

/-! ## Edits -/

/-- What a cycle does to the stored rules. -/
inductive Edit (hub : Hub) (desired : Desired) : List Rule → Prop where
  | kept : Edit hub desired hub.rules
  /-- A rule with the pattern is added, because none was seen. -/
  | added (isNew : Bool) (record : Desired) (rule : Rule)
      (unseen : (hub.observing desired).value = (.ok (.absent isNew), record))
      (isPattern : rule.pattern = desired.pattern) : Edit hub desired (hub.rules ++ [rule])
  /-- A rule with the pattern is revised. -/
  | revised (before : List Rule) (rule revision : Rule) (rest : List Rule)
      (split : hub.rules = before ++ rule :: rest) (had : rule.pattern = desired.pattern)
      (has : revision.pattern = desired.pattern) : Edit hub desired (before ++ revision :: rest)

theorem pattern_left (hub : Hub) (desired : Desired) :
    (hub.observing desired).value.2.pattern = desired.pattern := by
  have sight := sighting hub desired
  rw [observing]
  generalize ((RuleVerbs.observe desired).run respond hub).value = result at sight
  cases sight <;> rfl

/-- A cycle edits rules with its pattern only. -/
theorem edit_cycle (distinct : hub.ids.Nodup) (desired : Desired) :
    Edit hub desired (hub.cycle desired).state.rules := by
  rcases result : (hub.cycle desired).value with ⟨failure | outcome, left⟩
  · rw [rules_of_working_eq (stage_of_failure result).2]
    exact .kept
  · cases successfulCycle result with
    | created isNew actorIds isCreate unseen isIdentity home valid resolves content =>
        have areRules := congrArg (fun content : Hub => content.rules) content
        have isPattern := pattern_left hub desired
        rw [unseen] at isPattern
        rw [show (hub.cycle desired).state.rules = _ from areRules]
        exact .added isNew left _ unseen isPattern
    | updated rule actorIds isUpdate leads isLeft isDrift valid resolves isChanged content =>
        rcases changeFirst?_eq_some isChanged with ⟨before, first, rest, split, -, isId, areRules⟩
        have stored := storedRule?_of_mem distinct (show first ∈ hub.rules by rw [split]; simp)
        rw [isId, leads.stored] at stored
        cases stored
        rw [areRules]
        refine .revised before rule _ rest split ?_ ?_
        · exact pattern_of_firstRule? (firstRule?_of_leads distinct leads)
        · rw [isLeft]
          rfl
    | skipped rule isSkip leads isLeft upToDate content =>
        rw [rules_of_working_eq content]
        exact .kept

/-- The rules with other patterns stay as they are. -/
theorem Edit.others {rules : List Rule} (edit : Edit hub desired rules) :
    (rules.filter fun rule => rule.pattern != desired.pattern) =
      hub.rules.filter fun rule => rule.pattern != desired.pattern := by
  cases edit with
  | kept => rfl
  | added isNew record rule unseen isPattern => simp [isPattern]
  | revised before rule revision rest split had has => simp [split, had, has]

/-! ## No second rule for a pattern -/

/-- The operation fails, now or later, as if what it asks for were not there. -/
def Denies (hub : Hub) (operation : RemoteOperation) : Prop :=
  ∃ outage, hub.outages.lookup operation = some outage ∧ outage.cause = .notFound

theorem lookup_insertBy_of_ne {κ α : Type} [BEq κ] [LawfulBEq κ] {key other : κ}
    (different : other ≠ key) (value : α) (table : List (κ × α)) :
    (insertBy key value table).lookup other = table.lookup other := by
  rw [insertBy, List.lookup_cons, beq_false_of_ne different]
  show (table.filter fun entry => entry.1 != key).lookup other = table.lookup other
  induction table with
  | nil => rfl
  | cons entry rest ih =>
      rcases entry with ⟨own, held⟩
      by_cases isKey : own = key
      · simp [isKey, List.lookup_cons, beq_false_of_ne different, ih]
      · simp [isKey, List.lookup_cons, ih]

/-- A call of one operation has no part in the outages of another. -/
theorem denies_respond {request : Request} {operation : RemoteOperation}
    (different : operation ≠ request.operation) :
    (respond request hub).2.Denies operation ↔ hub.Denies operation := by
  have sameOutage : (respond request hub).2.outages.lookup operation =
      hub.outages.lookup operation := by
    unfold respond
    split
    next => rw [outages_perform]
    next => rfl
    next callsLeft cause found =>
      rw [outages_perform]
      exact lookup_insertBy_of_ne different _ _
  rw [Denies, Denies, sameOutage]

theorem respond_ne_notFound {request : Request} {result : request.Result}
    (honest : ¬ hub.Denies request.operation) (held : (hub.perform request).1 = .ok result) :
    (respond request hub).1 ≠ .error .notFound := by
  intro missing
  rw [respond_answer, held] at missing
  rcases found : hub.outages.lookup request.operation with _ | ⟨_ | callsLeft, cause⟩
  · simp [found] at missing
  · simp only [found, Except.error.injEq] at missing
    exact honest ⟨_, found, missing⟩
  · simp [found] at missing

/-- A rule is seen if it is stored and neither the lookup nor the fetch denies it. -/
theorem unstored_of_absent (distinct : hub.ids.Nodup) (owner : desired.owner = hub.owner)
    (repository : desired.repositoryName = some hub.repository)
    (finds : ¬ hub.Denies .findRule) (fetches : ¬ hub.Denies .fetchRule)
    {isNew : Bool} {record : Desired}
    (unseen : (hub.observing desired).value = (.ok (.absent isNew), record)) :
    hub.firstRule? desired.pattern = none := by
  cases first : hub.firstRule? desired.pattern with
  | none => rfl
  | some rule =>
      exfalso
      have held : hub.lookUp desired = .ok ⟨hub.repositoryId, some rule.id⟩ := by
        rw [lookUp_eq_ok, repository, show hub.rules.find? _ = some rule from first]
        exact ⟨⟨owner, rfl⟩, rfl⟩
      have sameRules : (respond desired.lookupRequest hub).2.rules = hub.rules :=
        rules_of_working_eq (working_respond_of_lookup rfl)
      have stored : (respond desired.lookupRequest hub).2.storedRule? rule.id = some rule := by
        rw [storedRule?, sameRules]
        exact storedRule?_of_mem distinct (mem_of_firstRule? first)
      have stillFetches : ¬ (respond desired.lookupRequest hub).2.Denies
          (Request.fetchRule rule.id).operation := by
        rw [denies_respond RemoteOperation.noConfusion]
        exact fetches
      -- The rule is there, so neither of the two answers can be that it is missing.
      have isFound : (respond desired.lookupRequest hub).1 ≠ .error .notFound :=
        respond_ne_notFound finds held
      have isFetched := respond_ne_notFound stillFetches (orNotFound_eq_ok.mpr stored)
      have valid := valid_of_observed unseen
      rw [observing, RuleVerbs.observe_value, RuleVerbs.finding.eq_def, valid] at unseen
      dsimp only at unseen
      cases answered : (respond desired.lookupRequest hub).1 with
      | error cause =>
          rw [answered] at unseen isFound
          cases cause <;> first | exact isFound rfl | cases unseen
      | ok lookup =>
          cases Except.ok.inj (held.symm.trans (respond_of_ok answered).1)
          simp only [answered, RuleVerbs.lookupFinding] at unseen
          cases seen : (respond (.fetchRule rule.id) (respond desired.lookupRequest hub).2).1 with
          | error cause =>
              rw [seen] at unseen isFetched
              cases cause <;> first | exact isFetched rfl | cases unseen
          | ok shown =>
              rw [seen] at unseen
              cases unseen

/-- A pattern that is stored gets no second rule. -/
theorem Edit.countP_eq {rules : List Rule} (edit : Edit hub desired rules)
    (unstored : ∀ isNew record, (hub.observing desired).value = (.ok (.absent isNew), record) →
      hub.firstRule? desired.pattern = none)
    (stored : ∃ rule ∈ hub.rules, rule.pattern = pattern) :
    (rules.countP fun rule => rule.pattern == pattern) =
      hub.rules.countP fun rule => rule.pattern == pattern := by
  cases edit with
  | kept => rfl
  | added isNew record rule unseen isPattern =>
      rcases stored with ⟨other, member, rfl⟩
      have absent := List.find?_eq_none.mp (unstored isNew record unseen) other member
      have different : (desired.pattern == other.pattern) = false :=
        beq_false_of_ne fun same => absent (beq_iff_eq.mpr same.symm)
      simp [List.countP_append, isPattern, different]
  | revised before rule revision rest split had has =>
      simp [split, List.countP_append, List.countP_cons, had, has]

/-! ## Sessions -/

/-- Steps change neither the owner nor the repository of a hub. -/
theorem home_afterAll (numbered : hub.WellNumbered) (turns : List Turn) :
    (hub.afterAll turns).owner = hub.owner ∧
      (hub.afterAll turns).repository = hub.repository := by
  induction turns generalizing hub with
  | nil => exact ⟨rfl, rfl⟩
  | cons turn later ih =>
      have sameHome := (transition_play numbered turn).home
      rcases ih (numbered.play turn) with ⟨owner, repository⟩
      exact ⟨owner.trans sameHome.1, repository.trans sameHome.2⟩

/-- The hub after a session, with other outages. -/
def reached (hub : Hub) (earlier : List Turn) (outages : List (RemoteOperation × Outage)) : Hub :=
  { hub.afterAll earlier with outages := outages }

/--
In a session on a well numbered hub, a cycle leaves the rules with other patterns as they are; its
result and the record it leaves depend on the facet of its pattern alone, the ID of a new rule
apart; it adds no second rule for a stored pattern, if the record names the hub and neither the
lookup nor the fetch denies what is there; and no two rules ever have the same ID.
-/
theorem patterns_isolated (numbered : hub.WellNumbered) (earlier : List Turn)
    (outages : List (RemoteOperation × Outage)) (desired : Desired) :
    (((hub.reached earlier outages).cycle desired).state.rules.filter
        fun rule => rule.pattern != desired.pattern) =
      ((hub.reached earlier outages).rules.filter fun rule => rule.pattern != desired.pattern) ∧
    (∀ other : Hub, other.ids.Nodup →
      other.facet desired.pattern = (hub.reached earlier outages).facet desired.pattern →
        (other.cycle desired).value.1.map Outcome.withoutNewId =
            ((hub.reached earlier outages).cycle desired).value.1.map Outcome.withoutNewId ∧
          (other.cycle desired).value.2 = ((hub.reached earlier outages).cycle desired).value.2) ∧
    (desired.owner = hub.owner → desired.repositoryName = some hub.repository →
      ¬ (hub.reached earlier outages).Denies .findRule →
      ¬ (hub.reached earlier outages).Denies .fetchRule →
        ∀ pattern, (∃ rule ∈ (hub.reached earlier outages).rules, rule.pattern = pattern) →
          (((hub.reached earlier outages).cycle desired).state.rules.countP
              fun rule => rule.pattern == pattern) =
            (hub.reached earlier outages).rules.countP fun rule => rule.pattern == pattern) ∧
    ((hub.reached earlier outages).cycle desired).state.ids.Nodup := by
  have numberedNow := (numbered.afterAll earlier).with_outages outages
  have edit := edit_cycle numberedNow.distinct desired
  refine ⟨edit.others, ?_, ?_, ?_⟩
  · intro other distinct sameFacet
    rcases cycle_facet distinct desired with ⟨sameResult, sameRecord⟩
    rcases cycle_facet numberedNow.distinct desired with ⟨sameResult', sameRecord'⟩
    rw [sameFacet] at sameResult sameRecord
    exact ⟨sameResult.symm.trans sameResult', sameRecord.symm.trans sameRecord'⟩
  · intro owner repository finds fetches pattern stored
    rcases home_afterAll numbered earlier with ⟨sameOwner, sameRepository⟩
    refine edit.countP_eq ?_ stored
    intro isNew record unseen
    exact unstored_of_absent numberedNow.distinct (owner.trans sameOwner.symm)
      (repository.trans (congrArg some sameRepository.symm)) finds fetches unseen
  · exact ((numbered.afterAll earlier).play ⟨outages, .reconcile desired⟩).distinct

/-- The small hub after a rule for another pattern was created. -/
def sampleWithSecond : Hub :=
  sample.reached [⟨[], .reconcile (Desired.named "test-org" "test-repo" "dev")⟩] []

/-- The record of the first rule leads to the same as before, and to no third rule. -/
theorem patterns_isolated_sample :
    sample.WellNumbered ∧ sampleWithSecond.rules.map (·.pattern) = ["main", "dev"] ∧
      sample.facet "main" = sampleWithSecond.facet "main" ∧
      (sample.cycle sampleRecord).value.2 = (sampleWithSecond.cycle sampleRecord).value.2 ∧
      ((sampleWithSecond.cycle sampleRecord).state.rules.countP
        fun rule => rule.pattern == "main") = 1 := by
  have isolated := patterns_isolated wellNumbered_sample
    [⟨[], .reconcile (Desired.named "test-org" "test-repo" "dev")⟩] [] sampleRecord
  have unbroken (operation : RemoteOperation) : ¬ sampleWithSecond.Denies operation := by
    rintro ⟨outage, found, -⟩
    cases found
  have stored : ∃ rule ∈ sampleWithSecond.rules, rule.pattern = "main" :=
    ⟨sampleRule, List.mem_cons_self, rfl⟩
  refine ⟨wellNumbered_sample, rfl, rfl,
    (isolated.2.1 sample wellNumbered_sample.distinct rfl).2, ?_⟩
  exact isolated.2.2.1 rfl rfl (unbroken _) (unbroken _) "main" stored

end Hub

end BranchGuard
