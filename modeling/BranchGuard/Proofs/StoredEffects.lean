import BranchGuard.Proofs.Retry
import BranchGuard.Proofs.Sessions

/-!
# The effects of a session on the stored rules

The result of a step tells its effect (`Step.effect`): a rule was created, updated or deleted, or
nothing was done, which is the case for every step that fails.  The effect accounts for everything
that the step did to a hub (`Transition`, `transition_play`), whatever the outages.

A hub is well numbered if no two of its rules have the same ID and no number to come leads to one of
them.  Every transition keeps it so (`Transition.wellNumbered`), and an ID that is gone stays gone
(`Transition.isGone`).  So in a session a rule is created under an ID that no rule had before, and
the ID of a deleted rule never comes back (`effects_of_session`).
-/

namespace BranchGuard

open Dialogue

/-- What was done to the stored rules. -/
inductive Effect where
  | nothing
  | created (ruleId : String)
  | updated (ruleId : String)
  | deleted (ruleId : String)
deriving DecidableEq, Repr

namespace Outcome

/-- What a cycle with this outcome has done. -/
def effect (outcome : Outcome RuleIdentity) : Effect :=
  match outcome.action with
  | .create => .created outcome.identity.ruleId
  | .update => .updated outcome.identity.ruleId
  | .skip => .nothing

end Outcome

namespace Step

/-- What the step has done, as its result tells. -/
def effect : (step : Step) → step.Result → Effect
  | .observe _, _ => .nothing
  | .create _, result =>
    match result with
    | .ok identity => .created identity.ruleId
    | .error _ => .nothing
  | .update _ identity, result =>
    match result with
    | .ok () => .updated identity.ruleId
    | .error _ => .nothing
  | .delete identity, result =>
    match result with
    | .ok () => .deleted identity.ruleId
    | .error _ => .nothing
  | .reconcile _, (result, _) =>
    match result with
    | .ok outcome => outcome.effect
    | .error _ => .nothing

/-- The ID of the rule that the step reports. -/
def reported? : (step : Step) → step.Result → Option String
  | .observe _, (result, _) =>
    result.toOption.bind fun observation => observation.identity.map (·.ruleId)
  | .create _, result => result.toOption.map (·.ruleId)
  | .update _ _, _ => none
  | .delete _, _ => none
  | .reconcile _, (result, _) => result.toOption.map (·.identity.ruleId)

end Step

namespace Hub

variable {hub after : Hub} {effect : Effect} {id : String}

/-! ## Transitions -/

/-- How an effect changes a hub: nothing but what it says. -/
inductive Transition (hub : Hub) : Effect → Hub → Prop where
  | nothing : Transition hub .nothing hub
  | created (rule : Rule) (isNext : rule.id = ruleId hub.nextNumber) :
      Transition hub (.created rule.id)
        { hub with rules := hub.rules ++ [rule], nextNumber := hub.nextNumber + 1 }
  | updated (before : List Rule) (rule revised : Rule) (rest : List Rule)
      (split : hub.rules = before ++ rule :: rest) (sameId : revised.id = rule.id) :
      Transition hub (.updated rule.id) { hub with rules := before ++ revised :: rest }
  | deleted (before : List Rule) (rule : Rule) (rest : List Rule)
      (split : hub.rules = before ++ rule :: rest) :
      Transition hub (.deleted rule.id) { hub with rules := before ++ rest }

/-- The IDs of the stored rules, in order. -/
def ids (hub : Hub) : List String :=
  hub.rules.map (·.id)

theorem transition_of_created {rule : Rule}
    (content : after =
      { hub with rules := hub.rules ++ [rule], nextNumber := hub.nextNumber + 1 })
    (isNext : rule.id = ruleId hub.nextNumber) (isId : id = rule.id) :
    Transition hub (.created id) after := by
  rw [isId, content]
  exact .created rule isNext

theorem transition_of_changed {change : Rule → Rule} {changed : List Rule}
    (isChanged : changeFirst? id change hub.rules = some changed)
    (keepsId : ∀ rule, (change rule).id = rule.id)
    (content : after = { hub with rules := changed }) : Transition hub (.updated id) after := by
  rcases changeFirst?_eq_some isChanged with ⟨before, rule, rest, split, -, rfl, rfl⟩
  rw [content]
  exact .updated before rule (change rule) rest split (keepsId rule)

/-- Where no two rules have the same ID, the others have other IDs. -/
theorem ids_of_split {before rest : List Rule} {rule : Rule} (distinct : hub.ids.Nodup)
    (split : hub.rules = before ++ rule :: rest) :
    rule.id ∉ (before ++ rest).map (·.id) ∧ ((before ++ rest).map (·.id)).Nodup := by
  rw [ids, split, List.map_append, List.map_cons, List.nodup_middle, List.nodup_cons,
    ← List.map_append] at distinct
  exact distinct

/-- Where no two rules have the same ID, one rule is deleted. -/
theorem transition_deleteRule (distinct : hub.ids.Nodup)
    (deleted : (hub.deleteRule id).1 = .ok ()) :
    Transition hub (.deleted id) (hub.deleteRule id).2 := by
  unfold deleteRule at deleted ⊢
  split at deleted
  next stored =>
    rw [if_pos stored]
    rcases List.any_eq_true.mp stored with ⟨rule, member, isId⟩
    rcases List.append_of_mem member with ⟨before, rest, split⟩
    have sameId := beq_iff_eq.mp isId
    subst sameId
    have different : ∀ other ∈ before ++ rest, (other.id != rule.id) = true := by
      intro other among
      rw [bne_iff_ne]
      intro same
      exact (ids_of_split distinct split).1 (same ▸ List.mem_map_of_mem among)
    have remaining : hub.rules.filter (fun other => other.id != rule.id) = before ++ rest := by
      rw [← List.filter_eq_self.mpr different, split]
      simp
    rw [remaining]
    exact .deleted before rule rest split
  next => cases deleted

/-! ## The transition of a step -/

section Steps

variable (hub)

theorem transition_create (desired : Desired) :
    Transition hub.working
      ((Step.create desired).effect ((RuleVerbs.create desired).run respond hub).value)
      ((RuleVerbs.create desired).run respond hub).state.working := by
  cases result : ((RuleVerbs.create desired).run respond hub).value with
  | error failure =>
      rw [working_create_of_error result]
      exact .nothing
  | ok identity =>
      rcases successfulCreation rfl result with ⟨actorIds, isNext, -, -, -, content⟩
      exact transition_of_created content rfl isNext

theorem transition_update (desired : Desired) (identity : RuleIdentity) :
    Transition hub.working
      ((Step.update desired identity).effect
        ((RuleVerbs.update desired identity).run respond hub).value)
      ((RuleVerbs.update desired identity).run respond hub).state.working := by
  cases result : ((RuleVerbs.update desired identity).run respond hub).value with
  | error failure =>
      rw [working_update_of_error result]
      exact .nothing
  | ok _ =>
      rcases successfulUpdate rfl result with ⟨actorIds, -, -, isChanged, content⟩
      exact transition_of_changed isChanged (fun _ => rfl) content

theorem transition_delete (distinct : hub.ids.Nodup) (identity : RuleIdentity) :
    Transition hub.working
      ((Step.delete identity).effect ((RuleVerbs.delete identity).run respond hub).value)
      ((RuleVerbs.delete identity).run respond hub).state.working := by
  rcases RuleVerbs.run_delete respond identity hub with ⟨value, state⟩
  rw [value, state]
  cases answered : (respond (.deleteRule identity.ruleId) hub).1 with
  | error cause =>
      rw [respond_of_error answered]
      exact .nothing
  | ok _ =>
      rcases respond_of_ok answered with ⟨performed, content⟩
      rw [content]
      exact transition_deleteRule distinct performed

theorem transition_cycle (desired : Desired) :
    Transition hub.working ((Step.reconcile desired).effect (hub.cycle desired).value)
      (hub.cycle desired).state.working := by
  rcases result : (hub.cycle desired).value with ⟨failure | outcome, left⟩
  · rw [(stage_of_failure result).2]
    exact .nothing
  · have effect : (Step.reconcile desired).effect (.ok outcome, left) = outcome.effect := rfl
    rw [effect, Outcome.effect]
    cases successfulCycle result with
    | created isNew actorIds isCreate unseen isIdentity home valid resolves content =>
        rw [isCreate]
        exact transition_of_created content rfl isIdentity
    | updated rule actorIds isUpdate leads isLeft isDrift valid resolves isChanged content =>
        rw [isUpdate]
        exact transition_of_changed isChanged (fun _ => rfl) content
    | skipped rule isSkip leads isLeft upToDate content =>
        rw [isSkip, content]
        exact .nothing

/-- The effect of a step is all that it does to a hub. -/
theorem transition_step (distinct : hub.ids.Nodup) (step : Step) :
    Transition hub.working (step.effect (step.conversation.run respond hub).value)
      (step.conversation.run respond hub).state.working := by
  cases step with
  | observe desired =>
      have same : ((RuleVerbs.observe desired).run respond hub).state.working = hub.working :=
        working_observing hub desired
      show Transition hub.working .nothing
        ((RuleVerbs.observe desired).run respond hub).state.working
      rw [same]
      exact .nothing
  | create desired => exact transition_create hub desired
  | update desired identity => exact transition_update hub desired identity
  | delete identity => exact transition_delete hub distinct identity
  | reconcile desired => exact transition_cycle hub desired

end Steps

/-! ## Numbers -/

theorem ruleId_injective : Function.Injective ruleId := by
  intro number other same
  have sameText : toString number = toString other := (String.append_right_inj "BPR_").mp same
  rw [Nat.toString_eq_ofList_toDigits, Nat.toString_eq_ofList_toDigits, String.ofList_inj]
    at sameText
  rw [← @Nat.ofDigitChars_ten_toDigits number, sameText, Nat.ofDigitChars_ten_toDigits]

/-- No rule that is created from now on gets the ID. -/
def IsPast (hub : Hub) (id : String) : Prop :=
  ∀ number, hub.nextNumber ≤ number → id ≠ ruleId number

/-- No two rules have the same ID, and no rule to come gets the ID of a stored one. -/
structure WellNumbered (hub : Hub) : Prop where
  distinct : hub.ids.Nodup
  past : ∀ id ∈ hub.ids, hub.IsPast id

/-- The ID is gone: no rule has it, and none ever will. -/
structure IsGone (hub : Hub) (id : String) : Prop where
  absent : id ∉ hub.ids
  past : hub.IsPast id

/-! Outages have no part in either. -/

theorem WellNumbered.with_outages (numbered : hub.WellNumbered)
    (outages : List (RemoteOperation × Outage)) :
    WellNumbered { hub with outages := outages } :=
  ⟨numbered.distinct, numbered.past⟩

theorem WellNumbered.of_working (numbered : hub.working.WellNumbered) : hub.WellNumbered :=
  ⟨numbered.distinct, numbered.past⟩

theorem IsGone.with_outages (gone : hub.IsGone id)
    (outages : List (RemoteOperation × Outage)) : IsGone { hub with outages := outages } id :=
  ⟨gone.absent, gone.past⟩

theorem IsGone.of_working (gone : hub.working.IsGone id) : hub.IsGone id :=
  ⟨gone.absent, gone.past⟩

namespace Transition

theorem nextNumber_le (transition : Transition hub effect after) :
    hub.nextNumber ≤ after.nextNumber := by
  cases transition with
  | created rule isNext => exact Nat.le_succ _
  | _ => exact Nat.le_refl _

theorem home (transition : Transition hub effect after) :
    after.owner = hub.owner ∧ after.repository = hub.repository := by
  cases transition <;> exact ⟨rfl, rfl⟩

/-- A number is given to one rule only. -/
theorem isPast (transition : Transition hub effect after) (past : hub.IsPast id) :
    after.IsPast id := by
  intro number later
  exact past number (Nat.le_trans transition.nextNumber_le later)

/-- A stored ID was stored before, or it is the next one. -/
theorem mem_ids (transition : Transition hub effect after) (stored : id ∈ after.ids) :
    id ∈ hub.ids ∨ id = ruleId hub.nextNumber ∧ hub.nextNumber < after.nextNumber := by
  cases transition with
  | nothing => exact .inl stored
  | created rule isNext =>
      simp only [ids, List.map_append, List.map_cons, List.map_nil, List.mem_append,
        List.mem_singleton] at stored
      rcases stored with stored | isNew
      · exact .inl stored
      · exact .inr ⟨isNew.trans isNext, Nat.lt_succ_self _⟩
  | updated before rule revised rest split sameId =>
      left
      rw [ids, split]
      simpa [ids, sameId] using stored
  | deleted before rule rest split =>
      left
      rw [ids, split]
      simp only [ids, List.map_append, List.map_cons, List.mem_append, List.mem_cons] at stored ⊢
      rcases stored with stored | stored
      · exact .inl stored
      · exact .inr (.inr stored)

theorem nodup_ids (numbered : hub.WellNumbered) (transition : Transition hub effect after) :
    after.ids.Nodup := by
  cases transition with
  | nothing => exact numbered.distinct
  | created rule isNext =>
      have fresh : rule.id ∉ hub.ids := fun stored =>
        numbered.past _ stored hub.nextNumber (Nat.le_refl _) isNext
      rw [ids, List.map_append, List.map_cons, List.map_nil, List.nodup_append_comm]
      exact List.nodup_cons.mpr ⟨fresh, numbered.distinct⟩
  | updated before rule revised rest split sameId =>
      have distinct := numbered.distinct
      rw [ids, split] at distinct
      simpa [ids, sameId] using distinct
  | deleted before rule rest split => exact (ids_of_split numbered.distinct split).2

theorem wellNumbered (numbered : hub.WellNumbered) (transition : Transition hub effect after) :
    after.WellNumbered := by
  refine ⟨transition.nodup_ids numbered, ?_⟩
  intro id stored
  rcases transition.mem_ids stored with stored | ⟨rfl, isUsed⟩
  · exact transition.isPast (numbered.past id stored)
  · intro number later same
    exact absurd (ruleId_injective same) (by omega)

theorem isGone (transition : Transition hub effect after) (gone : hub.IsGone id) :
    after.IsGone id := by
  refine ⟨?_, transition.isPast gone.past⟩
  intro stored
  rcases transition.mem_ids stored with stored | ⟨isNext, -⟩
  · exact gone.absent stored
  · exact gone.past _ (Nat.le_refl _) isNext

/-- The ID of a deleted rule is gone. -/
theorem isGone_of_deleted (numbered : hub.WellNumbered)
    (transition : Transition hub (.deleted id) after) : after.IsGone id := by
  cases transition with
  | deleted before rule rest split =>
      refine ⟨(ids_of_split numbered.distinct split).1, ?_⟩
      apply numbered.past
      rw [ids, split]
      simp

end Transition

/-! ## Reports -/

theorem LeadsTo.mem_ids {desired : Desired} {identity : RuleIdentity} {rule : Rule}
    (leads : hub.LeadsTo desired identity rule) : identity.ruleId ∈ hub.ids := by
  have stored := leads.stored
  rw [storedRule?, List.find?_eq_some_iff_append] at stored
  rcases stored with ⟨isId, before, rest, split, -⟩
  rw [ids, split, ← beq_iff_eq.mp isId]
  simp

theorem mem_ids_of_observed {desired left : Desired} {observation : Observation RuleIdentity}
    {identity : RuleIdentity}
    (observed : (hub.observing desired).value = (.ok observation, left))
    (located : observation.identity = some identity) : identity.ruleId ∈ hub.ids := by
  have sight := sighting hub desired
  rw [show ((RuleVerbs.observe desired).run respond hub).value = _ from observed] at sight
  cases sight with
  | homeless valid => cases located
  | absent lookup isNew valid found => cases located
  | present identity rule isNew valid leads =>
      cases located
      exact leads.mem_ids

/-- A step reports a stored rule, or the next one. -/
theorem reported_mem (step : Step)
    (reported : step.reported? (step.conversation.run respond hub).value = some id) :
    id ∈ hub.ids ∨ id = ruleId hub.nextNumber := by
  cases step with
  | observe desired =>
      change (Step.observe desired).reported? (hub.observing desired).value = some id at reported
      rcases observed : (hub.observing desired).value with ⟨failure | observation, left⟩
      · rw [observed] at reported
        cases reported
      · rw [observed] at reported
        rcases Option.map_eq_some_iff.mp reported with ⟨identity, located, rfl⟩
        exact .inl (mem_ids_of_observed observed located)
  | create desired =>
      change (Step.create desired).reported? ((RuleVerbs.create desired).run respond hub).value =
        some id at reported
      cases result : ((RuleVerbs.create desired).run respond hub).value with
      | error failure =>
          rw [result] at reported
          cases reported
      | ok identity =>
          rw [result] at reported
          cases reported
          rcases successfulCreation rfl result with ⟨-, isNext, -⟩
          exact .inr isNext
  | update desired identity => cases reported
  | delete identity => cases reported
  | reconcile desired =>
      change (Step.reconcile desired).reported? (hub.cycle desired).value = some id at reported
      rcases result : (hub.cycle desired).value with ⟨failure | outcome, left⟩
      · rw [result] at reported
        cases reported
      · rw [result] at reported
        cases reported
        cases successfulCycle result with
        | created isNew actorIds isCreate unseen isIdentity home valid resolves content =>
            exact .inr isIdentity
        | updated rule actorIds isUpdate leads isLeft isDrift valid resolves isChanged content =>
            exact .inl leads.mem_ids
        | skipped rule isSkip leads isLeft upToDate content => exact .inl leads.mem_ids

/-- An ID that is gone is never reported. -/
theorem IsGone.not_reported (gone : hub.IsGone id) (step : Step) :
    step.reported? (step.conversation.run respond hub).value ≠ some id := by
  intro reported
  rcases reported_mem step reported with stored | isNext
  · exact gone.absent stored
  · exact gone.past _ (Nat.le_refl _) isNext

/-! ## Sessions on a hub -/

/-- A step of a session, with the outages that it meets: those that the step before left, or any
others. -/
structure Turn where
  outages : List (RemoteOperation × Outage)
  step : Step

/-- What comes of a step on a hub. -/
def play (hub : Hub) (turn : Turn) : Run Request.Reply Event Hub turn.step.Result :=
  turn.step.conversation.run respond { hub with outages := turn.outages }

/-- What the step has done. -/
def effectOf (hub : Hub) (turn : Turn) : Effect :=
  turn.step.effect (hub.play turn).value

/-- The hub after a session. -/
def afterAll (hub : Hub) : List Turn → Hub
  | [] => hub
  | turn :: later => (hub.play turn).state.afterAll later

theorem transition_play (numbered : hub.WellNumbered) (turn : Turn) :
    Transition hub.working (hub.effectOf turn) (hub.play turn).state.working :=
  transition_step { hub with outages := turn.outages } numbered.distinct turn.step

theorem WellNumbered.play (numbered : hub.WellNumbered) (turn : Turn) :
    (hub.play turn).state.WellNumbered :=
  ((transition_play numbered turn).wellNumbered (numbered.with_outages [])).of_working

theorem WellNumbered.afterAll (numbered : hub.WellNumbered) (turns : List Turn) :
    (hub.afterAll turns).WellNumbered := by
  induction turns generalizing hub with
  | nil => exact numbered
  | cons turn later ih => exact ih (numbered.play turn)

theorem afterAll_append (hub : Hub) (earlier later : List Turn) :
    hub.afterAll (earlier ++ later) = (hub.afterAll earlier).afterAll later := by
  induction earlier generalizing hub with
  | nil => rfl
  | cons turn rest ih => exact ih _

theorem nextNumber_le_afterAll (numbered : hub.WellNumbered) (turns : List Turn) :
    hub.nextNumber ≤ (hub.afterAll turns).nextNumber := by
  induction turns generalizing hub with
  | nil => exact Nat.le_refl _
  | cons turn later ih =>
      exact Nat.le_trans (transition_play numbered turn).nextNumber_le (ih (numbered.play turn))

theorem IsGone.afterAll (numbered : hub.WellNumbered) (gone : hub.IsGone id)
    (turns : List Turn) : (hub.afterAll turns).IsGone id := by
  induction turns generalizing hub with
  | nil => exact gone
  | cons turn later ih =>
      exact ih (numbered.play turn)
        ((transition_play numbered turn).isGone (gone.with_outages [])).of_working

/-- A rule that is created has an ID that no rule had in the session before. -/
theorem not_mem_of_created (numbered : hub.WellNumbered) {earlier : List Turn} {turn : Turn}
    (created : (hub.afterAll earlier).effectOf turn = .created id) {past : List Turn}
    (isPast : past <+: earlier) : id ∉ (hub.afterAll past).ids := by
  rcases isPast with ⟨between, rfl⟩
  rw [afterAll_append] at created
  have numberedPast := numbered.afterAll past
  have transition := transition_play (numberedPast.afterAll between) turn
  have later := nextNumber_le_afterAll numberedPast between
  rw [created] at transition
  generalize ((hub.afterAll past).afterAll between).play turn = run at transition
  generalize run.state.working = left at transition
  cases transition with
  | created rule isNext =>
      intro stored
      exact numberedPast.past _ stored _ later isNext

/--
In a session on a well numbered hub, whatever the outages: every step does just what its result
tells, a rule is created under an ID that no rule had before, and the ID of a deleted rule is never
stored or reported again.
-/
theorem effects_of_session (numbered : hub.WellNumbered) (earlier : List Turn) (turn : Turn) :
    (hub.afterAll earlier).ids.Nodup ∧
      Transition (hub.afterAll earlier).working ((hub.afterAll earlier).effectOf turn)
        ((hub.afterAll earlier).play turn).state.working ∧
      (∀ id, (hub.afterAll earlier).effectOf turn = .created id →
        ∀ past, past <+: earlier → id ∉ (hub.afterAll past).ids) ∧
      (∀ id, (hub.afterAll earlier).effectOf turn = .deleted id →
        ∀ (later : List Turn) (last : Turn),
          id ∉ (((hub.afterAll earlier).play turn).state.afterAll later).ids ∧
          last.step.reported?
            ((((hub.afterAll earlier).play turn).state.afterAll later).play last).value ≠
              some id) := by
  have numberedNow := numbered.afterAll earlier
  refine ⟨numberedNow.distinct, transition_play numberedNow turn, ?_, ?_⟩
  · intro id created past isPast
    exact not_mem_of_created numbered created isPast
  · intro id deleted later last
    have transition := transition_play numberedNow turn
    rw [deleted] at transition
    have gone := (transition.isGone_of_deleted (numberedNow.with_outages [])).of_working
    have goneLater := gone.afterAll (numberedNow.play turn) later
    exact ⟨goneLater.absent, (goneLater.with_outages last.outages).not_reported last.step⟩

theorem wellNumbered_sample : sample.WellNumbered := by
  refine ⟨by decide, ?_⟩
  intro id stored number later same
  have isZero : id = ruleId 0 := List.mem_singleton.mp stored
  have zero := ruleId_injective (isZero.symm.trans same)
  rw [← zero] at later
  exact absurd later (by decide)

/-- The rule of the small hub is deleted when there is a second one. -/
theorem effects_of_session_sample :
    sample.WellNumbered ∧
      (sample.afterAll [⟨[], .reconcile (Desired.named "test-org" "test-repo" "dev")⟩]).ids =
        ["BPR_0", "BPR_1"] ∧
      ∀ (later : List Turn) (last : Turn), last.step.reported?
        ((((sample.afterAll [⟨[], .reconcile (Desired.named "test-org" "test-repo" "dev")⟩]).play
          ⟨[], .delete ⟨"R_test", "BPR_0"⟩⟩).state.afterAll later).play last).value ≠
            some "BPR_0" := by
  refine ⟨wellNumbered_sample, rfl, ?_⟩
  intro later last
  have effects := effects_of_session wellNumbered_sample
    [⟨[], .reconcile (Desired.named "test-org" "test-repo" "dev")⟩]
    ⟨[], .delete ⟨"R_test", "BPR_0"⟩⟩
  exact (effects.2.2.2 "BPR_0" rfl later last).2

end Hub

end BranchGuard
