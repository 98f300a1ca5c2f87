import BranchGuard.Proofs.ActorIdentities

/-!
# Stored rules and their revisions

`Hub.revised` is what a mutation for a desired rule makes of a rule: the stored one for an update, a
blank one for a creation.  An update revises the first rule with its ID and leaves the others alone
(`changeFirst?_eq_some`), and the pattern then leads to the revised rule (`leadsTo_of_changed`); a
creation with a fresh ID makes the pattern lead to the new rule (`leadsTo_of_created`).

What is seen of a revised rule is what was sent for it and, where nothing was sent, what was seen
before.  The two settings that are derived from others are sent in any case.
-/

namespace BranchGuard

namespace Hub

/-! ## Changing one rule -/

section Change

variable {id : String} {change : Rule → Rule} {rules changed : List Rule}

/-- The first rule with the ID is changed, and no other. -/
theorem changeFirst?_eq_some (isChanged : changeFirst? id change rules = some changed) :
    ∃ before rule after, rules = before ++ rule :: after ∧ (∀ other ∈ before, other.id ≠ id) ∧
      rule.id = id ∧ changed = before ++ change rule :: after := by
  induction rules generalizing changed with
  | nil => simp [changeFirst?] at isChanged
  | cons first rest ih =>
      by_cases isFirst : first.id = id
      · simp only [changeFirst?, isFirst, if_true, Option.some.injEq] at isChanged
        exact ⟨[], first, rest, rfl, by simp, isFirst, isChanged.symm⟩
      · simp only [changeFirst?, isFirst, if_false, Option.map_eq_some_iff] at isChanged
        rcases isChanged with ⟨others, restChanged, rfl⟩
        rcases ih restChanged with ⟨before, rule, after, rfl, different, same, rfl⟩
        refine ⟨first :: before, rule, after, rfl, ?_, same, rfl⟩
        intro other member
        rcases List.mem_cons.mp member with rfl | member
        · exact isFirst
        · exact different other member

theorem exists_changeFirst? (change : Rule → Rule) {rule : Rule}
    (stored : rules.find? (fun rule => rule.id == id) = some rule) :
    ∃ changed, changeFirst? id change rules = some changed := by
  induction rules with
  | nil => simp at stored
  | cons first rest ih =>
      by_cases isFirst : first.id = id
      · exact ⟨change first :: rest, by simp [changeFirst?, isFirst]⟩
      · have inRest : rest.find? (fun rule => rule.id == id) = some rule := by
          simpa [List.find?_cons, isFirst] using stored
        rcases ih inRest with ⟨others, restChanged⟩
        exact ⟨first :: others, by simp [changeFirst?, isFirst, restChanged]⟩

theorem find?_of_first {before after : List Rule} {rule : Rule}
    (different : ∀ other ∈ before, other.id ≠ id) (same : rule.id = id) :
    (before ++ rule :: after).find? (fun rule => rule.id == id) = some rule := by
  have absent : before.find? (fun rule => rule.id == id) = none := by
    rw [List.find?_eq_none]
    intro other member
    simpa using different other member
  rw [List.find?_append, absent]
  simp [same]

/-- The changed rule is found under its ID. -/
theorem find?_of_changed {rule : Rule} (isChanged : changeFirst? id change rules = some changed)
    (stored : rules.find? (fun rule => rule.id == id) = some rule)
    (keeps : (change rule).id = rule.id) :
    changed.find? (fun rule => rule.id == id) = some (change rule) := by
  rcases changeFirst?_eq_some isChanged with ⟨before, first, after, rfl, different, same, rfl⟩
  rw [find?_of_first different same] at stored
  cases stored
  exact find?_of_first different (keeps.trans same)

end Change

variable {hub : Hub} {desired : Desired} {identity : RuleIdentity} {rule : Rule}

/-! ## Where a pattern leads -/

theorem lookUp_eq_ok {lookup : Lookup} :
    hub.lookUp desired = .ok lookup ↔
      (desired.owner = hub.owner ∧ desired.repositoryName.getD "" = hub.repository) ∧
        lookup = ⟨hub.repositoryId,
          (hub.rules.find? fun rule => rule.pattern == desired.pattern).map (·.id)⟩ := by
  unfold lookUp findRule
  split
  next home => simp [home, eq_comm]
  next away => simp [away]

/-- The pattern leads to the rule with the ID after the rule was changed. -/
theorem leadsTo_of_changed {change : Rule → Rule} {changed : List Rule}
    (leads : hub.LeadsTo desired identity rule)
    (isChanged : changeFirst? identity.ruleId change hub.rules = some changed)
    (keepsId : (change rule).id = rule.id)
    (setsPattern : (change rule).pattern = desired.pattern) :
    LeadsTo { hub with rules := changed } desired identity (change rule) := by
  have stored := leads.stored
  rcases lookUp_eq_ok.mp leads.found with ⟨home, located⟩
  constructor
  · rw [lookUp_eq_ok]
    refine ⟨home, ?_⟩
    simp only [Lookup.mk.injEq] at located ⊢
    refine ⟨located.1, ?_⟩
    rcases changeFirst?_eq_some isChanged with ⟨before, first, after, split, different, same, rfl⟩
    rw [storedRule?, split, find?_of_first different same] at stored
    cases stored
    -- A rule with the pattern before the changed one would have led to another ID.
    have absent : before.find? (fun rule => rule.pattern == desired.pattern) = none := by
      cases found : before.find? (fun rule => rule.pattern == desired.pattern) with
      | none => rfl
      | some other =>
          have leadsElsewhere := located.2
          rw [split, List.find?_append, found] at leadsElsewhere
          simp only [Option.some_or, Option.map_some, Option.some.injEq] at leadsElsewhere
          exact absurd leadsElsewhere.symm (different other (List.mem_of_find?_eq_some found))
    rw [List.find?_append, absent]
    simp [setsPattern, keepsId, same]
  · exact find?_of_changed isChanged stored keepsId

/-- The pattern leads to a new rule with a fresh ID if it led nowhere before. -/
theorem leadsTo_of_created {created : Rule} {repositoryId : String} {number : Nat}
    (nowhere : hub.lookUp desired = .ok ⟨repositoryId, none⟩)
    (hasPattern : created.pattern = desired.pattern)
    (fresh : ∀ rule ∈ hub.rules, rule.id ≠ created.id) :
    LeadsTo { hub with rules := hub.rules ++ [created], nextNumber := number } desired
      ⟨repositoryId, created.id⟩ created := by
  rcases lookUp_eq_ok.mp nowhere with ⟨home, located⟩
  simp only [Lookup.mk.injEq] at located
  constructor
  · rw [lookUp_eq_ok]
    refine ⟨home, ?_⟩
    have absent := Option.map_eq_none_iff.mp located.2.symm
    rw [List.find?_append, absent]
    simp [hasPattern, located.1]
  · exact find?_of_first fresh rfl

/-! ## What is seen of a revised rule -/

/-- What a mutation for a desired rule makes of a rule. -/
def revised (hub : Hub) (desired : Desired) (actorIds : ActorIds) (rule : Rule) : Rule :=
  hub.applySettings (desired.settings actorIds) { rule with pattern := desired.pattern }

section Revised

variable (hub desired) (actorIds : ActorIds) (rule : Rule)

@[simp]
theorem id_revised : (hub.revised desired actorIds rule).id = rule.id := rfl

@[simp]
theorem pattern_revised : (hub.revised desired actorIds rule).pattern = desired.pattern := rfl

@[simp]
theorem restrictsPushes_revised :
    (hub.revised desired actorIds rule).restrictsPushes = some desired.restrictsPushes := rfl

@[simp]
theorem requiresApprovingReviews_revised :
    (hub.revised desired actorIds rule).requiresApprovingReviews =
      some desired.requiresApprovingReviews := rfl

/-- Flags are sent if they are set. -/
theorem flag_revised (flag : Flag) :
    (hub.revised desired actorIds rule).flags.get flag =
      (desired.flags.get flag).toOption.or (rule.flags.get flag) := by
  simp [revised, applySettings, Desired.settings]

theorem reviewCount_revised :
    (hub.revised desired actorIds rule).reviewCount =
      (desired.reviewCount.map fun count => Int32.ofNat count.toNat).or rule.reviewCount := rfl

/-- Contexts are sent if there are any. -/
theorem contexts_revised :
    (hub.revised desired actorIds rule).contexts =
      if desired.contexts.isEmpty then rule.contexts else some desired.contexts := by
  simp only [revised, applySettings, Desired.settings]
  split <;> rfl

/-- An allowance list is sent if it names no app. -/
theorem allowance_revised (list : AllowanceList) :
    (hub.revised desired actorIds rule).allowances.get list =
      match actorIds.get list with
      | some nodeIds => some (.ofActors (nodeIds.map hub.actorOf))
      | none => rule.allowances.get list := by
  simp only [revised, applySettings, Allowances.get_ofFn]
  rfl

end Revised

/-- A desired review count is read as it was sent. -/
theorem reviewCount?_ofNat (count : UInt8) :
    Observed.reviewCount? (Int32.ofNat count.toNat) = some count := by
  have bound := count.toNat_lt
  have sent : (Int32.ofNat count.toNat).toInt = count.toNat :=
    Int32.toInt_ofNat_of_lt (by omega)
  rw [Observed.reviewCount?, sent, if_pos (by omega)]
  simp

/-- A review count that was read is sent as it was reported. -/
theorem ofNat_of_reviewCount? {count : Int32} {value : UInt8}
    (read : Observed.reviewCount? count = some value) : Int32.ofNat value.toNat = count := by
  rw [Observed.reviewCount?] at read
  split at read
  next inRange =>
    have isValue : value.toNat = count.toInt.toNat := by
      rw [← Option.some.inj read, UInt8.toNat_ofNat']
      omega
    have isCount : ((count.toInt.toNat : Nat) : Int) = count.toInt := Int.toNat_of_nonneg inRange.1
    rw [isValue, ← Int32.ofInt_eq_ofNat, isCount, Int32.ofInt_toInt]
  next => simp at read

end Hub

end BranchGuard
