import BranchGuard.Proofs.LateInitialization
import BranchGuard.Proofs.ReferenceGrammar

/-!
# Lists as sets

The lists of a record and of a reported rule stand for sets: only their members count
(`SameMembers`), not the order or the number of times in which they come.

For reported actors a list of references takes their place.  With a plain owner and plain names two
reported lists have the same references exactly if they hold the same actors, apart from the teams
of an organization `app` (`normalizeActors_readBack`).

Late initialization and drift do not see more than these sets either.  Two records that are alike
in this sense and two reported rules that are alike, whatever unsupported actors and deleted
accounts stand between the others, lead to one answer, to records that are alike again, and to one
drift before and after (`lists_count_as_sets`).
-/

namespace BranchGuard

/-- The lists hold the same members, in whatever order and however often. -/
def SameMembers {α : Type} (first second : List α) : Prop :=
  ∀ member, member ∈ first ↔ member ∈ second

section SameMembers

variable {α β : Type} {first second : List α}

instance [DecidableEq α] : Decidable (SameMembers first second) :=
  decidable_of_iff (first ⊆ second ∧ second ⊆ first)
    ⟨fun both _ => ⟨(both.1 ·), (both.2 ·)⟩,
      fun same => ⟨fun member => (same member).mp, fun member => (same member).mpr⟩⟩

theorem SameMembers.eq_nil_iff (same : SameMembers first second) : first = [] ↔ second = [] := by
  simp only [List.eq_nil_iff_forall_not_mem]
  exact forall_congr' fun member => not_congr (same member)

/-- Images have the same members if each member has a partner with the same image. -/
theorem sameMembers_map_iff {f : α → β} :
    SameMembers (first.map f) (second.map f) ↔
      (∀ member ∈ first, ∃ partner ∈ second, f partner = f member) ∧
        ∀ member ∈ second, ∃ partner ∈ first, f partner = f member := by
  constructor
  · intro same
    constructor
    · intro member isFirst
      exact List.mem_map.mp ((same (f member)).mp (List.mem_map_of_mem isFirst))
    · intro member isSecond
      exact List.mem_map.mp ((same (f member)).mpr (List.mem_map_of_mem isSecond))
  · rintro ⟨forth, back⟩ image
    constructor
    · intro isImage
      rcases List.mem_map.mp isImage with ⟨member, isFirst, rfl⟩
      exact List.mem_map.mpr (forth member isFirst)
    · intro isImage
      rcases List.mem_map.mp isImage with ⟨member, isSecond, rfl⟩
      exact List.mem_map.mpr (back member isSecond)

theorem SameMembers.map (same : SameMembers first second) (f : α → β) :
    SameMembers (first.map f) (second.map f) := by
  rw [sameMembers_map_iff]
  constructor
  · intro member isFirst
    exact ⟨member, (same member).mp isFirst, rfl⟩
  · intro member isSecond
    exact ⟨member, (same member).mpr isSecond, rfl⟩

end SameMembers

/-! ## Reported actors and their references -/

section Normalized

open ActorReference
open Desired (readReference)

variable {owner : String} {first second : List Actor}

theorem sameMembers_normalizeActors_iff (ownerPlain : Text.IsPlain owner)
    (firstPlain : ∀ actor ∈ first, Text.IsPlain actor.name)
    (secondPlain : ∀ actor ∈ second, Text.IsPlain actor.name) :
    SameMembers (normalizeActors owner first) (normalizeActors owner second) ↔
      SameMembers (first.map (Actor.takenFor owner)) (second.map (Actor.takenFor owner)) := by
  have alike {actors others : List Actor} (plain : ∀ actor ∈ actors, Text.IsPlain actor.name)
      (othersPlain : ∀ actor ∈ others, Text.IsPlain actor.name) :
      (∀ actor ∈ actors, ∃ other ∈ others,
          (ofActor owner other).text = (ofActor owner actor).text) ↔
        ∀ actor ∈ actors, ∃ other ∈ others, other.takenFor owner = actor.takenFor owner := by
    refine forall₂_congr fun actor member => ?_
    refine exists_congr fun other => and_congr_right fun isOther => ?_
    exact text_ofActor_eq_iff ownerPlain (othersPlain other isOther) (plain actor member)
  rw [normalizeActors, normalizeActors, sameMembers_map_iff, sameMembers_map_iff]
  exact and_congr (alike firstPlain secondPlain) (alike secondPlain firstPlain)

/--
The references to reported actors with plain names, for a plain owner.  Each is read as the actor
that was reported, in the organization of the owner, unless the owner is `app` and the actor a team:
such a team is taken for an app.  Two lists have the same references exactly if they hold the same
actors, or the same apart from that.
-/
theorem normalizeActors_readBack (ownerPlain : Text.IsPlain owner)
    (firstPlain : ∀ actor ∈ first, Text.IsPlain actor.name)
    (secondPlain : ∀ actor ∈ second, Text.IsPlain actor.name) :
    (normalizeActors owner first).map readReference =
        first.map (fun actor => .ok (ofActor owner (actor.takenFor owner))) ∧
      (SameMembers (normalizeActors owner first) (normalizeActors owner second) ↔
        SameMembers (first.map (Actor.takenFor owner)) (second.map (Actor.takenFor owner))) ∧
      ∀ actor : Actor, actor.takenFor owner = actor ↔
        ¬ (owner = appSegment ∧ ∃ slug, actor = .team slug) := by
  refine ⟨?_, ?_, fun _ => Actor.takenFor_eq_self_iff⟩
  · rw [normalizeActors, List.map_map]
    apply List.map_congr_left
    intro actor member
    exact readReference_text_ofActor ownerPlain (firstPlain actor member)
  · exact sameMembers_normalizeActors_iff ownerPlain firstPlain secondPlain

/-- A team and an app of one name are told apart, in whatever order they are reported. -/
theorem normalizeActors_readBack_sample :
    let reported : List Actor := [.team "core", .user "alice", .app "core"]
    let again : List Actor := [.app "core", .user "alice", .app "core", .team "core"]
    Text.IsPlain "test-org" ∧ (∀ actor ∈ reported, Text.IsPlain actor.name) ∧
      (∀ actor ∈ again, Text.IsPlain actor.name) ∧
      (normalizeActors "test-org" reported).map readReference =
        [.ok (.team "test-org" "core"), .ok (.user "alice"), .ok (.app "core")] ∧
      SameMembers (normalizeActors "test-org" reported) (normalizeActors "test-org" again) := by
  intro reported again
  have ownerPlain : Text.IsPlain "test-org" := by decide
  have reportedPlain : ∀ actor ∈ reported, Text.IsPlain actor.name := by decide
  have againPlain : ∀ actor ∈ again, Text.IsPlain actor.name := by decide
  rcases normalizeActors_readBack ownerPlain reportedPlain againPlain with ⟨read, sameIff, -⟩
  refine ⟨ownerPlain, reportedPlain, againPlain, ?_, ?_⟩
  · rw [read]
    rfl
  · rw [sameIff]
    decide

/--
The owner `app` passes the check of a record, but its team `core` is read back as an app, and the
two have one reference.
-/
theorem team_of_app_taken_for_app :
    (Desired.named "app" "test-repo" "main").validate = .ok () ∧
      Text.IsPlain "app" ∧ Text.IsPlain "core" ∧
      (normalizeActors "app" [.team "core"]).map readReference = [.ok (.app "core")] ∧
      SameMembers (normalizeActors "app" [.team "core"]) (normalizeActors "app" [.app "core"]) ∧
      ¬ SameMembers [Actor.team "core"] [Actor.app "core"] :=
  ⟨rfl, by decide, by decide, rfl, by decide, by decide⟩

end Normalized

/-! ## Records and rules that are alike -/

/-- The records differ at most in the order and the repetitions of their lists. -/
structure Desired.Alike (first second : Desired) : Prop where
  pattern : first.pattern = second.pattern
  owner : first.owner = second.owner
  repository : first.repository = second.repository
  repositoryId : first.repositoryId = second.repositoryId
  allowances : ∀ list, SameMembers (first.allowances.get list) (second.allowances.get list)
  flags : first.flags = second.flags
  reviewCount : first.reviewCount = second.reviewCount
  contexts : SameMembers first.contexts second.contexts

/-- The connections hold the same supported actors. -/
def Connection.Alike (first second : Connection) : Prop :=
  SameMembers first.actors second.actors

/-- The rules differ at most in the order and the repetitions of their lists, and in the entries
without a supported actor. -/
structure Rule.Alike (first second : Rule) : Prop where
  contexts : Option.Rel SameMembers first.contexts second.contexts
  allowances : ∀ list,
    Option.Rel Connection.Alike (first.allowances.get list) (second.allowances.get list)
  dismissalAllowances :
    Option.Rel Connection.Alike first.dismissalAllowances second.dismissalAllowances
  others :
    { first with
      contexts := second.contexts
      allowances := second.allowances
      dismissalAllowances := second.dismissalAllowances } = second

/-- The policy that the observed rules report differs at most in the order and the repetitions of
its lists. -/
structure Observed.Alike (first second : Observed) : Prop where
  flags : first.flags = second.flags
  reviewCount : first.reviewCount = second.reviewCount
  contexts : Option.Rel SameMembers first.contexts second.contexts
  allowances : ∀ list,
    Option.Rel SameMembers (first.allowances.get list) (second.allowances.get list)

theorem Rule.Alike.observed {first second : Rule} (alike : first.Alike second) :
    (Observed.ofRule first).Alike (.ofRule second) where
  flags := by
    have same := congrArg Rule.flags alike.others
    exact congrArg (Flags.map Opinion.ofOption) same
  reviewCount := by
    have same := congrArg Rule.reviewCount alike.others
    exact congrArg (Option.bind · Observed.reviewCount?) same
  contexts := alike.contexts
  allowances := by
    intro list
    have reported := alike.allowances list
    simp only [Observed.ofRule, Allowances.get_map]
    generalize first.allowances.get list = connection at reported ⊢
    generalize second.allowances.get list = connection' at reported ⊢
    cases reported with
    | some same => exact .some same
    | none => exact .none

namespace Desired.Alike

variable {first second current current' : Desired} {observed observed' : Observed}

theorem view_eq (alike : first.Alike second) (field : PolicyField) :
    first.view field = second.view field := by
  cases field with
  | allowances list =>
      exact congrArg FieldView.set (Text.canonical_eq_iff.mpr (alike.allowances list))
  | flag flag => rw [view, view, alike.flags]
  | reviewCount => rw [view, view, alike.reviewCount]
  | contexts => exact congrArg FieldView.set (Text.canonical_eq_iff.mpr alike.contexts)

theorem leavesOpen_eq (alike : first.Alike second) (field : PolicyField) :
    first.leavesOpen field = second.leavesOpen field := by
  rw [Bool.eq_iff_iff]
  cases field with
  | allowances list => simpa [leavesOpen] using (alike.allowances list).eq_nil_iff
  | flag flag => rw [leavesOpen, leavesOpen, alike.flags]
  | reviewCount => rw [leavesOpen, leavesOpen, alike.reviewCount]
  | contexts => simpa [leavesOpen] using alike.contexts.eq_nil_iff

/-- What a list of a record becomes when it is filled in depends on the members alone. -/
theorem sameMembers_filled {own own' taken taken' : List String} (same : SameMembers own own')
    (sameTaken : SameMembers taken taken') :
    SameMembers (if own.isEmpty then taken else own) (if own'.isEmpty then taken' else own') := by
  simp only [List.isEmpty_iff, same.eq_nil_iff]
  split
  · exact sameTaken
  · exact same

theorem fillFrom (alike : first.Alike second) (others : current.Alike current') :
    (first.fillFrom current).Alike (second.fillFrom current') where
  pattern := alike.pattern
  owner := alike.owner
  repository := alike.repository
  repositoryId := alike.repositoryId
  allowances := by
    intro list
    simp only [Desired.fillFrom, Allowances.get_ofFn]
    exact sameMembers_filled (alike.allowances list) (others.allowances list)
  flags := by
    rw [Desired.fillFrom, Desired.fillFrom, alike.flags, others.flags]
  reviewCount := by
    rw [Desired.fillFrom, Desired.fillFrom, alike.reviewCount, others.reviewCount]
  contexts := sameMembers_filled alike.contexts others.contexts

theorem overlay (alike : first.Alike second) (reports : observed.Alike observed') :
    (first.overlay observed).Alike (second.overlay observed') where
  pattern := alike.pattern
  owner := alike.owner
  repository := alike.repository
  repositoryId := alike.repositoryId
  allowances := by
    intro list
    have reported := reports.allowances list
    simp only [Desired.overlay, Allowances.get_ofFn, alike.owner]
    generalize observed.allowances.get list = actors at reported ⊢
    generalize observed'.allowances.get list = actors' at reported ⊢
    cases reported with
    | some same => exact same.map _
    | none => exact alike.allowances list
  flags := by
    rw [Desired.overlay, Desired.overlay, alike.flags, reports.flags]
  reviewCount := by
    rw [Desired.overlay, Desired.overlay, alike.reviewCount, reports.reviewCount]
  contexts := by
    have reported := reports.contexts
    simp only [Desired.overlay]
    generalize observed.contexts = contexts at reported ⊢
    generalize observed'.contexts = contexts' at reported ⊢
    cases reported with
    | some same => exact same
    | none => exact alike.contexts

theorem lateInitialize (alike : first.Alike second) (reports : observed.Alike observed') :
    (first.lateInitialize observed).Alike (second.lateInitialize observed') :=
  alike.fillFrom (alike.overlay reports)

theorem isLateInitialized_eq (alike : first.Alike second) (reports : observed.Alike observed') :
    first.isLateInitialized observed = second.isLateInitialized observed' := by
  have overlays := alike.overlay reports
  simp only [isLateInitialized, lateFields, filledFields, alike.leavesOpen_eq,
    overlays.leavesOpen_eq]

theorem against_eq (alike : first.Alike second) (reports : observed.Alike observed') :
    Drift.against first observed = Drift.against second observed' := by
  have overlays := alike.overlay reports
  have sameEntries : Drift.difference? first (first.overlay observed) =
      Drift.difference? second (second.overlay observed') := by
    funext field
    rw [Drift.difference?, Drift.difference?, alike.view_eq, overlays.view_eq]
  rw [Drift.against, Drift.against, Drift.between, Drift.between, sameEntries]

end Desired.Alike

/--
Records and reported rules that differ only in the order and the repetitions of their lists, and in
entries of actors that are not supported, are treated alike.  Late initialization has the same
answer on them and leaves records that are alike again, and the drift before and after it is the
same, with what it shows of each field.
-/
theorem lists_count_as_sets {first second : Desired} {rule rule' : Rule}
    (records : first.Alike second) (rules : rule.Alike rule') :
    let observed := Observed.ofRule rule
    let observed' := Observed.ofRule rule'
    first.isLateInitialized observed = second.isLateInitialized observed' ∧
      (first.lateInitialize observed).Alike (second.lateInitialize observed') ∧
      Drift.against first observed = Drift.against second observed' ∧
      Drift.against (first.lateInitialize observed) observed =
        Drift.against (second.lateInitialize observed') observed' := by
  intro observed observed'
  have reports : observed.Alike observed' := rules.observed
  have initialized := records.lateInitialize reports
  exact ⟨records.isLateInitialized_eq reports, initialized, records.against_eq reports,
    initialized.against_eq reports⟩

/--
Two reports of one rule, of which the second names the same users and teams in another order and
more often, without the deleted account and the unsupported actor of the first.
-/
theorem lists_count_as_sets_sample :
    let record : Desired :=
      { Desired.named "test-org" "test-repo" "main" with contexts := ["build", "lint"] }
    let reordered : Desired := { record with contexts := ["lint", "build", "lint"] }
    let reports (push : List (Option ReportedActor)) (contexts : List String) : Rule :=
      { id := "BPR_0", pattern := "main", contexts := some contexts
        allowances := ⟨none, none, some ⟨push⟩⟩ }
    let alice : ReportedActor := .known (.user "alice")
    let core : ReportedActor := .known (.team "core")
    let rule := reports [some alice, none, some .unsupported, some core] ["build", "test"]
    let rule' := reports [some core, some alice, some core] ["test", "build", "test"]
    record.Alike reordered ∧ rule.Alike rule' ∧
      record.isLateInitialized (.ofRule rule) = reordered.isLateInitialized (.ofRule rule') ∧
      (record.lateInitialize (.ofRule rule)).Alike (reordered.lateInitialize (.ofRule rule')) ∧
      Drift.against record (.ofRule rule) = Drift.against reordered (.ofRule rule') ∧
      Drift.against (record.lateInitialize (.ofRule rule)) (.ofRule rule) =
        Drift.against (reordered.lateInitialize (.ofRule rule')) (.ofRule rule') := by
  intro record reordered reports alice core rule rule'
  have records : record.Alike reordered :=
    { pattern := rfl, owner := rfl, repository := rfl, repositoryId := rfl
      allowances := fun _ _ => Iff.rfl
      flags := rfl, reviewCount := rfl
      contexts := by decide }
  have rules : rule.Alike rule' :=
    { contexts := .some (by decide)
      allowances := by
        intro list
        cases list with
        | bypassForcePush => exact .none
        | bypassPullRequest => exact .none
        | push => exact .some (show SameMembers _ _ by decide)
      dismissalAllowances := .none
      others := rfl }
  exact ⟨records, rules, lists_count_as_sets records rules⟩

end BranchGuard
