import BranchGuard.Proofs.Calls
import BranchGuard.Proofs.HubAnswers
import Mathlib.Data.List.Forall2
import Mathlib.Data.List.Nodup

/-!
# Identities of actors

Resolving the actors of a desired rule finds the node IDs that the hub has for them (`Resolves`):
whatever succeeds is right (`resolves_of_resolving`), and without outages it succeeds whenever there
are node IDs to be found (`resolving_of_resolves`).

The way back goes through the node IDs.  If they are pairwise distinct, the actor with the node ID
of a reference is the one that the reference names (`actorOf_of_nodeId?`).  The reported actors of
a list are then written as the list was, unless it names an app or a team of another organization
(`normalizeActors_of_each`).
-/

namespace BranchGuard

open Dialogue

namespace ActorReference

/-- The actor that a reference names, as a list reports it. -/
def toActor : ActorReference → Actor
  | .user login => .user login
  | .team _ slug => .team slug
  | .app slug => .app slug

/-- Whether the reference names an app or a team of another organization than `owner`. -/
def isOutsider (owner : String) : ActorReference → Bool
  | .user _ => false
  | .team organization _ => organization != owner
  | .app _ => true

theorem isOutsider_of_isApp {reference : ActorReference} (isApp : reference.isApp)
    (owner : String) : reference.isOutsider owner := by
  cases reference <;> simp_all [ActorReference.isApp, isOutsider]

@[simp]
theorem toActor_ofActor (owner : String) (actor : Actor) :
    (ofActor owner actor).toActor = actor := by
  cases actor <;> rfl

/-- Only the organization of a team is lost when an actor is reported. -/
theorem ofActor_toActor {owner : String} {reference : ActorReference}
    (isInsider : reference.isOutsider owner = false) :
    ofActor owner reference.toActor = reference := by
  cases reference with
  | user login => rfl
  | team organization slug =>
      simp only [isOutsider, bne_eq_false_iff_eq] at isInsider
      rw [toActor, ofActor, isInsider]
  | app slug => simp [isOutsider] at isInsider

end ActorReference

namespace Connection

@[simp]
theorem reported_ofActors (actors : List ReportedActor) :
    (ofActors actors).reported = actors := by
  simp [ofActors, reported]

@[simp]
theorem actors_ofActors (actors : List ReportedActor) :
    (ofActors actors).actors = actors.filterMap ReportedActor.toActor? := by
  rw [Connection.actors, reported_ofActors]

theorem mem_actors {connection : Connection} {actor : Actor} :
    actor ∈ connection.actors ↔ .known actor ∈ connection.reported := by
  rw [actors, List.mem_filterMap]
  constructor
  · rintro ⟨reported, member, isActor⟩
    cases reported with
    | known other =>
        cases isActor
        exact member
    | unsupported => simp [ReportedActor.toActor?] at isActor
  · intro member
    exact ⟨_, member, rfl⟩

end Connection

theorem not_isApp_of_noApp {references : List String} (noApp : namesApp references = false)
    {reference : String} (member : reference ∈ references) {actor : ActorReference}
    (read : ActorReference.parse reference = .ok actor) : actor.isApp = false := by
  have each := List.any_eq_false.mp noApp reference member
  simpa [read] using each

namespace Desired

/-- Whether a list names an app or a team of another organization than the owner. -/
def namesOutsider (desired : Desired) (list : AllowanceList) : Bool :=
  (desired.allowances.get list).any fun reference =>
    match ActorReference.parse reference with
    | .ok actor => actor.isOutsider desired.owner
    | .error _ => false

theorem not_isOutsider {desired : Desired} {list : AllowanceList}
    (insiders : desired.namesOutsider list = false) {reference : String}
    (member : reference ∈ desired.allowances.get list) {actor : ActorReference}
    (read : ActorReference.parse reference = .ok actor) :
    actor.isOutsider desired.owner = false := by
  have each := List.any_eq_false.mp insiders reference member
  simpa [read] using each

theorem namesApp_of_insiders {desired : Desired} {list : AllowanceList}
    (insiders : desired.namesOutsider list = false) :
    namesApp (desired.allowances.get list) = false := by
  rw [namesApp, List.any_eq_false]
  intro reference member
  cases read : ActorReference.parse reference with
  | error fault => simp
  | ok actor =>
      intro isApp
      have isOutsider := ActorReference.isOutsider_of_isApp isApp desired.owner
      rw [not_isOutsider insiders member read] at isOutsider
      exact absurd isOutsider (by simp)

end Desired

namespace Hub

variable {hub : Hub}

/-! ## Resolving -/

/-- The node ID that the hub has for the actor of a reference. -/
def nodeId? (hub : Hub) : ActorReference → Option String
  | .user login => hub.users.lookup login
  | .team organization slug => hub.teams.lookup (organization, slug)
  | .app _ => none

/-- The reference can be read, and the hub has the node ID for its actor. -/
def Names (hub : Hub) (reference nodeId : String) : Prop :=
  ∃ actor, ActorReference.parse reference = .ok actor ∧ hub.nodeId? actor = some nodeId

/-- What is sent for a list. -/
inductive ListIds (hub : Hub) (references : List String) : Option (List String) → Prop where
  /-- A list that names an app is left out. -/
  | leftOut (app : namesApp references = true) : ListIds hub references none
  | sent (nodeIds : List String) (noApp : namesApp references = false)
      (each : List.Forall₂ hub.Names references nodeIds) : ListIds hub references (some nodeIds)

/-- The node IDs are the ones to be sent for the allowance lists of the desired rule. -/
def Resolves (hub : Hub) (desired : Desired) (actorIds : ActorIds) : Prop :=
  ∀ list, hub.ListIds (desired.allowances.get list) (actorIds.get list)

/-- Resolving depends on the users and the teams alone. -/
theorem names_congr {first second : Hub} (users : first.users = second.users)
    (teams : first.teams = second.teams) : first.Names = second.Names := by
  have sameIds : first.nodeId? = second.nodeId? := by
    funext actor
    cases actor <;> simp [nodeId?, users, teams]
  funext reference nodeId
  rw [Names, sameIds, Names]

theorem names_of_working_eq {first second : Hub} (same : first.working = second.working) :
    first.Names = second.Names := by
  have working (hub : Hub) : hub.working.Names = hub.Names := names_congr rfl rfl
  rw [← working first, same, working]

theorem ListIds.congr {first second : Hub} (same : first.Names = second.Names)
    {references : List String} {nodeIds : Option (List String)}
    (known : first.ListIds references nodeIds) : second.ListIds references nodeIds := by
  cases known with
  | leftOut app => exact .leftOut app
  | sent ids noApp each => exact .sent ids noApp (same ▸ each)

theorem Resolves.congr {first second : Hub} (same : first.Names = second.Names)
    {desired : Desired} {actorIds : ActorIds} (resolves : first.Resolves desired actorIds) :
    second.Resolves desired actorIds :=
  fun list => (resolves list).congr same

theorem names_of_resolveActor {reference nodeId : String}
    (resolved : (Attempt.play respond (Resolution.resolveActor reference) hub).value =
      .ok nodeId) :
    hub.Names reference nodeId := by
  cases read : Desired.readReference reference with
  | error cause => simp [Resolution.resolveActor, read] at resolved
  | ok actor =>
      refine ⟨actor, Desired.readReference_eq_ok.mp read, ?_⟩
      cases actor with
      | app slug => simp [Resolution.resolveActor, read, Attempt.play_bind] at resolved
      | user login =>
          rw [Resolution.play_resolveActor_user respond read hub, mapError_eq_ok] at resolved
          exact orNotFound_eq_ok.mp (respond_of_ok resolved).1
      | team organization slug =>
          rw [Resolution.play_resolveActor_team respond read hub, mapError_eq_ok] at resolved
          exact orNotFound_eq_ok.mp (respond_of_ok resolved).1

theorem resolveActor_of_names (unbroken : hub.outages = []) {reference nodeId : String}
    (names : hub.Names reference nodeId) :
    (Attempt.play respond (Resolution.resolveActor reference) hub).value = .ok nodeId := by
  rcases names with ⟨actor, parsed, known⟩
  have read := Desired.readReference_eq_ok.mpr parsed
  cases actor with
  | app slug => simp [nodeId?] at known
  | user login =>
      rw [Resolution.play_resolveActor_user respond read hub, mapError_eq_ok,
        respond_of_no_outages unbroken]
      exact orNotFound_eq_ok.mpr known
  | team organization slug =>
      rw [Resolution.play_resolveActor_team respond read hub, mapError_eq_ok,
        respond_of_no_outages unbroken]
      exact orNotFound_eq_ok.mpr known

/-- A lookup that an attempt makes does not change who is known. -/
theorem names_play_of_lookups {α : Type} {attempt : Attempt α}
    (asks : attempt.run.Asks RuleVerbs.Lookups) (hub : Hub) :
    (Attempt.play respond attempt hub).state.Names = hub.Names :=
  names_of_working_eq (working_run_of_lookups asks hub)

theorem each_of_resolveActors {references nodeIds : List String}
    (resolved : (Attempt.play respond (Resolution.resolveActors references) hub).value =
      .ok nodeIds) :
    List.Forall₂ hub.Names references nodeIds := by
  induction references generalizing hub nodeIds with
  | nil =>
      simp only [Resolution.resolveActors, Attempt.play_pure, Except.ok.injEq] at resolved
      subst resolved
      exact .nil
  | cons reference rest ih =>
      simp only [Resolution.resolveActors, Attempt.play_bind_eq_ok, Attempt.play_pure,
        Except.ok.injEq] at resolved
      rcases resolved with ⟨nodeId, first, others, second, rfl⟩
      refine .cons (names_of_resolveActor first) ?_
      rw [← names_play_of_lookups (RuleVerbs.asks_resolveActor reference) hub]
      exact ih second

theorem resolveActors_of_each (unbroken : hub.outages = []) {references nodeIds : List String}
    (each : List.Forall₂ hub.Names references nodeIds) :
    (Attempt.play respond (Resolution.resolveActors references) hub).value = .ok nodeIds := by
  induction each with
  | nil => rfl
  | @cons reference nodeId rest others names _ ih =>
      have stays : (Attempt.play respond (Resolution.resolveActor reference) hub).state = hub :=
        run_of_lookups (RuleVerbs.asks_resolveActor reference) unbroken
      rw [Resolution.resolveActors, Attempt.play_bind_eq_ok]
      refine ⟨nodeId, resolveActor_of_names unbroken names, ?_⟩
      rw [stays, Attempt.play_bind_eq_ok]
      exact ⟨others, ih, rfl⟩

theorem listIds_of_resolveList {list : AllowanceList} {references : List String}
    {nodeIds : Option (List String)}
    (resolved : (Attempt.play respond (Resolution.resolveList list references) hub).value =
      .ok nodeIds) :
    hub.ListIds references nodeIds := by
  unfold Resolution.resolveList at resolved
  cases app : namesApp references with
  | true =>
      simp only [app, if_true, Attempt.play_bind, Attempt.play_note, Attempt.play_pure,
        Except.ok.injEq] at resolved
      subst resolved
      exact .leftOut app
  | false =>
      simp only [app, Bool.false_eq_true, if_false, Attempt.play_bind_eq_ok, Attempt.play_pure,
        Except.ok.injEq] at resolved
      rcases resolved with ⟨ids, found, rfl⟩
      exact .sent ids app (each_of_resolveActors found)

theorem resolveList_of_listIds (unbroken : hub.outages = []) {list : AllowanceList}
    {references : List String} {nodeIds : Option (List String)}
    (known : hub.ListIds references nodeIds) :
    (Attempt.play respond (Resolution.resolveList list references) hub).value = .ok nodeIds := by
  unfold Resolution.resolveList
  cases known with
  | leftOut app =>
      simp only [app, if_true]
      rfl
  | sent ids noApp each =>
      simp only [noApp, Bool.false_eq_true, if_false]
      rw [Attempt.play_bind_eq_ok]
      exact ⟨ids, resolveActors_of_each unbroken each, rfl⟩

/-- The node IDs that resolving finds are the ones that the hub has. -/
theorem resolves_of_resolving {desired : Desired} {actorIds : ActorIds}
    (resolved : (RuleVerbs.resolving respond desired hub).value = .ok actorIds) :
    hub.Resolves desired actorIds := by
  simp only [RuleVerbs.resolving, Resolution.resolveRule, Attempt.play_bind_eq_ok,
    Attempt.play_note, Attempt.play_pure, Except.ok.injEq] at resolved
  rcases resolved with ⟨force, first, pull, second, push, third, -, -, rfl⟩
  have afterFirst := names_play_of_lookups
    (RuleVerbs.asks_resolveList .bypassForcePush desired.allowances.bypassForcePush) hub
  have afterSecond := names_play_of_lookups
    (RuleVerbs.asks_resolveList .bypassPullRequest desired.allowances.bypassPullRequest)
    (Attempt.play respond (Resolution.resolveList .bypassForcePush
      desired.allowances.bypassForcePush) hub).state
  intro list
  cases list with
  | bypassForcePush => exact listIds_of_resolveList first
  | bypassPullRequest => exact (listIds_of_resolveList second).congr afterFirst
  | push => exact (listIds_of_resolveList third).congr (afterSecond.trans afterFirst)

/-- Without outages, resolving finds whatever node IDs the hub has. -/
theorem resolving_of_resolves (unbroken : hub.outages = []) {desired : Desired}
    {actorIds : ActorIds} (known : hub.Resolves desired actorIds) :
    (RuleVerbs.resolving respond desired hub).value = .ok actorIds := by
  have stays (list : AllowanceList) (references : List String) :
      (Attempt.play respond (Resolution.resolveList list references) hub).state = hub :=
    run_of_lookups (RuleVerbs.asks_resolveList list references) unbroken
  simp only [RuleVerbs.resolving, Resolution.resolveRule, Attempt.play_bind_eq_ok,
    Attempt.play_note, Attempt.play_pure, Except.ok.injEq, stays]
  exact ⟨_, resolveList_of_listIds unbroken (known .bypassForcePush),
    _, resolveList_of_listIds unbroken (known .bypassPullRequest),
    _, resolveList_of_listIds unbroken (known .push), (), trivial, rfl⟩

/-! ## Recognising actors -/

/-- No node ID belongs to two users, to two teams, or to a user and a team. -/
def DistinctNodeIds (hub : Hub) : Prop :=
  (hub.users.map Prod.snd ++ hub.teams.map Prod.snd).Nodup

instance (hub : Hub) : Decidable hub.DistinctNodeIds :=
  inferInstanceAs (Decidable (List.Nodup _))

section Tables

variable {κ : Type} [BEq κ] [LawfulBEq κ] {key : κ} {value : String}

theorem mem_of_lookup {table : List (κ × String)} (found : table.lookup key = some value) :
    value ∈ table.map Prod.snd := by
  rcases List.lookup_eq_some_iff.mp found with ⟨before, after, rfl, -⟩
  simp

/-- Where no value occurs twice, a key is found again by its value. -/
theorem find?_of_lookup {table : List (κ × String)} (distinct : (table.map Prod.snd).Nodup)
    (found : table.lookup key = some value) :
    table.find? (fun entry => entry.2 == value) = some (key, value) := by
  rcases List.lookup_eq_some_iff.mp found with ⟨before, after, rfl, -⟩
  have elsewhere : value ∉ before.map Prod.snd := by
    intro member
    rw [List.map_append, List.map_cons] at distinct
    exact List.disjoint_of_nodup_append distinct member (List.mem_cons_self ..)
  have absent : before.find? (fun entry => entry.2 == value) = none := by
    rw [List.find?_eq_none]
    intro entry member
    simp only [beq_iff_eq]
    rintro rfl
    exact elsewhere (List.mem_map_of_mem member)
  rw [List.find?_append, absent]
  simp

end Tables

/-- The actor with the node ID of a reference is the one that the reference names. -/
theorem actorOf_of_nodeId? (distinct : hub.DistinctNodeIds) {actor : ActorReference}
    {nodeId : String} (known : hub.nodeId? actor = some nodeId) :
    hub.actorOf nodeId = .known actor.toActor := by
  have apart := List.disjoint_of_nodup_append distinct
  cases actor with
  | app slug => simp [nodeId?] at known
  | user login =>
      have found := find?_of_lookup distinct.of_append_left known
      simp [actorOf, found, ActorReference.toActor]
  | team organization slug =>
      have found := find?_of_lookup distinct.of_append_right known
      have noUser : hub.users.find? (fun user => user.2 == nodeId) = none := by
        rw [List.find?_eq_none]
        intro user member
        simp only [beq_iff_eq]
        rintro rfl
        exact apart (List.mem_map_of_mem member) (mem_of_lookup known)
      simp [actorOf, noUser, found, ActorReference.toActor]

theorem exists_names_of_each {references nodeIds : List String}
    (each : List.Forall₂ hub.Names references nodeIds) {reference : String}
    (member : reference ∈ references) : ∃ nodeId, hub.Names reference nodeId := by
  induction each with
  | nil => simp at member
  | cons names _ ih =>
      rcases List.mem_cons.mp member with rfl | member
      · exact ⟨_, names⟩
      · exact ih member

/-- The actors with the node IDs of a list are the ones that its references name. -/
theorem mem_actors_of_each (distinct : hub.DistinctNodeIds) {references nodeIds : List String}
    (each : List.Forall₂ hub.Names references nodeIds) (reported : ReportedActor) :
    reported ∈ nodeIds.map hub.actorOf ↔
      ∃ reference ∈ references, ∃ actor, ActorReference.parse reference = .ok actor ∧
        reported = .known actor.toActor := by
  induction each with
  | nil => simp
  | @cons first nodeId rest others names _ ih =>
      rcases names with ⟨actor, read, known⟩
      rw [List.map_cons, List.mem_cons, actorOf_of_nodeId? distinct known, ih]
      constructor
      · rintro (rfl | ⟨reference, member, shown⟩)
        · exact ⟨first, List.mem_cons_self .., actor, read, rfl⟩
        · exact ⟨reference, List.mem_cons_of_mem _ member, shown⟩
      · rintro ⟨reference, member, other, readOther, rfl⟩
        rcases List.mem_cons.mp member with rfl | member
        · rw [read] at readOther
          cases readOther
          exact Or.inl rfl
        · exact Or.inr ⟨reference, member, other, readOther, rfl⟩

/-- A list without outsiders is written again as it was. -/
theorem normalizeActors_of_each (distinct : hub.DistinctNodeIds) {owner : String}
    {references nodeIds : List String} (each : List.Forall₂ hub.Names references nodeIds)
    (insiders : ∀ reference ∈ references, ∀ actor, ActorReference.parse reference = .ok actor →
      actor.isOutsider owner = false) :
    normalizeActors owner (Connection.ofActors (nodeIds.map hub.actorOf)).actors = references := by
  induction each with
  | nil => rfl
  | @cons reference nodeId rest others names _ ih =>
      rcases names with ⟨actor, read, known⟩
      have isInsider := insiders reference (List.mem_cons_self ..) actor read
      have restored := ih fun other inRest =>
        insiders other (List.mem_cons_of_mem _ inRest)
      rw [Connection.actors_ofActors, normalizeActors] at restored ⊢
      rw [List.map_cons, actorOf_of_nodeId? distinct known, List.filterMap_cons]
      simp only [ReportedActor.toActor?, List.map_cons]
      rw [ActorReference.ofActor_toActor isInsider, ActorReference.text_of_parse read, restored]

end Hub

end BranchGuard
