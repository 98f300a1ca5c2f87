import BranchGuard.Hub
import BranchGuard.Proofs.VerbRuns

/-!
# What a hub answers

A hub is its content and its outages.  `Hub.working` is the hub with its outages lifted.  A call
either fails with an outage, which leaves the content alone, or is answered as the working hub
answers it (`respond_of_ok`, `respond_of_error`); a lookup never changes the content
(`working_run_of_lookups`).

Observing on a hub therefore sees what the hub holds or nothing at all: `Sighting` lists the ways it
can end, with what the hub holds in each of them, and `observe_of_no_outages` says how it ends where
no outage stands in the way.
-/

namespace BranchGuard

open Dialogue

namespace Hub

variable {hub : Hub} {request : Request}

/-! ## Outages -/

/-- The hub with all outages lifted. -/
def working (hub : Hub) : Hub :=
  { hub with outages := [] }

theorem working_of_no_outages (unbroken : hub.outages = []) : hub.working = hub := by
  rw [working, ← unbroken]

theorem rules_of_working_eq {state : Hub} (same : state.working = hub.working) :
    state.rules = hub.rules := by
  have sameRules := congrArg (fun content : Hub => content.rules) same
  exact sameRules

theorem updateRule_with_outages (update : Update) (hub : Hub)
    (outages : List (RemoteOperation × Outage)) :
    updateRule { hub with outages := outages } update =
      ((hub.updateRule update).1, { (hub.updateRule update).2 with outages := outages }) := by
  have sameChange : applySettings { hub with outages := outages } = hub.applySettings := rfl
  simp only [updateRule, sameChange]
  cases changeFirst? update.ruleId
      (fun rule => hub.applySettings update.settings { rule with pattern := update.pattern })
      hub.rules <;> rfl

theorem deleteRule_with_outages (id : String) (hub : Hub)
    (outages : List (RemoteOperation × Outage)) :
    deleteRule { hub with outages := outages } id =
      ((hub.deleteRule id).1, { (hub.deleteRule id).2 with outages := outages }) := by
  simp only [deleteRule]
  cases hub.rules.any fun rule => rule.id == id <;> rfl

/-- Outages have no part in what an operation that works does. -/
theorem perform_with_outages (request : Request) (hub : Hub)
    (outages : List (RemoteOperation × Outage)) :
    perform { hub with outages := outages } request =
      ((hub.perform request).1, { (hub.perform request).2 with outages := outages }) := by
  cases request with
  | updateRule update => exact updateRule_with_outages update hub outages
  | deleteRule id => exact deleteRule_with_outages id hub outages
  | _ => rfl

theorem respond_of_no_outages (unbroken : hub.outages = []) (request : Request) :
    respond request hub = hub.perform request := by
  rw [respond, unbroken]
  rfl

/-- An answer is the failure of an outage, or the one that an operation that works gives. -/
theorem respond_answer (request : Request) (hub : Hub) :
    (respond request hub).1 =
      match hub.outages.lookup request.operation with
      | some ⟨0, cause⟩ => .error cause
      | _ => (hub.perform request).1 := by
  rw [respond.eq_def]
  rcases hub.outages.lookup request.operation with _ | ⟨_ | callsLeft, cause⟩
  · rfl
  · rfl
  · simp only [breakDown, perform_with_outages]

/-- A call fails with an outage, or is answered as the working hub answers it. -/
theorem respond_cases (request : Request) (hub : Hub) :
    (∃ cause, respond request hub = (.error cause, hub)) ∨
      ((respond request hub).1 = (hub.working.perform request).1 ∧
        (respond request hub).2.working = (hub.working.perform request).2) := by
  have lifted := perform_with_outages request hub []
  have isWorking : hub.working = { hub with outages := [] } := rfl
  unfold respond
  split
  next none =>
    right
    rw [isWorking, lifted]
    exact ⟨rfl, rfl⟩
  next cause found => exact Or.inl ⟨cause, rfl⟩
  next callsLeft cause found =>
    right
    rw [breakDown, perform_with_outages, isWorking, lifted]
    exact ⟨rfl, rfl⟩

/-- A failed call leaves the hub alone. -/
theorem perform_of_error {cause : RemoteError} (failed : (hub.perform request).1 = .error cause) :
    (hub.perform request).2 = hub := by
  cases request with
  | createRule creation => simp [perform] at failed
  | updateRule update =>
      simp only [perform, updateRule] at failed ⊢
      split at failed
      next => simp at failed
      next => rfl
  | deleteRule id =>
      simp only [perform, deleteRule] at failed ⊢
      split at failed
      next => simp at failed
      next absent => rw [if_neg absent]
  | _ => rfl

theorem respond_of_ok {result : request.Result} (answered : (respond request hub).1 = .ok result) :
    (hub.working.perform request).1 = .ok result ∧
      (respond request hub).2.working = (hub.working.perform request).2 := by
  rcases respond_cases request hub with ⟨cause, failed⟩ | ⟨answer, left⟩
  · rw [failed] at answered
    simp at answered
  · exact ⟨answer.symm.trans answered, left⟩

theorem respond_of_error {cause : RemoteError}
    (answered : (respond request hub).1 = .error cause) :
    (respond request hub).2.working = hub.working := by
  rcases respond_cases request hub with ⟨outage, failed⟩ | ⟨answer, left⟩
  · rw [failed]
  · rw [left]
    exact perform_of_error (answer.symm.trans answered)

theorem outages_perform (request : Request) (hub : Hub) :
    (hub.perform request).2.outages = hub.outages :=
  congrArg (fun answered => answered.2.outages) (perform_with_outages request hub hub.outages)

/-- Outages do not come by themselves. -/
theorem outages_run {α : Type} (unbroken : hub.outages = []) (conversation : Conversation α) :
    (conversation.run respond hub).state.outages = [] := by
  apply (asks_of_forall (fun _ => trivial) conversation).invariant respond
    (fun state => state.outages = [])
  · intro request state _ stillUnbroken
    rw [respond_of_no_outages stillUnbroken, outages_perform, stillUnbroken]
  · exact unbroken

/-! ## Lookups -/

theorem perform_of_lookup (isLookup : request.isMutation = false) :
    (hub.perform request).2 = hub := by
  cases request <;> first | rfl | simp [Request.isMutation] at isLookup

theorem working_respond_of_lookup (isLookup : request.isMutation = false) :
    (respond request hub).2.working = hub.working := by
  rcases respond_cases request hub with ⟨outage, failed⟩ | ⟨-, left⟩
  · rw [failed]
  · rw [left, perform_of_lookup isLookup]

section Lookups

variable {α : Type} {conversation : Conversation α}

/-- A conversation that only looks things up leaves the content of the hub alone. -/
theorem working_run_of_lookups (asks : conversation.Asks RuleVerbs.Lookups) (hub : Hub) :
    (conversation.run respond hub).state.working = hub.working := by
  apply asks.invariant respond (fun state => state.working = hub.working)
  · intro request state isLookup same
    rw [working_respond_of_lookup isLookup, same]
  · rfl

/-- Without outages it leaves the hub as it was. -/
theorem run_of_lookups (asks : conversation.Asks RuleVerbs.Lookups)
    (unbroken : hub.outages = []) :
    (conversation.run respond hub).state = hub := by
  apply asks.invariant respond (fun state => state = hub)
  · intro request state isLookup same
    rw [same, respond_of_no_outages unbroken, perform_of_lookup isLookup]
  · rfl

end Lookups

/-! ## Observing -/

/-- The first rule with an ID. -/
def storedRule? (hub : Hub) (id : String) : Option Rule :=
  hub.rules.find? fun rule => rule.id == id

/-- What the hub has for the lookup that observing starts with. -/
def lookUp (hub : Hub) (desired : Desired) : Except RemoteError Lookup :=
  hub.findRule desired.owner (desired.repositoryName.getD "") desired.pattern

theorem orNotFound_eq_ok {α : Type} {found : Option α} {value : α} :
    orNotFound found = .ok value ↔ found = some value := by
  cases found <;> simp [orNotFound]

/-- The pattern of a desired rule leads to a stored rule. -/
structure LeadsTo (hub : Hub) (desired : Desired) (identity : RuleIdentity) (rule : Rule) :
    Prop where
  found : hub.lookUp desired = .ok ⟨identity.repositoryId, some identity.ruleId⟩
  stored : hub.storedRule? identity.ruleId = some rule

/-- How observing can end on a hub, whatever its outages. -/
inductive Sighting (hub : Hub) (desired : Desired) : RuleVerbs.Observing → Prop where
  /-- The desired rule cannot be acted on. -/
  | refused (cause : EngineError) (invalid : desired.validate = .error cause) :
      Sighting hub desired (.error ⟨.observe, cause⟩, desired)
  /-- The lookup failed. -/
  | unreached (cause : RemoteError) (valid : desired.validate = .ok ()) :
      Sighting hub desired (.error ⟨.observe, .remote cause⟩, desired)
  /-- The repository was found, and the fetch failed. -/
  | unfetched (lookup : Lookup) (cause : RemoteError) (valid : desired.validate = .ok ())
      (found : hub.lookUp desired = .ok lookup) :
      Sighting hub desired
        (.error ⟨.observe, .remote cause⟩, desired.recorded lookup.repositoryId)
  /-- The repository was not found. -/
  | homeless (valid : desired.validate = .ok ()) :
      Sighting hub desired (.ok (.absent false), desired)
  /-- The repository was found, and the rule was not. -/
  | absent (lookup : Lookup) (isNew : Bool) (valid : desired.validate = .ok ())
      (found : hub.lookUp desired = .ok lookup) :
      Sighting hub desired (.ok (.absent isNew), desired.recorded lookup.repositoryId)
  /-- The rule was found. -/
  | present (identity : RuleIdentity) (rule : Rule) (isNew : Bool)
      (valid : desired.validate = .ok ()) (leads : hub.LeadsTo desired identity rule) :
      Sighting hub desired (RuleVerbs.ruleFinding (desired.recorded identity.repositoryId) isNew
        identity (.ofRule rule))

theorem sighting (hub : Hub) (desired : Desired) :
    Sighting hub desired ((RuleVerbs.observe desired).run respond hub).value := by
  rw [RuleVerbs.observe_value]
  unfold RuleVerbs.finding
  cases valid : desired.validate with
  | error cause => exact .refused cause valid
  | ok _ =>
      cases answered : (respond desired.lookupRequest hub).1 with
      | error cause =>
          cases cause with
          | notFound => exact .homeless valid
          | _ => exact .unreached _ valid
      | ok lookup =>
          have found : hub.lookUp desired = .ok lookup := (respond_of_ok answered).1
          have same : (respond desired.lookupRequest hub).2.working = hub.working :=
            working_respond_of_lookup rfl
          unfold RuleVerbs.lookupFinding
          dsimp only
          cases located : lookup.ruleId with
          | none => exact .absent lookup _ valid found
          | some ruleId =>
              dsimp only
              cases fetched : (respond (.fetchRule ruleId)
                  (respond desired.lookupRequest hub).2).1 with
              | error cause =>
                  cases cause with
                  | notFound => exact .absent lookup _ valid found
                  | _ => exact .unfetched lookup _ valid found
              | ok rule =>
                  have stored := orNotFound_eq_ok.mp (respond_of_ok fetched).1
                  rw [same] at stored
                  refine .present ⟨lookup.repositoryId, ruleId⟩ rule _ valid ⟨?_, stored⟩
                  rw [found, ← located]

/-- Without outages, observing concludes from what the hub holds. -/
theorem observe_of_no_outages (unbroken : hub.outages = []) (desired : Desired) :
    ((RuleVerbs.observe desired).run respond hub).value =
      RuleVerbs.finding desired (hub.lookUp desired)
        (fun ruleId => orNotFound (hub.storedRule? ruleId)) := by
  rw [RuleVerbs.observe_value, respond_of_no_outages unbroken]
  simp only [perform, respond_of_no_outages unbroken]
  rfl

end Hub

end BranchGuard
