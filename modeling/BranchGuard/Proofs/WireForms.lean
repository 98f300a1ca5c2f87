import BranchGuard.Desired.Encoding
import BranchGuard.Proofs.Payloads

/-!
# Wire forms

A reported rule and a desired rule are read from what they are written as, and so is every part of
them: the actors with their kinds, the connections, and the opinions on the flags.  A rule that
stands as the node in the data of an answer is what fetching a rule returns
(`records_survive_wire`).
-/

namespace BranchGuard

open Json

/-! ## Parts of a rule -/

theorem Opinion.recovers : Recovers Opinion.ofJson? Opinion.toJson := by
  intro opinion
  cases opinion <;> rfl

theorem RuleRepository.recovers : Recovers RuleRepository.ofJson? RuleRepository.toJson :=
  fun _ => rfl

theorem ReportedActor.isTidy (actor : ReportedActor) : IsTidy 1 actor.toJson := by
  have pair (kind name text : String) (differ : kindName ≠ name) :
      IsTidy 1 (.object [(kindName, .string kind), (name, .string text)]) := by
    apply isTidy_texts [(kindName, kind), (name, text)]
    simpa using differ
  rcases actor with (slug | login | slug) | _
  · exact pair "Team" "slug" slug (by decide)
  · exact pair "User" "login" login (by decide)
  · exact pair "App" "slug" slug (by decide)
  · exact isTidy_texts [(kindName, "Unsupported")] (List.nodup_singleton _)

theorem ReportedActor.recovers (depth : Nat) :
    Recovers (ReportedActor.ofJsonWithin? (depth + 1)) ReportedActor.toJson := by
  intro actor
  have sound := (actor.isTidy.mono (Nat.le_add_left 1 depth)).isSound
  unfold ofJsonWithin?
  rw [if_pos sound]
  rcases actor with (slug | login | slug) | _ <;> rfl

theorem Connection.recovers_entry : Recovers Connection.entryOfJson? Connection.entryToJson := by
  intro entry
  rw [entryOfJson?, entryToJson]
  apply (ReportedActor.recovers _).nullable rfl
  exact .inr rfl

theorem Connection.recovers : Recovers Connection.ofJson? Connection.toJson := by
  intro connection
  have nodes : listOf? entryOfJson? (.array (connection.entries.map entryToJson)) =
      some connection.entries := recovers_entry.list _
  rw [ofJson?, toJson]
  exact congrArg (Option.map Connection.mk) nodes

theorem RuleRepository.isTidy (repository : RuleRepository) : IsTidy 1 repository.toJson :=
  isTidy_texts [("id", repository.id), ("name", repository.name)]
    (by decide : ["id", "name"].Nodup)

theorem Connection.isTidy (connection : Connection) : IsTidy 4 connection.toJson := by
  have entry (entry : Option ReportedActor) : IsTidy 2 (entryToJson entry) := by
    constructor
    · exact List.nodup_singleton _
    · rw [List.forall_mem_singleton]
      exact isTidy_orNull ReportedActor.isTidy entry
  constructor
  · exact List.nodup_singleton _
  · rw [List.forall_mem_singleton]
    exact isTidy_list entry connection.entries

/-! ## Rules -/

namespace Rule

theorem nodup_names :
    (["id", "pattern", "repository"] ++ Flag.all.map Flag.name ++
      ["requiredApprovingReviewCount", "requiredStatusCheckContexts", "requiresApprovingReviews",
        "requiresStatusChecks", "restrictsPushes", "restrictsReviewDismissals"] ++
      AllowanceList.all.map AllowanceList.name ++ ["reviewDismissalAllowances"]).Nodup := by
  decide

theorem ofJson?_of_rearranges (rule : Rule) {json : Json} (written : Rearranges rule.toJson json) :
    ofJson? json = some rule := by
  rw [toJson] at written
  rcases exists_lists written nodup_names with ⟨members, rfl, lists⟩
  have id : required "id" string? members = some rule.id :=
    recovers_string.required (lists.lookup _)
  have pattern : required "pattern" string? members = some rule.pattern :=
    recovers_string.required (lists.lookup _)
  have repository : nullable "repository" RuleRepository.ofJson? members = some rule.repository :=
    RuleRepository.recovers.nullable rfl (.inl (lists.lookup _))
  have flags : (Flags.mapM? fun flag => nullable flag.name bool? members) = some rule.flags := by
    apply Flags.mapM?_some
    intro flag
    apply recovers_bool.nullable rfl
    cases flag <;> exact .inr (lists.lookup _)
  have reviewCount : nullable "requiredApprovingReviewCount" int32? members =
      some rule.reviewCount := recovers_int32.nullable rfl (.inr (lists.lookup _))
  have contexts : nullable "requiredStatusCheckContexts" strings? members = some rule.contexts :=
    recovers_strings.nullable rfl (.inr (lists.lookup _))
  have requiresApprovingReviews : nullable "requiresApprovingReviews" bool? members =
      some rule.requiresApprovingReviews := recovers_bool.nullable rfl (.inr (lists.lookup _))
  have requiresStatusChecks : nullable "requiresStatusChecks" bool? members =
      some rule.requiresStatusChecks := recovers_bool.nullable rfl (.inr (lists.lookup _))
  have restrictsPushes : nullable "restrictsPushes" bool? members = some rule.restrictsPushes :=
    recovers_bool.nullable rfl (.inr (lists.lookup _))
  have restrictsReviewDismissals : nullable "restrictsReviewDismissals" bool? members =
      some rule.restrictsReviewDismissals := recovers_bool.nullable rfl (.inr (lists.lookup _))
  have allowances (list : AllowanceList) : nullable list.name Connection.ofJson? members =
      some (rule.allowances.get list) := by
    apply Connection.recovers.nullable rfl
    cases list <;> exact .inl (lists.lookup _)
  have dismissalAllowances : nullable "reviewDismissalAllowances" Connection.ofJson? members =
      some rule.dismissalAllowances := Connection.recovers.nullable rfl (.inl (lists.lookup _))
  rw [ofJson?, fields?_of_nodup lists.distinct, Option.bind_eq_bind, Option.bind_some, id, pattern,
    repository, flags, reviewCount, contexts, requiresApprovingReviews, requiresStatusChecks,
    restrictsPushes, restrictsReviewDismissals, allowances, allowances, allowances,
    dismissalAllowances]
  rfl

theorem isTidy (rule : Rule) : IsTidy 5 rule.toJson := by
  have truth := isTidy_orNull (IsTidy.bool 4)
  have count := isTidy_orNull (isTidy_int32 4)
  have texts := isTidy_orNull (isTidy_list (IsTidy.string 3))
  have connection := isTidy_map Connection.isTidy
  rw [toJson]
  apply isTidy_ofFields
  · exact nodup_names
  · simp only [List.forall_mem_append, List.forall_mem_cons, List.forall_mem_map,
      Option.some.injEq, forall_eq', List.not_mem_nil, false_implies, implies_true, and_true]
    refine ⟨⟨⟨⟨?identity, ?flags⟩, ?policies⟩, ?lists⟩, ?dismissals⟩
    case identity =>
      refine ⟨.string 4 _, .string 4 _, ?_⟩
      apply isTidy_map
      intro repository
      exact repository.isTidy.mono (by decide)
    case flags => exact fun flag _ => truth _
    case policies => exact ⟨count _, texts _, truth _, truth _, truth _, truth _⟩
    case lists => exact fun list _ => connection _
    case dismissals => exact connection _

theorem isWireForm : IsWireForm ofJson? toJson :=
  Json.isWireForm ofJson?_of_rearranges (fun _ => ⟨_, rfl⟩) fun rule =>
    rule.isTidy.mono (by decide)

end Rule

/-! ## Desired rules -/

namespace Desired

theorem nodup_names :
    (["pattern", "owner", "repository", "repositoryId"] ++
      AllowanceList.all.map AllowanceList.name ++ Flag.all.map Flag.name ++
      ["requiredApprovingReviewCount", "requiredStatusCheckContexts"]).Nodup := by
  decide

theorem isTidy (desired : Desired) : IsTidy 2 desired.toJson := by
  have text := isTidy_map (IsTidy.string 1)
  have texts := isTidy_list (IsTidy.string 0)
  have count := isTidy_map (isTidy_uint8 1)
  rw [toJson]
  apply isTidy_ofFields
  · exact nodup_names
  · simp only [List.forall_mem_append, List.forall_mem_cons, List.forall_mem_map,
      Option.some.injEq, forall_eq', List.not_mem_nil, false_implies, implies_true, and_true]
    refine ⟨⟨⟨?names, ?lists⟩, ?flags⟩, ?checks⟩
    case names => exact ⟨.string 1 _, .string 1 _, text _, text _⟩
    case lists => exact fun list _ => texts _
    case flags => exact fun flag _ => isTidy_orNull (IsTidy.bool 1) _
    case checks => exact ⟨count _, texts _⟩

theorem ofJson?_of_rearranges (desired : Desired) {json : Json}
    (written : Rearranges desired.toJson json) : ofJson? json = some desired := by
  have sound : json.isSound maxDepth = true :=
    ((desired.isTidy.rearranged written).mono (by decide)).isSound
  rw [toJson] at written
  rcases exists_lists written nodup_names with ⟨members, rfl, lists⟩
  have pattern : required "pattern" string? members = some desired.pattern :=
    recovers_string.required (lists.lookup _)
  have owner : required "owner" string? members = some desired.owner :=
    recovers_string.required (lists.lookup _)
  have repository : nullable "repository" string? members = some desired.repository :=
    recovers_string.nullable rfl (.inl (lists.lookup _))
  have repositoryId : nullable "repositoryId" string? members = some desired.repositoryId :=
    recovers_string.nullable rfl (.inl (lists.lookup _))
  have allowances (list : AllowanceList) : defaulted list.name [] strings? members =
      some (desired.allowances.get list) := by
    apply recovers_strings.defaulted
    cases list <;> exact lists.lookup _
  have flags : (Flags.mapM? fun flag => defaulted flag.name .unset Opinion.ofJson? members) =
      some desired.flags := by
    apply Flags.mapM?_some
    intro flag
    apply Opinion.recovers.defaulted
    cases flag <;> exact lists.lookup _
  have reviewCount : nullable "requiredApprovingReviewCount" uint8? members =
      some desired.reviewCount := recovers_uint8.nullable rfl (.inl (lists.lookup _))
  have contexts : defaulted "requiredStatusCheckContexts" [] strings? members =
      some desired.contexts := recovers_strings.defaulted _ (lists.lookup _)
  rw [ofJson?, sound, any_isRepeated_of_nodup lists.distinct, ofMembers?, pattern, owner,
    repository, repositoryId, allowances, allowances, allowances, flags, reviewCount, contexts]
  rfl

theorem isWireForm : IsWireForm ofJson? toJson :=
  Json.isWireForm ofJson?_of_rearranges (fun _ => ⟨_, rfl⟩) fun desired =>
    desired.isTidy.mono (by decide)

end Desired

namespace GitHub

open Dialogue

/-! ## Fetched rules -/

/-- The data of the body hold the object under this name, and no error is reported beside them. -/
structure Carries (body : Json) (name : String) (object : Json) : Prop where
  data : ∃ data, body.member? "data" = some data ∧ data.member? name = some object
  noErrors : body.member? "errors" = none ∨ body.member? "errors" = some .null ∨
    body.member? "errors" = some (.array [])

theorem Delivery.exists_of_read {delivery : Delivery} {body : Json}
    (arrived : delivery.read = .ok body) : ∃ json : Json, body = json.lastWins := by
  unfold read at arrived
  split at arrived
  · split at arrived
    · split at arrived
      · next json _ =>
          cases arrived
          exact ⟨json, rfl⟩
      · cases arrived
    · split at arrived <;> cases arrived
  · cases arrived

/-- Where names were sorted out, a body that carries an object holds it in its data. -/
theorem Carries.exists_holdsData {json object : Json} {name : String}
    (carries : Carries json.lastWins name object) :
    ∃ data, HoldsData json.lastWins data ∧ data.Holds name object := by
  rcases carries with ⟨⟨data, isData, isObject⟩, noErrors⟩
  rcases exists_of_member?_lastWins isData with ⟨members, isBody, distinct, found, inner, rfl⟩
  rcases exists_of_member?_lastWins isObject with ⟨inside, isInner, distinct', found', -⟩
  rw [isBody] at noErrors ⊢
  refine ⟨inner.lastWins, .members (isRepeated_of_nodup distinct _)
    (isRepeated_of_nodup distinct _) ⟨found, isInner ▸ Json.noConfusion, noErrors⟩, ?_⟩
  rw [isInner]
  exact .member (isRepeated_of_nodup distinct' _) found'

/-- An object that a body carries is what the answer comes down to. -/
theorem Delivery.result_of_carries {α : Type} {delivery : Delivery} {body object : Json}
    {name : String} {read : Json → Option α} {value : α} (arrived : delivery.read = .ok body)
    (carries : Carries body name object) (notNull : object ≠ .null)
    (accepted : read object = some value) :
    delivery.result (single? name read) = .ok (some value) := by
  rcases Delivery.exists_of_read arrived with ⟨json, rfl⟩
  rcases carries.exists_holdsData with ⟨data, held, isObject⟩
  apply Delivery.result_eq_ok_iff.mpr
  exact ⟨_, data, arrived, held, single?_eq_some_some_iff.mpr ⟨object, isObject, notNull, accepted⟩⟩

/-- The body of an answer that holds the rule. -/
def ruleBody (rule : Rule) : Json :=
  .object [("data", .object [("node", rule.toJson)])]

theorem isTidy_ruleBody (rule : Rule) : IsTidy 7 (ruleBody rule) := by
  constructor
  · exact List.nodup_singleton _
  · rw [List.forall_mem_singleton]
    constructor
    · exact List.nodup_singleton _
    · rw [List.forall_mem_singleton]
      exact rule.isTidy

theorem Delivery.read_write {body : Json} (tidy : IsTidy maxDepth body) {status : Nat}
    (success : isSuccess status = true) : (response status body.write).read = .ok body := by
  rw [read, if_pos success, tidy.parseLeading?_write]
  exact congrArg Except.ok tidy.lastWins

end GitHub

open GitHub Dialogue

/--
Reported rules and desired rules survive being written and read, so that different records are never
written alike, and a rule that an answer carries as its node is the one that is fetched.
-/
theorem records_survive_wire {σ : Type} (responder : Responder (fun _ : Post => Delivery) σ)
    (state : σ) (ruleId : String) :
    IsWireForm Rule.ofJson? Rule.toJson ∧ IsWireForm Desired.ofJson? Desired.toJson ∧
      ∀ rule : Rule,
        (∀ body node, (responder (ruleRequest ruleId) state).1.read = .ok body →
          Carries body "node" node → Rearranges rule.toJson node →
            ((Client.fetchRule ruleId).run responder state).value = .ok rule) ∧
        (∀ status, Delivery.isSuccess status = true →
          (responder (ruleRequest ruleId) state).1 = .response status (ruleBody rule).write →
            ((Client.fetchRule ruleId).run responder state).value = .ok rule) := by
  have fetched (rule : Rule) (body node : Json)
      (arrived : (responder (ruleRequest ruleId) state).1.read = .ok body)
      (carries : Carries body "node" node) (written : Rearranges rule.toJson node) :
      ((Client.fetchRule ruleId).run responder state).value = .ok rule := by
    have notNull : node ≠ .null := by
      rintro rfl
      cases written
    rw [run_fetchRule_value, fetchedRule?,
      Delivery.result_of_carries arrived carries notNull (rule.ofJson?_of_rearranges written)]
    rfl
  refine ⟨Rule.isWireForm, Desired.isWireForm, ?_⟩
  intro rule
  refine ⟨fetched rule, ?_⟩
  intro status success sent
  apply fetched rule (ruleBody rule) rule.toJson
  · rw [sent]
    exact Delivery.read_write ((isTidy_ruleBody rule).mono (by decide)) success
  · exact ⟨⟨_, rfl, rfl⟩, .inl rfl⟩
  · exact .object (.refl _)

/-- A rule with an empty connection, a deleted account, an actor of no known kind, and absences. -/
def sampleRule : Rule where
  id := "BPR_1"
  pattern := "release/*"
  flags := (Flags.replicate none).set .allowsDeletions (some false)
  reviewCount := some (-3)
  contexts := some []
  restrictsPushes := some true
  allowances :=
    { bypassForcePush := none
      bypassPullRequest := some .empty
      push := some ⟨[none, some .unsupported, some (.known (.team "core"))]⟩ }

/-- The body of an answer that holds more than the rule. -/
def sampleBody : Json :=
  .object
    [("errors", .null),
     ("data", .object [("viewer", .string "octocat"), ("node", sampleRule.toJson)])]

theorem isTidy_sampleBody : IsTidy maxDepth sampleBody := by
  refine IsTidy.mono (.object 6 _ (by decide) ?_) (by decide)
  simp only [List.forall_mem_cons, List.not_mem_nil, false_implies, implies_true, and_true]
  refine ⟨.null 6, .object 5 _ (by decide) ?_⟩
  simp only [List.forall_mem_cons, List.not_mem_nil, false_implies, implies_true, and_true]
  exact ⟨.string 5 _, sampleRule.isTidy⟩

theorem records_survive_wire_sample :
    ((Client.fetchRule "BPR_1").run (fun _ _ => (.response 200 sampleBody.write, ())) ()).value =
        .ok sampleRule ∧
      ((Client.fetchRule "BPR_1").run
        (fun _ _ => (.response 204 (ruleBody sampleRule).write, ())) ()).value = .ok sampleRule ∧
      Rule.ofJson? sampleRule.toJson = some sampleRule ∧
      sampleRule.toJson ≠
        { sampleRule with flags := sampleRule.flags.set .allowsDeletions none }.toJson := by
  refine ⟨?_, ?_, ?_, ?_⟩
  · apply ((records_survive_wire _ () "BPR_1").2.2 sampleRule).1 sampleBody sampleRule.toJson
    · exact Delivery.read_write isTidy_sampleBody rfl
    · exact ⟨⟨_, rfl, rfl⟩, .inr (.inl rfl)⟩
    · exact .object (.refl _)
  · exact ((records_survive_wire _ () "BPR_1").2.2 sampleRule).2 204 rfl rfl
  · exact (records_survive_wire (fun _ _ => (.broken, ())) () "BPR_1").1.recovers sampleRule
  · intro same
    have equal := (records_survive_wire (fun _ _ => (.broken, ())) () "BPR_1").1.injective same
    exact absurd equal (by decide)

end BranchGuard
