import BranchGuard.Proofs.WireForms

/-!
# Confirmed mutations

GitHub confirms a mutation by a payload in the place of the mutation (`Delivery.Confirms`), and a
creation or an update by the rule in this payload (`Delivery.ConfirmsRule`).  The client posts one
request for a mutation.  A creation or an update succeeds exactly if the answer confirms it, and a
creation then results in the ID of the confirmed rule (`mutations_settled`).

A deletion succeeds with any data that come without errors, even if they hold no payload for it
(`deletion_without_payload`).
-/

namespace BranchGuard.GitHub

open Json Dialogue

/-! ## What confirms a mutation -/

/-- The payload of a mutation names the rule with this ID. -/
def NamesRule (payload : Json) (ruleId : String) : Prop :=
  ∃ rule, payload.Holds "branchProtectionRule" rule ∧ rule ≠ .null ∧
    rule.Holds "id" (.string ruleId)

theorem nodeId?_eq_some_iff {json : Json} {id : String} :
    nodeId? json = some id ↔ json.Holds "id" (.string id) := by
  have isString (value : Json) : string? value = some id ↔ value = .string id := by
    cases value <;> simp [string?]
  rw [← exists_onlyField_iff]
  simp [nodeId?, required, Option.bind_eq_some_iff, isString]

theorem mutatedRule?_eq_some_some_iff {mutation ruleId : String} {data : Json} :
    mutatedRule? mutation data = some (some ruleId) ↔
      ∃ payload, data.Holds mutation payload ∧ payload ≠ .null ∧ NamesRule payload ruleId := by
  have joined (found : Option (Option String)) :
      found.join = some ruleId ↔ found = some (some ruleId) := by
    rcases found with _ | _ | id <;> simp
  simp only [mutatedRule?, Option.map_eq_some_iff, joined, exists_eq_right,
    single?_eq_some_some_iff, nodeId?_eq_some_iff, NamesRule]

namespace Delivery

variable {delivery : Delivery}

/-- The answer brings these data, and reports no errors. -/
def Brings (delivery : Delivery) (data : Json) : Prop :=
  ∃ body, delivery.read = .ok body ∧ HoldsData body data

/-- The answer brings this payload for the mutation, and reports no errors. -/
def Confirms (delivery : Delivery) (mutation : String) (payload : Json) : Prop :=
  ∃ data, delivery.Brings data ∧ data.Holds mutation payload ∧ payload ≠ .null

/-- The answer brings a payload for the mutation that names the rule, and reports no errors. -/
def ConfirmsRule (delivery : Delivery) (mutation ruleId : String) : Prop :=
  ∃ payload, delivery.Confirms mutation payload ∧ NamesRule payload ruleId

/-- The rule that a mutation reports is read from the answers that confirm it. -/
theorem result_mutatedRule?_iff {mutation ruleId : String} :
    delivery.result (mutatedRule? mutation) = .ok (some ruleId) ↔
      delivery.ConfirmsRule mutation ruleId := by
  rw [result_eq_ok_iff]
  constructor
  · rintro ⟨body, data, arrived, held, decoded⟩
    rcases mutatedRule?_eq_some_some_iff.mp decoded with ⟨payload, isPayload, notNull, names⟩
    exact ⟨payload, ⟨data, ⟨body, arrived, held⟩, isPayload, notNull⟩, names⟩
  · rintro ⟨payload, ⟨data, ⟨body, arrived, held⟩, isPayload, notNull⟩, names⟩
    exact ⟨body, data, arrived, held,
      mutatedRule?_eq_some_some_iff.mpr ⟨payload, isPayload, notNull, names⟩⟩

theorem result_some_iff {data : Json} :
    delivery.result some = .ok data ↔ delivery.Brings data := by
  simp [result_eq_ok_iff, Brings]

end Delivery

/-! ## Calls that an answer settles -/

/-- The exchange posts this one request.  It succeeds exactly with what the answer confirms, and
fails if the answer confirms nothing. -/
structure Settles {β : Type} (exchange : Exchange (Except RemoteError β)) (post : Post)
    (confirmed : Delivery → β → Prop) : Prop where
  receipts {σ : Type} (responder : Responder (fun _ : Post => Delivery) σ) (state : σ) :
    (exchange.run responder state).transcript.receipts = [⟨post, (responder post state).1⟩]
  success {σ : Type} (responder : Responder (fun _ : Post => Delivery) σ) (state : σ)
    (value : β) :
    (exchange.run responder state).value = .ok value ↔ confirmed (responder post state).1 value
  failure {σ : Type} (responder : Responder (fun _ : Post => Delivery) σ) (state : σ) :
    (¬ ∃ value, confirmed (responder post state).1 value) →
      ∃ cause, (exchange.run responder state).value = .error cause

section Settles

variable {α β : Type} {operation : RemoteOperation} {document : Document} {arguments : Json}
variable {read : Json → Option α} {next : Except RemoteError α → Exchange (Except RemoteError β)}

/-- A request whose answer is concluded from without asking again. -/
theorem settles_post (conclude : Except RemoteError α → Except RemoteError β)
    {confirmed : Delivery → β → Prop}
    (silent : ∀ result, ∃ notes,
      next result = Dialogue.sayAll notes >>= fun _ => .done (conclude result))
    (succeeds : ∀ delivery value,
      conclude (delivery.result read) = .ok value ↔ confirmed delivery value) :
    Settles (Client.post operation document arguments read >>= next) ⟨document, arguments⟩
      confirmed := by
  have concluded {σ : Type} (responder : Responder (fun _ : Post => Delivery) σ) (state : σ) :
      ((Client.post operation document arguments read >>= next).run responder state).value =
        conclude ((responder ⟨document, arguments⟩ state).1.result read) := by
    rw [run_bind_value, run_post_value]
    rcases silent ((responder ⟨document, arguments⟩ state).1.result read) with ⟨notes, isNext⟩
    rw [isNext, run_bind_value, run_done]
  constructor
  · intro σ responder state
    rw [run_bind_transcript, Transcript.receipts_append, receipts_post, run_post_value]
    rcases silent ((responder ⟨document, arguments⟩ state).1.result read) with ⟨notes, isNext⟩
    rw [isNext, run_bind_transcript, run_sayAll, run_done, Transcript.receipts_append,
      Transcript.receipts_map_note, Transcript.receipts_nil, List.append_nil, List.append_nil]
  · intro σ responder state value
    rw [concluded, succeeds]
  · intro σ responder state unconfirmed
    rw [concluded]
    cases settled : conclude ((responder ⟨document, arguments⟩ state).1.result read) with
    | error cause => exact ⟨cause, rfl⟩
    | ok value => exact absurd ⟨value, (succeeds _ value).mp settled⟩ unconfirmed

end Settles

/-! ## The mutations -/

/-- The request that creates a rule. -/
def creationRequest (creation : Creation) : Post :=
  ⟨.createRule, Client.inputArguments creation.toJson⟩

/-- The request that updates a rule. -/
def updateRequest (update : Update) : Post :=
  ⟨.updateRule, Client.inputArguments update.toJson⟩

/-- The request that deletes a rule. -/
def deletionRequest (ruleId : String) : Post :=
  ⟨.deleteRule, Client.inputArguments (.object [("branchProtectionRuleId", .string ruleId)])⟩

/-- What a mutation reports, where nothing is a failure. -/
def acknowledged {α : Type} : Except RemoteError (Option α) → Except RemoteError α
  | .error failure => .error failure
  | .ok (some value) => .ok value
  | .ok none => .error .invalidResponse

theorem acknowledged_eq_ok_iff {α : Type} {result : Except RemoteError (Option α)} {value : α} :
    acknowledged result = .ok value ↔ result = .ok (some value) := by
  rcases result with failure | _ | other <;> simp [acknowledged]

theorem map_unit_eq_ok_iff {α : Type} {result : Except RemoteError α} {value : Unit} :
    result.map (fun _ => ()) = .ok value ↔ ∃ inner, result = .ok inner := by
  cases result <;> simp [Except.map]

theorem settles_createRule (creation : Creation) :
    Settles (Client.createRule creation) (creationRequest creation) fun delivery ruleId =>
      delivery.ConfirmsRule "createBranchProtectionRule" ruleId := by
  apply settles_post acknowledged
  · rintro (failure | _ | ruleId)
    · exact ⟨[], rfl⟩
    · exact ⟨[.creationUnconfirmed], rfl⟩
    · exact ⟨[.ruleCreated], rfl⟩
  · intro delivery ruleId
    rw [acknowledged_eq_ok_iff, Delivery.result_mutatedRule?_iff]

theorem settles_updateRule (update : Update) :
    Settles (Client.updateRule update) (updateRequest update) fun delivery _ =>
      ∃ ruleId, delivery.ConfirmsRule "updateBranchProtectionRule" ruleId := by
  apply settles_post fun result => (acknowledged result).map fun _ => ()
  · rintro (failure | _ | ruleId)
    · exact ⟨[], rfl⟩
    · exact ⟨[.updateUnconfirmed], rfl⟩
    · exact ⟨[.ruleUpdated], rfl⟩
  · intro delivery _
    simp only [map_unit_eq_ok_iff, acknowledged_eq_ok_iff, Delivery.result_mutatedRule?_iff]

theorem settles_deleteRule (ruleId : String) :
    Settles (Client.deleteRule ruleId) (deletionRequest ruleId) fun delivery _ =>
      ∃ data, delivery.Brings data := by
  apply settles_post fun result => result.map fun _ => ()
  · rintro (failure | data)
    · exact ⟨[], rfl⟩
    · exact ⟨[.ruleDeleted], rfl⟩
  · intro delivery _
    simp only [map_unit_eq_ok_iff, Delivery.result_some_iff]

/--
Each mutation posts one request, and the answer settles it.  A creation succeeds exactly if the
answer confirms it, with the ID of the confirmed rule, and an update exactly if the answer confirms
a rule.  A deletion succeeds exactly if the answer brings data.  With any other answer a mutation
fails.
-/
theorem mutations_settled (client : Client) :
    (∀ creation, Settles (client.answer (.createRule creation)) (creationRequest creation)
      fun delivery ruleId => delivery.ConfirmsRule "createBranchProtectionRule" ruleId) ∧
    (∀ update, Settles (client.answer (.updateRule update)) (updateRequest update)
      fun delivery _ => ∃ ruleId, delivery.ConfirmsRule "updateBranchProtectionRule" ruleId) ∧
    ∀ ruleId, Settles (client.answer (.deleteRule ruleId)) (deletionRequest ruleId)
      fun delivery _ => ∃ data, delivery.Brings data :=
  ⟨settles_createRule, settles_updateRule, settles_deleteRule⟩

/-- A body without errors that holds `null` in the place of the payload of a deletion. -/
def unconfirmedBody : Json :=
  .object [("data", .object [("deleteBranchProtectionRule", .null)])]

/-- A deletion succeeds although the answer confirms nothing. -/
theorem deletion_without_payload :
    let answer : Delivery := .response 200 unconfirmedBody.write
    ((Client.answer {} (.deleteRule "BPR_1")).run (fun _ _ => (answer, ())) ()).value = .ok () ∧
      ¬ ∃ payload, answer.Confirms "deleteBranchProtectionRule" payload := by
  intro answer
  have arrived : answer.read = .ok unconfirmedBody := by
    have tidy : IsTidy 2 unconfirmedBody := by
      refine .object 1 _ (by decide) ?_
      rw [List.forall_mem_singleton]
      refine .object 0 _ (by decide) ?_
      rw [List.forall_mem_singleton]
      exact .null 0
    exact Delivery.read_write (tidy.mono (by decide)) rfl
  have held : HoldsData unconfirmedBody (.object [("deleteBranchProtectionRule", .null)]) :=
    .members rfl rfl ⟨rfl, Json.noConfusion, .inl rfl⟩
  constructor
  · exact ((settles_deleteRule "BPR_1").success _ () ()).mpr ⟨_, _, arrived, held⟩
  · rintro ⟨payload, data, ⟨body, isBody, holds⟩, isPayload, notNull⟩
    rw [arrived] at isBody
    cases isBody
    cases holds with
    | members dataOnce errorsOnce full =>
        cases full.found
        cases isPayload with
        | member once found =>
            cases found
            exact notNull rfl

end BranchGuard.GitHub
