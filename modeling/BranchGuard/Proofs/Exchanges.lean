import BranchGuard.GitHub.Client
import BranchGuard.Proofs.Calls

/-!
# Conversations carried over the network

A client carries out a conversation call by call, so the run over the network is the run of the
conversation against GitHub as the client shows it (`Client.respond`).  What came back over the
network is recorded as receipts, and these fall into consecutive blocks, one for each call of the
conversation (`CarriedOut`).

* Fetching a rule posts one request (`receipts_fetchRule`).
* Looking up a pattern posts one request for each page, and goes on until an answer ends it
  (`ScanRun`).
-/

namespace BranchGuard

/-! ## Expanded dialogues -/

namespace Dialogue

variable {Question Question' : Type} {Answer : Question → Type} {Answer' : Question' → Type}
variable {Note α σ : Type}

/-- The responder that finds each answer by a dialogue of its own. -/
def Responder.through (responder : Responder Answer' σ)
    (answer : (question : Question) → Dialogue Answer' Note (Answer question)) :
    Responder Answer σ :=
  fun question state =>
    (((answer question).run responder state).value, ((answer question).run responder state).state)

variable (responder : Responder Answer' σ)
variable (answer : (question : Question) → Dialogue Answer' Note (Answer question))

theorem run_expand_value (dialogue : Dialogue Answer Note α) (state : σ) :
    ((dialogue.expand answer).run responder state).value =
      (dialogue.run (Responder.through responder answer) state).value := by
  induction dialogue generalizing state with
  | done value => rfl
  | ask question rest ih =>
      rw [expand, run_bind_value]
      exact ih _ _
  | note entry rest ih => exact ih state

end Dialogue

namespace GitHub

open Dialogue

/-- A request that was posted, together with what came back for it. -/
structure Receipt where
  post : Post
  delivery : Delivery

end GitHub

namespace Transcript

open GitHub

/-- The requests that were posted and what came back for each, in order. -/
def receipts (transcript : Transcript (fun _ : Post => Delivery) Event) : List Receipt :=
  transcript.filterMap fun
    | .exchange post delivery => some ⟨post, delivery⟩
    | .note _ => none

@[simp]
theorem receipts_nil : receipts [] = [] := rfl

@[simp]
theorem receipts_exchange (post : Post) (delivery : Delivery)
    (rest : Transcript (fun _ : Post => Delivery) Event) :
    receipts (.exchange post delivery :: rest) = ⟨post, delivery⟩ :: receipts rest := rfl

@[simp]
theorem receipts_note (event : Event) (rest : Transcript (fun _ : Post => Delivery) Event) :
    receipts (.note event :: rest) = receipts rest := rfl

@[simp]
theorem receipts_append (first second : Transcript (fun _ : Post => Delivery) Event) :
    receipts (first ++ second) = receipts first ++ receipts second := by
  simp [receipts]

@[simp]
theorem receipts_map_note (events : List Event) : receipts (events.map .note) = [] := by
  induction events with
  | nil => rfl
  | cons event rest ih => simpa using ih

end Transcript

namespace GitHub

open Dialogue

variable {α σ : Type} (responder : Responder (fun _ : Post => Delivery) σ)

/-- GitHub as the client shows it: a call is answered by carrying it out. -/
def Client.respond (client : Client) : Responder Request.Reply σ :=
  Responder.through responder client.answer

/-- The receipts of calls that were carried out one after the other. -/
inductive CarriedOut (client : Client) : List Call → List Receipt → Prop where
  | nil : CarriedOut client [] []
  | cons {call : Call} {state : σ} {calls : List Call} {receipts : List Receipt}
      (replied : ((client.answer call.request).run responder state).value = call.reply)
      (rest : CarriedOut client calls receipts) :
      CarriedOut client (call :: calls)
        (((client.answer call.request).run responder state).transcript.receipts ++ receipts)

section CarriedOut

variable {responder} {client : Client} {call : Call} {calls : List Call} {receipts : List Receipt}

/-- Every receipt belongs to a call. -/
theorem CarriedOut.exists_call
    (carried : CarriedOut responder client calls receipts) {receipt : Receipt}
    (member : receipt ∈ receipts) :
    ∃ call ∈ calls, ∃ state,
      ((client.answer call.request).run responder state).value = call.reply ∧
        receipt ∈ ((client.answer call.request).run responder state).transcript.receipts := by
  induction carried with
  | nil => cases member
  | cons replied rest ih =>
      rcases List.mem_append.mp member with member | member
      · exact ⟨_, List.mem_cons_self, _, replied, member⟩
      · rcases ih member with ⟨call, made, found⟩
        exact ⟨call, List.mem_cons_of_mem _ made, found⟩

theorem CarriedOut.exists_receipts (carried : CarriedOut responder client calls receipts)
    (made : call ∈ calls) :
    ∃ state, ((client.answer call.request).run responder state).value = call.reply ∧
      ((client.answer call.request).run responder state).transcript.receipts ⊆ receipts := by
  induction carried with
  | nil => cases made
  | cons replied rest ih =>
      rcases List.mem_cons.mp made with rfl | made
      · exact ⟨_, replied, List.subset_append_left _ _⟩
      · rcases ih made with ⟨state, replied, recorded⟩
        exact ⟨state, replied, List.subset_append_of_subset_right _ recorded⟩

theorem CarriedOut.single (carried : CarriedOut responder client [call] receipts) :
    ∃ state, ((client.answer call.request).run responder state).value = call.reply ∧
      receipts = ((client.answer call.request).run responder state).transcript.receipts := by
  cases carried with
  | @cons _ state _ rest replied carried =>
      cases carried
      exact ⟨state, replied, List.append_nil _⟩

end CarriedOut

/-- A conversation over the network has the result that it has against GitHub as the client shows
it. -/
theorem Client.conduct_value (client : Client) (conversation : Conversation α) (state : σ) :
    ((client.conduct conversation).run responder state).value =
      (conversation.run (client.respond responder) state).value :=
  run_expand_value responder client.answer conversation state

/-- Every receipt of a conversation belongs to one of its calls. -/
theorem Client.conduct_carriedOut (client : Client) (conversation : Conversation α) (state : σ) :
    CarriedOut responder client
      (conversation.run (client.respond responder) state).transcript.calls
      ((client.conduct conversation).run responder state).transcript.receipts := by
  unfold Client.conduct
  induction conversation generalizing state with
  | done value => exact .nil
  | ask request rest ih =>
      rw [expand, run_bind_transcript, Transcript.receipts_append]
      exact .cons rfl (ih _ _)
  | note event rest ih => exact ih state

/-! ## Posting -/

/-- What a delivery amounts to for a reader of its data. -/
def Delivery.result (read : Json → Option α) (delivery : Delivery) : Except RemoteError α :=
  match delivery.read with
  | .error failure => .error failure
  | .ok body => payload read body

theorem run_post_value (operation : RemoteOperation) (document : Document) (arguments : Json)
    (read : Json → Option α) (state : σ) :
    ((Client.post operation document arguments read).run responder state).value =
      (responder ⟨document, arguments⟩ state).1.result read := by
  unfold Client.post Delivery.result
  simp only [run_bind_value, run_say, run_query]
  cases (responder ⟨document, arguments⟩ state).1.read <;> simp

theorem run_post_state (operation : RemoteOperation) (document : Document) (arguments : Json)
    (read : Json → Option α) (state : σ) :
    ((Client.post operation document arguments read).run responder state).state =
      (responder ⟨document, arguments⟩ state).2 := by
  unfold Client.post
  simp only [run_bind_state, run_say, run_query]
  cases (responder ⟨document, arguments⟩ state).1.read <;> simp

theorem receipts_post (operation : RemoteOperation) (document : Document) (arguments : Json)
    (read : Json → Option α) (state : σ) :
    ((Client.post operation document arguments read).run responder state).transcript.receipts =
      [⟨⟨document, arguments⟩, (responder ⟨document, arguments⟩ state).1⟩] := by
  unfold Client.post
  simp only [run_bind_transcript, run_say, run_query, Transcript.receipts_append,
    Transcript.receipts_note, Transcript.receipts_nil, Transcript.receipts_exchange]
  cases (responder ⟨document, arguments⟩ state).1.read <;> simp

/-- What was asked for, where its absence is a failure. -/
def demanded : Except RemoteError (Option α) → Except RemoteError α
  | .error failure => .error failure
  | .ok (some value) => .ok value
  | .ok none => .error .notFound

/-! ## Fetching a rule -/

/-- The request for a rule. -/
def ruleRequest (ruleId : String) : Post :=
  ⟨.rule, .object [("id", .string ruleId)]⟩

theorem run_orNotFound_value (found absent : List Event) (result : Except RemoteError (Option α))
    (state : σ) :
    ((Client.orNotFound found absent result).run responder state).value = demanded result := by
  rcases result with failure | _ | value <;> simp [Client.orNotFound, demanded]

theorem receipts_orNotFound (found absent : List Event) (result : Except RemoteError (Option α))
    (state : σ) :
    ((Client.orNotFound found absent result).run responder state).transcript.receipts = [] := by
  rcases result with failure | _ | value <;> simp [Client.orNotFound]

theorem run_fetchRule_value (ruleId : String) (state : σ) :
    ((Client.fetchRule ruleId).run responder state).value =
      demanded ((responder (ruleRequest ruleId) state).1.result fetchedRule?) := by
  rw [Client.fetchRule, run_bind_value, run_orNotFound_value, run_post_value]
  rfl

/-- Fetching a rule posts one request. -/
theorem receipts_fetchRule (ruleId : String) (state : σ) :
    ((Client.fetchRule ruleId).run responder state).transcript.receipts =
      [⟨ruleRequest ruleId, (responder (ruleRequest ruleId) state).1⟩] := by
  rw [Client.fetchRule, run_bind_transcript, Transcript.receipts_append, receipts_post,
    receipts_orNotFound]
  rfl

/-! ## Scanning the pages -/

namespace Client

/-- The request for the page that starts at a cursor. -/
def pageRequest (client : Client) (owner repository : String) (cursor : Option String) : Post :=
  ⟨.rulesPage, client.pageArguments owner repository cursor⟩

/-- How a scan from a cursor on can go: what it posts and gets back, and what it concludes. -/
inductive ScanRun (client : Client) (owner repository pattern : String) :
    Option String → UInt32 → List Receipt → Except RemoteError Lookup → Prop where
  /-- No more pages can be told apart. -/
  | exhausted (cursor : Option String) (number : UInt32) :
      ScanRun client owner repository pattern cursor number [] (.error .transport)
  /-- The answer holds no data that can be read. -/
  | failed (cursor : Option String) (number : UInt32) (delivery : Delivery)
      (failure : RemoteError) (unread : delivery.result Page.ofJson? = .error failure) :
      ScanRun client owner repository pattern cursor number
        [⟨client.pageRequest owner repository cursor, delivery⟩] (.error failure)
  /-- There is no such repository. -/
  | nowhere (cursor : Option String) (number : UInt32) (delivery : Delivery)
      (unknown : delivery.result Page.ofJson? = .ok none) :
      ScanRun client owner repository pattern cursor number
        [⟨client.pageRequest owner repository cursor, delivery⟩] (.error .notFound)
  /-- The page holds the pattern. -/
  | found (cursor : Option String) (number : UInt32) (delivery : Delivery) (page : Page)
      (rule : RuleSummary) (arrived : delivery.result Page.ofJson? = .ok (some page))
      (named : page.find? pattern = some rule) :
      ScanRun client owner repository pattern cursor number
        [⟨client.pageRequest owner repository cursor, delivery⟩]
        (.ok ⟨page.repositoryId, some rule.id⟩)
  /-- The page does not hold the pattern, and no other is asked for. -/
  | absent (cursor : Option String) (number : UInt32) (delivery : Delivery) (page : Page)
      (arrived : delivery.result Page.ofJson? = .ok (some page))
      (lacks : page.find? pattern = none) (ends : client.nextCursor? page number = none) :
      ScanRun client owner repository pattern cursor number
        [⟨client.pageRequest owner repository cursor, delivery⟩]
        (.ok ⟨page.repositoryId, none⟩)
  /-- The page does not hold the pattern, and the scan goes on. -/
  | next (cursor : Option String) (number : UInt32) (delivery : Delivery) (page : Page)
      (start : String) (receipts : List Receipt) (result : Except RemoteError Lookup)
      (arrived : delivery.result Page.ofJson? = .ok (some page))
      (lacks : page.find? pattern = none) (more : client.nextCursor? page number = some start)
      (rest : ScanRun client owner repository pattern (some start) (number + 1) receipts result) :
      ScanRun client owner repository pattern cursor number
        (⟨client.pageRequest owner repository cursor, delivery⟩ :: receipts) result

variable (client : Client) (owner repository pattern : String)

theorem run_concludeScan_value (page : Page) (number : UInt32) (state : σ) :
    ((client.concludeScan page number).run responder state).value =
      .ok ⟨page.repositoryId, none⟩ := by
  unfold concludeScan
  split <;> simp

theorem receipts_concludeScan (page : Page) (number : UInt32) (state : σ) :
    ((client.concludeScan page number).run responder state).transcript.receipts = [] := by
  unfold concludeScan
  split <;> simp

/-- What a scan concludes from the answer for its first page. -/
theorem run_scan_value (budget : Nat) (cursor : Option String) (number : UInt32) (state : σ) :
    ((client.scan owner repository pattern (budget + 1) cursor number).run responder
        state).value =
      match (responder (client.pageRequest owner repository cursor) state).1.result
        Page.ofJson? with
      | .error failure => .error failure
      | .ok none => .error .notFound
      | .ok (some page) =>
        match page.find? pattern with
        | some rule => .ok ⟨page.repositoryId, some rule.id⟩
        | none =>
          match client.nextCursor? page number with
          | some start =>
            ((client.scan owner repository pattern budget (some start) (number + 1)).run responder
              (responder (client.pageRequest owner repository cursor) state).2).value
          | none => .ok ⟨page.repositoryId, none⟩ := by
  rw [scan.eq_def, run_bind_value, run_post_value, run_post_state, pageRequest]
  rcases (responder ⟨.rulesPage, client.pageArguments owner repository cursor⟩ state).1.result
    Page.ofJson? with failure | _ | page
  · rfl
  · rfl
  · cases named : page.find? pattern with
    | some rule => simp [named]
    | none =>
        cases more : client.nextCursor? page number with
        | some start => simp [named, more]
        | none => simp [named, more, run_concludeScan_value]

/-- A scan goes one of the six ways. -/
theorem scanRun (budget : Nat) (cursor : Option String) (number : UInt32) (state : σ) :
    ScanRun client owner repository pattern cursor number
      ((client.scan owner repository pattern budget cursor number).run responder
        state).transcript.receipts
      ((client.scan owner repository pattern budget cursor number).run responder state).value := by
  -- One page at a time: the answer either ends the scan or names the cursor it goes on from.
  induction budget generalizing cursor number state with
  | zero => exact .exhausted cursor number
  | succ budget ih =>
      unfold scan
      rw [run_bind_transcript, run_bind_value, Transcript.receipts_append, receipts_post,
        run_post_value]
      rcases arrived : (responder (client.pageRequest owner repository cursor) state).1.result
        Page.ofJson? with failure | _ | page
      all_goals rw [pageRequest] at arrived; rw [arrived]
      · exact .failed cursor number _ failure arrived
      · exact .nowhere cursor number _ arrived
      · cases named : page.find? pattern with
        | some rule => simpa [named] using .found cursor number _ page rule arrived named
        | none =>
            cases more : client.nextCursor? page number with
            | some start =>
                simpa [named, more] using
                  .next cursor number _ page start _ _ arrived named more (ih _ _ _)
            | none =>
                simpa [named, more, run_concludeScan_value, receipts_concludeScan] using
                  .absent cursor number _ page arrived named more

end Client

end GitHub

end BranchGuard
