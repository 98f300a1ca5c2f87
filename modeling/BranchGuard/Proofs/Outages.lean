import BranchGuard.Proofs.CycleProtocol
import BranchGuard.Proofs.Exchanges

/-!
# Outages and missing rules

An answer to a request for an object holds the object, says that there is none, or is bad
(`Delivery.sorted`).  `Delivery.SaysMissing` and `Delivery.IsBad` spell out what the last two come
down to on the wire: the status, the report of GitHub, the errors in the envelope, and the data.

An answer that says that the object is missing makes a call fail with `RemoteError.notFound`, and a
bad answer makes it fail with another cause.  So observing over the network takes a rule for missing
only if GitHub said so, or if the pages that were scanned do not hold its pattern, and fails in any
outage (`RuleVerbs.outage_is_no_absence`).
-/

namespace BranchGuard.GitHub

open Dialogue Json

/-! ## Envelopes -/

namespace Envelope

/-- The envelope lists an error of the kind by which GitHub reports a missing object. -/
def ReportsMissing (envelope : Envelope) : Prop :=
  ∃ error ∈ envelope.errors.getD [], error.type = some "NOT_FOUND"

variable {envelope : Envelope}

theorem contents_of_missing (missing : envelope.ReportsMissing) :
    envelope.contents = .error .notFound := by
  rcases missing with ⟨error, member, type⟩
  have nonempty : envelope.errors.getD [] ≠ [] := List.ne_nil_of_mem member
  have reported : ((envelope.errors.getD []).any fun error => error.type == some "NOT_FOUND") :=
    List.any_eq_true.mpr ⟨error, member, by simp [type]⟩
  simp [contents, failure?, nonempty, reported]

theorem contents_of_errors (nonempty : envelope.errors.getD [] ≠ [])
    (present : ¬ envelope.ReportsMissing) :
    ∃ failure, envelope.contents = .error failure ∧ failure ≠ .notFound := by
  have unreported :
      ((envelope.errors.getD []).any fun error => error.type == some "NOT_FOUND") = false := by
    apply List.any_eq_false.mpr
    intro error member reported
    exact present ⟨error, member, by simpa using reported⟩
  cases limited :
      (envelope.errors.getD []).any fun error => error.type == some "RATE_LIMITED" with
  | true =>
      refine ⟨.rateLimited, ?_, RemoteError.noConfusion⟩
      simp [contents, failure?, nonempty, unreported, limited]
  | false =>
      refine ⟨.graphQl ((envelope.errors.getD []).map GraphQlError.message), ?_,
        RemoteError.noConfusion⟩
      simp [contents, failure?, nonempty, unreported, limited]

theorem contents_of_noErrors (noErrors : envelope.errors.getD [] = []) :
    envelope.contents = envelope.data.elim (.error .invalidResponse) .ok := by
  cases full : envelope.data <;> simp [contents, failure?, noErrors, full]

end Envelope

/-! ## What an answer comes down to -/

namespace Delivery

variable {α : Type}

/-- The answer says that what was asked for is not there. -/
inductive SaysMissing (read : Json → Option (Option α)) : Delivery → Prop where
  /-- GitHub turned the request down with the status of a missing object. -/
  | status (text message : String) (report : reportMessage? text = some message) :
      SaysMissing read (.response 404 text)
  /-- An error of the envelope reports a missing object, whatever else stands in it. -/
  | error (delivery : Delivery) (body : Json) (envelope : Envelope)
      (arrived : delivery.read = .ok body) (enveloped : Envelope.ofJson? body = some envelope)
      (missing : envelope.ReportsMissing) : SaysMissing read delivery
  /-- The data hold `null` in the place of the object. -/
  | data (delivery : Delivery) (body : Json) (envelope : Envelope) (data : Json)
      (arrived : delivery.read = .ok body) (enveloped : Envelope.ofJson? body = some envelope)
      (noErrors : envelope.errors.getD [] = []) (full : envelope.data = some data)
      (decoded : read data = some none) : SaysMissing read delivery

/-- The answer says nothing about what was asked for. -/
inductive IsBad (read : Json → Option (Option α)) : Delivery → Prop where
  /-- The connection broke. -/
  | broken : IsBad read .broken
  /-- The body of a successful response is no JSON. -/
  | garbled (status : Nat) (text : String) (success : isSuccess status = true)
      (unread : parseLeading? text = none) : IsBad read (.response status text)
  /-- Another response has no report of GitHub. -/
  | unexplained (status : Nat) (text : String) (failure : isSuccess status = false)
      (unread : reportMessage? text = none) : IsBad read (.response status text)
  /-- GitHub turned the request down with another status, for a rate limit or anything else. -/
  | refused (status : Nat) (text message : String) (failure : isSuccess status = false)
      (report : reportMessage? text = some message) (other : status ≠ 404) :
      IsBad read (.response status text)
  /-- The body is no envelope. -/
  | unenveloped (delivery : Delivery) (body : Json) (arrived : delivery.read = .ok body)
      (unread : Envelope.ofJson? body = none) : IsBad read delivery
  /-- The envelope lists errors, none of which reports a missing object; there may be data. -/
  | errors (delivery : Delivery) (body : Json) (envelope : Envelope)
      (arrived : delivery.read = .ok body) (enveloped : Envelope.ofJson? body = some envelope)
      (nonempty : envelope.errors.getD [] ≠ []) (present : ¬ envelope.ReportsMissing) :
      IsBad read delivery
  /-- The envelope holds neither errors nor data. -/
  | empty (delivery : Delivery) (body : Json) (envelope : Envelope)
      (arrived : delivery.read = .ok body) (enveloped : Envelope.ofJson? body = some envelope)
      (noErrors : envelope.errors.getD [] = []) (noData : envelope.data = none) :
      IsBad read delivery
  /-- The data have the wrong shape. -/
  | misshapen (delivery : Delivery) (body : Json) (envelope : Envelope) (data : Json)
      (arrived : delivery.read = .ok body) (enveloped : Envelope.ofJson? body = some envelope)
      (noErrors : envelope.errors.getD [] = []) (full : envelope.data = some data)
      (unread : read data = none) : IsBad read delivery

variable {read : Json → Option (Option α)} {delivery : Delivery} {body : Json}
variable {envelope : Envelope}

theorem result_of_envelope (arrived : delivery.read = .ok body)
    (enveloped : Envelope.ofJson? body = some envelope) :
    delivery.result read =
      envelope.contents.bind fun data => (read data).elim (.error .undecodable) .ok := by
  simp only [result, arrived, payload, enveloped]
  cases envelope.contents with
  | error failure => rfl
  | ok data => cases decoded : read data <;> simp [Except.bind, decoded]

theorem reportedFailure_ne_notFound {status : Nat} (other : status ≠ 404) (message : String) :
    reportedFailure status message ≠ .notFound := by
  unfold reportedFailure
  rw [if_neg other]
  split
  · decide
  · split <;> exact RemoteError.noConfusion

theorem SaysMissing.demanded (missing : delivery.SaysMissing read) :
    demanded (delivery.result read) = .error .notFound := by
  cases missing with
  | status text message report =>
      simp [result, Delivery.read, isSuccess, report, reportedFailure, GitHub.demanded]
  | error _ body envelope arrived enveloped missing =>
      rw [result_of_envelope arrived enveloped, Envelope.contents_of_missing missing]
      rfl
  | data _ body envelope data arrived enveloped noErrors full decoded =>
      rw [result_of_envelope arrived enveloped, Envelope.contents_of_noErrors noErrors, full]
      simp [Except.bind, decoded, GitHub.demanded]

/-- A bad answer makes a call fail with another cause. -/
theorem IsBad.result (bad : delivery.IsBad read) :
    ∃ failure, delivery.result read = .error failure ∧ failure ≠ .notFound := by
  cases bad with
  | broken => exact ⟨.transport, rfl, RemoteError.noConfusion⟩
  | garbled status text success unread =>
      refine ⟨.transport, ?_, RemoteError.noConfusion⟩
      simp [Delivery.result, Delivery.read, success, unread]
  | unexplained status text failure unread =>
      refine ⟨.transport, ?_, RemoteError.noConfusion⟩
      simp [Delivery.result, Delivery.read, failure, unread]
  | refused status text message failure report other =>
      refine ⟨reportedFailure status message, ?_, reportedFailure_ne_notFound other message⟩
      simp [Delivery.result, Delivery.read, failure, report]
  | unenveloped _ body arrived unread =>
      refine ⟨.undecodable, ?_, RemoteError.noConfusion⟩
      simp [Delivery.result, arrived, payload, unread]
  | errors _ body envelope arrived enveloped nonempty present =>
      rcases Envelope.contents_of_errors nonempty present with ⟨failure, failed, other⟩
      refine ⟨failure, ?_, other⟩
      rw [result_of_envelope arrived enveloped, failed]
      rfl
  | empty _ body envelope arrived enveloped noErrors noData =>
      refine ⟨.invalidResponse, ?_, RemoteError.noConfusion⟩
      rw [result_of_envelope arrived enveloped, Envelope.contents_of_noErrors noErrors, noData]
      rfl
  | misshapen _ body envelope data arrived enveloped noErrors full unread =>
      refine ⟨.undecodable, ?_, RemoteError.noConfusion⟩
      rw [result_of_envelope arrived enveloped, Envelope.contents_of_noErrors noErrors, full]
      simp [Except.bind, unread]

theorem sorted_of_body (arrived : delivery.read = .ok body) :
    (∃ value, delivery.result read = .ok (some value)) ∨ delivery.SaysMissing read ∨
      delivery.IsBad read := by
  cases enveloped : Envelope.ofJson? body with
  | none => exact .inr (.inr (.unenveloped delivery body arrived enveloped))
  | some envelope =>
      by_cases noErrors : envelope.errors.getD [] = []
      · cases full : envelope.data with
        | none =>
            exact .inr (.inr (.empty delivery body envelope arrived enveloped noErrors full))
        | some data =>
            rcases decoded : read data with _ | _ | value
            · exact .inr (.inr
                (.misshapen delivery body envelope data arrived enveloped noErrors full decoded))
            · exact .inr (.inl
                (.data delivery body envelope data arrived enveloped noErrors full decoded))
            · refine .inl ⟨value, ?_⟩
              rw [result_of_envelope arrived enveloped, Envelope.contents_of_noErrors noErrors,
                full]
              simp [Except.bind, decoded]
      · by_cases missing : envelope.ReportsMissing
        · exact .inr (.inl (.error delivery body envelope arrived enveloped missing))
        · exact .inr (.inr (.errors delivery body envelope arrived enveloped noErrors missing))

/-- An answer holds what was asked for, says that it is missing, or is bad. -/
theorem sorted (read : Json → Option (Option α)) (delivery : Delivery) :
    (∃ value, delivery.result read = .ok (some value)) ∨ delivery.SaysMissing read ∨
      delivery.IsBad read := by
  cases delivery with
  | broken => exact .inr (.inr .broken)
  | response status text =>
      cases success : isSuccess status with
      | true =>
          cases parsed : parseLeading? text with
          | none => exact .inr (.inr (.garbled status text success parsed))
          | some value =>
              have arrived : (response status text).read = .ok value.lastWins := by
                simp [Delivery.read, success, parsed]
              exact sorted_of_body arrived
      | false =>
          cases report : reportMessage? text with
          | none => exact .inr (.inr (.unexplained status text success report))
          | some message =>
              by_cases isMissing : status = 404
              · subst isMissing
                exact .inr (.inl (.status text message report))
              · exact .inr (.inr (.refused status text message success report isMissing))

/-- Just the answers that say so make a call fail for a missing object. -/
theorem saysMissing_iff :
    delivery.SaysMissing read ↔ demanded (delivery.result read) = .error .notFound := by
  refine ⟨SaysMissing.demanded, ?_⟩
  intro failed
  rcases sorted read delivery with ⟨value, held⟩ | missing | bad
  · rw [held] at failed
    cases failed
  · exact missing
  · -- A bad answer fails too, but never for a missing object.
    rcases bad.result with ⟨failure, unread, other⟩
    rw [unread] at failed
    cases failed
    exact absurd rfl other

end Delivery

/-! ## The receipts of a scan -/

namespace Page

/-- No rule of the page has exactly this pattern. -/
def Lacks (page : Page) (pattern : String) : Prop :=
  ∀ rule, some rule ∈ page.rules → rule.pattern ≠ pattern

theorem lacks_of_find? {page : Page} {pattern : String} (lacks : page.find? pattern = none) :
    page.Lacks pattern := by
  intro rule member isPattern
  have passedOver := List.find?_eq_none.mp lacks rule
    (List.mem_filterMap.mpr ⟨some rule, member, rfl⟩)
  exact passedOver (beq_iff_eq.mpr isPattern)

end Page

namespace Client.ScanRun

variable {client : Client} {owner repository pattern : String} {cursor : Option String}
variable {number : UInt32} {receipts : List Receipt} {receipt : Receipt}
variable {result : Except RemoteError Lookup}

theorem document (run : ScanRun client owner repository pattern cursor number receipts result)
    (member : receipt ∈ receipts) : receipt.post.document = .rulesPage := by
  induction run with
  | exhausted => cases member
  | failed | nowhere | found | absent =>
      rcases List.mem_singleton.mp member with rfl
      rfl
  | next cursor number delivery page start receipts result arrived lacks more rest ih =>
      rcases List.mem_cons.mp member with rfl | member
      · rfl
      · exact ih member

/-- An answer without data to read ends the scan. -/
theorem result_of_failed
    (run : ScanRun client owner repository pattern cursor number receipts result)
    (member : receipt ∈ receipts) {failure : RemoteError}
    (unread : receipt.delivery.result Page.ofJson? = .error failure) : result = .error failure := by
  induction run with
  | exhausted => cases member
  | failed cursor number delivery failure failed =>
      rcases List.mem_singleton.mp member with rfl
      rw [failed] at unread
      cases unread
      rfl
  | nowhere cursor number delivery arrived | found cursor number delivery page rule arrived
  | absent cursor number delivery page arrived =>
      rcases List.mem_singleton.mp member with rfl
      rw [arrived] at unread
      cases unread
  | next cursor number delivery page start receipts result arrived lacks more rest ih =>
      rcases List.mem_cons.mp member with rfl | member
      · rw [arrived] at unread
        cases unread
      · exact ih member

/-- A scan finds the repository missing only if an answer says so. -/
theorem exists_saysMissing
    (run : ScanRun client owner repository pattern cursor number receipts result)
    (failed : result = .error .notFound) :
    ∃ receipt ∈ receipts, receipt.delivery.SaysMissing Page.ofJson? := by
  induction run with
  | exhausted => cases failed
  | failed cursor number delivery failure unread =>
      refine ⟨_, List.mem_singleton_self _, Delivery.saysMissing_iff.mpr ?_⟩
      rw [unread]
      cases failed
      rfl
  | nowhere cursor number delivery unknown =>
      refine ⟨_, List.mem_singleton_self _, Delivery.saysMissing_iff.mpr ?_⟩
      rw [unknown]
      rfl
  | found | absent => cases failed
  | next cursor number delivery page start receipts result arrived lacks more rest ih =>
      rcases ih failed with ⟨receipt, member, missing⟩
      exact ⟨receipt, List.mem_cons_of_mem _ member, missing⟩

/-- A scan that finds no rule has seen pages, none of which holds the pattern. -/
theorem pages_of_absent
    (run : ScanRun client owner repository pattern cursor number receipts result)
    {lookup : Lookup} (succeeded : result = .ok lookup) (noRule : lookup.ruleId = none) :
    receipts ≠ [] ∧ ∀ receipt ∈ receipts, ∃ page,
      receipt.delivery.result Page.ofJson? = .ok (some page) ∧ page.Lacks pattern := by
  induction run with
  | exhausted | failed | nowhere => cases succeeded
  | found =>
      cases succeeded
      cases noRule
  | absent cursor number delivery page arrived lacks ends =>
      refine ⟨List.cons_ne_nil _ _, ?_⟩
      intro receipt member
      rcases List.mem_singleton.mp member with rfl
      exact ⟨page, arrived, Page.lacks_of_find? lacks⟩
  | next cursor number delivery page start receipts result arrived lacks more rest ih =>
      refine ⟨List.cons_ne_nil _ _, ?_⟩
      intro receipt member
      rcases List.mem_cons.mp member with rfl | member
      · exact ⟨page, arrived, Page.lacks_of_find? lacks⟩
      · exact (ih succeeded).2 receipt member

end Client.ScanRun

/-! ## The receipts of looking a rule up and fetching it -/

theorem Document.rulesPage_ne_rule : Document.rulesPage ≠ Document.rule := by
  intro same
  have sameName := congrArg Document.name same
  revert sameName
  decide

namespace Receipt

/-- The receipt is that of a page. -/
def HoldsPage (receipt : Receipt) (page : Page) : Prop :=
  receipt.post.document = .rulesPage ∧ receipt.delivery.result Page.ofJson? = .ok (some page)

/-- The receipt is that of a rule. -/
def HoldsRule (receipt : Receipt) (rule : Rule) : Prop :=
  receipt.post.document = .rule ∧ receipt.delivery.result fetchedRule? = .ok (some rule)

/-- GitHub said that there is no such repository, or no such rule. -/
def SaysMissing (receipt : Receipt) : Prop :=
  (receipt.post.document = .rulesPage ∧ receipt.delivery.SaysMissing Page.ofJson?) ∨
    (receipt.post.document = .rule ∧ receipt.delivery.SaysMissing fetchedRule?)

/-- A page or a rule was asked for, and the answer says nothing about it. -/
def IsBad (receipt : Receipt) : Prop :=
  (receipt.post.document = .rulesPage ∧ receipt.delivery.IsBad Page.ofJson?) ∨
    (receipt.post.document = .rule ∧ receipt.delivery.IsBad fetchedRule?)

/-- An answer holds a page or a rule, says that there is none, or is bad. -/
theorem sorted {receipt : Receipt}
    (known : receipt.post.document = .rulesPage ∨ receipt.post.document = .rule) :
    (∃ page, receipt.HoldsPage page) ∨ (∃ rule, receipt.HoldsRule rule) ∨ receipt.SaysMissing ∨
      receipt.IsBad := by
  rcases known with isPage | isRule
  · rcases Delivery.sorted Page.ofJson? receipt.delivery with ⟨page, held⟩ | missing | bad
    · exact .inl ⟨page, isPage, held⟩
    · exact .inr (.inr (.inl (.inl ⟨isPage, missing⟩)))
    · exact .inr (.inr (.inr (.inl ⟨isPage, bad⟩)))
  · rcases Delivery.sorted fetchedRule? receipt.delivery with ⟨rule, held⟩ | missing | bad
    · exact .inr (.inl ⟨rule, isRule, held⟩)
    · exact .inr (.inr (.inl (.inr ⟨isRule, missing⟩)))
    · exact .inr (.inr (.inr (.inr ⟨isRule, bad⟩)))

end Receipt

namespace Client

variable {σ : Type} {responder : Responder (fun _ : Post => Delivery) σ} {client : Client}
variable {request : Request} {state : σ} {receipt : Receipt}

theorem document_of_sighting (isSighting : request.isSighting)
    (member : receipt ∈ ((client.answer request).run responder state).transcript.receipts) :
    receipt.post.document = .rulesPage ∨ receipt.post.document = .rule := by
  cases request with
  | findRule owner repository pattern =>
      exact .inl ((client.scanRun responder owner repository pattern _ _ _ state).document member)
  | fetchRule ruleId =>
      rw [answer, receipts_fetchRule] at member
      rcases List.mem_singleton.mp member with rfl
      exact .inr rfl
  | _ => cases isSighting

/-- A lookup or a fetch finds nothing only if an answer says so. -/
theorem exists_saysMissing (isSighting : request.isSighting)
    (failed : ((client.answer request).run responder state).value = .error .notFound) :
    ∃ receipt ∈ ((client.answer request).run responder state).transcript.receipts,
      receipt.SaysMissing := by
  cases request with
  | findRule owner repository pattern =>
      have scanned := client.scanRun responder owner repository pattern scanBudget none 1 state
      rcases scanned.exists_saysMissing failed with ⟨receipt, member, missing⟩
      exact ⟨receipt, member, .inl ⟨scanned.document member, missing⟩⟩
  | fetchRule ruleId =>
      rw [answer, receipts_fetchRule]
      refine ⟨_, List.mem_singleton_self _, .inr ⟨rfl, ?_⟩⟩
      apply Delivery.saysMissing_iff.mpr
      rw [← run_fetchRule_value]
      exact failed
  | _ => cases isSighting

/-- A lookup that finds no rule has seen pages, none of which holds the pattern. -/
theorem pages_of_absent {owner repository pattern : String} {lookup : Lookup}
    (found : ((client.findRule owner repository pattern).run responder state).value = .ok lookup)
    (noRule : lookup.ruleId = none) :
    ((client.findRule owner repository pattern).run responder state).transcript.receipts ≠ [] ∧
      ∀ receipt ∈ ((client.findRule owner repository pattern).run responder
          state).transcript.receipts,
        ∃ page, receipt.HoldsPage page ∧ page.Lacks pattern := by
  have scanned := client.scanRun responder owner repository pattern scanBudget none 1 state
  rcases scanned.pages_of_absent found noRule with ⟨nonempty, lacking⟩
  refine ⟨nonempty, ?_⟩
  intro receipt member
  rcases lacking receipt member with ⟨page, arrived, lacks⟩
  exact ⟨page, ⟨scanned.document member, arrived⟩, lacks⟩

/-- A bad answer makes a lookup or a fetch fail, and not for a missing object. -/
theorem failure_of_isBad (isSighting : request.isSighting)
    (member : receipt ∈ ((client.answer request).run responder state).transcript.receipts)
    (bad : receipt.IsBad) :
    ∃ failure, ((client.answer request).run responder state).value = .error failure ∧
      failure ≠ .notFound := by
  cases request with
  | findRule owner repository pattern =>
      have scanned := client.scanRun responder owner repository pattern scanBudget none 1 state
      have isPage := scanned.document member
      rcases bad with ⟨-, bad⟩ | ⟨isRule, -⟩
      · rcases bad.result with ⟨failure, unread, other⟩
        exact ⟨failure, scanned.result_of_failed member unread, other⟩
      · exact absurd (isPage.symm.trans isRule) Document.rulesPage_ne_rule
  | fetchRule ruleId =>
      rw [answer, receipts_fetchRule] at member
      rcases List.mem_singleton.mp member with rfl
      rcases bad with ⟨isPage, -⟩ | ⟨-, bad⟩
      · exact absurd isPage.symm Document.rulesPage_ne_rule
      · rcases bad.result with ⟨failure, unread, other⟩
        refine ⟨failure, ?_, other⟩
        rw [answer, run_fetchRule_value, unread]
        rfl
  | _ => cases isSighting

end Client

end GitHub

/-! ## Observing over the network -/

namespace RuleVerbs

open GitHub Dialogue

section

variable {desired left : Desired} {observation : Observation RuleIdentity}
variable {observed : Observing} {calls : List Call}

/-- A rule is taken for missing after a call that found nothing, or a lookup without a rule. -/
theorem ObserveRun.calls_of_absent (run : ObserveRun desired (.ok observation, left) calls)
    (absent : observation.present = false) :
    (∃ call ∈ calls, call.reply = .error .notFound) ∨
      ∃ lookup : Lookup, lookup.ruleId = none ∧ calls = [⟨desired.lookupRequest, .ok lookup⟩] := by
  generalize isResult : (Except.ok observation, left) = result at run
  cases run with
  | refused | unreached | unfetched => cases isResult
  | nowhere => exact .inl ⟨_, List.mem_singleton_self _, rfl⟩
  | absent lookup valid noRule => exact .inr ⟨lookup, noRule, rfl⟩
  | vanished => exact .inl ⟨_, List.mem_cons_of_mem _ (List.mem_singleton_self _), rfl⟩
  | seen =>
      cases isResult
      cases absent

/-- Another failure of a call is the failure of observing. -/
theorem ObserveRun.failed_of_call (run : ObserveRun desired observed calls) {call : Call}
    (made : call ∈ calls) {cause : RemoteError} (failed : call.failure? = some cause)
    (other : cause ≠ .notFound) :
    observed.1 = .error ⟨.observe, .remote cause⟩ := by
  cases run with
  | refused => cases made
  | unreached failure =>
      rcases List.mem_singleton.mp made with rfl
      cases failed
      rfl
  | nowhere =>
      rcases List.mem_singleton.mp made with rfl
      cases failed
      exact absurd rfl other
  | absent =>
      rcases List.mem_singleton.mp made with rfl
      cases failed
  | unfetched lookup ruleId failure =>
      rcases List.mem_pair.mp made with rfl | rfl
      · cases failed
      · cases failed
        rfl
  | vanished =>
      rcases List.mem_pair.mp made with rfl | rfl
      · cases failed
      · cases failed
        exact absurd rfl other
  | seen =>
      rcases List.mem_pair.mp made with rfl | rfl <;> cases failed

end

variable {σ : Type} (responder : Responder (fun _ : Post => Delivery) σ) (client : Client)

/-- The run of observing over the network. -/
abbrev networkRun (desired : Desired) (state : σ) :
    Run (fun _ : Post => Delivery) Event σ Observing :=
  (client.conduct (observe desired)).run responder state

theorem networkRun_observeRun (desired : Desired) (state : σ) :
    ∃ calls, ObserveRun desired (networkRun responder client desired state).value calls ∧
      CarriedOut responder client calls
        (networkRun responder client desired state).transcript.receipts := by
  refine ⟨_, ?_, client.conduct_carriedOut responder (observe desired) state⟩
  rw [networkRun, client.conduct_value]
  exact observeRun (client.respond responder) desired state

/--
An outage is never taken for a missing rule.

A rule is found missing only if GitHub said in an answer that there is no such repository or rule,
or if pages arrived in all answers, of which none holds exactly the pattern.  Every answer to
observing holds a page or a rule, says that there is none, or is bad, and a bad one makes observing
fail for the remote side.
-/
theorem outage_is_no_absence (desired : Desired) (state : σ) :
    let run := networkRun responder client desired state
    (∀ observation left, run.value = (.ok observation, left) → observation.present = false →
      (∃ receipt ∈ run.transcript.receipts, receipt.SaysMissing) ∨
        (run.transcript.receipts ≠ [] ∧ ∀ receipt ∈ run.transcript.receipts,
          ∃ page, receipt.HoldsPage page ∧ page.Lacks desired.pattern)) ∧
    (∀ receipt ∈ run.transcript.receipts,
      (∃ page, receipt.HoldsPage page) ∨ (∃ rule, receipt.HoldsRule rule) ∨
        receipt.SaysMissing ∨ receipt.IsBad) ∧
    ∀ receipt ∈ run.transcript.receipts, receipt.IsBad →
      ∃ failure, run.value.1 = .error failure ∧ failure.verb = .observe ∧
        failure.cause.kind = .remote := by
  intro run
  rcases networkRun_observeRun responder client desired state with ⟨calls, observed, carried⟩
  have sightings := observed.isSighting
  -- Every receipt belongs to a lookup or a fetch, so each part is a fact about one such call.
  refine ⟨?_, ?_, ?_⟩
  · intro observation left concluded absent
    rw [concluded] at observed
    rcases observed.calls_of_absent absent with ⟨call, made, failed⟩ | ⟨lookup, noRule, rfl⟩
    · rcases carried.exists_receipts made with ⟨before, replied, recorded⟩
      rcases Client.exists_saysMissing (sightings call made) (replied.trans failed) with
        ⟨receipt, member, missing⟩
      exact .inl ⟨receipt, recorded member, missing⟩
    · rcases carried.single with ⟨before, found, recorded⟩
      rw [recorded]
      exact .inr (Client.pages_of_absent found noRule)
  · intro receipt member
    rcases carried.exists_call member with ⟨call, made, before, replied, posted⟩
    exact Receipt.sorted (Client.document_of_sighting (sightings call made) posted)
  · intro receipt member bad
    rcases carried.exists_call member with ⟨call, made, before, replied, posted⟩
    rcases Client.failure_of_isBad (sightings call made) posted bad with ⟨cause, failed, other⟩
    have failed := Call.failure?_eq_some.mpr (replied.symm.trans failed)
    exact ⟨_, observed.failed_of_call made failed other, rfl, rfl⟩

/-- Answers from a script, whatever is asked, and with a broken connection at its end. -/
def scripted : Responder (fun _ : Post => Delivery) (List Delivery) :=
  fun _ script => (script.headD .broken, script.tail)

/-- A lookup that a gateway turns down fails, and one of a repository that is gone finds nothing. -/
theorem outage_is_no_absence_sample :
    (∃ failure,
      (networkRun scripted {} (.named "o" "r" "main") [.response 502 "<html>"]).value.1 =
        .error failure ∧ failure.verb = .observe ∧ failure.cause.kind = .remote) ∧
      (networkRun scripted {} (.named "o" "r" "main")
        [.response 404 "\x7b\"message\": \"Not Found\"\x7d"]).value.1 = .ok (.absent false) := by
  refine ⟨?_, rfl⟩
  have bad : Receipt.IsBad
      ⟨Client.pageRequest {} "o" "r" none, .response 502 "<html>"⟩ :=
    .inl ⟨rfl, .unexplained 502 "<html>" rfl (by decide)⟩
  exact (outage_is_no_absence scripted {} (.named "o" "r" "main") [.response 502 "<html>"]).2.2 _
    (List.mem_singleton_self _) bad

end RuleVerbs

end BranchGuard
