import BranchGuard.Config
import BranchGuard.Proofs.Outages
import BranchGuard.Proofs.Paging

/-!
# How far a lookup goes

A lookup asks for one page after the other until an answer stops it (`Search.StopsAt`): a failure, no
repository, a rule with the pattern, a page after which no other can be asked for, or the page limit.
`Search.Turns` is this loop as it stands, with no bound on its turns.  A scan whose budget allows for
the turns of the loop posts their requests and concludes from the last answer (`Search.Turns.scan`).

* Against a script of answers the loop ends at the first answer that stops it, and each page after
  the first is asked for with the cursor of the page before it.  The last answer alone decides the
  result (`Search.Concludes`, `Client.findRule_of_script`).
* Under a page limit the loop ends against every server, and its counter counts the requests and
  stays within the limit (`Config.lookup_within_limit`).
-/

namespace BranchGuard

namespace GitHub

open Dialogue Json

/-- A lookup: by which client, in which repository, and for which pattern. -/
structure Search where
  client : Client
  owner : String
  repository : String
  pattern : String

/-- The state of a lookup before a request: where the page starts, its number, and the server. -/
structure Turn (σ : Type) where
  cursor : Option String
  number : UInt32
  state : σ

/-! ## The rule that is looked for -/

namespace Page

variable {page : Page} {pattern : String} {rule : RuleSummary}

/-- The rule that is found is the first one with the pattern. -/
theorem find?_eq_some_iff :
    page.find? pattern = some rule ↔
      ∃ before after, page.rules = before ++ some rule :: after ∧ rule.pattern = pattern ∧
        ∀ other, some other ∈ before → other.pattern ≠ pattern := by
  rw [find?, List.find?_filterMap, Option.bind_eq_some_iff]
  simp only [id_eq, exists_eq_right, List.find?_eq_some_iff_append, Option.any_some, beq_iff_eq]
  constructor
  · rintro ⟨named, before, after, listed, passed⟩
    refine ⟨before, after, listed, named, ?_⟩
    intro other member
    simpa using passed (some other) member
  · rintro ⟨before, after, listed, named, passed⟩
    refine ⟨named, before, after, listed, ?_⟩
    rintro (_ | other) member
    · rfl
    · simpa using passed other member

/-- No rule is found if none has the pattern. -/
theorem find?_eq_none_iff :
    page.find? pattern = none ↔ ∀ rule, some rule ∈ page.rules → rule.pattern ≠ pattern := by
  rw [find?, List.find?_eq_none]
  simp

end Page

namespace Search

variable {σ : Type} (responder : Responder (fun _ : Post => Delivery) σ) (search : Search)

/-! ## The answer that stops a lookup -/

/-- The answer to the request with this number, counted from 1, is the last that is needed. -/
inductive StopsAt (number : Nat) (delivery : Delivery) : Prop where
  /-- The answer holds no data that can be read. -/
  | failed (failure : RemoteError) (unread : delivery.result Page.ofJson? = .error failure)
  /-- There is no such repository. -/
  | nowhere (unknown : delivery.result Page.ofJson? = .ok none)
  /-- The page holds a rule with exactly the pattern. -/
  | found (page : Page) (rule : RuleSummary)
      (arrived : delivery.result Page.ofJson? = .ok (some page))
      (member : some rule ∈ page.rules) (named : rule.pattern = search.pattern)
  /-- The page does not say that there is another one, or not where it starts. -/
  | complete (page : Page) (arrived : delivery.result Page.ofJson? = .ok (some page))
      (noMore : page.hasNextPage = false ∨ page.endCursor = none)
  /-- The page limit is reached. -/
  | limited (page : Page) (limit : UInt32)
      (arrived : delivery.result Page.ofJson? = .ok (some page))
      (isLimit : search.client.maxPages = some limit) (reached : limit.toNat ≤ number)

/-- What a lookup makes of the answer that stops it. -/
def conclusion (delivery : Delivery) : Except RemoteError Lookup :=
  match delivery.result Page.ofJson? with
  | .error failure => .error failure
  | .ok none => .error .notFound
  | .ok (some page) => .ok ⟨page.repositoryId, (page.find? search.pattern).map (·.id)⟩

/-- What the answer that stops a lookup says, with the rules of its page in their order. -/
inductive Concludes (delivery : Delivery) : Except RemoteError Lookup → Prop where
  /-- The answer holds no data that can be read. -/
  | failed (failure : RemoteError) (unread : delivery.result Page.ofJson? = .error failure) :
      Concludes delivery (.error failure)
  /-- There is no such repository. -/
  | nowhere (unknown : delivery.result Page.ofJson? = .ok none) :
      Concludes delivery (.error .notFound)
  /-- The first rule of the page that has the pattern. -/
  | found (page : Page) (rule : RuleSummary) (before after : List (Option RuleSummary))
      (arrived : delivery.result Page.ofJson? = .ok (some page))
      (listed : page.rules = before ++ some rule :: after)
      (named : rule.pattern = search.pattern)
      (passed : ∀ other, some other ∈ before → other.pattern ≠ search.pattern) :
      Concludes delivery (.ok ⟨page.repositoryId, some rule.id⟩)
  /-- No rule of the page has the pattern. -/
  | absent (page : Page) (arrived : delivery.result Page.ofJson? = .ok (some page))
      (lacks : ∀ rule, some rule ∈ page.rules → rule.pattern ≠ search.pattern) :
      Concludes delivery (.ok ⟨page.repositoryId, none⟩)

variable {search} {delivery : Delivery} {page : Page} {number : UInt32}

theorem concludes_iff {result : Except RemoteError Lookup} :
    search.Concludes delivery result ↔ result = search.conclusion delivery := by
  rw [conclusion]
  constructor
  · intro concluded
    cases concluded with
    | failed failure unread => rw [unread]
    | nowhere unknown => rw [unknown]
    | found page rule before after arrived listed named passed =>
        have first := Page.find?_eq_some_iff.mpr ⟨before, after, listed, named, passed⟩
        rw [arrived]
        simp [first]
    | absent page arrived lacks =>
        rw [arrived]
        simp [Page.find?_eq_none_iff.mpr lacks]
  · rintro rfl
    rcases arrived : delivery.result Page.ofJson? with failure | _ | page
    · exact .failed failure arrived
    · exact .nowhere arrived
    · cases named : page.find? search.pattern with
      | none =>
          simp only [named]
          exact .absent page arrived (Page.find?_eq_none_iff.mp named)
      | some rule =>
          rcases Page.find?_eq_some_iff.mp named with ⟨before, after, listed, isNamed, passed⟩
          simp only [named]
          exact .found page rule before after arrived listed isNamed passed

/-- The scan can go on from the end of a page if there is another one and the limit allows it. -/
theorem nextCursor?_eq_some_iff {client : Client} {start : String} :
    client.nextCursor? page number = some start ↔
      page.hasNextPage = true ∧ page.endCursor = some start ∧
        ∀ limit, client.maxPages = some limit → number.toNat < limit.toNat := by
  cases isLimit : client.maxPages with
  | none => simp [Client.nextCursor?, Client.stopsAfter, isLimit]
  | some limit =>
      simp only [Client.nextCursor?, Client.stopsAfter_of_limit isLimit]
      cases page.hasNextPage <;> simp [and_comm]

/-- An answer that does not stop the lookup says where to go on. -/
theorem exists_next (goesOn : ¬ search.StopsAt number.toNat delivery) :
    ∃ page start, delivery.result Page.ofJson? = .ok (some page) ∧
      page.find? search.pattern = none ∧
        search.client.nextCursor? page number = some start := by
  rcases arrived : delivery.result Page.ofJson? with failure | _ | page
  · exact absurd (.failed failure arrived) goesOn
  · exact absurd (.nowhere arrived) goesOn
  · have lacks : page.find? search.pattern = none := by
      rw [Page.find?_eq_none_iff]
      intro rule member named
      exact goesOn (.found page rule arrived member named)
    have hasNext : page.hasNextPage = true := by
      rw [← Bool.not_eq_false]
      intro noNext
      exact goesOn (.complete page arrived (.inl noNext))
    cases follows : page.endCursor with
    | none => exact absurd (.complete page arrived (.inr follows)) goesOn
    | some start =>
        refine ⟨page, start, rfl, lacks, nextCursor?_eq_some_iff.mpr ⟨hasNext, follows, ?_⟩⟩
        intro limit isLimit
        rw [← Nat.not_le]
        intro reached
        exact goesOn (.limited page limit arrived isLimit reached)

/-- A page without the pattern that stops the lookup leads to no other page. -/
theorem nextCursor?_of_stops (stops : search.StopsAt number.toNat delivery)
    (arrived : delivery.result Page.ofJson? = .ok (some page))
    (lacks : page.find? search.pattern = none) :
    search.client.nextCursor? page number = none := by
  have isPage {other : Page} (found : delivery.result Page.ofJson? = .ok (some other)) :
      other = page :=
    Option.some.inj (Except.ok.inj (found.symm.trans arrived))
  rw [Option.eq_none_iff_forall_ne_some]
  intro start isNext
  rcases nextCursor?_eq_some_iff.mp isNext with ⟨hasNext, follows, within⟩
  cases stops with
  | failed failure unread => rw [arrived] at unread; cases unread
  | nowhere unknown => rw [arrived] at unknown; cases unknown
  | found other rule found member named =>
      cases isPage found
      exact absurd named (Page.find?_eq_none_iff.mp lacks rule member)
  | complete other found noMore =>
      cases isPage found
      rcases noMore with noNext | noCursor
      · rw [hasNext] at noNext
        cases noNext
      · rw [follows] at noCursor
        cases noCursor
  | limited other limit found isLimit reached =>
      exact absurd (within limit isLimit) (Nat.not_lt.mpr reached)

/-! ## Turns of the loop -/

variable (search)

/-- The request of a turn. -/
def request (turn : Turn σ) : Post :=
  search.client.pageRequest search.owner search.repository turn.cursor

/-- What comes back for the request of a turn. -/
def answer (turn : Turn σ) : Delivery :=
  (responder (search.request turn) turn.state).1

/-- The turn after one whose page ends at a cursor. -/
def nextTurn (turn : Turn σ) (start : String) : Turn σ :=
  ⟨some start, turn.number + 1, (responder (search.request turn) turn.state).2⟩

/-- The loop of a lookup, from a turn on, takes these turns and then ends. -/
inductive Turns : Turn σ → List (Turn σ) → Prop where
  /-- The answer stops the lookup. -/
  | last (turn : Turn σ)
      (stops : search.StopsAt turn.number.toNat (search.answer responder turn)) :
      Turns turn [turn]
  /-- The lookup goes on where the page ends. -/
  | next (turn : Turn σ) (page : Page) (start : String) (turns : List (Turn σ))
      (goesOn : ¬ search.StopsAt turn.number.toNat (search.answer responder turn))
      (arrived : (search.answer responder turn).result Page.ofJson? = .ok (some page))
      (follows : page.endCursor = some start)
      (later : Turns (search.nextTurn responder turn start) turns) :
      Turns turn (turn :: turns)

/-- The scan that starts with a turn. -/
def scan (budget : Nat) (turn : Turn σ) :
    Run (fun _ : Post => Delivery) Event σ (Except RemoteError Lookup) :=
  (search.client.scan search.owner search.repository search.pattern budget turn.cursor
    turn.number).run responder turn.state

theorem run_findRule (state : σ) :
    (search.client.findRule search.owner search.repository search.pattern).run responder state =
      search.scan responder Client.scanBudget ⟨none, 1, state⟩ := rfl

/-- A scan is over with the answer that stops it. -/
theorem scan_of_stops (budget : Nat) {turn : Turn σ}
    (stops : search.StopsAt turn.number.toNat (search.answer responder turn)) :
    (search.scan responder (budget + 1) turn).transcript.receipts =
        [⟨search.request turn, search.answer responder turn⟩] ∧
      (search.scan responder (budget + 1) turn).value =
        search.conclusion (search.answer responder turn) := by
  simp only [answer, request, Client.pageRequest] at stops ⊢
  rw [scan, Client.scan, run_bind_transcript, run_bind_value, Transcript.receipts_append,
    receipts_post, run_post_value, conclusion]
  rcases arrived : (responder ⟨.rulesPage, search.client.pageArguments search.owner
    search.repository turn.cursor⟩ turn.state).1.result Page.ofJson? with failure | _ | page
  · exact ⟨rfl, rfl⟩
  · exact ⟨rfl, rfl⟩
  · cases named : page.find? search.pattern with
    | some rule => simp [named]
    | none =>
        have ends := nextCursor?_of_stops stops arrived named
        simp [named, ends, Client.run_concludeScan_value, Client.receipts_concludeScan]

/-- A scan goes on with the turn after an answer that does not stop it. -/
theorem scan_of_next (budget : Nat) {turn : Turn σ} {page : Page} {start : String}
    (goesOn : ¬ search.StopsAt turn.number.toNat (search.answer responder turn))
    (arrived : (search.answer responder turn).result Page.ofJson? = .ok (some page))
    (follows : page.endCursor = some start) :
    (search.scan responder (budget + 1) turn).transcript.receipts =
        ⟨search.request turn, search.answer responder turn⟩ ::
          (search.scan responder budget
            (search.nextTurn responder turn start)).transcript.receipts ∧
      (search.scan responder (budget + 1) turn).value =
        (search.scan responder budget (search.nextTurn responder turn start)).value := by
  rcases exists_next goesOn with ⟨other, cursor, found, lacks, more⟩
  cases Option.some.inj (Except.ok.inj (found.symm.trans arrived))
  have sameCursor := (nextCursor?_eq_some_iff.mp more).2.1
  cases Option.some.inj (sameCursor.symm.trans follows)
  simp only [scan, nextTurn, answer, request, Client.pageRequest] at arrived ⊢
  rw [Client.scan, run_bind_transcript, run_bind_value, Transcript.receipts_append,
    receipts_post, run_post_value, run_post_state, arrived]
  simp [lacks, more]

variable {responder search} {turn : Turn σ} {turns : List (Turn σ)}

theorem Turns.ne_nil (loop : search.Turns responder turn turns) : turns ≠ [] := by
  cases loop <;> exact List.cons_ne_nil _ _

/--
A scan that may take as many turns as the loop does posts the requests of these turns, and concludes
from the last answer.
-/
theorem Turns.scan (loop : search.Turns responder turn turns) {budget : Nat}
    (enough : turns.length ≤ budget) :
    (search.scan responder budget turn).transcript.receipts =
        turns.map (fun turn => ⟨search.request turn, search.answer responder turn⟩) ∧
      (search.scan responder budget turn).value =
        search.conclusion (search.answer responder (turns.getLast loop.ne_nil)) := by
  induction loop generalizing budget with
  | last turn stops =>
      cases budget with
      | zero => exact absurd enough (Nat.not_succ_le_zero _)
      | succ budget => exact scan_of_stops responder search budget stops
  | next turn page start turns goesOn arrived follows later ih =>
      cases budget with
      | zero => exact absurd enough (Nat.not_succ_le_zero _)
      | succ budget =>
          rcases ih (Nat.le_of_succ_le_succ enough) with ⟨posted, concluded⟩
          rcases scan_of_next responder search budget goesOn arrived follows with ⟨first, same⟩
          constructor
          · rw [first, posted, List.map_cons]
          · rw [same, concluded, List.getLast_cons later.ne_nil]

end Search

/-! ## Scripted answers -/

/-- Where a page says that the next one starts. -/
def Delivery.endCursor? (delivery : Delivery) : Option String :=
  match delivery.result Page.ofJson? with
  | .ok (some page) => page.endCursor
  | _ => none

/-- The answer at a position of a script, with a broken connection after its end. -/
def answerAt (script : List Delivery) (index : Nat) : Delivery :=
  script.getD index .broken

/-- The cursor of the request at a position: the first one given, then that of the page before. -/
def cursorAt (first : Option String) (script : List Delivery) : Nat → Option String
  | 0 => first
  | index + 1 => (answerAt script index).endCursor?

/-- The turn at a position of a script, of which the first has the given cursor and number. -/
def turnAt (first : Option String) (number : Nat) (script : List Delivery) (index : Nat) :
    Turn (List Delivery) :=
  ⟨cursorAt first script index, UInt32.ofNat (number + index), script.drop index⟩

theorem turnAt_succ {delivery : Delivery} {start : String}
    (isNext : delivery.endCursor? = some start) (first : Option String) (number : Nat)
    (rest : List Delivery) (index : Nat) :
    turnAt first number (delivery :: rest) (index + 1) =
      turnAt (some start) (number + 1) rest index := by
  have sameNumber : number + (index + 1) = number + 1 + index := by omega
  rw [turnAt, turnAt, sameNumber, List.drop_succ_cons]
  cases index with
  | zero => exact congrArg (Turn.mk · _ _) isNext
  | succ index => rfl

theorem answer_turnAt (search : Search) (first : Option String) (number : Nat)
    (script : List Delivery) (index : Nat) :
    search.answer RuleVerbs.scripted (turnAt first number script index) =
      answerAt script index := by
  rw [Search.answer, turnAt, answerAt, RuleVerbs.scripted, List.headD_eq_head?_getD,
    List.head?_drop, List.getD_eq_getElem?_getD]

/-- The loop ends at the first answer of a script that stops it. -/
theorem Search.turns_of_script (search : Search) (script : List Delivery)
    (first : Option String) (number : Nat) (few : number + script.length ≤ UInt32.size) :
    ∃ last, last ≤ script.length ∧
      search.StopsAt (number + last) (answerAt script last) ∧
      (∀ index < last, ¬ search.StopsAt (number + index) (answerAt script index)) ∧
      search.Turns RuleVerbs.scripted ⟨first, UInt32.ofNat number, script⟩
        ((List.range (last + 1)).map (turnAt first number script)) := by
  induction script generalizing first number with
  | nil =>
      have stops (number : Nat) : search.StopsAt number .broken := .failed .transport rfl
      exact ⟨0, Nat.le_refl 0, stops _, fun _ before => absurd before (Nat.not_lt_zero _),
        .last _ (stops _)⟩
  | cons delivery rest ih =>
      rw [List.length_cons] at few
      have exact : (UInt32.ofNat number).toNat = number :=
        UInt32.toNat_ofNat_of_lt' (by omega)
      by_cases stops : search.StopsAt number delivery
      · refine ⟨0, Nat.zero_le _, stops, fun _ before => absurd before (Nat.not_lt_zero _), ?_⟩
        apply Turns.last
        rw [exact]
        exact stops
      · have goesOn : ¬ search.StopsAt (UInt32.ofNat number).toNat delivery := by rwa [exact]
        rcases exists_next goesOn with ⟨page, start, arrived, -, more⟩
        have follows := (nextCursor?_eq_some_iff.mp more).2.1
        have isNext : delivery.endCursor? = some start := by
          simp only [Delivery.endCursor?, arrived, follows]
        rcases ih (some start) (number + 1) (by omega) with ⟨last, bound, ends, before, loop⟩
        have shift (index : Nat) : number + (index + 1) = number + 1 + index := by omega
        refine ⟨last + 1, Nat.succ_le_succ bound, ?_, ?_, ?_⟩
        · rw [shift]
          exact ends
        · intro index isBefore
          cases index with
          | zero => exact stops
          | succ index =>
              rw [shift]
              exact before index (Nat.lt_of_succ_lt_succ isBefore)
        · have later : turnAt first number (delivery :: rest) ∘ Nat.succ =
              turnAt (some start) (number + 1) rest := funext (turnAt_succ isNext first number rest)
          have nextNumber : UInt32.ofNat number + 1 = UInt32.ofNat (number + 1) :=
            (UInt32.ofNat_add number 1).symm
          rw [List.range_succ_eq_map, List.map_cons, List.map_map, later]
          refine .next _ page start _ goesOn arrived follows ?_
          rw [nextTurn, nextNumber]
          exact loop

/--
A lookup stops at the first answer of a script that stops it.

It makes as many requests as it takes to get there.  Each asks for a page of the size of the client
in the repository, the first without a cursor and each other one with the cursor of the page before
it.  The result is what the last answer comes down to.
-/
theorem Client.findRule_of_script (client : Client) (owner repository pattern : String)
    (script : List Delivery) (few : script.length < UInt32.size) :
    let search : Search := ⟨client, owner, repository, pattern⟩
    let run := (client.findRule owner repository pattern).run RuleVerbs.scripted script
    ∃ last, search.StopsAt (last + 1) (answerAt script last) ∧
      (∀ index < last, ¬ search.StopsAt (index + 1) (answerAt script index)) ∧
      run.transcript.receipts = (List.range (last + 1)).map (fun index =>
        ⟨client.pageRequest owner repository (cursorAt none script index),
          answerAt script index⟩) ∧
      (∀ (index : Nat) (receipt : Receipt), run.transcript.receipts[index]? = some receipt →
        receipt.post.AsksForPage owner repository client.pageSize.toNat
          (cursorAt none script index)) ∧
      search.Concludes (answerAt script last) run.value := by
  intro search run
  rcases search.turns_of_script script none 1 (by omega) with ⟨last, bound, ends, before, loop⟩
  have enough : ((List.range (last + 1)).map (turnAt none 1 script)).length ≤ scanBudget := by
    rw [List.length_map, List.length_range, scanBudget]
    omega
  have started : run = search.scan RuleVerbs.scripted scanBudget ⟨none, UInt32.ofNat 1, script⟩ :=
    search.run_findRule RuleVerbs.scripted script
  rcases loop.scan enough with ⟨posted, concluded⟩
  have receipts : run.transcript.receipts = (List.range (last + 1)).map (fun index =>
      ⟨client.pageRequest owner repository (cursorAt none script index),
        answerAt script index⟩) := by
    rw [started, posted, List.map_map]
    apply List.map_congr_left
    intro index _
    exact congrArg (Receipt.mk _) (answer_turnAt search none 1 script index)
  refine ⟨last, ?_, ?_, receipts, ?_, ?_⟩
  · rw [Nat.add_comm]
    exact ends
  · intro index isBefore
    rw [Nat.add_comm]
    exact before index isBefore
  · intro index receipt found
    rw [receipts] at found
    rcases List.getElem?_eq_some_iff.mp found with ⟨inRange, rfl⟩
    rw [List.getElem_map, List.getElem_range]
    exact asksForPage client owner repository _
  · rw [Search.concludes_iff, started]
    apply concluded.trans
    have isLast : (List.range (last + 1)).getLast (by simp) = last := by simp
    rw [List.getLast_map, isLast, answer_turnAt]

/-- The second of two pages holds the pattern, and what the server would say then is not asked for. -/
theorem Client.findRule_of_script_sample :
    let script := [.response 200 (sampleText 0 1), .response 200 (sampleText 1 1), .broken]
    let run := (({} : Client).findRule "o" "r" "main").run RuleVerbs.scripted script
    script.length < UInt32.size ∧ run.transcript.receipts.length = 2 ∧
      run.value = .ok ⟨"R_1", some "BPR_2"⟩ := by
  intro script run
  let search : Search := ⟨{}, "o", "r", "main"⟩
  have few : script.length < UInt32.size := by decide
  rcases findRule_of_script {} "o" "r" "main" script few with
    ⟨last, stops, before, posted, -, concluded⟩
  have first : (answerAt script 0).result Page.ofJson? = .ok (some (samplePage 0 1)) :=
    result_sampleText (.inl rfl) (Nat.le_refl 1)
  have second : (answerAt script 1).result Page.ofJson? = .ok (some (samplePage 1 1)) :=
    result_sampleText (.inr rfl) (Nat.le_refl 1)
  have notFirst : last ≠ 0 := by
    rintro rfl
    have lacks : (samplePage 0 1).find? search.pattern = none := by decide
    have noCursor : search.client.nextCursor? (samplePage 0 1) 1 = none :=
      Search.nextCursor?_of_stops stops first lacks
    exact absurd noCursor (by decide)
  have notLater : ¬ 1 < last := by
    intro later
    apply before 1 later
    exact .found (samplePage 1 1) ⟨"BPR_2", "main"⟩ second (by decide) rfl
  obtain rfl : last = 1 := by omega
  refine ⟨few, ?_, ?_⟩
  · rw [posted, List.length_map, List.length_range]
  · rw [Search.concludes_iff.mp concluded, Search.conclusion, second]
    rfl

/-! ## Page limits -/

/-- Under a page limit the loop ends, and its counter counts the turns. -/
theorem Search.turns_of_limit {σ : Type} (responder : Responder (fun _ : Post => Delivery) σ)
    (search : Search) {limit : UInt32} (isLimit : search.client.maxPages = some limit)
    (remaining : Nat) (turn : Turn σ) (within : turn.number.toNat + remaining = limit.toNat) :
    ∃ turns, search.Turns responder turn turns ∧ turns.length ≤ remaining + 1 ∧
      turns.map (fun turn => turn.number.toNat) =
        List.range' turn.number.toNat turns.length := by
  induction remaining generalizing turn with
  | zero =>
      refine ⟨[turn], .last turn ?_, Nat.le_refl 1, rfl⟩
      by_contra goesOn
      rcases exists_next goesOn with ⟨page, start, -, -, more⟩
      have below := (nextCursor?_eq_some_iff.mp more).2.2 limit isLimit
      omega
  | succ remaining ih =>
      by_cases stops : search.StopsAt turn.number.toNat (search.answer responder turn)
      · exact ⟨[turn], .last turn stops, Nat.le_add_left 1 _, rfl⟩
      · rcases exists_next stops with ⟨page, start, arrived, -, more⟩
        have follows := (nextCursor?_eq_some_iff.mp more).2.1
        have nextNumber : (turn.number + 1).toNat = turn.number.toNat + 1 :=
          Client.toNat_next ((nextCursor?_eq_some_iff.mp more).2.2 limit isLimit)
        rcases ih (search.nextTurn responder turn start) (by rw [nextTurn, nextNumber]; omega) with
          ⟨turns, loop, bound, counted⟩
        refine ⟨turn :: turns, .next turn page start turns stops arrived follows loop,
          Nat.succ_le_succ bound, ?_⟩
        rw [List.map_cons, counted, List.length_cons, List.range'_succ, nextTurn, nextNumber]

theorem Search.number_le_of_counted {σ : Type} {turns : List (Turn σ)} {limit : UInt32}
    (counted : turns.map (fun turn => turn.number.toNat) = List.range' 1 turns.length)
    (within : turns.length ≤ limit.toNat) : ∀ turn ∈ turns, turn.number ≤ limit := by
  intro turn member
  have isCounted : turn.number.toNat ∈ List.range' 1 turns.length := by
    rw [← counted]
    exact List.mem_map_of_mem member
  have inRange := List.mem_range'_1.mp isCounted
  rw [UInt32.le_iff_toNat_le]
  omega

end GitHub

namespace Config

open Dialogue GitHub

variable {config : Config} {client : Client}

/-- Settings pass if each of them is in its range. -/
theorem validate_eq_ok :
    config.validate = .ok () ↔
      (1 ≤ config.pageSize ∧ config.pageSize ≤ maxPageSize) ∧ config.maxPages ≠ some 0 ∧
        config.baseUri.any Text.isBlank = false := by
  rw [validate, checkPageSize, checkMaxPages, checkBaseUri]
  split
  next inRange =>
    split
    next isZero => simp [isZero, Bind.bind, Except.bind]
    next notZero =>
      split
      next blank => simp [blank, Bind.bind, Except.bind]
      next notBlank => simp [inRange, notZero, notBlank, Bind.bind, Except.bind]
  next outOfRange => simp [outOfRange, Bind.bind, Except.bind]

theorem limit_positive (valid : config.validate = .ok ()) {limit : UInt32}
    (isLimit : config.maxPages = some limit) : 0 < limit.toNat := by
  rw [Nat.pos_iff_ne_zero]
  intro isZero
  apply (validate_eq_ok.mp valid).2.1
  have noPages : limit = 0 := UInt32.toNat_inj.mp isZero
  rw [isLimit, noPages]

/-- A client has the settings that it was built from: the page size is in its range already. -/
theorem client_eq_ok (valid : config.validate = .ok ()) (built : config.client = .ok client) :
    client = ⟨config.pageSize, config.maxPages⟩ := by
  rcases validate_eq_ok.mp valid with ⟨⟨least, greatest⟩, -, -⟩
  have notBelow : ¬ config.pageSize < 1 := UInt32.not_lt.mpr least
  have notAbove : ¬ maxPageSize < config.pageSize := UInt32.not_lt.mpr greatest
  rw [Config.client] at built
  cases checked : config.checkedUri with
  | error failure => rw [checked] at built; cases built
  | ok =>
      rw [checked] at built
      cases built
      simp [Client.withMaxPages, Client.withPageSize, notBelow, notAbove]

/--
A configured page limit bounds every lookup, whatever the server answers.

The loop of the lookup ends by itself, with an answer that stops it, after at most as many requests
as the limit allows for.  Each of them asks for the configured page size, and the page counter is the
number of the request, so it never exceeds the limit.
-/
theorem lookup_within_limit (valid : config.validate = .ok ()) {limit : UInt32}
    (isLimit : config.maxPages = some limit) (built : config.client = .ok client) {σ : Type}
    (responder : Responder (fun _ : Post => Delivery) σ) (owner repository pattern : String)
    (state : σ) :
    let search : Search := ⟨client, owner, repository, pattern⟩
    let run := (client.findRule owner repository pattern).run responder state
    ∃ turns, search.Turns responder ⟨none, 1, state⟩ turns ∧
      turns.length ≤ limit.toNat ∧
      (∀ turn ∈ turns, turn.number ≤ limit) ∧
      turns.map (fun turn => turn.number.toNat) = List.range' 1 turns.length ∧
      run.transcript.receipts =
        turns.map (fun turn => ⟨search.request turn, search.answer responder turn⟩) ∧
      (∃ last, turns.getLast? = some last ∧
        run.value = search.conclusion (search.answer responder last)) ∧
      ∀ receipt ∈ run.transcript.receipts, ∃ cursor,
        receipt.post.AsksForPage owner repository config.pageSize.toNat cursor := by
  intro search run
  cases client_eq_ok valid built
  have positive := limit_positive valid isLimit
  have first : (1 : UInt32).toNat + (limit.toNat - 1) = limit.toNat := by
    rw [UInt32.toNat_one]
    omega
  rcases search.turns_of_limit responder isLimit (limit.toNat - 1) ⟨none, 1, state⟩ first with
    ⟨turns, loop, bound, counted⟩
  have counted : turns.map (fun turn => turn.number.toNat) = List.range' 1 turns.length := counted
  have withinLimit : turns.length ≤ limit.toNat := by omega
  have enough : turns.length ≤ Client.scanBudget := by
    have belowSize : limit.toNat < UInt32.size := limit.toNat_lt_size
    rw [Client.scanBudget]
    omega
  have started : run = search.scan responder Client.scanBudget ⟨none, 1, state⟩ :=
    search.run_findRule responder state
  rcases loop.scan enough with ⟨posted, concluded⟩
  rw [← started] at posted concluded
  refine ⟨turns, loop, withinLimit, Search.number_le_of_counted counted withinLimit, counted,
    posted, ?_, ?_⟩
  · exact ⟨_, List.getLast?_eq_some_getLast loop.ne_nil, concluded⟩
  · intro receipt member
    rw [posted] at member
    rcases List.mem_map.mp member with ⟨turn, -, rfl⟩
    exact ⟨turn.cursor, Client.asksForPage _ owner repository turn.cursor⟩

/-- A server that always promises another page and never gets on. -/
def endlessServer : Responder (fun _ : Post => Delivery) Unit :=
  fun _ _ => (.response 200 (pageText "null" "\"hasNextPage\":true,\"endCursor\":\"1\""), ())

theorem lookup_within_limit_sample :
    let config : Config := { pageSize := 50, maxPages := some 2 }
    let client : Client := ⟨50, some 2⟩
    let run := (client.findRule "o" "r" "main").run endlessServer ()
    config.validate = .ok () ∧ config.maxPages = some 2 ∧ config.client = .ok client ∧
      (∃ turns, Search.Turns endlessServer ⟨client, "o", "r", "main"⟩ ⟨none, 1, ()⟩ turns ∧
        turns.length ≤ 2 ∧ (∀ turn ∈ turns, turn.number ≤ 2)) ∧
      run.transcript.questions.length = 2 := by
  intro config client run
  have valid : config.validate = .ok () := rfl
  have isLimit : config.maxPages = some 2 := rfl
  have built : config.client = .ok client := rfl
  rcases lookup_within_limit valid isLimit built endlessServer "o" "r" "main" () with
    ⟨turns, loop, bound, counter, -⟩
  refine ⟨valid, isLimit, built, ⟨turns, loop, bound, counter⟩, ?_⟩
  decide +kernel

end Config

end BranchGuard
