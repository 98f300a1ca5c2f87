import BranchGuard.Proofs.Exchanges
import BranchGuard.Proofs.WrittenRecords

/-!
# Looking up a pattern page by page

A repository lists its rules in an order of its own, and a server shows the listing in pages
(`Serves`): a cursor stands for the number of rules before it, a page holds the rules that come
next, and there is another page if and only if rules are left.  A server that writes its pages as
GitHub does shows the listing in this sense (`serves_of_bodies`).

A scan over such a server looks at a prefix of the listing (`Client.scope`), the whole of it if the
client has no page limit, and finds the first rule of the prefix that has the pattern
(`scan_of_serves`).  How the listing is cut into pages has no part in it (`lookup_of_serves`).
-/

namespace BranchGuard.GitHub

open Dialogue Json

/-! ## Servers of a listing -/

/-- The rules of a repository in the order in which they are listed. -/
structure Listing where
  repositoryId : String
  rules : List RuleSummary
deriving DecidableEq, Repr

/-- The request asks for so many rules of a repository, from a cursor on. -/
structure Post.AsksForPage (post : Post) (owner repository : String) (size : Nat)
    (cursor : Option String) : Prop where
  document : post.document = .rulesPage
  owner : post.arguments.member? "owner" = some (.string owner)
  repository : post.arguments.member? "name" = some (.string repository)
  size : post.arguments.member? "pageSize" = some (.integer size)
  cursor : post.arguments.member? "cursor" = some (orNull .string cursor)

/-- The page holds the rules after the first `start` ones, up to `size` of them. -/
structure Listing.Shows (listing : Listing) (position : String → Nat) (start size : Nat)
    (page : Page) : Prop where
  repositoryId : page.repositoryId = listing.repositoryId
  rules : page.rules = ((listing.rules.drop start).take size).map some
  hasNextPage : page.hasNextPage = decide (start + size < listing.rules.length)
  endCursor : start + size < listing.rules.length →
    ∃ cursor, page.endCursor = some cursor ∧ position cursor = start + size

/-- The number of rules before a cursor; without one the listing starts over. -/
def startOf (position : String → Nat) (cursor : Option String) : Nat :=
  (cursor.map position).getD 0

/-- The server shows the listing in pages of every size that GitHub accepts. -/
def Serves {σ : Type} (responder : Responder (fun _ : Post => Delivery) σ)
    (owner repository : String) (listing : Listing) (position : String → Nat) : Prop :=
  ∀ post state size cursor, 1 ≤ size → size ≤ maxPageSize.toNat →
    post.AsksForPage owner repository size cursor →
      ∃ page, (responder post state).1.result Page.ofJson? = .ok (some page) ∧
        listing.Shows position (startOf position cursor) size page

/-! ## Pages on the wire -/

/-- A rule of a page as GitHub writes it. -/
def RuleSummary.toJson (rule : RuleSummary) : Json :=
  .object [("id", .string rule.id), ("pattern", .string rule.pattern)]

namespace Page

/-- The repository of a page as GitHub writes it. -/
def toJson (page : Page) : Json :=
  .object
    [("id", .string page.repositoryId),
     ("branchProtectionRules", .object
       [("pageInfo", .object
         [("hasNextPage", .bool page.hasNextPage), ("endCursor", orNull .string page.endCursor)]),
        ("nodes", .array (page.rules.map (orNull RuleSummary.toJson)))])]

/-- The body of an answer that holds the page. -/
def body (page : Page) : Json :=
  .object [("data", .object [("repository", page.toJson)])]

theorem rules_toJson (rules : List (Option RuleSummary)) :
    listOf? (orAbsent? RuleSummary.ofJson?) (.array (rules.map (orNull RuleSummary.toJson))) =
      some rules := by
  have each : Recovers (orAbsent? RuleSummary.ofJson?) (orNull RuleSummary.toJson) := by
    intro rule
    cases rule <;> rfl
  exact each.list rules

theorem ofRepository?_toJson (page : Page) : ofRepository? page.toJson = some page := by
  rcases page with ⟨repositoryId, hasNextPage, endCursor, rules⟩
  have read : ofRepository? (toJson ⟨repositoryId, hasNextPage, endCursor, rules⟩) =
      (listOf? (orAbsent? RuleSummary.ofJson?)
        (.array (rules.map (orNull RuleSummary.toJson)))).bind fun rules =>
          some ⟨repositoryId, hasNextPage, endCursor, rules⟩ := by
    cases endCursor <;> rfl
  rw [read, rules_toJson]
  rfl

theorem ofJson?_toJson (page : Page) :
    ofJson? (.object [("repository", page.toJson)]) = some (some page) := by
  have read : ofJson? (.object [("repository", page.toJson)]) =
      (ofRepository? page.toJson).map some := rfl
  rw [read, ofRepository?_toJson]
  rfl

/-- A page is read as it was written. -/
theorem payload_body (page : Page) : payload ofJson? page.body = .ok (some page) := by
  have envelope : Envelope.ofJson? page.body =
      some ⟨some (.object [("repository", page.toJson)]), none⟩ := rfl
  have contents : Envelope.contents ⟨some (.object [("repository", page.toJson)]), none⟩ =
      .ok (.object [("repository", page.toJson)]) := rfl
  simp only [payload, envelope, contents, ofJson?_toJson]

end Page

/-- A server that sends its pages as GitHub writes them shows the listing. -/
theorem serves_of_bodies {σ : Type} {responder : Responder (fun _ : Post => Delivery) σ}
    {owner repository : String} {listing : Listing} {position : String → Nat}
    (sends : ∀ post state size cursor, 1 ≤ size → size ≤ maxPageSize.toNat →
      post.AsksForPage owner repository size cursor →
        ∃ page, (responder post state).1.read = .ok page.body ∧
          listing.Shows position (startOf position cursor) size page) :
    Serves responder owner repository listing position := by
  intro post state size cursor positive accepted asks
  rcases sends post state size cursor positive accepted asks with ⟨page, arrived, shows⟩
  refine ⟨page, ?_, shows⟩
  rw [Delivery.result, arrived]
  exact page.payload_body

/-! ## The first rule with a pattern -/

/-- The ID of the first rule with a pattern. -/
def firstWith? (pattern : String) (rules : List RuleSummary) : Option String :=
  (rules.find? fun rule => rule.pattern == pattern).map (·.id)

section

variable {pattern : String}

theorem firstWith?_append (first rest : List RuleSummary) :
    firstWith? pattern (first ++ rest) =
      (firstWith? pattern first).or (firstWith? pattern rest) := by
  rw [firstWith?, List.find?_append, firstWith?, firstWith?, Option.map_or]

/-- The first rule with the pattern is in a prefix, or none is. -/
theorem firstWith?_take (rules : List RuleSummary) (length : Nat) :
    firstWith? pattern (rules.take length) =
      if (rules.findIdx fun rule => rule.pattern == pattern) < length
      then firstWith? pattern rules else none := by
  induction rules generalizing length with
  | nil => split <;> simp [firstWith?]
  | cons rule rest ih =>
      cases length with
      | zero => simp [firstWith?]
      | succ length =>
          cases isFirst : rule.pattern == pattern with
          | true => simp [firstWith?, List.findIdx_cons, isFirst]
          | false =>
              have ih := ih length
              simp only [firstWith?] at ih
              simp [firstWith?, List.findIdx_cons, isFirst, ih]

end

/-! ## What a client asks for -/

namespace Client

variable (client : Client)

/-- A page size is brought into the range that GitHub accepts. -/
theorem toNat_pageSize (pageSize : UInt32) :
    (client.withPageSize pageSize).pageSize.toNat = min (max pageSize.toNat 1) 100 := by
  simp only [withPageSize, maxPageSize, UInt32.lt_iff_toNat_lt]
  have one : (1 : UInt32).toNat = 1 := rfl
  have hundred : (100 : UInt32).toNat = 100 := rfl
  split
  · omega
  · split <;> omega

theorem asksForPage (owner repository : String) (cursor : Option String) :
    (client.pageRequest owner repository cursor).AsksForPage owner repository
      client.pageSize.toNat cursor := by
  constructor <;> rfl

/-- The rules that a scan looks at from the page with this number on, out of those that are left. -/
def scope (number : UInt32) (rest : List RuleSummary) : List RuleSummary :=
  match client.maxPages with
  | none => rest
  | some limit => rest.take ((limit.toNat + 1 - number.toNat) * client.pageSize.toNat)

/-- The page with this number may be asked for. -/
def MayAsk (number : UInt32) : Prop :=
  ∀ limit, client.maxPages = some limit → number ≤ limit

variable {client} {number : UInt32}

theorem stopsAfter_of_limit {limit : UInt32} (isLimit : client.maxPages = some limit) :
    client.stopsAfter number = decide (limit.toNat ≤ number.toNat) := by
  simp [stopsAfter, isLimit, UInt32.le_iff_toNat_le]

/-- The limit leaves room for the number of the next page. -/
theorem toNat_next {limit : UInt32} (below : number.toNat < limit.toNat) :
    (number + 1).toNat = number.toNat + 1 := by
  have bound := limit.toNat_lt
  rw [UInt32.toNat_add, show (1 : UInt32).toNat = 1 from rfl, Nat.mod_eq_of_lt (by omega)]

theorem mayAsk_next (goesOn : client.stopsAfter number = false) : client.MayAsk (number + 1) := by
  intro limit isLimit
  have below : number.toNat < limit.toNat := by
    simpa [stopsAfter_of_limit isLimit] using goesOn
  rw [UInt32.le_iff_toNat_le, toNat_next below]
  omega

theorem scope_nil (number : UInt32) : client.scope number [] = [] := by
  unfold scope
  split <;> simp

/-- A scan looks at one page, and then at what the next page leads to. -/
theorem scope_eq (mayAsk : client.MayAsk number) (rest : List RuleSummary) :
    client.scope number rest = rest.take client.pageSize.toNat ++
      if client.stopsAfter number then []
      else client.scope (number + 1) (rest.drop client.pageSize.toNat) := by
  cases isLimit : client.maxPages with
  | none =>
      have goesOn : client.stopsAfter number = false := by rw [stopsAfter, isLimit]
      simp [scope, isLimit, goesOn]
  | some limit =>
      have within : number.toNat ≤ limit.toNat := UInt32.le_iff_toNat_le.mp (mayAsk limit isLimit)
      rw [stopsAfter_of_limit isLimit]
      by_cases stops : limit.toNat ≤ number.toNat
      · have onePage : limit.toNat + 1 - number.toNat = 1 := by omega
        simp [scope, isLimit, stops, onePage]
      · have below : number.toNat < limit.toNat := by omega
        have pages : limit.toNat + 1 - number.toNat =
            1 + (limit.toNat + 1 - (number.toNat + 1)) := by omega
        simp only [scope, isLimit, stops, decide_false, Bool.false_eq_true, if_false,
          toNat_next below]
        rw [pages, Nat.add_mul, Nat.one_mul, List.take_add]

end Client

/-! ## Scanning -/

section Scan

variable {σ : Type} {responder : Responder (fun _ : Post => Delivery) σ}
variable {owner repository pattern : String} {listing : Listing} {position : String → Nat}
variable {client : Client} {start size : Nat} {page : Page} {number : UInt32}

namespace Listing.Shows

variable (shows : listing.Shows position start size page)
include shows

theorem find? :
    (page.find? pattern).map (·.id) =
      firstWith? pattern ((listing.rules.drop start).take size) := by
  rw [Page.find?, shows.rules, firstWith?, List.filterMap_map]
  simp

/-- The scan goes on where rules are left and the limit allows it. -/
theorem nextCursor?_of_more (more : start + size < listing.rules.length)
    (goesOn : client.stopsAfter number = false) :
    ∃ cursor, client.nextCursor? page number = some cursor ∧
      startOf position (some cursor) = start + size := by
  rcases shows.endCursor more with ⟨cursor, isCursor, isPosition⟩
  refine ⟨cursor, ?_, isPosition⟩
  simp [Client.nextCursor?, shows.hasNextPage, more, goesOn, isCursor]

theorem nextCursor?_of_end
    (ends : client.stopsAfter number = true ∨ listing.rules.length ≤ start + size) :
    client.nextCursor? page number = none := by
  rcases ends with stops | complete
  · simp [Client.nextCursor?, stops]
  · simp [Client.nextCursor?, shows.hasNextPage, Nat.not_lt.mpr complete]

end Listing.Shows

/-- A scan finds the first rule with the pattern among those that it looks at. -/
theorem scan_of_serves (serves : Serves responder owner repository listing position)
    (positive : 1 ≤ client.pageSize.toNat) (accepted : client.pageSize.toNat ≤ maxPageSize.toNat)
    (pattern : String) (budget : Nat) (cursor : Option String) (mayAsk : client.MayAsk number)
    (state : σ)
    (enough : listing.rules.length - startOf position cursor < budget) :
    ((client.scan owner repository pattern budget cursor number).run responder state).value =
      .ok ⟨listing.repositoryId, firstWith? pattern
        (client.scope number (listing.rules.drop (startOf position cursor)))⟩ := by
  -- One page at a time: what the page does not hold is left to the pages after it.
  induction budget generalizing cursor number state with
  | zero => exact absurd enough (Nat.not_lt_zero _)
  | succ budget ih =>
      rcases serves _ state _ cursor positive accepted
        (client.asksForPage owner repository cursor) with ⟨page, arrived, shows⟩
      rw [Client.run_scan_value, arrived, Client.scope_eq mayAsk, firstWith?_append,
        ← shows.find?]
      cases named : page.find? pattern with
      | some rule => simp [named, shows.repositoryId]
      | none =>
          simp only [named, Option.map_none, Option.none_or]
          by_cases more : startOf position cursor + client.pageSize.toNat < listing.rules.length
          · cases goesOn : client.stopsAfter number with
            | false =>
                rcases shows.nextCursor?_of_more more goesOn with ⟨next, isNext, isStart⟩
                have later := ih (some next) (Client.mayAsk_next goesOn)
                  (responder (client.pageRequest owner repository cursor) state).2
                  (by rw [isStart]; omega)
                rw [isNext]
                simpa [isStart, List.drop_drop] using later
            | true =>
                rw [shows.nextCursor?_of_end (.inl goesOn)]
                simp [shows.repositoryId, firstWith?]
          · have complete : listing.rules.length ≤
                startOf position cursor + client.pageSize.toNat := Nat.not_lt.mp more
            have nothingLeft : (listing.rules.drop (startOf position cursor)).drop
                client.pageSize.toNat = [] := by
              rw [List.drop_drop, List.drop_eq_nil_of_le complete]
            rw [shows.nextCursor?_of_end (.inr complete), nothingLeft, Client.scope_nil]
            simp [shows.repositoryId, firstWith?]

/-- Every configured page size is one that a server accepts. -/
theorem findRule_of_serves (serves : Serves responder owner repository listing position)
    (bounded : listing.rules.length < UInt32.size) (pageSize : UInt32) {limit : Option UInt32}
    (mayAsk : Client.MayAsk ((client.withPageSize pageSize).withMaxPages limit) 1)
    (pattern : String) (state : σ) :
    ((((client.withPageSize pageSize).withMaxPages limit).findRule owner repository pattern).run
        responder state).value =
      .ok ⟨listing.repositoryId, firstWith? pattern
        (((client.withPageSize pageSize).withMaxPages limit).scope 1 listing.rules)⟩ := by
  have size : ((client.withPageSize pageSize).withMaxPages limit).pageSize.toNat =
      min (max pageSize.toNat 1) 100 := client.toNat_pageSize pageSize
  have positive : 1 ≤ ((client.withPageSize pageSize).withMaxPages limit).pageSize.toNat := by
    omega
  have accepted : ((client.withPageSize pageSize).withMaxPages limit).pageSize.toNat ≤
      maxPageSize.toNat := by
    rw [size]
    exact Nat.min_le_right _ _
  exact scan_of_serves serves positive accepted pattern Client.scanBudget none mayAsk state bounded

/--
Looking up a pattern does not depend on paging.

Whatever page size is configured, a client without a page limit finds the first listed rule that has
exactly the pattern, or none if there is none.  With a page limit it finds that rule if it is among
as many rules as the pages up to the limit hold.
-/
theorem lookup_of_serves (serves : Serves responder owner repository listing position)
    (bounded : listing.rules.length < UInt32.size) (client : Client) (pageSize : UInt32)
    (pattern : String) (state : σ) :
    ((((client.withPageSize pageSize).withMaxPages none).findRule owner repository pattern).run
        responder state).value =
      .ok ⟨listing.repositoryId, firstWith? pattern listing.rules⟩ ∧
    ∀ limit : UInt32, 1 ≤ limit →
      ((((client.withPageSize pageSize).withMaxPages (some limit)).findRule owner repository
          pattern).run responder state).value =
        .ok ⟨listing.repositoryId,
          if (listing.rules.findIdx fun rule => rule.pattern == pattern) <
              limit.toNat * min (max pageSize.toNat 1) 100
          then firstWith? pattern listing.rules else none⟩ := by
  constructor
  · have mayAsk : Client.MayAsk ((client.withPageSize pageSize).withMaxPages none) 1 := by
      rintro _ ⟨⟩
    exact findRule_of_serves serves bounded pageSize mayAsk pattern state
  · intro limit atLeastOne
    have mayAsk : Client.MayAsk ((client.withPageSize pageSize).withMaxPages (some limit)) 1 := by
      rintro _ ⟨⟩
      exact atLeastOne
    rw [findRule_of_serves serves bounded pageSize mayAsk, ← client.toNat_pageSize,
      ← firstWith?_take]
    rfl

end Scan

/-! ## A small server -/

/-- Two rules. -/
def sampleListing : Listing :=
  ⟨"R_1", [⟨"BPR_1", "dev"⟩, ⟨"BPR_2", "main"⟩]⟩

/-- The text of a page with these nodes and this page info. -/
def pageText (nodes info : String) : String :=
  "\x7b\"data\":\x7b\"repository\":\x7b\"id\":\"R_1\",\"branchProtectionRules\":\x7b" ++
    "\"nodes\":[" ++ nodes ++ "],\"pageInfo\":\x7b" ++ info ++ "\x7d\x7d\x7d\x7d\x7d"

/-- The first rule alone, both rules, or the second rule alone. -/
def sampleText (start size : Nat) : String :=
  let first := "\x7b\"id\":\"BPR_1\",\"pattern\":\"dev\"\x7d"
  let second := "\x7b\"id\":\"BPR_2\",\"pattern\":\"main\"\x7d"
  let last := "\"hasNextPage\":false,\"endCursor\":null"
  if start = 0 then
    if size = 1 then pageText first "\"hasNextPage\":true,\"endCursor\":\"1\""
    else pageText (first ++ "," ++ second) last
  else pageText second last

/-- A server of the two rules, whose cursors all stand for the end of the first page of one. -/
def sampleServer : Responder (fun _ : Post => Delivery) Unit :=
  fun post _ =>
    let start :=
      match post.arguments.member? "cursor" with
      | some (.string _) => 1
      | _ => 0
    let size :=
      match post.arguments.member? "pageSize" with
      | some (.integer size) => size.toNat
      | _ => 0
    (.response 200 (sampleText start size), ())

/-- The page of the two rules that the text stands for. -/
def samplePage (start size : Nat) : Page where
  repositoryId := "R_1"
  hasNextPage := decide (start + size < 2)
  endCursor := if start + size < 2 then some "1" else none
  rules := ((sampleListing.rules.drop start).take size).map some

theorem shows_samplePage (start size : Nat) (positive : 1 ≤ size) :
    sampleListing.Shows (fun _ => 1) start size (samplePage start size) := by
  refine ⟨rfl, rfl, rfl, ?_⟩
  intro more
  refine ⟨"1", if_pos more, ?_⟩
  have bound : start + size < 2 := more
  omega

theorem result_of_toOption {delivery : Delivery} {page : Page}
    (isPage : (delivery.result Page.ofJson?).toOption = some (some page)) :
    delivery.result Page.ofJson? = .ok (some page) := by
  cases result : delivery.result Page.ofJson? with
  | error failure => simp [result, Except.toOption] at isPage
  | ok value => simpa [result, Except.toOption] using isPage

theorem result_sampleText {start size : Nat} (isStart : start = 0 ∨ start = 1)
    (positive : 1 ≤ size) :
    (Delivery.response 200 (sampleText start size)).result Page.ofJson? =
      .ok (some (samplePage start size)) := by
  apply result_of_toOption
  rcases isStart with rfl | rfl
  · rcases size with _ | _ | size
    · exact absurd positive (Nat.not_succ_le_zero 0)
    · decide +kernel
    · have sameText : sampleText 0 (size + 2) = sampleText 0 2 := by simp [sampleText]
      have samePage : samplePage 0 (size + 2) = samplePage 0 2 := by
        simp [samplePage, sampleListing]
      rw [sameText, samePage]
      decide +kernel
  · rcases size with _ | size
    · exact absurd positive (Nat.not_succ_le_zero 0)
    · have sameText : sampleText 1 (size + 1) = sampleText 1 1 := by simp [sampleText]
      have complete : ¬ 1 + (size + 1) < 2 := by omega
      have samePage : samplePage 1 (size + 1) = samplePage 1 1 := by
        simp [samplePage, sampleListing, complete]
      rw [sameText, samePage]
      decide +kernel

theorem serves_sample (owner repository : String) :
    Serves sampleServer owner repository sampleListing fun _ => 1 := by
  intro post state size cursor positive accepted asks
  have isStart : startOf (fun _ => 1) cursor = 0 ∨ startOf (fun _ => 1) cursor = 1 := by
    cases cursor
    · exact .inl rfl
    · exact .inr rfl
  refine ⟨_, ?_, shows_samplePage (startOf (fun _ => 1) cursor) size positive⟩
  rw [← result_sampleText isStart positive]
  simp only [sampleServer, asks.cursor, asks.size]
  cases cursor <;> rfl

/-- The second of the two rules is found with any page size, but not within one page of one. -/
theorem lookup_of_serves_sample :
    Serves sampleServer "o" "r" sampleListing (fun _ => 1) ∧
      sampleListing.rules.length < UInt32.size ∧
      (∀ pageSize : UInt32,
        ((((({} : Client).withPageSize pageSize).withMaxPages none).findRule "o" "r" "main").run
          sampleServer ()).value = .ok ⟨"R_1", some "BPR_2"⟩) ∧
      ((((({} : Client).withPageSize 0).withMaxPages (some 1)).findRule "o" "r" "main").run
        sampleServer ()).value = .ok ⟨"R_1", none⟩ := by
  have bounded : sampleListing.rules.length < UInt32.size := by decide
  have lookup (pageSize : UInt32) :=
    lookup_of_serves (serves_sample "o" "r") bounded {} pageSize "main" ()
  exact ⟨serves_sample "o" "r", bounded, fun pageSize => (lookup pageSize).1,
    (lookup 0).2 1 (by decide)⟩

end BranchGuard.GitHub
