import PullReview.Proofs.GitHub.Pages
import PullReview.Proofs.GitHub.Retrying

/-!
# A server of pages

The server answers requests for pages of one listing. Before it serves a page the first tries
may go wrong, each page having troubles of its own; it keeps every request that it is sent and
every page that it serves, in order.

> `listing_served`: with no more troubles than the client tries again, all comments are read in
> order, each page being served once and asked for once more than it has troubles. At the first
> page that is no list the reading fails with what that page is, and no later one is asked for.

What the client needs for that is that it can tell each pause. A status that may pass by itself
is not enough: digits that stand for no number in the header that asks for a pause end the whole
reading (`listing_untold`).
-/

namespace PullReview.GitHub

open Act Text Url Rehearsal

/-- What comes back of a try. -/
def received : Reply → Except Fault HttpResponse
  | .responds response => .ok response
  | .fails fault => .error fault

/-- What a server of pages goes by. -/
structure PageRules where
  /-- the answer with a page, by the size of the pages and its number -/
  page : Nat → Nat → HttpResponse
  /-- what goes wrong before a page is served -/
  trouble : Nat → List Reply

/-- What the server was sent and what it served, and what the client keeps. -/
structure PageServer where
  asked : List HttpRequest := []
  served : List Nat := []
  client : ClientState := {}

/-- The size and the number of the page that a request asks for. -/
def askedPage? (request : HttpRequest) : Option (Nat × Nat) :=
  request.address.query.bind fun query => pageOf? query.toList

namespace PageServer

def clientPart : Part PageServer ClientState :=
  ⟨PageServer.client, fun n c => { n with client := c }⟩

/-- How often a page was asked for. -/
def tries (n : PageServer) (number : Nat) : Nat :=
  n.asked.countP fun request => (askedPage? request).map (·.2) = some number

/-- Answers a try: with what goes wrong next with that page, or with the page. -/
def answer (rules : PageRules) (n : PageServer) (request : HttpRequest) :
    Except Fault HttpResponse × PageServer :=
  let asked := n.asked ++ [request]
  match askedPage? request with
  | none => (.ok CodeHost.unprocessable, { n with asked := asked })
  | some (size, number) =>
    match (rules.trouble number)[n.tries number]? with
    | some reply => (received reply, { n with asked := asked })
    | none =>
      (.ok (rules.page size number), { n with asked := asked, served := n.served ++ [number] })

end PageServer

/-- A session with a server of pages. -/
def pageSession (rules : PageRules) (client : Client) : Session PageServer where
  client := client
  transport := {
    send := fun request => Part.whole.step fun n => n.answer rules request
    pause := rest
    now := return ⟨0⟩ }
  signs := fun _ => true
  state := PageServer.clientPart

/-- A try leads to what it comes to with the answer of the server. -/
theorem PageServer.send_leads {rules : PageRules} {client : Client} {request : HttpRequest}
    {n m : PageServer} {r : Except Fault HttpResponse} (h : n.answer rules request = (r, m)) :
    Leads ((pageSession rules client).send request) n (outcomeOf request r) m := by
  have hstep := leads_step (s := n) Part.whole fun (n : PageServer) => n.answer rules request
  have hsame : PageServer.answer rules (Part.whole.get n) request = (r, m) := h
  rw [hsame] at hstep
  exact Session.send_leads hstep

/-! ## What is relied on -/

/-- The requests for the pages of a listing, as the client makes them with a token. -/
structure AsksFor (client : Client) (token : Json) (url : String) (count : Nat)
    (ask : Nat → HttpRequest) : Prop where
  made : ∀ k < count,
    client.tokenRequest token.display .get url (pageParams (k + 1)) none = .ok (ask (k + 1))
  query : ∀ k < count, (ask (k + 1)).address.query = some (queryOf (pageParams (k + 1)))

/-- What goes wrong with a request is no more than it is tried again; each time it may pass by
itself, and the pause behind it can be told and has an end. -/
structure IsBearable (client : Client) (request : HttpRequest) (replies : List Reply) : Prop where
  few : replies.length ≤ client.maxRetries.toNat
  passing : ∀ reply ∈ replies, IsRetryable (outcomeOf request (received reply))
  told : ∀ i reply, replies[i]? = some reply → ∃ seconds,
    Session.pauseAfter client i (outcomeOf request (received reply)).toOption = .ok seconds ∧
      seconds.isFinite = true

/-- A request succeeds with an answer that tells a value, read no deeper than `depth`. -/
structure Tells (depth : Nat) (request : HttpRequest) (answer d : HttpResponse) (v : Json) :
    Prop where
  outcome : outcomeOf request (.ok answer) = .ok d
  succeeds : d.status < 400
  value : d.json depth = .ok v

/-- An action that reads the listing at a URL. -/
inductive Lists {σ : Type} (s : Session σ) : String → Act σ (List Json) → Prop
  | listing (url : String) : Lists s url (s.listing url)
  | issueComments (pr : PullRequest) :
      Lists s (Session.issueCommentsUrl pr) (s.store.issueComments pr)
  | reviewComments (pr : PullRequest) :
      Lists s (Session.reviewCommentsUrl pr) (s.store.reviewComments pr)

/-- Pages below a site can be asked for, at any path from the root on. -/
theorem exists_asksFor {client : Client} {front : List (List Char)}
    (hsite : client.base.IsSite front) {url : String} (hurl : IsRooted url) {token : Json}
    (hbearer : headerFault? ("Bearer " ++ token.display) = none) {count : Nat}
    (hcount : (toString count).toList.length ≤ 60000) :
    ∃ ask, AsksFor client token url count ask ∧
      ∀ k < count, (ask (k + 1)).address.hasType = true := by
  have hone : ∀ k, k < count → ∃ request,
      client.tokenRequest token.display .get url (pageParams (k + 1)) none = .ok request ∧
        request.address.query = some (queryOf (pageParams (k + 1))) ∧
        request.address.hasType = true := by
    intro k hk
    have hsendable : AreSendable (pageParams (k + 1)) :=
      areSendable_page (Nat.le_trans (length_natText_mono hk) hcount)
    obtain ⟨a, haddress, hplace, htype, hquery⟩ :=
      address_ok hsite hurl (pageParams (k + 1)) hsendable.length
    have hbearers : ∀ t, Authorization.bearer token.display = .bearer t →
        headerFault? ("Bearer " ++ t) = none := fun t e => Authorization.bearer.inj e ▸ hbearer
    obtain ⟨request, hrequest, -, rfl, -⟩ := request_eq .get haddress hplace hbearers
      (if client.ownsConnection then usualAccept else "*/*")
      (if client.ownsConnection then some usualVersion else none) none rfl
    refine ⟨request, hrequest, ?_, htype⟩
    rw [hquery (List.cons_ne_nil _ _), hsendable.plain, String.ofList_toList]
  have : Nonempty HttpRequest := ⟨pageRequest⟩
  choose! ask hask using hone
  refine ⟨fun k => ask (k - 1), ⟨fun k hk => (hask k hk).1, fun k hk => (hask k hk).2.1⟩,
    fun k hk => (hask k hk).2.2⟩

/-- A plain success tells the value of its content. -/
theorem tells_plain {request : HttpRequest} (htype : request.address.hasType = true)
    {content : ByteArray} {depth : Nat} {v : Json} (h : Json.readBytes depth content = .ok v) :
    Tells depth request { status := 200, content := content }
      { status := 200, content := content } v :=
  ⟨outcomeOf_ok htype (decoded_plain 200 content) rfl, (by decide : (200 : Int) < 400), h⟩

/-! ## What the server has seen -/

/-- The requests up to a page: one more for each page than it has troubles. -/
def askedUpTo (rules : PageRules) (ask : Nat → HttpRequest) (count : Nat) : List HttpRequest :=
  (List.range' 1 count).flatMap fun k => List.replicate ((rules.trouble k).length + 1) (ask k)

/-- The server behind some pages. -/
def PageServer.behind (rules : PageRules) (ask : Nat → HttpRequest) (kept : ClientState)
    (count : Nat) : PageServer where
  asked := askedUpTo rules ask count
  served := List.range' 1 count
  client := kept

/-- The server behind some pages, and some tries for the next one that went wrong. -/
def PageServer.during (rules : PageRules) (ask : Nat → HttpRequest) (kept : ClientState)
    (count tries : Nat) : PageServer where
  asked := askedUpTo rules ask count ++ List.replicate tries (ask (count + 1))
  served := List.range' 1 count
  client := kept

theorem askedUpTo_succ (rules : PageRules) (ask : Nat → HttpRequest) (count : Nat) :
    askedUpTo rules ask (count + 1)
      = askedUpTo rules ask count
        ++ List.replicate ((rules.trouble (count + 1)).length + 1) (ask (count + 1)) := by
  unfold askedUpTo
  rw [List.range'_1_concat, List.flatMap_append, List.flatMap_singleton, Nat.add_comm 1 count]

section Requests

variable {client : Client} {token : Json} {url : String} {count : Nat} {ask : Nat → HttpRequest}
  (hask : AsksFor client token url count ask)
include hask

theorem AsksFor.askedPage? {k : Nat} (hk : k < count) :
    askedPage? (ask (k + 1)) = some (pageSize, k + 1) := by
  unfold GitHub.askedPage?
  rw [hask.query k hk]
  exact pageOf?_query (k + 1)

/-- Requests for earlier pages are none for this one. -/
theorem AsksFor.tries_during (rules : PageRules) (kept : ClientState) {k : Nat} (hk : k < count)
    (n : Nat) : (PageServer.during rules ask kept k n).tries (k + 1) = n := by
  have hbefore : ∀ request ∈ askedUpTo rules ask k,
      ¬ (GitHub.askedPage? request).map (·.2) = some (k + 1) := by
    intro request hin
    obtain ⟨i, hi, hrequest⟩ := List.mem_flatMap.mp hin
    obtain ⟨i, rfl⟩ := Nat.exists_eq_add_of_le (List.mem_range'_1.mp hi).1
    have hless := (List.mem_range'_1.mp hi).2
    rw [List.eq_of_mem_replicate hrequest, Nat.add_comm, hask.askedPage? (by omega)]
    simp only [Option.map_some, Option.some.injEq]
    omega
  have hthis : (GitHub.askedPage? (ask (k + 1))).map (·.2) = some (k + 1) := by
    rw [hask.askedPage? hk]
    rfl
  unfold PageServer.tries PageServer.during
  rw [List.countP_append, List.countP_eq_zero.mpr (by simpa using hbefore), List.countP_replicate,
    if_pos (by simpa using hthis), Nat.zero_add]

/-! ## One page -/

variable {rules : PageRules} {kept : ClientState}

/-- A try that goes wrong leads to what it comes to. -/
theorem AsksFor.trouble_leads {k : Nat} (hk : k < count) {i : Nat} {reply : Reply}
    (hreply : (rules.trouble (k + 1))[i]? = some reply) :
    Leads ((pageSession rules client).send (ask (k + 1))) (.during rules ask kept k i)
      (outcomeOf (ask (k + 1)) (received reply)) (.during rules ask kept k (i + 1)) := by
  refine PageServer.send_leads ?_
  unfold PageServer.answer
  rw [hask.askedPage? hk]
  dsimp only
  rw [hask.tries_during rules kept hk, hreply]
  unfold PageServer.during
  rw [List.append_assoc, ← List.replicate_succ']

/-- When all that goes wrong is over the page is served. -/
theorem AsksFor.served_leads {k : Nat} (hk : k < count) :
    Leads ((pageSession rules client).send (ask (k + 1)))
      (.during rules ask kept k (rules.trouble (k + 1)).length)
      (outcomeOf (ask (k + 1)) (.ok (rules.page pageSize (k + 1))))
      (.behind rules ask kept (k + 1)) := by
  refine PageServer.send_leads ?_
  unfold PageServer.answer
  rw [hask.askedPage? hk]
  dsimp only
  rw [hask.tries_during rules kept hk, List.getElem?_eq_none (Nat.le_refl _)]
  unfold PageServer.during PageServer.behind
  rw [askedUpTo_succ, List.replicate_succ', List.append_assoc, List.range'_1_concat,
    Nat.add_comm 1 k]

/-- **A page is served once**, and asked for once more than it has troubles. -/
theorem AsksFor.page_leads (htoken : ∀ n : PageServer, n.client = kept →
      Leads (pageSession rules client).token n (.ok token) n) (hopen : kept.closed = false)
    {k : Nat} (hk : k < count)
    (hbearable : IsBearable client (ask (k + 1)) (rules.trouble (k + 1))) {d : HttpResponse}
    {v : Json}
    (htells : Tells client.reading.depth (ask (k + 1)) (rules.page pageSize (k + 1)) d v) :
    Leads ((pageSession rules client).request .get url (pageParams (k + 1)) none)
      (.behind rules ask kept k) (.ok d) (.behind rules ask kept (k + 1)) := by
  -- before its first try a page finds the server as the page in front left it
  have hfirst : PageServer.during rules ask kept k 0 = .behind rules ask kept k := by
    unfold PageServer.during PageServer.behind
    rw [List.replicate_zero, List.append_nil]
  have hgoesOn : ∀ i < (rules.trouble (k + 1)).length,
      (pageSession rules client).GoesOn (ask (k + 1)) i (.during rules ask kept k i)
        (.during rules ask kept k (i + 1)) := by
    intro i hi
    obtain ⟨reply, hreply⟩ : ∃ reply, (rules.trouble (k + 1))[i]? = some reply :=
      ⟨_, List.getElem?_eq_getElem hi⟩
    obtain ⟨seconds, htold, hfinite⟩ := hbearable.told i reply hreply
    exact ⟨_, seconds, _, hask.trouble_leads hk hreply,
      hbearable.passing reply (List.mem_of_getElem? hreply), htold, rest_leads hfinite⟩
  have hfinal : ¬ IsRetryable (.ok d) := fun h =>
    absurd (refuses_of_isPassing (passes_iff.mp h)) (Int.not_le.mpr htells.succeeds)
  have hending : ending client.reading.depth url (.ok d) = .ok d := if_pos htells.succeeds
  have hserved : Leads ((pageSession rules client).send (ask (k + 1)))
      (.during rules ask kept k (rules.trouble (k + 1)).length) (.ok d)
      (.behind rules ask kept (k + 1)) := htells.outcome ▸ hask.served_leads hk
  have hstops : Leads ((pageSession rules client).exchange url (ask (k + 1))
      (client.maxRetries.toNat - (rules.trouble (k + 1)).length) (rules.trouble (k + 1)).length)
      (.during rules ask kept k (rules.trouble (k + 1)).length) (.ok d)
      (.behind rules ask kept (k + 1)) :=
    hending ▸ Session.exchange_stops hserved _ (Or.inr hfinal)
  have hexchange := Session.exchange_passes hbearable.few hgoesOn hstops
  rw [hfirst] at hexchange
  exact Session.request_leads_of_token (htoken _ rfl) hopen
    (leads_bind_ok (hask.made k hk) hexchange)

end Requests

/-! ## The whole listing -/

/-- Every way to read a listing is to read its pages from the first one on. -/
theorem Lists.leads {σ : Type} {s : Session σ} {url : String} {list : Act σ (List Json)}
    (h : Lists s url list) {x y : σ} {result : Except Fault (List Json)}
    (hpages : Leads (s.pages url s.client.pageLimit 1) x result y) : Leads list x result y := by
  cases h with
  | listing => exact hpages
  | issueComments => exact hpages
  | reviewComments => exact hpages

/-- A pause that cannot be told, behind the first try for the first page, ends the reading. -/
theorem Lists.untold {σ : Type} {s : Session σ} {url : String} {list : Act σ (List Json)}
    (h : Lists s url list) {x y : σ} {token : Json} (htoken : Leads s.token x (.ok token) x)
    (hopen : (s.state.get x).closed = false) {request : HttpRequest}
    (hmade : s.client.tokenRequest token.display .get url (pageParams 1) none = .ok request)
    {outcome : Except Fault HttpResponse} (hsend : Leads (s.send request) x outcome y)
    (hretryable : IsRetryable outcome) {fault : Fault}
    (hpause : Session.pauseAfter s.client 0 outcome.toOption = .error fault)
    (htries : 0 < s.client.maxRetries.toNat) (hpages : 0 < s.client.pageLimit) :
    Leads list x (.error fault) y := by
  obtain ⟨tries, htries⟩ := Nat.exists_eq_succ_of_ne_zero (Nat.ne_of_gt htries)
  obtain ⟨pages, hpages⟩ := Nat.exists_eq_succ_of_ne_zero (Nat.ne_of_gt hpages)
  refine h.leads ?_
  rw [hpages]
  refine Session.pages_unanswered pages (Session.request_leads_of_token htoken hopen ?_)
  rw [htries]
  exact leads_bind_ok hmade (Session.exchange_untold hsend hretryable hpause tries)

/-- **A listing is read whole and once.** With troubles that can be borne, and with pages for
all comments, exactly these are read in order, and exactly their pages were served. If page
`j` is no list, the reading fails with what it is, and nothing behind it was asked for. -/
theorem listing_served (rules : PageRules) {client : Client} {kept : ClientState}
    (hopen : kept.closed = false) {token : Json}
    (htoken : ∀ n : PageServer, n.client = kept →
      Leads (pageSession rules client).token n (.ok token) n)
    {url : String} {list : Act PageServer (List Json)}
    (hlist : Lists (pageSession rules client) url list) (comments : List Json)
    {ask : Nat → HttpRequest} (hask : AsksFor client token url (pageCount comments) ask)
    (hlimit : pageCount comments ≤ client.pageLimit)
    (hbearable : ∀ k < pageCount comments,
      IsBearable client (ask (k + 1)) (rules.trouble (k + 1))) :
    ((∀ k < pageCount comments, ∃ d, Tells client.reading.depth (ask (k + 1))
        (rules.page pageSize (k + 1)) d (.arr (pageOf pageSize (k + 1) comments))) →
      Leads list { client := kept } (.ok comments)
        { asked := askedUpTo rules ask (pageCount comments)
          served := List.range' 1 (pageCount comments)
          client := kept }) ∧
    ∀ j < pageCount comments,
      (∀ k < j, ∃ d, Tells client.reading.depth (ask (k + 1)) (rules.page pageSize (k + 1)) d
        (.arr (pageOf pageSize (k + 1) comments))) →
      ∀ d v, Tells client.reading.depth (ask (j + 1)) (rules.page pageSize (j + 1)) d v →
        (∀ items, v ≠ .arr items) → Leads list { client := kept }
          (.error (.api ⟨s!"Unexpected response while listing {url}.", d.status, v⟩))
          { asked := askedUpTo rules ask (j + 1)
            served := List.range' 1 (j + 1)
            client := kept } := by
  have hgives {k : Nat} (hk : k < pageCount comments)
      (htells : ∃ d, Tells client.reading.depth (ask (k + 1)) (rules.page pageSize (k + 1)) d
        (.arr (pageOf pageSize (k + 1) comments))) :
      (pageSession rules client).GivesPage url comments (.behind rules ask kept) k := by
    obtain ⟨d, hd⟩ := htells
    exact ⟨d, hask.page_leads htoken hopen hk (hbearable k hk) hd, hd.value⟩
  constructor
  · intro htells
    have hpages := Session.pages_leads (fun k hk => hgives hk (htells k hk)) client.pageLimit 0
      (Nat.succ_pos _) (by omega)
    exact hlist.leads hpages
  · intro j hj htells d v hd hodd
    have hodd := Session.pages_fails hj (fun k hk => hgives (Nat.lt_trans hk hj) (htells k hk))
      (hask.page_leads htoken hopen hj (hbearable j hj) hd) hd.value hodd client.pageLimit 0
      (Nat.zero_le _) (by omega)
    exact hlist.leads hodd

/-! A full page of empty comments, and what is behind it: an empty page, or none. -/

def thirdPull : PullRequest := ⟨"o", "r", 3, .null⟩

theorem isRooted_thirdPull : IsRooted (Session.issueCommentsUrl thirdPull) :=
  isRooted_commentsUrl
    ⟨isShort_of_all (by decide) (by decide), isShort_of_all (by decide) (by decide), by decide⟩
    (isShort_of_all (by decide) (by decide))

theorem exists_asksFor_thirdPull (count : Nat) (hcount : (toString count).toList.length ≤ 60000) :
    ∃ ask, AsksFor publicClient (.str "token") (Session.issueCommentsUrl thirdPull) count ask ∧
      ∀ k < count, (ask (k + 1)).address.hasType = true :=
  exists_asksFor isSite_publicBase isRooted_thirdPull (by decide) hcount

def emptyComments : List Json := List.replicate 100 (.obj [])

def fullPageText : List Char :=
  "[\x7b\x7d".toList ++ (List.replicate 99 ",\x7b\x7d".toList).flatten ++ [']']

def bytesOf (cs : List Char) : ByteArray := ⟨(cs.map fun c => UInt8.ofNat c.toNat).toArray⟩

set_option maxRecDepth 20000 in
theorem readChars_fullPageText :
    Json.readChars Json.usualDepth fullPageText = .ok (.arr emptyComments) := rfl

theorem readBytes_fullPage :
    Json.readBytes Json.usualDepth (bytesOf fullPageText) = .ok (.arr emptyComments) := by
  have hlist : (bytesOf fullPageText).toList.map (fun b => b.toNat)
      = fullPageText.map Char.toNat := by
    rw [toList_eq]
    decide +kernel
  have hascii : ∀ b ∈ fullPageText.map Char.toNat, 0 < b ∧ b < 0x80 := by decide +kernel
  have hchars : (fullPageText.map Char.toNat).map Char.ofNat = fullPageText := by decide +kernel
  unfold Json.readBytes
  rw [hlist, Json.charsOfBytes_ascii hascii, hchars]
  dsimp only [Except.mapError, bind, Except.bind]
  rw [readChars_fullPageText]

/-- The connection fails, then the code host is busy. -/
def twoTroubles : List Reply := [.fails (.unreachable "down"), .responds busyAnswer]

/-- A full page behind two tries that go wrong, and another page. -/
def wobblyPages (second : ByteArray) : PageRules where
  page _ number :=
    { status := 200, content := if number = 1 then bytesOf fullPageText else second }
  trouble number := if number = 1 then twoTroubles else []

theorem isBearable_twoTroubles {request : HttpRequest}
    (htype : request.address.hasType = true) : IsBearable publicClient request twoTroubles := by
  have hbusy : outcomeOf request (.ok busyAnswer) = .ok busyAnswer :=
    outcomeOf_ok htype decoded_busyAnswer (redirection?_none (by decide))
  have hfits : publicClient.backoff.Fits 3 := fun seconds h => absurd h (by simp [publicClient])
  have hfinite : ∀ i < 2, (pauseBehind publicClient.backoff i (wobblyScript i)).isFinite = true := by
    decide +kernel
  have htold : ∀ i < 2, ∃ seconds,
      Session.pauseAfter publicClient i (wobblyScript i).toOption = .ok seconds ∧
        seconds.isFinite = true := fun i hi =>
    ⟨_, pauseAfter_eq hfits (Nat.lt_succ_of_lt hi) (by decide) (asksInAscii_wobbly i), hfinite i hi⟩
  refine ⟨by decide, fun reply hreply => ?_, fun i reply hreply => ?_⟩
  · rcases List.mem_cons.mp hreply with rfl | hsecond
    · rfl
    · obtain rfl := List.mem_singleton.mp hsecond
      have hretryable : IsRetryable (.ok busyAnswer) := passes_iff.mpr (by decide)
      exact hbusy.symm ▸ hretryable
  · rcases i with _ | _ | i
    · obtain rfl := Option.some.inj hreply
      exact htold 0 (by decide)
    · obtain rfl := Option.some.inj hreply
      have hsecond := htold 1 (by decide)
      rw [received, hbusy]
      exact hsecond
    · exact absurd hreply (by simp [twoTroubles])

theorem isBearable_wobblyPages {request : HttpRequest} (htype : request.address.hasType = true)
    (second : ByteArray) (k : Nat) :
    IsBearable publicClient request ((wobblyPages second).trouble (k + 1)) := by
  cases k with
  | zero => exact isBearable_twoTroubles htype
  | succ k =>
    have hnone : (wobblyPages second).trouble (k + 1 + 1) = [] := by simp [wobblyPages]
    rw [hnone]
    exact ⟨Nat.zero_le _, fun _ h => absurd h List.not_mem_nil, fun _ _ h => absurd h (by simp)⟩

theorem listing_served_wobblyPages :
    ∃ ask, AsksFor publicClient (.str "token") (Session.issueCommentsUrl thirdPull) 2 ask ∧
      Leads ((pageSession (wobblyPages (bytesOf "[]".toList)) publicClient).store.issueComments
          thirdPull) {} (.ok emptyComments)
        { asked := [ask 1, ask 1, ask 1, ask 2], served := [1, 2] } ∧
      Leads ((pageSession (wobblyPages (bytesOf "null".toList)) publicClient).store.issueComments
          thirdPull) {}
        (.error (.api ⟨"Unexpected response while listing /repos/o/r/issues/3/comments.", 200,
          .null⟩))
        { asked := [ask 1, ask 1, ask 1, ask 2], served := [1, 2] } := by
  obtain ⟨ask, hask, htype⟩ := exists_asksFor_thirdPull 2 (by decide)
  have htells (second : ByteArray) (k : Nat) (hk : k = 0) :
      ∃ d, Tells Json.usualDepth (ask (k + 1)) ((wobblyPages second).page pageSize (k + 1)) d
        (.arr (pageOf pageSize (k + 1) emptyComments)) := by
    subst hk
    exact ⟨_, tells_plain (htype 0 (by decide)) readBytes_fullPage⟩
  have hempty : Json.readBytes Json.usualDepth (bytesOf "[]".toList) = .ok (.arr []) := by cbv
  have hnull : Json.readBytes Json.usualDepth (bytesOf "null".toList) = .ok .null := by cbv
  have hrun (second : ByteArray) := listing_served (wobblyPages second)
    (rfl : ({} : ClientState).closed = false)
    (fun n _ => Session.token_leads (rfl : publicClient.access = .token "token") n)
    (.issueComments thirdPull) emptyComments hask (by decide)
    (fun k hk => isBearable_wobblyPages (htype k hk) second k)
  refine ⟨ask, hask, ?_, ?_⟩
  · refine (hrun _).1 fun k hk => ?_
    rcases k with _ | _ | k
    · exact htells _ 0 rfl
    · exact ⟨_, tells_plain (htype 1 hk) hempty⟩
    · exact absurd hk (Nat.not_lt.mpr (Nat.le_add_left 2 k))
  · exact (hrun _).2 1 (by decide) (fun k hk => htells _ k (by omega)) _ _
      (tells_plain (htype 1 (by decide)) hnull) (fun items => by simp)

/-! A status that may pass, with a digit that stands for no number. -/

/-- The code host is busy and asks for a pause in raised digits. -/
def raisedDelay : HttpResponse where
  status := 503
  headers := [("Retry-After", "²")]

/-- One empty comment, behind one try that goes wrong. -/
def raisedPages : PageRules where
  page _ _ := { status := 200, content := bytesOf "[\x7b\x7d]".toList }
  trouble _ := [.responds raisedDelay]

theorem pauseAfter_raisedDelay :
    Session.pauseAfter publicClient 0 (some raisedDelay) = .error (.data (.badDelay "²")) := by
  have hheader : (some raisedDelay).bind (·.header? "Retry-After") = some "²" := by
    decide +kernel
  have hdigit : allDigitKind "²".toList = true := by decide +kernel
  have hvalue : Double.ofDigits? "²".toList = none := by decide +kernel
  unfold Session.pauseAfter
  rw [hheader]
  dsimp only
  rw [if_pos hdigit, hvalue]

theorem outcomeOf_raisedDelay {request : HttpRequest} (h : request.address.hasType = true) :
    outcomeOf request (.ok raisedDelay) = .ok raisedDelay := by
  have hcodings : raisedDelay.codings.isEmpty = true := by decide +kernel
  exact outcomeOf_ok h (decoded_of_plain (List.isEmpty_iff.mp hcodings))
    (redirection?_none (by decide))

theorem isRetryable_raisedDelay : IsRetryable (.ok raisedDelay) := passes_iff.mpr (by decide)

/-- The reading ends with the fault of telling the pause: the page that was to come is never
served, although one try more would be made. -/
theorem listing_untold :
    ∃ ask, AsksFor publicClient (.str "token") (Session.issueCommentsUrl thirdPull)
        (pageCount [.obj []]) ask ∧
      (raisedPages.trouble 1).length ≤ publicClient.maxRetries.toNat ∧
      (∀ reply ∈ raisedPages.trouble 1, IsRetryable (outcomeOf (ask 1) (received reply))) ∧
      (∃ d, Tells publicClient.reading.depth (ask 1) (raisedPages.page pageSize 1) d
        (.arr (pageOf pageSize 1 [.obj []]))) ∧
      Leads ((pageSession raisedPages publicClient).store.issueComments thirdPull) {}
        (.error (.data (.badDelay "²"))) { asked := [ask 1], served := [] } := by
  obtain ⟨ask, hask, htype⟩ := exists_asksFor_thirdPull (pageCount [.obj []]) (by decide)
  have hpage : Json.readBytes Json.usualDepth (bytesOf "[\x7b\x7d]".toList)
      = .ok (.arr [.obj []]) := by
    cbv
  have houtcome := outcomeOf_raisedDelay (htype 0 (by decide))
  refine ⟨ask, hask, by decide, ?_, ⟨_, tells_plain (htype 0 (by decide)) hpage⟩, ?_⟩
  · intro reply hreply
    obtain rfl := List.mem_singleton.mp hreply
    exact houtcome.symm ▸ isRetryable_raisedDelay
  · have hreply : (raisedPages.trouble (0 + 1))[0]? = some (.responds raisedDelay) := rfl
    have htrouble : Leads ((pageSession raisedPages publicClient).send (ask 1))
        (.during raisedPages ask {} 0 0) (outcomeOf (ask 1) (.ok raisedDelay))
        (.during raisedPages ask {} 0 1) := hask.trouble_leads (by decide) hreply
    have hsend : Leads ((pageSession raisedPages publicClient).send (ask 1)) {} (.ok raisedDelay)
        { asked := [ask 1], served := [] } := houtcome ▸ htrouble
    have htoken : Leads (pageSession raisedPages publicClient).token {} (.ok (.str "token")) {} :=
      Session.token_leads rfl _
    exact (Lists.issueComments thirdPull).untold htoken rfl (hask.made 0 (by decide)) hsend
      isRetryable_raisedDelay pauseAfter_raisedDelay (by decide) (by decide)

end PullReview.GitHub
