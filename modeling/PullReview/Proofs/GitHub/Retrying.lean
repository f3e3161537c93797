import PullReview.Proofs.GitHub.Pauses
import PullReview.Proofs.GitHub.Served
import PullReview.Proofs.GitHub.Trouble
import PullReview.Proofs.Json.Nesting

/-!
# Trying again

A client sends a request again after a failure that may pass by itself, as often as it is
set up to, and waits in between. In a `Wire` a script settles beforehand what comes back
of each try, while every request that goes out and every pause is kept in order.

By induction over the tries that are left the whole exchange is known
(`Wire.exchange_retries`), and with it the request:

> `request_retries`: a request is sent until a try comes to what is no reason to try again,
> or the tries are used up; it is the same one each time, with one pause behind each try
> but the last, and ends with what the last one comes to.

A refusal whose content is nested too deep is no refusal but the fault of reading it, both
as a value and as the end of a request (`request_nestedRefusal`).
-/

namespace PullReview.GitHub

open Act Text Url

/-- What happens between the program and the code host. -/
inductive Wire.Event where
  | sent (request : HttpRequest)
  | paused (seconds : Double)

/-- The way to the code host so far, and what the client keeps. -/
structure Wire where
  tries : Nat := 0
  events : List Wire.Event := []
  client : ClientState := {}

namespace Wire

def clientPart : Part Wire ClientState := ⟨Wire.client, fun n c => { n with client := c }⟩

def sent (n : Wire) (request : HttpRequest) : Wire :=
  { n with tries := n.tries + 1, events := n.events ++ [.sent request] }

def paused (n : Wire) (seconds : Double) : Wire :=
  { n with events := n.events ++ [.paused seconds] }

/-- A request sent again behind each of some pauses. -/
def dialogue (request : HttpRequest) (pauses : List Double) : List Event :=
  pauses.flatMap (fun seconds => [.sent request, .paused seconds]) ++ [.sent request]

theorem dialogue_cons (request : HttpRequest) (seconds : Double) (pauses : List Double) :
    dialogue request (seconds :: pauses)
      = .sent request :: .paused seconds :: dialogue request pauses := by
  unfold dialogue
  rw [List.flatMap_cons, List.append_assoc]
  rfl

/-- Behind `k + 1` more tries, with a pause behind each of them but the last. -/
def after (n : Wire) (request : HttpRequest) (pause : Nat → Double) (k : Nat) : Wire :=
  { n with
    tries := n.tries + (k + 1)
    events := n.events ++ dialogue request ((List.range' n.tries k).map pause) }

theorem after_paused (n : Wire) (request : HttpRequest) (pause : Nat → Double) (k : Nat) :
    ((n.sent request).paused (pause n.tries)).after request pause k
      = n.after request pause (k + 1) := by
  have htries : n.tries + 1 + (k + 1) = n.tries + (k + 1 + 1) := by omega
  have hevents : n.events ++ [.sent request] ++ [.paused (pause n.tries)]
        ++ dialogue request ((List.range' (n.tries + 1) k).map pause)
      = n.events ++ dialogue request ((List.range' n.tries (k + 1)).map pause) := by
    rw [List.range'_succ, List.map_cons, dialogue_cons, List.append_assoc, List.append_assoc]
    rfl
  unfold after sent paused
  rw [htries, hevents]

end Wire

/-- A session in which a script says what comes back of each try. -/
def scriptedSession (script : Nat → Except Fault HttpResponse) (client : Client) :
    Session Wire where
  client := client
  transport := {
    send := fun request => Part.whole.step fun n => (script n.tries, n.sent request)
    pause := fun seconds => Part.whole.step fun n => (.ok (), n.paused seconds)
    now := return ⟨0⟩ }
  signs := fun _ => true
  state := Wire.clientPart

/-! ## The exchange -/

section Wire

variable {script : Nat → Except Fault HttpResponse} {client : Client}

/-- A try leads to what it comes to with what the script says. -/
theorem Wire.send_leads (request : HttpRequest) (n : Wire) :
    Leads ((scriptedSession script client).send request) n
      (outcomeOf request (script n.tries)) (n.sent request) :=
  Session.send_leads
    (leads_step Part.whole fun (m : Wire) => (script m.tries, m.sent request))

theorem Wire.pause_leads (seconds : Double) (n : Wire) :
    Leads ((scriptedSession script client).transport.pause seconds) n (.ok ())
      (n.paused seconds) :=
  leads_step Part.whole fun (m : Wire) => (.ok (), m.paused seconds)

/-- **The whole exchange**, from any try on: as many tries as there are reasons for, and no
more than are left. -/
theorem Wire.exchange_retries (url : String) (request : HttpRequest) {limit : Nat}
    (hlimit : limit ≤ 1024) (hfits : client.backoff.Fits limit)
    (hascii : ∀ i r, outcomeOf request (script i) = .ok r → AsksInAscii r) :
    ∀ (retries : Nat) (n : Wire), n.tries + retries ≤ limit →
      ∃ k ≤ retries,
        (∀ i < k, IsRetryable (outcomeOf request (script (n.tries + i)))) ∧
        (k < retries → ¬ IsRetryable (outcomeOf request (script (n.tries + k)))) ∧
        Leads ((scriptedSession script client).exchange url request retries n.tries) n
          (ending client.reading.depth url (outcomeOf request (script (n.tries + k))))
          (n.after request
            (fun i => pauseBehind client.backoff i (outcomeOf request (script i))) k) := by
  intro retries
  induction retries with
  | zero =>
    intro n _
    exact ⟨0, Nat.le_refl _, fun i hi => absurd hi (Nat.not_lt_zero i),
      fun h => absurd h (Nat.lt_irrefl _),
      Session.exchange_stops (Wire.send_leads request n) n.tries (Or.inl rfl)⟩
  | succ left ih =>
    intro n hn
    by_cases h : IsRetryable (outcomeOf request (script n.tries))
    · have hi : n.tries < limit := by omega
      have hpause := pauseAfter_eq hfits hi hlimit (hascii n.tries)
      have hleft : n.tries + 1 + left ≤ limit := by omega
      obtain ⟨k, hk, hbefore, hlast, hleads⟩ :=
        ih ((n.sent request).paused (pauseBehind client.backoff n.tries
          (outcomeOf request (script n.tries)))) hleft
      have htries : ∀ i, n.tries + (i + 1) = n.tries + 1 + i := fun i => by omega
      refine ⟨k + 1, Nat.succ_le_succ hk, fun i hi => ?_, fun hi => ?_, ?_⟩
      · cases i with
        | zero => exact h
        | succ i => exact htries i ▸ hbefore i (Nat.lt_of_succ_lt_succ hi)
      · exact htries k ▸ hlast (Nat.lt_of_succ_lt_succ hi)
      · rw [htries k, ← Wire.after_paused]
        exact Session.exchange_goesOn (Wire.send_leads request n) h hpause
          (Wire.pause_leads _ _) hleads
    · exact ⟨0, Nat.zero_le _, fun i hi => absurd hi (Nat.not_lt_zero i), fun _ => h,
        Session.exchange_stops (Wire.send_leads request n) n.tries (Or.inr h)⟩

end Wire

/-! ## Requests -/

/-- **The retry protocol.** A request that can be made is sent until a try comes to what is
no reason for another one, or the retries are used up: `k + 1` times, each time the same, with
a pause behind each of the first `k`. It ends with what the last try comes to. -/
theorem request_retries (script : Nat → Except Fault HttpResponse) {client : Client}
    {token : String} (htoken : client.access = .token token) (hretries : client.maxRetries ≤ 1024)
    (hfits : client.backoff.Fits client.maxRetries.toNat)
    (hascii : ∀ i r, script i = .ok r → AsksInAscii r) (method : Method) (url : String)
    (params : List (String × String)) (body : Option Json) {kept : ClientState}
    (hopen : kept.closed = false) :
    (∃ fault, client.tokenRequest token method url params body = .error fault ∧
      fault.isTransport = false ∧
      Leads ((scriptedSession script client).request method url params body)
        { client := kept } (.error fault) { client := kept }) ∨
    ∃ request, client.tokenRequest token method url params body = .ok request ∧
      request.method = method ∧ client.base.address url params = .ok request.address ∧
      request.authorization = (authorizationIn? request.address).getD (.bearer token) ∧
      request.body = body ∧
      ∃ k ≤ client.maxRetries.toNat,
        (∀ i < k, IsRetryable (outcomeOf request (script i))) ∧
        (k < client.maxRetries.toNat → ¬ IsRetryable (outcomeOf request (script k))) ∧
        Leads ((scriptedSession script client).request method url params body)
          { client := kept } (ending client.reading.depth url (outcomeOf request (script k)))
          { tries := k + 1
            events := Wire.dialogue request ((List.range k).map fun i =>
              pauseBehind client.backoff i (outcomeOf request (script i)))
            client := kept } := by
  rcases tokenRequest_cases client token method url params body with
    ⟨fault, hfault, htransport⟩ | ⟨request, hrequest, hmethod, haddress, hauthorization, hbody⟩
  · exact Or.inl ⟨fault, hfault, htransport,
      Session.request_leads htoken hopen (leads_bind_error hfault _)⟩
  · have hlimit : client.maxRetries.toNat ≤ 1024 := by omega
    obtain ⟨k, hk, hbefore, hlast, hleads⟩ :=
      Wire.exchange_retries url request hlimit hfits
        (fun i => asksInAscii_outcomeOf (hascii i)) client.maxRetries.toNat { client := kept }
        (Nat.le_of_eq (Nat.zero_add _))
    dsimp only [Wire.after] at hbefore hlast hleads
    simp only [Nat.zero_add, List.nil_append, ← List.range_eq_range'] at hbefore hlast hleads
    exact Or.inr ⟨request, hrequest, hmethod, haddress, hauthorization, hbody, k, hk, hbefore,
      hlast, Session.request_leads htoken hopen (leads_bind_ok hrequest hleads)⟩

/-! The request for the first page of a listing. -/

def commentsUrl : String := "/repos/o/r/issues/3/comments"

def firstPage : List (String × String) := [("per_page", toString pageSize), ("page", toString 1)]

def pageRequest : HttpRequest where
  method := .get
  address := { publicBase.root with path := commentsUrl, query := some "per_page=100&page=1" }
  authorization := .bearer "token"
  accept := usualAccept
  apiVersion := some usualVersion
  body := none

/-- The names in the address of the listing. -/
def commentsNames : List (List Char) :=
  "repos".toList :: ["o", "r", "issues", "3", "comments"].map String.toList

theorem isSegment_commentsNames : ∀ s ∈ commentsNames, IsSegment s := by
  have hall : commentsNames.all (fun s => s.all isUnreserved && s ≠ ['.'] && s ≠ ['.', '.'])
      = true := by decide +kernel
  intro s hs
  have hone := List.all_eq_true.mp hall s hs
  simp only [Bool.and_eq_true, decide_eq_true_eq] at hone
  exact ⟨List.all_eq_true.mp hone.1.1, hone.1.2, hone.2⟩

theorem address_page :
    publicClient.base.address commentsUrl firstPage = .ok pageRequest.address := by
  have hlength : (segmentPath commentsNames).length ≤ 60000 := by decide +kernel
  have hurl : String.ofList (segmentPath commentsNames) = commentsUrl := by decide +kernel
  have hquery : queryOf firstPage = "per_page=100&page=1" := by decide +kernel
  have hsendable : AreSendable firstPage :=
    (areSendable_page (by decide) : AreSendable [("per_page", _), ("page", toString 1)])
  have haddress := address_segmentPath isSite_publicBase (by decide) isSegment_commentsNames
    hlength hsendable
  rw [← commentsNames, hurl, hquery] at haddress
  exact haddress

theorem tokenRequest_page :
    publicClient.tokenRequest "token" .get commentsUrl firstPage none = .ok pageRequest := by
  have haddress := address_page
  have hplace : headerFault? pageRequest.address.place = none := by decide +kernel
  have hbearer : headerFault? ("Bearer " ++ "token") = none := by decide
  have hown : authorizationIn? pageRequest.address = none := if_pos (by decide +kernel)
  unfold Client.tokenRequest Client.request
  rw [haddress]
  simp only [bind, Except.bind, List.forIn_cons, List.forIn_nil]
  rw [hbearer, hplace, hown]
  rfl

theorem hasType_page : pageRequest.address.hasType = true :=
  hasType_site isSite_publicBase commentsUrl (some "per_page=100&page=1")

/-- The connection fails, then the code host is busy, then it answers. -/
def wobblyScript : Nat → Except Fault HttpResponse
  | 0 => .error (.unreachable "down")
  | 1 => .ok busyAnswer
  | _ => .ok { status := 200 }

theorem outcomeOf_wobbly (i : Nat) : outcomeOf pageRequest (wobblyScript i) = wobblyScript i := by
  match i with
  | 0 => rfl
  | 1 =>
    exact outcomeOf_ok hasType_page decoded_busyAnswer (redirection?_none (by decide))
  | _ + 2 => exact outcomeOf_ok hasType_page (decoded_of_plain rfl) rfl

theorem askedPause?_busyAnswer : askedPause? busyAnswer = some 7 := by
  unfold askedPause?
  rw [header?_busyAnswer]
  rfl

theorem asksInAscii_wobbly (i : Nat) (r : HttpResponse) (h : wobblyScript i = .ok r) :
    AsksInAscii r := by
  intro wanted hwanted
  match i, h with
  | 0, h => exact absurd h (by simp [wobblyScript])
  | 1, h =>
    obtain rfl := Except.ok.inj h
    obtain rfl := Option.some.inj (header?_busyAnswer.symm.trans hwanted)
    intro c hc
    obtain rfl : c = '7' := List.mem_singleton.mp hc
    decide
  | _ + 2, h =>
    obtain rfl := Except.ok.inj h
    have hnone : HttpResponse.header? { status := 200 } "Retry-After" = none := rfl
    exact absurd (hnone.symm.trans hwanted) (by simp)

theorem request_retries_wobbly :
    publicClient.access = .token "token" ∧ publicClient.maxRetries ≤ 1024 ∧
      publicClient.backoff.Fits publicClient.maxRetries.toNat ∧
      (∀ i r, wobblyScript i = .ok r → AsksInAscii r) ∧ ({} : ClientState).closed = false ∧
      Leads ((scriptedSession wobblyScript publicClient).request .get commentsUrl firstPage none) {}
        (.ok { status := 200 })
        { tries := 3
          events := [
            .sent pageRequest, .paused (.ofRatio false 1 1),
            .sent pageRequest, .paused (.ofRatio false 7 1), .sent pageRequest] } := by
  have hfits : publicClient.backoff.Fits publicClient.maxRetries.toNat :=
    fun seconds h => absurd h (by simp [publicClient])
  refine ⟨rfl, by decide, hfits, asksInAscii_wobbly, rfl, ?_⟩
  rcases request_retries wobblyScript (rfl : publicClient.access = .token "token") (by decide)
      hfits asksInAscii_wobbly .get commentsUrl firstPage none
      (rfl : ({} : ClientState).closed = false) with
    ⟨fault, hfault, _⟩ | ⟨request, hrequest, _, _, _, _, k, hk, hbefore, hlast, hleads⟩
  · exact absurd (tokenRequest_page.symm.trans hfault) (by simp)
  · obtain rfl := Except.ok.inj (tokenRequest_page.symm.trans hrequest)
    simp only [outcomeOf_wobbly] at hbefore hlast hleads
    -- the first two tries are reasons for another one, the third is none
    have hfirst : IsRetryable (wobblyScript 0) := rfl
    have hsecond : IsRetryable (wobblyScript 1) :=
      (by decide : (503 : Int) ∈ ([429, 500, 502, 503, 504] : List Int))
    have hthird : ¬ IsRetryable (wobblyScript 2) :=
      (by decide : (200 : Int) ∉ ([429, 500, 502, 503, 504] : List Int))
    have hthree : publicClient.maxRetries.toNat = 3 := rfl
    obtain rfl : k = 2 := by
      rcases Nat.lt_trichotomy k 2 with hless | rfl | hmore
      · have hlast := hlast (by omega)
        obtain rfl | rfl : k = 0 ∨ k = 1 := by omega
        · exact absurd hfirst hlast
        · exact absurd hsecond hlast
      · rfl
      · exact absurd (hbefore 2 hmore) hthird
    have hdoubled : pauseBehind publicClient.backoff 0 (wobblyScript 0) = .ofRatio false 1 1 :=
      (by decide +kernel : publicClient.backoff.doubled 0 = .ofRatio false 1 1)
    have hasked : pauseBehind publicClient.backoff 1 (wobblyScript 1) = .ofRatio false 7 1 :=
      pauseBehind_asked askedPause?_busyAnswer
    have hpauses : (List.range 2).map
          (fun i => pauseBehind publicClient.backoff i (wobblyScript i))
        = [.ofRatio false 1 1, .ofRatio false 7 1] := by
      rw [← hdoubled, ← hasked]
      rfl
    rw [hpauses] at hleads
    exact hleads

/-! A refusal whose content is nested too deep is no refusal in the end. -/

/-- Lists in lists, deeper than they are read. -/
def nestedRefusal : HttpResponse where
  status := 404
  content := Json.nestedLists 3000

theorem detail_nestedRefusal :
    nestedRefusal.detail publicClient.reading.depth = .error (.json (.tooDeep false)) := by
  have hjson : nestedRefusal.json publicClient.reading.depth = .error (.json (.tooDeep false)) :=
    Json.readBytes_nestedLists (by decide)
  have hsize : nestedRefusal.content.size = 6000 := by
    show (List.replicate 3000 (0x5b : UInt8) ++ List.replicate 3000 0x5d).length = 6000
    rw [List.length_append, List.length_replicate, List.length_replicate]
  have hempty : nestedRefusal.content.isEmpty = false := by
    unfold ByteArray.isEmpty
    rw [hsize]
    rfl
  unfold HttpResponse.detail
  rw [hempty, hjson]
  rfl

/-- The request ends with the fault of reading the refusal, which is none of the code host. -/
theorem request_nestedRefusal :
    nestedRefusal.decoded = .ok nestedRefusal ∧ nestedRefusal.status = 404 ∧
      ∃ fault, fault.isHosting = false ∧
        Leads ((scriptedSession (fun _ => .ok nestedRefusal) publicClient).request .get commentsUrl
          firstPage none) {} (.error fault) { tries := 1, events := [.sent pageRequest] } := by
  have hdecoded : nestedRefusal.decoded = .ok nestedRefusal := decoded_of_plain rfl
  have hstays : nestedRefusal.redirection? = none := redirection?_none (by decide)
  have houtcome := outcomeOf_ok hasType_page hdecoded hstays
  have hfinal : ¬ IsRetryable (.ok nestedRefusal) :=
    (by decide : (404 : Int) ∉ ([429, 500, 502, 503, 504] : List Int))
  have hending : ending publicClient.reading.depth commentsUrl (.ok nestedRefusal)
      = .error (.json (.tooDeep false)) := by
    dsimp only [ending]
    rw [detail_nestedRefusal]
    rfl
  have hexchange : Leads ((scriptedSession (fun _ => .ok nestedRefusal) publicClient).exchange
      commentsUrl pageRequest publicClient.maxRetries.toNat 0) {}
      (ending publicClient.reading.depth commentsUrl (outcomeOf pageRequest (.ok nestedRefusal)))
      (Wire.sent {} pageRequest) :=
    Session.exchange_stops (Wire.send_leads pageRequest {}) 0 (Or.inr (houtcome.symm ▸ hfinal))
  rw [houtcome, hending] at hexchange
  exact ⟨hdecoded, rfl, _, rfl,
    Session.request_leads rfl rfl (leads_bind_ok tokenRequest_page hexchange)⟩

end PullReview.GitHub
