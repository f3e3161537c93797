import PullReview.Proofs.GitHub.Pauses
import PullReview.Proofs.World.Alike

/-!
# Single tries

What a request comes to is made of what its tries come to. A try comes to the response that
came back, decoded, or to a fault (`outcomeOf`). It is a reason for another try
(`IsRetryable`), or else it settles what the request ends with (`ending`).

Over any session, one try of the loop either ends it (`Session.exchange_stops`) or leads to
the loop with one try less, behind a pause (`Session.exchange_goesOn`). With a token at hand
a request leads to what its exchange leads to (`Session.request_leads_of_token`).
-/

namespace PullReview.GitHub

open Act

variable {σ : Type}

/-! ## Outcomes -/

/-- What a try comes to with what comes back: a response has to be decoded, to belong to a
whole address and to point, if anywhere, to an address. -/
def outcomeOf (request : HttpRequest) (reply : Except Fault HttpResponse) :
    Except Fault HttpResponse :=
  match reply.bind HttpResponse.decoded with
  | .error fault => .error fault
  | .ok r =>
    if request.address.hasType then
      match redirectFault? request r with
      | some fault => .error fault
      | none => .ok r
    else .error (.data (.noScheme request.address.text))

/-- What may pass by itself: the connection fails, or the status says so. -/
def IsRetryable : Except Fault HttpResponse → Prop
  | .ok r => r.status ∈ ([429, 500, 502, 503, 504] : List Int)
  | .error fault => fault.isTransport = true

/-- What a request ends with when a try comes to `outcome` and is the last one. -/
def ending (depth : Nat) (url : String) (outcome : Except Fault HttpResponse) :
    Except Fault HttpResponse :=
  match outcome with
  | .ok r =>
    if r.status < 400 then .ok r
    else match r.detail depth with
      | .ok detail =>
        .error (.api
          ⟨s!"GitHub API request to {url} failed with status {r.status}.", r.status, detail⟩)
      | .error fault => .error fault
  | .error fault =>
    if fault.isTransport then
      .error (.api ⟨s!"GitHub API request to {url} failed: {fault.message}", 0, .null⟩)
    else .error fault

theorem refuses_of_isPassing {status : Int} (h : isPassing status = true) : 400 ≤ status := by
  have hmem : status ∈ [429, 500, 502, 503, 504] := List.contains_iff_mem.mp h
  simp only [List.mem_cons, List.not_mem_nil, or_false] at hmem
  omega

theorem passes_iff {r : HttpResponse} : IsRetryable (.ok r) ↔ isPassing r.status = true :=
  List.contains_iff_mem.symm

theorem refusal_eq {how : Reading} {url : String} {r : HttpResponse} (h : 400 ≤ r.status) :
    (.error (Session.refusal how url r) : Except Fault HttpResponse)
      = ending how.depth url (.ok r) := by
  unfold ending Session.refusal
  dsimp only
  rw [if_neg (Int.not_lt.mpr h)]
  cases r.detail how.depth with
  | ok detail => rfl
  | error fault => rfl

theorem redirection?_none {d : HttpResponse} (h : 400 ≤ d.status) : d.redirection? = none := by
  have hother : d.status ∉ [301, 302, 303, 307, 308] := by
    intro hmem
    simp only [List.mem_cons, List.not_mem_nil, or_false] at hmem
    omega
  unfold HttpResponse.redirection?
  rw [if_neg fun hsent => hother (List.contains_iff_mem.mp hsent)]

/-- A response that can be decoded and stays where it is is what a try comes to. -/
theorem outcomeOf_ok {request : HttpRequest} (htype : request.address.hasType = true)
    {response d : HttpResponse} (hdecoded : response.decoded = .ok d)
    (hstays : d.redirection? = none) : outcomeOf request (.ok response) = .ok d := by
  have hnone : redirectFault? request d = none := by
    unfold redirectFault?
    rw [hstays]
    rfl
  unfold outcomeOf
  dsimp only [Except.bind]
  rw [hdecoded]
  dsimp only
  rw [htype, hnone]
  rfl

/-- Decoding changes no more than the content. -/
theorem header?_decoded {r d : HttpResponse} (h : r.decoded = .ok d) (name : String) :
    d.header? name = r.header? name := by
  unfold HttpResponse.decoded at h
  dsimp only [bind, Except.bind] at h
  split at h
  · exact absurd h (by simp)
  · obtain rfl := Except.ok.inj h
    rfl

/-- A try that comes to a response comes to the one that came back, decoded. -/
theorem decoded_of_outcomeOf {request : HttpRequest} {reply : Except Fault HttpResponse}
    {d : HttpResponse} (h : outcomeOf request reply = .ok d) :
    ∃ r, reply = .ok r ∧ r.decoded = .ok d := by
  unfold outcomeOf at h
  cases reply with
  | error fault => exact absurd h (by simp [Except.bind])
  | ok r =>
    dsimp only [Except.bind] at h
    cases hdecoded : r.decoded with
    | error fault =>
      rw [hdecoded] at h
      exact absurd h (by simp)
    | ok d' =>
      rw [hdecoded] at h
      dsimp only at h
      split at h
      · split at h
        · exact absurd h (by simp)
        · exact ⟨r, rfl, hdecoded.trans h⟩
      · exact absurd h (by simp)

theorem asksInAscii_outcomeOf {request : HttpRequest} {reply : Except Fault HttpResponse}
    (hascii : ∀ r, reply = .ok r → AsksInAscii r) (d : HttpResponse)
    (h : outcomeOf request reply = .ok d) : AsksInAscii d := by
  obtain ⟨r, hreply, hdecoded⟩ := decoded_of_outcomeOf h
  intro wanted hwanted
  rw [header?_decoded hdecoded] at hwanted
  exact hascii r hreply wanted hwanted

/-! ## One try of the loop -/

namespace Session

variable {s : Session σ} {request : HttpRequest} {url : String} {x y : σ}

/-- A try leads to what it comes to with what comes back. -/
theorem send_leads {reply : Except Fault HttpResponse}
    (h : Leads (s.transport.send request) x reply y) :
    Leads (s.send request) x (outcomeOf request reply) y := by
  unfold Session.send outcomeOf
  cases reply with
  | error fault => exact h.bind_error _
  | ok response =>
    refine h.bind ?_
    dsimp only [Except.bind]
    cases response.decoded with
    | error fault => exact leads_bind_error rfl _
    | ok r =>
      refine leads_bind_ok rfl ?_
      cases request.address.hasType with
      | false => exact leads_throw _
      | true =>
        dsimp only
        cases redirectFault? request r with
        | some fault => exact leads_throw fault
        | none => exact leads_pure r

/-- A try that is no reason for another one, or the last one, ends the exchange. -/
theorem exchange_stops {outcome : Except Fault HttpResponse}
    (hsend : Leads (s.send request) x outcome y) {retries : Nat} (tried : Nat)
    (h : retries = 0 ∨ ¬ IsRetryable outcome) :
    Leads (s.exchange url request retries tried) x
      (ending s.client.reading.depth url outcome) y := by
  unfold Session.exchange
  refine hsend.attempt.bind ?_
  cases outcome with
  | ok r =>
    dsimp only
    split
    · next hstatus =>
      have hreturned : ending s.client.reading.depth url (.ok r) = .ok r := if_pos hstatus
      rw [hreturned]
      exact leads_pure r
    · next hstatus =>
      rw [← refusal_eq (Int.not_lt.mp hstatus)]
      split
      · exact leads_throw _
      · next hpassing =>
        have hretryable : IsRetryable (.ok r) := passes_iff.mpr (by simpa using hpassing)
        obtain rfl := h.resolve_right fun hno => hno hretryable
        exact leads_throw _
  | error fault =>
    dsimp only [ending]
    split
    · next htransport =>
      rw [if_neg (by simpa using htransport)]
      exact leads_throw _
    · next htransport =>
      have hretryable : fault.isTransport = true := by simpa using htransport
      rw [if_pos hretryable]
      obtain rfl := h.resolve_right fun hno => hno hretryable
      exact leads_throw _

/-- A try that is a reason for another one leads to the exchange with one try less, behind
a pause. -/
theorem exchange_goesOn {outcome : Except Fault HttpResponse}
    (hsend : Leads (s.send request) x outcome y) (h : IsRetryable outcome) {tried : Nat}
    {seconds : Double} (hpause : pauseAfter s.client tried outcome.toOption = .ok seconds) {z : σ}
    (hpaused : Leads (s.transport.pause seconds) y (.ok ()) z) {left : Nat}
    {result : Except Fault HttpResponse} {last : σ}
    (hnext : Leads (s.exchange url request left (tried + 1)) z result last) :
    Leads (s.exchange url request (left + 1) tried) x result last := by
  unfold Session.exchange
  refine hsend.attempt.bind ?_
  cases outcome with
  | ok r =>
    have hpassing := passes_iff.mp h
    dsimp only
    rw [if_neg (Int.not_lt.mpr (refuses_of_isPassing hpassing)), hpassing]
    refine (leads_write _ _ _).bind ?_
    exact (leads_bind_ok hpause hpaused).bind hnext
  | error fault =>
    have htransport : fault.isTransport = true := h
    dsimp only
    rw [htransport]
    refine (leads_write _ _ _).bind ?_
    exact (leads_bind_ok hpause hpaused).bind hnext

/-- A pause that cannot be told ends the exchange. -/
theorem exchange_untold {outcome : Except Fault HttpResponse}
    (hsend : Leads (s.send request) x outcome y) (h : IsRetryable outcome) {tried : Nat}
    {fault : Fault} (hpause : pauseAfter s.client tried outcome.toOption = .error fault)
    (left : Nat) :
    Leads (s.exchange url request (left + 1) tried) x (.error fault) y := by
  unfold Session.exchange
  refine hsend.attempt.bind ?_
  cases outcome with
  | ok r =>
    have hpassing := passes_iff.mp h
    dsimp only
    rw [if_neg (Int.not_lt.mpr (refuses_of_isPassing hpassing)), hpassing]
    refine (leads_write _ _ _).bind ?_
    exact (leads_bind_error hpause _).bind_error _
  | error cause =>
    have htransport : cause.isTransport = true := h
    dsimp only
    rw [htransport]
    refine (leads_write _ _ _).bind ?_
    exact (leads_bind_error hpause _).bind_error _

/-- A try that is a reason for another one, with a pause behind it that can be told and is
made. -/
def GoesOn (s : Session σ) (request : HttpRequest) (tried : Nat) (x z : σ) : Prop :=
  ∃ outcome seconds y, Leads (s.send request) x outcome y ∧ IsRetryable outcome ∧
    pauseAfter s.client tried outcome.toOption = .ok seconds ∧
    Leads (s.transport.pause seconds) y (.ok ()) z

/-- **Tries that are reasons for other ones** lead through the exchange to the try behind
them. -/
theorem exchange_passes {during : Nat → σ} {retries : Nat} {result : Except Fault HttpResponse}
    {last : σ} :
    ∀ {n : Nat}, n ≤ retries → (∀ i < n, s.GoesOn request i (during i) (during (i + 1))) →
      Leads (s.exchange url request (retries - n) n) (during n) result last →
      Leads (s.exchange url request retries 0) (during 0) result last := by
  intro n
  induction n with
  | zero => intro _ _ hlast; exact hlast
  | succ n ih =>
    intro hn h hlast
    obtain ⟨outcome, seconds, y, hsend, hretryable, hpause, hpaused⟩ :=
      h n (Nat.lt_succ_self n)
    refine ih (Nat.le_of_succ_le hn) (fun i hi => h i (Nat.lt_succ_of_lt hi)) ?_
    have hleft : retries - n = retries - (n + 1) + 1 := by omega
    rw [hleft]
    exact exchange_goesOn hsend hretryable hpause hpaused hlast

end Session

/-! ## Requests -/

/-- A URL below the base that is no address is no failure of the connection. -/
theorem isTransport_address {b : Base} {url : String} {params : List (String × String)}
    {fault : Fault} (h : b.address url params = .error fault) : fault.isTransport = false := by
  unfold Base.address at h
  dsimp only at h
  cases hbelow : Url.Reference.ofString url with
  | error cause =>
    rw [hbelow] at h
    exact Except.error.inj h ▸ rfl
  | ok below =>
    rw [hbelow] at h
    dsimp only [Except.mapError, bind, Except.bind] at h
    split at h
    · next fault' hwhole =>
      split at hwhole
      · obtain rfl := Except.error.inj hwhole
        exact Except.error.inj h ▸ rfl
      · exact absurd hwhole (by simp)
    · next whole hwhole =>
      split at h
      · exact absurd h (by simp [pure, Except.pure])
      · split at h
        · exact Except.error.inj h ▸ rfl
        · exact absurd h (by simp)

theorem isTransport_header {value : String} {fault : Fault} (h : headerFault? value = some fault) :
    fault.isTransport = false := by
  unfold headerFault? at h
  dsimp only at h
  split at h
  · exact absurd h (by simp)
  · exact Option.some.inj h ▸ rfl

/-- The request that a client makes with a token. -/
def Client.tokenRequest (c : Client) (token : String) (method : Method) (url : String)
    (params : List (String × String)) (body : Option Json) : Except Fault HttpRequest :=
  c.request method url params (.bearer token) (if c.ownsConnection then usualAccept else "*/*")
    (if c.ownsConnection then some usualVersion else none) body

/-- A request has the method, the address, the credentials and the body that it is made
for; one that cannot be made is no failure of the connection. -/
theorem tokenRequest_cases (c : Client) (token : String) (method : Method) (url : String)
    (params : List (String × String)) (body : Option Json) :
    (∃ fault, c.tokenRequest token method url params body = .error fault ∧
      fault.isTransport = false) ∨
    ∃ request, c.tokenRequest token method url params body = .ok request ∧
      request.method = method ∧ c.base.address url params = .ok request.address ∧
      request.authorization = (authorizationIn? request.address).getD (.bearer token) ∧
      request.body = body := by
  unfold Client.tokenRequest Client.request
  cases haddress : c.base.address url params with
  | error fault => exact Or.inl ⟨fault, rfl, isTransport_address haddress⟩
  | ok a =>
    simp only [bind, Except.bind, List.forIn_cons, List.forIn_nil]
    cases htoken : headerFault? ("Bearer " ++ token) with
    | some fault => exact Or.inl ⟨fault, rfl, isTransport_header htoken⟩
    | none =>
      cases hplace : headerFault? a.place with
      | some fault => exact Or.inl ⟨fault, rfl, isTransport_header hplace⟩
      | none =>
        cases hflaw : body.bind (·.flaw? (c.reading.depth + 1)) with
        | some flaw => exact Or.inl ⟨.unwritable flaw, rfl, rfl⟩
        | none => exact Or.inr ⟨_, rfl, rfl, rfl, rfl, rfl⟩

namespace Session

variable {s : Session σ}

theorem stateNow_leads (x : σ) : Leads s.stateNow x (.ok (s.state.get x)) x := by
  rintro w rfl
  exact ⟨w, rfl, rfl⟩

theorem token_leads {token : String} (h : s.client.access = .token token) (x : σ) :
    Leads s.token x (.ok (.str token)) x := by
  unfold Session.token
  rw [h]
  exact leads_pure _

section Request

variable {x y : σ} {method : Method} {url : String} {params : List (String × String)}
  {body : Option Json} {result : Except Fault HttpResponse}

/-- With a token at hand and an open connection a request is made and exchanged, and nothing
else. -/
theorem request_leads_of_token {token : Json} (htoken : Leads s.token x (.ok token) x)
    (hopen : (s.state.get x).closed = false)
    (h : Leads (do
        let request ← liftM (s.client.tokenRequest token.display method url params body)
        s.exchange url request s.client.maxRetries.toNat 0) x result y) :
    Leads (s.request method url params body) x result y := by
  unfold Session.request
  refine htoken.bind ((stateNow_leads x).bind ?_)
  dsimp only
  rw [hopen]
  exact h

theorem request_leads {token : String} (htoken : s.client.access = .token token)
    (hopen : (s.state.get x).closed = false)
    (h : Leads (do
        let request ← liftM (s.client.tokenRequest token method url params body)
        s.exchange url request s.client.maxRetries.toNat 0) x result y) :
    Leads (s.request method url params body) x result y :=
  request_leads_of_token (token_leads htoken x) hopen h

end Request

end Session

end PullReview.GitHub
