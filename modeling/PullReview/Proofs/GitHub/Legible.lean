import PullReview.Proofs.Except
import PullReview.Proofs.GitHub.Address
import PullReview.Proofs.GitHub.Pauses
import PullReview.Proofs.Review.Publishing

/-!
# Answers that can be read

A session keeps to faults of talking to the code host as long as every answer is
`Legible`: what is looked for in it can be read. The code host may refuse, ask to wait,
send the client on, send garbled content or not answer at all; each request then ends
with a value that can be read or with such a fault (`sessionRequest_ends`).
-/

namespace PullReview.GitHub

open Act Text Url

variable {σ : Type}

/-- Faults of talking to the code host. -/
abbrev Hosting (fault : Fault) : Prop := fault.isHosting = true

theorem hosting_api (cause : ApiFault) : Hosting (.api cause) := rfl

/-! ## Answers that can be read -/

/-- A comment as the code host lists it. -/
structure IsListed (c : Json) : Prop where
  isObject : ∃ members, c = .obj members
  id : ∃ n : Int, c.getD "id" = .int n ∧ (toString n).toList.length ≤ 800
  body : c.getD "body" = .null ∨ ∃ text, c.getD "body" = .str text
  user : c.getD "user" = .null ∨ ∃ members, c.getD "user" = .obj members
  path : c.getD "path" = .null ∨ ∃ p, c.getD "path" = .str p

/-- A token whose end has a date and that can be sent. -/
def InstallationToken.IsUsable (t : InstallationToken) : Prop :=
  (⟨t.expiresAt.micros - InstallationToken.usualSkew⟩ : Instant).hasDate = true ∧
    headerFault? ("Bearer " ++ t.token.display) = none

/-- The pause that a response asks for, if it asks for one in digits, can be told and has
an end. -/
def AsksReadably (r : HttpResponse) : Prop :=
  ∀ wanted, r.header? "Retry-After" = some wanted → allDigitKind wanted.toList = true →
    ∃ x, Double.ofDigits? wanted.toList = some x ∧ x.isFinite = true

/-- An answer in which everything that a client looks for can be read: where it sends the
client on to, how long it asks to wait, what it says when it refuses, and otherwise a
value, in which comments and tokens have their usual shape. The last page that a client
reads is not full. -/
structure Legible (c : Client) (request : HttpRequest) (r : HttpResponse) : Prop where
  redirection : ∀ fault, redirectFault? request r = some fault → Hosting fault
  delay : AsksReadably r
  refusal : 400 ≤ r.status → ∃ detail, r.detail c.reading.depth = .ok detail
  value : r.status < 400 → ∃ v, r.json c.reading.depth = .ok v
  comments : request.method = .get → ∀ items, r.json c.reading.depth = .ok (.arr items) →
    ∀ comment ∈ items, IsListed comment
  lastPage : request.method = .get →
    request.address.query = some (queryOf (pageParams c.pageLimit)) →
    ∀ items, r.json c.reading.depth = .ok (.arr items) → items.length < pageSize
  token : request.method = .post → request.body = none → ∀ url,
    Allowed InstallationToken.IsUsable Hosting (tokenOfResponse c.reading url r)

/-! ## Sessions -/

/-- The connection is open, and a token that is kept can be used. -/
structure Session.IsReady (s : Session σ) (x : σ) : Prop where
  isOpen : (s.state.get x).closed = false
  token : ∀ t, (s.state.get x).token = some t → t.IsUsable

/-- What a session relies on, whatever the code host answers. -/
structure Session.IsSound (s : Session σ) (front : List (List Char)) : Prop where
  site : s.client.base.IsSite front
  state : ∀ x st, s.state.get (s.state.set x st) = st
  waits : ∀ tried < s.client.maxRetries.toNat,
    ∃ x, Session.backoffAfter s.client tried = .ok x ∧ x.isFinite = true
  pages : 0 < s.client.pageLimit ∧ (toString s.client.pageLimit).toList.length ≤ 60000
  token : ∀ token, s.client.access = .token token → headerFault? ("Bearer " ++ token) = none
  app : ∀ credentials, s.client.access = .app credentials →
    (toString credentials.installationId).toList.length ≤ 800
  send : ∀ request, Ends (s.transport.send request) s.IsReady
    (fun r => ∀ decoded, r.decoded = .ok decoded → Legible s.client request decoded) Hosting
  pause : ∀ x : Double, x.isFinite = true →
    Succeeds (s.transport.pause x) s.IsReady fun _ => True
  now : Succeeds s.transport.now s.IsReady fun t =>
    ∀ credentials, ∃ claims, claimsAt credentials t = .ok claims

/-! ## Single answers -/

theorem foldlM_undo_error {codings : List Coding} {content : ByteArray} {fault : Fault}
    (h : codings.foldlM (fun content coding => (coding.undo content).mapError Fault.garbled) content
      = .error fault) : ∃ cause, fault = .garbled cause := by
  induction codings generalizing content with
  | nil => exact absurd h (by simp [pure, Except.pure])
  | cons coding rest ih =>
    rw [List.foldlM_cons] at h
    cases hundo : coding.undo content with
    | error cause =>
      rw [hundo] at h
      exact ⟨cause, (Except.error.inj h).symm⟩
    | ok decoded =>
      rw [hundo] at h
      exact ih h

theorem decoded_of_plain {r : HttpResponse} (h : r.codings = []) : r.decoded = .ok r := by
  unfold HttpResponse.decoded
  rw [h]
  rfl

/-- Content that cannot be decoded is a fault of talking to the code host. -/
theorem hosting_of_decoded {r : HttpResponse} {fault : Fault} (h : r.decoded = .error fault) :
    Hosting fault := by
  unfold HttpResponse.decoded at h
  dsimp only at h
  cases hfold : r.codings.reverse.foldlM (fun content coding =>
      (Coding.undo coding content).mapError Fault.garbled) r.content with
  | error e =>
    rw [hfold] at h
    obtain ⟨cause, rfl⟩ := foldlM_undo_error hfold
    obtain rfl := Except.error.inj h
    rfl
  | ok content =>
    rw [hfold] at h
    exact absurd h (by simp [bind, Except.bind, pure, Except.pure])

theorem hosting_refusal {c : Client} {request : HttpRequest} {r : HttpResponse}
    (h : Legible c request r) (hstatus : 400 ≤ r.status) (url : String) :
    Hosting (Session.refusal c.reading url r) := by
  obtain ⟨detail, hdetail⟩ := h.refusal hstatus
  unfold Session.refusal
  rw [hdetail]
  rfl

theorem stateNow_succeeds {s : Session σ} :
    Succeeds s.stateNow s.IsReady fun st =>
      st.closed = false ∧ ∀ t, st.token = some t → t.IsUsable :=
  fun _ hw => ⟨hw, hw.isOpen, hw.token⟩

/-- A pause can be told and has an end when this holds of the doubled one, and of the one
that a response asks for. -/
theorem pauseAfter_ok {c : Client} {tried : Nat}
    (hdoubled : ∃ x, Session.backoffAfter c tried = .ok x ∧ x.isFinite = true)
    {response : Option HttpResponse} (hresponse : ∀ r, response = some r → AsksReadably r) :
    ∃ x, Session.pauseAfter c tried response = .ok x ∧ x.isFinite = true := by
  unfold Session.pauseAfter
  cases response with
  | none => exact hdoubled
  | some r =>
    rw [Option.bind_some]
    split
    · exact hdoubled
    · next wanted hwanted =>
      split
      · next hdigits =>
        obtain ⟨x, hx, hfinite⟩ := hresponse r rfl wanted hwanted hdigits
        rw [hx]
        exact ⟨x, rfl, hfinite⟩
      · exact hdoubled

section Session

variable {s : Session σ} {front : List (List Char)} (h : s.IsSound front)
include h

/-- A pause can be told and is made. -/
theorem wait_ends {tried : Nat} (htried : tried < s.client.maxRetries.toNat)
    {response : Option HttpResponse}
    (hresponse : ∀ r, response = some r → ∃ request, Legible s.client request r)
    {E : Fault → Prop} :
    Ends (do s.transport.pause (← liftM (Session.pauseAfter s.client tried response)))
      s.IsReady (fun _ => True) E := by
  obtain ⟨x, hx, hfinite⟩ := pauseAfter_ok (h.waits tried htried) fun r hr =>
    (hresponse r hr).elim fun _ hlegible => hlegible.delay
  exact Ends.bind_ok hx (h.pause x hfinite).ends

theorem send_ends {request : HttpRequest} (htype : request.address.hasType = true) :
    Ends (s.send request) s.IsReady (Legible s.client request) Hosting := by
  have hdecoded : ∀ r : HttpResponse,
      (∀ decoded, r.decoded = .ok decoded → Legible s.client request decoded) →
      Allowed (Legible s.client request) Hosting r.decoded := by
    intro r hr
    cases hdecoded : r.decoded with
    | ok d => exact hr d hdecoded
    | error fault => exact hosting_of_decoded hdecoded
  unfold Session.send
  refine (h.send request).bind fun r hr => (ends_liftM (hdecoded r hr)).bind fun d hd => ?_
  rw [htype]
  simp only [Bool.not_true, Bool.false_eq_true, if_false]
  split
  · next fault hfault =>
    exact ends_throw_bind (hd.redirection fault hfault)
  · exact ends_pure hd

/-- A try ends as the next one does, or with an answer, or with a fault of talking to the code
host. -/
theorem try_ends (url : String) {request : HttpRequest} (htype : request.address.hasType = true)
    {retries tried : Nat}
    (hnext : ∀ left, retries = left + 1 → tried < s.client.maxRetries.toNat ∧
      Ends (s.exchange url request left (tried + 1)) s.IsReady
        (fun r => r.status < 400 ∧ Legible s.client request r) Hosting) :
    Ends (s.exchange url request retries tried) s.IsReady
      (fun r => r.status < 400 ∧ Legible s.client request r) Hosting := by
  unfold Session.exchange
  refine (send_ends h htype).attempt.bind fun answer hanswer => ?_
  cases answer with
  | ok r =>
    have hr : Legible s.client request r := hanswer
    dsimp only
    split
    · next hstatus => exact ends_pure ⟨hstatus, hr⟩
    · next hstatus =>
      have hrefused := hosting_refusal hr (Int.not_lt.mp hstatus) url
      split
      · exact ends_throw hrefused
      · cases retries with
        | zero => exact ends_throw hrefused
        | succ left =>
          obtain ⟨hleft, hagain⟩ := hnext left rfl
          refine (ends_write _ _ _).bind fun _ _ => ?_
          refine (wait_ends h hleft fun q hq => ?_).bind fun _ _ => hagain
          exact ⟨request, Option.some.inj hq ▸ hr⟩
  | error fault =>
    dsimp only
    split
    · exact ends_throw hanswer
    · cases retries with
      | zero => exact ends_throw rfl
      | succ left =>
        obtain ⟨hleft, hagain⟩ := hnext left rfl
        refine (ends_write _ _ _).bind fun _ _ => ?_
        refine (wait_ends h hleft fun q hq => ?_).bind fun _ _ => hagain
        exact absurd hq (by simp)

/-- However often a request is sent, it fails with faults of talking to the code host
alone. -/
theorem exchange_ends (url : String) {request : HttpRequest}
    (htype : request.address.hasType = true) :
    ∀ retries tried : Nat, tried + retries ≤ s.client.maxRetries.toNat →
      Ends (s.exchange url request retries tried) s.IsReady
        (fun r => r.status < 400 ∧ Legible s.client request r) Hosting := by
  intro retries
  induction retries with
  | zero =>
    intro tried _
    exact try_ends h url htype fun left hleft => absurd hleft (by simp)
  | succ retries ih =>
    intro tried htried
    refine try_ends h url htype fun left hleft => ?_
    obtain rfl := Nat.succ.inj hleft
    exact ⟨by omega, ih (tried + 1) (by omega)⟩

/-! ## Tokens -/

theorem setState_succeeds {st : ClientState} (hopen : st.closed = false)
    (htoken : ∀ t, st.token = some t → t.IsUsable) :
    Succeeds (s.setState st) s.IsReady fun _ => True := by
  intro w _
  refine ⟨?_, trivial⟩
  have hget := h.state w.outside st
  exact ⟨(congrArg ClientState.closed hget).trans hopen,
    fun t ht => htoken t ((congrArg ClientState.token hget).symm.trans ht)⟩

/-! ## Requests -/

omit h in
/-- A request whose address, credentials and body can be sent. -/
theorem request_eq {c : Client} (method : Method) {url : String} {params : List (String × String)}
    {a : Reference} (haddress : c.base.address url params = .ok a)
    (hplace : headerFault? a.place = none) {authorization : Authorization}
    (htoken : ∀ token, authorization = .bearer token → headerFault? ("Bearer " ++ token) = none)
    (accept : String) (version : Option String) (body : Option Json)
    (hbody : body.bind (·.flaw? (c.reading.depth + 1)) = none) :
    ∃ request, c.request method url params authorization accept version body = .ok request ∧
      request.method = method ∧ request.address = a ∧ request.body = body := by
  have hnone : headerFault? ("Bearer " ++ "") = none := by decide
  unfold Client.request
  rw [haddress]
  simp only [bind, Except.bind, List.forIn_cons, List.forIn_nil]
  cases authorization with
  | bearer token =>
    rw [htoken token rfl, hplace, hbody]
    exact ⟨_, rfl, rfl, rfl, rfl⟩
  | app | basic =>
    rw [hnone, hplace, hbody]
    exact ⟨_, rfl, rfl, rfl, rfl⟩

/-- A request with a path from the root on can be made. -/
theorem request_ok (method : Method) {url : String} (hurl : IsRooted url)
    (params : List (String × String)) (hparams : (queryOf params).toList.length ≤ maxLength)
    {authorization : Authorization}
    (htoken : ∀ token, authorization = .bearer token → headerFault? ("Bearer " ++ token) = none)
    (accept : String) (version : Option String) (body : Option Json)
    (hbody : body.bind (·.flaw? (s.client.reading.depth + 1)) = none) :
    ∃ request, s.client.request method url params authorization accept version body = .ok request ∧
      request.method = method ∧ request.body = body ∧ request.address.hasType = true ∧
      (params ≠ [] →
        request.address.query = some (String.ofList (escapedQuery (queryOf params).toList))) := by
  obtain ⟨a, haddress, hplace, htype, hquery⟩ := address_ok h.site hurl params hparams
  obtain ⟨request, hrequest, hmethod, ha, hsame⟩ :=
    request_eq method haddress hplace htoken accept version body hbody
  exact ⟨request, hrequest, hmethod, hsame, ha ▸ htype, ha ▸ hquery⟩

omit h in
theorem isRooted_accessTokens {n : Int} (hn : (toString n).toList.length ≤ 800) :
    IsRooted s!"/app/installations/{n}/access_tokens" := by
  have hlast : IsShort 14 "/access_tokens" := isShort_of_all (by decide) (by decide)
  have hfirst : IsShort 19 "/app/installations/" := isShort_of_all (by decide) (by decide)
  have hrest := (isShort_number hn).append hlast
  show IsRooted ("/app/installations/" ++ toString n ++ "/access_tokens")
  rw [String.append_assoc]
  exact isRooted_append rfl (by decide) hfirst hrest (by decide)

/-- A new token is one that can be used, or there is none. -/
theorem mintToken_ends {credentials : AppCredentials}
    (hnumber : (toString credentials.installationId).toList.length ≤ 800) :
    Ends (s.mintToken credentials) s.IsReady
      (fun token => headerFault? ("Bearer " ++ token.display) = none) Hosting := by
  have hurl := isRooted_accessTokens hnumber
  unfold Session.mintToken
  refine stateNow_succeeds.ends.bind fun st hst => ?_
  dsimp only
  rw [hst.1]
  simp only [Bool.false_eq_true, if_false]
  refine h.now.ends.bind fun t ht => ?_
  obtain ⟨claims, hclaims⟩ := ht credentials
  refine Ends.bind_ok hclaims ?_
  split
  · exact ends_throw_bind (hosting_api _)
  · have hclaim : ∀ token, Authorization.app claims = .bearer token →
        headerFault? ("Bearer " ++ token) = none := fun _ e => absurd e (by simp)
    obtain ⟨request, hrequest, hmethod, hbody, htype, -⟩ :=
      request_ok h .post hurl [] (by decide) hclaim usualAccept (some usualVersion) none rfl
    refine Ends.bind_ok hrequest ?_
    refine (send_ends h htype).bind fun r hr => ?_
    refine (ends_liftM (hr.token hmethod hbody _)).bind fun token htoken => ?_
    have hkept : ∀ t, some token = some t → t.IsUsable := fun t ht => Option.some.inj ht ▸ htoken
    have hset : Succeeds (s.setState { token := some token }) s.IsReady fun _ => True :=
      setState_succeeds h rfl hkept
    refine hset.ends.bind fun _ _ => ?_
    exact ends_pure htoken.2

/-- The token for a request can be sent. -/
theorem token_ends :
    Ends s.token s.IsReady (fun token => headerFault? ("Bearer " ++ token.display) = none)
      Hosting := by
  unfold Session.token
  cases haccess : s.client.access with
  | token token => exact ends_pure (h.token token haccess)
  | app credentials =>
    have hmint := mintToken_ends h (h.app credentials haccess)
    refine stateNow_succeeds.ends.bind fun st hst => ?_
    cases hkept : st.token with
    | none => exact hmint
    | some kept =>
      have husable := hst.2 kept hkept
      refine h.now.ends.bind fun t _ => ?_
      have hactive : ∃ b, kept.isActive InstallationToken.usualSkew t = .ok b := by
        unfold InstallationToken.isActive
        rw [if_pos husable.1]
        exact ⟨_, rfl⟩
      obtain ⟨active, hactive⟩ := hactive
      refine Ends.bind_ok hactive ?_
      cases active with
      | true => exact ends_pure husable.2
      | false => exact hmint

/-- What is read of an answer that is no refusal. -/
structure Answers (c : Client) (method : Method) (params : List (String × String))
    (r : HttpResponse) : Prop where
  value : ∃ v, r.json c.reading.depth = .ok v
  comments : method = .get → ∀ items, r.json c.reading.depth = .ok (.arr items) →
    ∀ comment ∈ items, IsListed comment
  lastPage : method = .get → params = pageParams c.pageLimit →
    ∀ items, r.json c.reading.depth = .ok (.arr items) → items.length < pageSize

theorem sessionRequest_ends (method : Method) {url : String} (hurl : IsRooted url)
    (params : List (String × String)) (hparams : (queryOf params).toList.length ≤ maxLength)
    (body : Option Json) (hbody : body.bind (·.flaw? (s.client.reading.depth + 1)) = none) :
    Ends (s.request method url params body) s.IsReady (Answers s.client method params) Hosting := by
  unfold Session.request
  refine (token_ends h).bind fun token htoken => stateNow_succeeds.ends.bind fun st hst => ?_
  rw [hst.1]
  simp only [Bool.false_eq_true, if_false]
  have hbearer : ∀ t, Authorization.bearer token.display = .bearer t →
      headerFault? ("Bearer " ++ t) = none := fun t e => Authorization.bearer.inj e ▸ htoken
  obtain ⟨request, hrequest, hmethod, _, htype, hquery⟩ :=
    request_ok h method hurl params hparams hbearer
      (if s.client.ownsConnection then usualAccept else "*/*")
      (if s.client.ownsConnection then some usualVersion else none) body hbody
  refine Ends.bind_ok hrequest ?_
  refine (exchange_ends h url htype _ 0 (Nat.le_of_eq (Nat.zero_add _))).mono ?_ fun _ he => he
  rintro r ⟨hstatus, hr⟩
  refine ⟨hr.value hstatus, fun hget => hr.comments (hmethod.trans hget), fun hget hpage => ?_⟩
  refine hr.lastPage (hmethod.trans hget) ?_
  rw [hquery (hpage ▸ List.cons_ne_nil _ _), hpage, escapedQuery_page, String.ofList_toList]

/-! ## The store -/

omit h in
theorem flaw?_body (depth : Nat) (body : String) :
    (Json.obj [("body", .str body)]).flaw? (depth + 1) = none := by
  simp [Json.flaw?, Json.flawInside?]

/-- A page ends the reading, or it is full and there are more. -/
theorem page_ends {url : String} (hurl : IsRooted url) {fuel page : Nat}
    (hpage : page ≤ s.client.pageLimit)
    (hmore : ∀ batch : List Json, ¬ batch.length < pageSize →
      (page = s.client.pageLimit → batch.length < pageSize) →
      Ends (s.pages url fuel (page + 1)) s.IsReady (fun cs => ∀ c ∈ cs, IsListed c) Hosting) :
    Ends (s.pages url (fuel + 1) page) s.IsReady (fun cs => ∀ c ∈ cs, IsListed c) Hosting := by
  have hdigits : (toString page).toList.length ≤ 60000 :=
    Nat.le_trans (length_natText_mono hpage) h.pages.2
  have hquery := length_queryOf_page page hdigits
  unfold Session.pages
  refine (sessionRequest_ends h .get hurl (pageParams page) hquery none rfl).bind
    fun r hr => ?_
  obtain ⟨v, hv⟩ := hr.value
  refine Ends.bind_ok hv ?_
  cases v with
  | arr batch =>
    have hbatch := hr.comments rfl batch hv
    have hlast : page = s.client.pageLimit → batch.length < pageSize := fun e =>
      hr.lastPage rfl (e ▸ rfl) batch hv
    dsimp only
    split
    · exact ends_pure hbatch
    · next hfull =>
      refine (hmore batch hfull hlast).bind fun more hmore => ends_pure fun c hc => ?_
      exact (List.mem_append.mp hc).elim (hbatch c) (hmore c)
  | null | bool | int | float | str | obj => exact ends_throw (hosting_api _)

/-- From any page on, up to the limit: reading a listing comes to an end. -/
theorem pages_ends {url : String} (hurl : IsRooted url) :
    ∀ fuel page : Nat, page + fuel = s.client.pageLimit →
      Ends (s.pages url (fuel + 1) page) s.IsReady (fun cs => ∀ c ∈ cs, IsListed c) Hosting := by
  intro fuel
  -- on the pages that are left; the last of them is not full
  induction fuel with
  | zero =>
    intro page hpage
    refine page_ends h hurl (by omega) fun batch hfull hlast => ?_
    exact absurd (hlast hpage) hfull
  | succ fuel ih =>
    intro page hpage
    refine page_ends h hurl (by omega) fun batch hfull _ => ih (page + 1) (by omega)

/-- The whole of a listing. -/
theorem listing_ends {url : String} (hurl : IsRooted url) :
    Ends (s.listing url) s.IsReady (fun cs => ∀ c ∈ cs, IsListed c) Hosting := by
  unfold Session.listing
  obtain ⟨fuel, hfuel⟩ := Nat.exists_eq_succ_of_ne_zero (Nat.ne_of_gt h.pages.1)
  rw [hfuel]
  exact pages_ends h hurl fuel 1 (by omega)

theorem submit_ends (method : Method) {url : String} (hurl : IsRooted url)
    {body : List (String × Json)}
    (hbody : (Json.obj body).flaw? (s.client.reading.depth + 1) = none) :
    Ends (s.submit method url body) s.IsReady (fun _ => True) Hosting := by
  unfold Session.submit
  refine (sessionRequest_ends h method hurl [] (by decide) (some (.obj body)) hbody).bind
    fun r hr => ?_
  obtain ⟨v, hv⟩ := hr.value
  rw [hv]
  exact ends_liftM trivial

end Session

end PullReview.GitHub
