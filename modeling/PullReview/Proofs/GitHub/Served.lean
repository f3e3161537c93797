import PullReview.Proofs.GitHub.CodeHost
import PullReview.Proofs.GitHub.Legible
import PullReview.Proofs.GitHub.Pages

/-!
# Requests that are served

A session asks a code host of the kind of `CodeHost`. As long as no more goes wrong in
passing than the client tries again, a request leads to what the code host serves for it
in the end (`request_leads`), a listing to all of its comments, however many pages they
take (`listing_leads`), and a body that is sent to the change it asks for.
-/

namespace PullReview.GitHub

open Act Text Url Rehearsal

/-- The code host, and what the client keeps. -/
structure Net where
  host : CodeHost
  client : ClientState := {}

namespace Net

def hostPart : Part Net CodeHost := ⟨Net.host, fun n h => { n with host := h }⟩

def clientPart : Part Net ClientState := ⟨Net.client, fun n c => { n with client := c }⟩

end Net

/-- A session with a code host. -/
def hostSession (rules : HostRules) (client : Client) : Session Net where
  client := client
  transport := {
    send := fun request => Net.hostPart.step fun h => h.answer rules request
    pause := rest
    now := return ⟨0⟩ }
  signs := fun _ => true
  state := Net.clientPart

/-- A pause that has an end leads past it. -/
theorem rest_leads {σ : Type} {seconds : Double} (h : seconds.isFinite = true) {x : σ} :
    Leads (rest seconds) x (.ok ()) x := by
  rw [rest_finite h]
  exact leads_pure ()

/-! ## What goes wrong in passing -/

/-- A try that goes wrong in passing: the connection fails, or a response says that it
may pass and asks, if at all, for a pause that can be told and has an end. -/
inductive IsHiccup : Reply → Prop where
  | fails {fault} : fault.isTransport = true → IsHiccup (.fails fault)
  | responds {r d : HttpResponse} : r.decoded = .ok d → isPassing d.status = true →
      AsksReadably d → IsHiccup (.responds r)

/-- Before each request no more goes wrong than the client tries again. -/
def AreBearable (client : Client) (hiccups : List (List Reply)) : Prop :=
  ∀ replies ∈ hiccups, replies.length ≤ client.maxRetries.toNat ∧ ∀ r ∈ replies, IsHiccup r

theorem AreBearable.trouble {client : Client} {h : CodeHost} (hh : AreBearable client h.hiccups) :
    h.trouble.length ≤ client.maxRetries.toNat ∧ ∀ r ∈ h.trouble, IsHiccup r := by
  unfold CodeHost.trouble
  cases hcases : h.hiccups with
  | nil => exact ⟨Nat.zero_le _, fun r hr => absurd hr List.not_mem_nil⟩
  | cons replies rest => exact hh replies (hcases ▸ List.mem_cons_self ..)

theorem AreBearable.settled {client : Client} {h : CodeHost} (hh : AreBearable client h.hiccups) :
    AreBearable client h.settled.hiccups := fun _ hr => hh _ (List.mem_of_mem_tail hr)

/-! ## Single tries -/

/-- An answer that can be read, does not send the client on and is no reason to try
again. -/
structure IsFinal (response d : HttpResponse) : Prop where
  decoded : response.decoded = .ok d
  stays : d.redirection? = none
  settles : d.status < 400 ∨ isPassing d.status = false

/-- What a final answer to a request means. -/
def verdict (how : Reading) (url : String) (d : HttpResponse) : Except Fault HttpResponse :=
  if d.status < 400 then .ok d else .error (Session.refusal how url d)

theorem ending_eq_verdict (how : Reading) (url : String) (d : HttpResponse) :
    ending how.depth url (.ok d) = verdict how url d := by
  unfold verdict
  split
  · next hstatus => exact if_pos hstatus
  · next hstatus => exact (refusal_eq (Int.not_lt.mp hstatus)).symm

theorem IsFinal.not_isRetryable {response d : HttpResponse} (h : IsFinal response d) :
    ¬ IsRetryable (.ok d) := by
  intro hretryable
  have hpassing := passes_iff.mp hretryable
  rcases h.settles with hreturned | hrefused
  · exact absurd hreturned (Int.not_lt.mpr (refuses_of_isPassing hpassing))
  · exact absurd (hpassing.symm.trans hrefused) (by simp)

section Session

variable {rules : HostRules} {client : Client} {request : HttpRequest}

/-- A try leads to what it comes to with the answer of the code host. -/
theorem send_leads {h h' : CodeHost} {r : Except Fault HttpResponse}
    (hanswer : h.answer rules request = (r, h')) (c : ClientState) :
    Leads ((hostSession rules client).send request) ⟨h, c⟩ (outcomeOf request r) ⟨h', c⟩ := by
  have hstep := leads_step (s := (⟨h, c⟩ : Net)) Net.hostPart fun h => h.answer rules request
  have hsame : CodeHost.answer rules (Net.hostPart.get ⟨h, c⟩) request = (r, h') := hanswer
  rw [hsame] at hstep
  exact Session.send_leads hstep

/-- A try that goes wrong in passing leads to a reason for another one, which asks, if at all,
for a pause that can be told and has an end. -/
theorem hiccup_leads (htype : request.address.hasType = true) {h : CodeHost} {reply : Reply}
    {more : List Reply} (htrouble : h.trouble = reply :: more) (hreply : IsHiccup reply)
    (c : ClientState) :
    ∃ outcome, Leads ((hostSession rules client).send request) ⟨h, c⟩ outcome
        ⟨{ h with hiccups := more :: h.hiccups.tail }, c⟩ ∧
      IsRetryable outcome ∧ ∀ r, outcome.toOption = some r → AsksReadably r := by
  cases hreply with
  | @fails fault htransport =>
    exact ⟨.error fault, send_leads (CodeHost.answer_fails htrouble) c, htransport,
      fun r hr => absurd hr (by simp [Except.toOption])⟩
  | @responds r d hdecoded hpassing hdelay =>
    have hstays := redirection?_none (refuses_of_isPassing hpassing)
    have houtcome := outcomeOf_ok htype hdecoded hstays
    exact ⟨.ok d, houtcome ▸ send_leads (CodeHost.answer_responds htrouble) c,
      passes_iff.mpr hpassing, fun q hq => Option.some.inj hq ▸ hdelay⟩

/-- **Tries that go wrong in passing do not show**: a request leads to what the code host
serves for it once they are over. -/
theorem exchange_leads (url : String) (htype : request.address.hasType = true)
    (hdoubled : ∀ tried < client.maxRetries.toNat,
      ∃ x, Session.backoffAfter client tried = .ok x ∧ x.isFinite = true)
    {h₀ h' : CodeHost} {response d : HttpResponse}
    (hserve : h₀.serve rules request = (response, h')) (hd : IsFinal response d)
    (c : ClientState) :
    ∀ (replies : List Reply) (retries tried : Nat) (h : CodeHost),
      h.trouble = replies → h.settled = h₀ → (∀ r ∈ replies, IsHiccup r) →
      replies.length ≤ retries → tried + retries ≤ client.maxRetries.toNat →
      Leads ((hostSession rules client).exchange url request retries tried) ⟨h, c⟩
        (verdict client.reading url d) ⟨h', c⟩ := by
  -- the tries that go wrong are fewer with each that is made, and so are those that are left
  intro replies
  induction replies with
  | nil =>
    intro retries tried h htrouble hsettled _ _ _
    have hanswer : h.answer rules request = (.ok response, h') := by
      rw [CodeHost.answer_settled htrouble, hsettled, hserve]
    have hsend : Leads ((hostSession rules client).send request) ⟨h, c⟩ (.ok d) ⟨h', c⟩ :=
      outcomeOf_ok htype hd.decoded hd.stays ▸ send_leads hanswer c
    rw [← ending_eq_verdict]
    exact Session.exchange_stops hsend tried (Or.inr hd.not_isRetryable)
  | cons reply more ih =>
    intro retries tried h htrouble hsettled hhiccups hlength htried
    obtain ⟨left, rfl⟩ : ∃ left, retries = left + 1 :=
      ⟨retries - 1, by rw [List.length_cons] at hlength; omega⟩
    have hnext := ih left (tried + 1) { h with hiccups := more :: h.hiccups.tail } rfl hsettled
      (fun r hr => hhiccups r (List.mem_cons_of_mem _ hr)) (Nat.le_of_succ_le_succ hlength)
      (by omega)
    obtain ⟨outcome, hsend, hretryable, hasks⟩ :=
      hiccup_leads htype htrouble (hhiccups reply (List.mem_cons_self ..)) c
    obtain ⟨seconds, hpause, hfinite⟩ := pauseAfter_ok (hdoubled tried (by omega)) hasks
    exact Session.exchange_goesOn hsend hretryable hpause (rest_leads hfinite) hnext

end Session

/-! ## Requests -/

/-- What a session relies on to be served: a pull request with plain names, for which an
address has room, a static token, pauses that can be told and have an end, and answers that
can be read. Refusals are of the kind that does not pass. -/
structure Suits (rules : HostRules) (client : Client) : Prop where
  site : client.base.IsSite rules.front
  owner : IsSegment rules.pr.owner.toList
  repo : IsSegment rules.pr.repo.toList
  name : rules.pr.owner.toList.length + rules.pr.repo.toList.length ≤ 50000
  number : (toString rules.pr.number).toList.length ≤ 4300
  head : ∃ sha, rules.pr.head = .str sha
  token : ∃ token, client.access = .token token ∧ headerFault? ("Bearer " ++ token) = none
  retries : client.maxRetries ≤ 1024
  backoff : ∃ seconds, client.backoff = .fractional seconds
  pauses : ∀ tried < client.maxRetries.toNat, (client.backoff.doubled tried).isFinite = true
  receipt : ∀ request, ∃ v, Json.readBytes client.reading.depth (rules.receipt request) = .ok v
  refusal : ∀ path r, rules.refusal? path = some r →
    ∃ d, r.decoded = .ok d ∧ 400 ≤ d.status ∧ isPassing d.status = false ∧
      ∃ detail, d.detail client.reading.depth = .ok detail

/-- An address at which the code host has a resource. -/
structure Finds (rules : HostRules) (client : Client) (url : String)
    (params : List (String × String)) (resource : Resource) (a : Reference) : Prop where
  address : client.base.address url params = .ok a
  place : headerFault? a.place = none
  hasType : a.hasType = true
  resource : rules.resource? a = some resource
  query : a.query = if params.isEmpty then none else some (queryOf params)

section Suits

variable {rules : HostRules} {client : Client} (h : Suits rules client)
include h

theorem Suits.doubled :
    ∀ tried < client.maxRetries.toNat,
      ∃ x, Session.backoffAfter client tried = .ok x ∧ x.isFinite = true := by
  intro tried htried
  have hretries := h.retries
  obtain ⟨seconds, hseconds⟩ := h.backoff
  have hfits : client.backoff.Fits client.maxRetries.toNat := fun whole hwhole =>
    absurd (hseconds.symm.trans hwhole) (by simp)
  exact ⟨_, backoffAfter_eq hfits htried (by omega), h.pauses tried htried⟩

/-- **A request leads to what the code host serves for it**, however often it has to be
sent. -/
theorem request_leads (method : Method) {url : String} {params : List (String × String)}
    {resource : Resource} {a : Reference} (ha : Finds rules client url params resource a)
    (body : Option Json) (hflaw : body.bind (·.flaw? (client.reading.depth + 1)) = none)
    {c : ClientState} (hopen : c.closed = false) :
    ∃ request, request.method = method ∧ request.address = a ∧ request.body = body ∧
      ∀ (host host' : CodeHost) (response d : HttpResponse), AreBearable client host.hiccups →
        host.settled.serve rules request = (response, host') → IsFinal response d →
        Leads ((hostSession rules client).request method url params body) ⟨host, c⟩
          (verdict client.reading url d) ⟨host', c⟩ := by
  obtain ⟨token, haccess, hfault⟩ := h.token
  have hbearer : ∀ t, Authorization.bearer token = .bearer t →
      headerFault? ("Bearer " ++ t) = none := fun t e => Authorization.bearer.inj e ▸ hfault
  obtain ⟨request, hrequest, hmethod, haddress, hbody⟩ :=
    request_eq method ha.address ha.place hbearer
      (if client.ownsConnection then usualAccept else "*/*")
      (if client.ownsConnection then some usualVersion else none) body hflaw
  refine ⟨request, hmethod, haddress, hbody, fun host host' response d hbearable hserve hd => ?_⟩
  obtain ⟨hfew, hhiccups⟩ := hbearable.trouble
  refine Session.request_leads haccess hopen (leads_bind_ok hrequest ?_)
  exact exchange_leads url (haddress ▸ ha.hasType) h.doubled hserve hd c _ _ 0 host rfl rfl
    hhiccups hfew (Nat.le_of_eq (Nat.zero_add _))

/-! ## Addresses -/

omit h in
theorem isSegment_number (n : Int) : IsSegment (toString n).toList := by
  have hunreserved : ∀ c ∈ (toString n).toList, isUnreserved c = true := by
    intro c hc
    rcases mem_intText hc with rfl | hdigit
    · decide
    · simp [isUnreserved, Char.isAlphanum, hdigit]
  have hdot : '.' ∉ (toString n).toList := by
    intro hc
    rcases mem_intText hc with hsign | hdigit
    · exact absurd hsign (by decide)
    · exact absurd hdigit (by decide)
  refine ⟨hunreserved, fun e => ?_, fun e => ?_⟩ <;> exact hdot (e ▸ List.mem_cons_self ..)

/-- Plain names below the base are found at the resource that they name. -/
theorem finds_names {names : List String} (hnames : ∀ s ∈ names, IsSegment s.toList)
    (hlength : (segmentPath (names.map String.toList)).length ≤ 59000) {resource : Resource}
    (hresource : resource? rules.pr ("repos" :: names) = some resource)
    {params : List (String × String)} (hparams : AreSendable params) :
    ∃ a, Finds rules client
      (String.ofList (segmentPath (("repos" :: names).map String.toList))) params resource a := by
  have hplain : ∀ s ∈ ("repos" :: names).map String.toList, IsSegment s := by
    intro s hs
    obtain ⟨name, hname, rfl⟩ := List.mem_map.mp hs
    rcases List.mem_cons.mp hname with rfl | hname
    · exact ⟨List.all_eq_true.mp (by decide), by decide, by decide⟩
    · exact hnames name hname
  have hlong : (segmentPath (("repos" :: names).map String.toList)).length ≤ 60000 := by
    have hcons : segmentPath (("repos" :: names).map String.toList)
        = "/repos".toList ++ segmentPath (names.map String.toList) := rfl
    have hfirst : "/repos".toList.length = 6 := by decide
    rw [hcons, List.length_append]
    omega
  have haddress := address_segmentPath h.site (by decide) hplain hlong hparams
  -- the slashes of the path are those in front of its segments, so it is cut as it was made
  have hslash : ∀ s ∈ rules.front ++ ("repos" :: names).map String.toList, '/' ∉ s := by
    intro s hs hc
    have hsegment : IsSegment s := (List.mem_append.mp hs).elim (h.site.front s) (hplain s)
    exact (ne_of_isUnreserved (hsegment.unreserved _ hc)).1 rfl
  refine ⟨_, haddress, h.site.place, hasType_site h.site _ _, ?_, rfl⟩
  unfold HostRules.resource?
  rw [String.toList_ofList, ← List.map_cons, segmentsBelow?_segmentPath hslash]
  exact hresource

/-- The address of a resource of the pull request. -/
theorem finds_resource {kind fifth sixth : String} (hkind : IsSegment kind.toList)
    (hfifth : IsSegment fifth.toList) (hsixth : IsSegment sixth.toList)
    (hlength : kind.toList.length + fifth.toList.length + sixth.toList.length ≤ 5000)
    {resource : Resource}
    (hresource : resource? rules.pr ["repos", rules.pr.owner, rules.pr.repo, kind, fifth, sixth]
      = some resource) {url : String}
    (hurl : url = Session.repoUrl rules.pr ++ "/" ++ kind ++ "/" ++ fifth ++ "/" ++ sixth)
    {params : List (String × String)} (hparams : AreSendable params) :
    ∃ a, Finds rules client url params resource a := by
  have hpath : url = String.ofList (segmentPath
      (["repos", rules.pr.owner, rules.pr.repo, kind, fifth, sixth].map String.toList)) := by
    rw [hurl, ← String.toList_inj, String.toList_ofList]
    show ("/repos/" ++ rules.pr.owner ++ "/" ++ rules.pr.repo ++ "/" ++ kind ++ "/" ++ fifth ++ "/"
      ++ sixth).toList = _
    simp [segmentPath]
  rw [hpath]
  refine finds_names h (fun s hs => ?_) ?_ hresource hparams
  · simp only [List.mem_cons, List.not_mem_nil, or_false] at hs
    rcases hs with rfl | rfl | rfl | rfl | rfl
    · exact h.owner
    · exact h.repo
    · exact hkind
    · exact hfifth
    · exact hsixth
  · have hname := h.name
    simp only [segmentPath, List.map_cons, List.map_nil, List.flatMap_cons, List.flatMap_nil,
      List.length_append, List.length_cons, List.length_nil]
    omega

omit h in
theorem isSegment_issues : IsSegment "issues".toList :=
  ⟨List.all_eq_true.mp (by decide), by decide, by decide⟩

omit h in
theorem isSegment_pulls : IsSegment "pulls".toList :=
  ⟨List.all_eq_true.mp (by decide), by decide, by decide⟩

omit h in
theorem isSegment_comments : IsSegment "comments".toList :=
  ⟨List.all_eq_true.mp (by decide), by decide, by decide⟩

/-- The address of a listing of the pull request. -/
theorem finds_comments {kind : String} (hkind : IsSegment kind.toList)
    (hshort : kind.toList.length ≤ 6) {resource : Resource}
    (hresource : resource? rules.pr
      ["repos", rules.pr.owner, rules.pr.repo, kind, toString rules.pr.number, "comments"]
      = some resource) {url : String}
    (hurl : url = Session.repoUrl rules.pr ++ ("/" ++ kind ++ "/") ++ toString rules.pr.number
      ++ "/comments")
    {params : List (String × String)} (hparams : AreSendable params) :
    ∃ a, Finds rules client url params resource a := by
  have hlength : kind.toList.length + (toString rules.pr.number).toList.length
      + "comments".toList.length ≤ 5000 := by
    have hnumber := h.number
    have hword : "comments".toList.length = 8 := by decide
    omega
  have hparts : url = Session.repoUrl rules.pr ++ "/" ++ kind ++ "/" ++ toString rules.pr.number
      ++ "/" ++ "comments" := by
    rw [hurl, ← String.toList_inj]
    simp
  exact finds_resource h hkind (isSegment_number _) isSegment_comments hlength hresource hparts
    hparams

theorem finds_issueComments {params : List (String × String)} (hparams : AreSendable params) :
    ∃ a, Finds rules client (Session.issueCommentsUrl rules.pr) params .issueComments a :=
  finds_comments h isSegment_issues (by decide) (resource?_issueComments rules.pr) rfl hparams

theorem finds_reviewComments {params : List (String × String)} (hparams : AreSendable params) :
    ∃ a, Finds rules client (Session.reviewCommentsUrl rules.pr) params .reviewComments a :=
  finds_comments h isSegment_pulls (by decide) (resource?_reviewComments rules.pr) rfl hparams

theorem finds_issueComment {id : Int} (hid : (toString id).toList.length ≤ 4300) :
    ∃ a, Finds rules client
      (Session.repoUrl rules.pr ++ "/issues/comments/" ++ toString id) [] (.issueComment id) a := by
  have hlength : "issues".toList.length + "comments".toList.length
      + (toString id).toList.length ≤ 5000 := by
    have hwords : "issues".toList.length = 6 ∧ "comments".toList.length = 8 := by decide
    omega
  have hurl : Session.repoUrl rules.pr ++ "/issues/comments/" ++ toString id
      = Session.repoUrl rules.pr ++ "/" ++ "issues" ++ "/" ++ "comments" ++ "/" ++ toString id := by
    rw [← String.toList_inj]
    simp
  exact finds_resource h isSegment_issues isSegment_comments (isSegment_number _) hlength
    (resource?_issueComment rules.pr id) hurl areSendable_nil

/-! ## Listings -/

/-- An address at which the code host has a resource page by page. -/
def FindsPages (rules : HostRules) (client : Client) (url : String) (resource : Resource) : Prop :=
  ∀ page : Nat, (toString page).toList.length ≤ 60000 →
    ∃ a, Finds rules client url (pageParams page) resource a

omit h in
theorem listing?_settled (host : CodeHost) (resource : Resource) :
    host.settled.listing? resource = host.listing? resource := by
  cases resource <;> rfl

omit h in
theorem decoded_plain (status : Int) (content : ByteArray) :
    HttpResponse.decoded { status := status, content := content }
      = .ok { status := status, content := content } := decoded_of_plain rfl

/-- A page leads to its comments. -/
theorem page_leads {resource : Resource} {url : String} {page : Nat} {a : Reference}
    (ha : Finds rules client url (pageParams page) resource a) {host : CodeHost}
    {comments : List Json} (hlisted : host.listing? resource = some comments)
    (hbearable : AreBearable client host.hiccups) {c : ClientState} (hopen : c.closed = false) :
    Leads ((hostSession rules client).request .get url (pageParams page) none) ⟨host, c⟩
      (.ok { status := 200, content := rules.write (pageOf pageSize page comments) })
      ⟨host.settled, c⟩ := by
  obtain ⟨request, hmethod, haddress, _, hleads⟩ := request_leads h .get ha none rfl hopen
  have hserve := CodeHost.serve_page (h := host.settled) hmethod (haddress ▸ ha.resource)
    ((listing?_settled host resource).trans hlisted) (haddress ▸ ha.query) (pageOf?_query page)
  have hsucceeds : (200 : Int) < 400 := by decide
  exact hleads _ _ _ _ hbearable hserve ⟨decoded_plain 200 _, rfl, Or.inl hsucceeds⟩

/-- Comments that can be listed: they are written so that every page of them can be read
back, their pages can be asked for, and the client goes on long enough. -/
structure AreListable (rules : HostRules) (client : Client) (comments : List Json) : Prop where
  written : ∀ batch, batch <:+: comments →
    Json.readBytes client.reading.depth (rules.write batch) = .ok (.arr batch)
  count : (toString comments.length).toList.length ≤ 60000
  pages : comments.length < pageSize * client.pageLimit

/-- **Page after page a listing leads to all comments.** -/
theorem listing_leads {resource : Resource} {url : String}
    (hfinds : FindsPages rules client url resource) {host : CodeHost} {comments : List Json}
    (hlisted : host.listing? resource = some comments)
    (hbearable : AreBearable client host.hiccups) (hlistable : AreListable rules client comments)
    {c : ClientState} (hopen : c.closed = false) :
    ∃ hiccups, AreBearable client hiccups ∧
      Leads ((hostSession rules client).listing url) ⟨host, c⟩ (.ok comments)
        ⟨{ host with hiccups := hiccups }, c⟩ := by
  have hpart : ∀ k, AreBearable client (host.hiccups.drop k) := fun k replies hr =>
    hbearable replies (List.mem_of_mem_drop hr)
  have hgives : ∀ k < pageCount comments, (hostSession rules client).GivesPage url comments
      (fun k => ⟨{ host with hiccups := host.hiccups.drop k }, c⟩) k := by
    intro k hk
    have hdigits : (toString (k + 1)).toList.length ≤ 60000 := by
      rcases Nat.eq_zero_or_pos k with rfl | hpos
      · exact Nat.le_of_ble_eq_true rfl
      · have hpages : k + 1 ≤ comments.length := by
          unfold pageCount pageSize at hk
          omega
        exact Nat.le_trans (length_natText_mono hpages) hlistable.count
    obtain ⟨a, ha⟩ := hfinds (k + 1) hdigits
    have hsame : CodeHost.listing? { host with hiccups := host.hiccups.drop k } resource
        = some comments := by cases resource <;> exact hlisted
    have hpage := page_leads h ha hsame (hpart k) hopen
    have hsettled : CodeHost.settled { host with hiccups := host.hiccups.drop k }
        = { host with hiccups := host.hiccups.drop (k + 1) } := by
      simp only [CodeHost.settled, List.tail_drop]
    rw [hsettled] at hpage
    exact ⟨_, hpage, hlistable.written _ (pageOf_isInfix pageSize k comments)⟩
  have hfuel : pageCount comments ≤ 0 + client.pageLimit := by
    have hpages := hlistable.pages
    unfold pageCount pageSize at *
    omega
  exact ⟨_, hpart _, Session.pages_leads hgives client.pageLimit 0 (Nat.succ_pos _) hfuel⟩

theorem issueComments_leads {host : CodeHost} (hbearable : AreBearable client host.hiccups)
    (hlistable : AreListable rules client host.issueComments) {c : ClientState}
    (hopen : c.closed = false) :
    ∃ hiccups, AreBearable client hiccups ∧
      Leads ((hostSession rules client).store.issueComments rules.pr) ⟨host, c⟩
        (.ok host.issueComments) ⟨{ host with hiccups := hiccups }, c⟩ :=
  listing_leads h (fun _ hpage => finds_issueComments h (areSendable_page hpage)) rfl hbearable
    hlistable hopen

theorem reviewComments_leads {host : CodeHost} (hbearable : AreBearable client host.hiccups)
    (hlistable : AreListable rules client host.reviewComments) {c : ClientState}
    (hopen : c.closed = false) :
    ∃ hiccups, AreBearable client hiccups ∧
      Leads ((hostSession rules client).store.reviewComments rules.pr) ⟨host, c⟩
        (.ok host.reviewComments) ⟨{ host with hiccups := hiccups }, c⟩ :=
  listing_leads h (fun _ hpage => finds_reviewComments h (areSendable_page hpage)) rfl hbearable
    hlistable hopen

/-! ## Changes -/

/-- A body that is sent leads to the answer of the code host, read. -/
theorem submit_leads (method : Method) {url : String} {resource : Resource} {a : Reference}
    (ha : Finds rules client url [] resource a) {body : List (String × Json)}
    (hflaw : (Json.obj body).flaw? (client.reading.depth + 1) = none) {c : ClientState}
    (hopen : c.closed = false) :
    ∃ request, request.method = method ∧ request.address = a ∧
      request.body = some (.obj body) ∧
      ∀ (host host' : CodeHost) (response d : HttpResponse), AreBearable client host.hiccups →
        host.settled.serve rules request = (response, host') → IsFinal response d →
        Leads ((hostSession rules client).submit method url body) ⟨host, c⟩
          (verdict client.reading url d >>= (·.json client.reading.depth)) ⟨host', c⟩ := by
  obtain ⟨request, hmethod, haddress, hbody, hleads⟩ :=
    request_leads h method ha (some (.obj body)) hflaw hopen
  refine ⟨request, hmethod, haddress, hbody, fun host host' response d hbearable hserve hd => ?_⟩
  have hrequest := hleads host host' response d hbearable hserve hd
  unfold Session.submit
  cases hverdict : verdict client.reading url d with
  | ok d' =>
    rw [hverdict] at hrequest
    exact hrequest.bind (leads_liftM _)
  | error fault =>
    rw [hverdict] at hrequest
    exact hrequest.bind_error _

section Open

variable {c : ClientState} (hopen : c.closed = false) {host : CodeHost}
  (hbearable : AreBearable client host.hiccups)
include hopen hbearable

/-- What is done is told in a way that can be read. -/
theorem done_leads (method : Method) {url : String} {resource : Resource} {a : Reference}
    (ha : Finds rules client url [] resource a) {body : List (String × Json)}
    (hflaw : (Json.obj body).flaw? (client.reading.depth + 1) = none) {status : Int}
    (hstatus : status = 200 ∨ status = 201) {host' : CodeHost}
    (hserve : ∀ request : HttpRequest, request.method = method →
      rules.resource? request.address = some resource → request.body = some (.obj body) →
      host.settled.serve rules request
        = ({ status := status, content := rules.receipt request }, host')) :
    ∃ v, Leads ((hostSession rules client).submit method url body) ⟨host, c⟩ (.ok v)
      ⟨host', c⟩ := by
  obtain ⟨request, hmethod, haddress, hbody, hleads⟩ := submit_leads h method ha hflaw hopen
  obtain ⟨v, hv⟩ := h.receipt request
  have hsucceeds : status < 400 := by omega
  have hstays : HttpResponse.redirection?
      { status := status, content := rules.receipt request } = none := by
    rcases hstatus with rfl | rfl <;> rfl
  have hrun := hleads _ _ _ _ hbearable
    (hserve request hmethod (haddress ▸ ha.resource) hbody)
    ⟨decoded_plain _ _, hstays, Or.inl hsucceeds⟩
  unfold verdict at hrun
  rw [if_pos hsucceeds] at hrun
  exact ⟨v, hv ▸ hrun⟩

theorem createIssueComment_leads (body : String) :
    ∃ v, Leads ((hostSession rules client).store.createIssueComment rules.pr body) ⟨host, c⟩
      (.ok v) ⟨host.settled.addIssueComment body, c⟩ := by
  obtain ⟨a, ha⟩ := finds_issueComments h areSendable_nil
  exact done_leads h hopen hbearable .post ha (flaw?_body _ body) (Or.inr rfl)
    fun _ hmethod hresource hbody => CodeHost.serve_addIssueComment hmethod hresource hbody

theorem updateIssueComment_leads {id : Int} (hid : (toString id).toList.length ≤ 4300)
    {body : String} {found : Json} {comments : List Json}
    (hupdate : Ledger.updateBody (.int id) body host.issueComments = some (found, comments)) :
    ∃ v, Leads ((hostSession rules client).store.updateIssueComment rules.pr (.int id) body)
      ⟨host, c⟩ (.ok v) ⟨{ host.settled with issueComments := comments }, c⟩ := by
  obtain ⟨a, ha⟩ := finds_issueComment h hid
  exact done_leads h hopen hbearable .patch ha (flaw?_body _ body) (Or.inl rfl)
    fun _ hmethod hresource hbody =>
      CodeHost.serve_updateIssueComment hmethod hresource hbody hupdate

/-- A line comment whose line can be written is made, or its path is refused. -/
theorem createReviewComment_leads {comment : LineComment}
    (hline : Numeral.isShort comment.line = true) :
    (rules.refusal? comment.path = none ∧
      ∃ v, Leads ((hostSession rules client).store.createReviewComment rules.pr comment)
        ⟨host, c⟩ (.ok v) ⟨host.settled.addReviewComment comment, c⟩) ∨
    ((rules.refusal? comment.path).isSome = true ∧
      ∃ cause, Leads ((hostSession rules client).store.createReviewComment rules.pr comment)
        ⟨host, c⟩ (.error (.api cause)) ⟨host.settled, c⟩) := by
  obtain ⟨sha, hsha⟩ := h.head
  obtain ⟨a, ha⟩ := finds_reviewComments h areSendable_nil
  have hsame : (hostSession rules client).store.createReviewComment rules.pr comment
      = (hostSession rules client).submit .post (Session.reviewCommentsUrl rules.pr)
          (CodeHost.reviewBody sha comment) := by
    unfold CodeHost.reviewBody
    rw [← hsha]
    rfl
  rw [hsame]
  have hflaw : (Json.obj (CodeHost.reviewBody sha comment)).flaw? (client.reading.depth + 1)
      = none := by simp [CodeHost.reviewBody, Json.flaw?, Json.flawInside?, hline]
  -- the code host looks at the path alone, and so at nothing that it has stored
  cases hrefusal : rules.refusal? comment.path with
  | none =>
    refine Or.inl ⟨rfl, done_leads h hopen hbearable .post ha hflaw (Or.inr rfl) ?_⟩
    intro request hmethod hresource hbody
    rw [CodeHost.serve_addReviewComment hmethod hresource hbody, hrefusal]
  | some r =>
    obtain ⟨request, hmethod, haddress, hbody, hleads⟩ :=
      submit_leads h .post ha hflaw hopen
    obtain ⟨d, hdecoded, hrefuses, hsettles, detail, hdetail⟩ := h.refusal _ r hrefusal
    have hserve := CodeHost.serve_addReviewComment (h := host.settled) hmethod
      (haddress ▸ ha.resource) hbody
    rw [hrefusal] at hserve
    have hrun := hleads _ _ _ _ hbearable hserve
      ⟨hdecoded, redirection?_none hrefuses, Or.inr hsettles⟩
    unfold verdict at hrun
    rw [if_neg (Int.not_lt.mpr hrefuses)] at hrun
    unfold Session.refusal at hrun
    rw [hdetail] at hrun
    exact Or.inr ⟨rfl, _, hrun⟩

end Open

end Suits

end PullReview.GitHub
