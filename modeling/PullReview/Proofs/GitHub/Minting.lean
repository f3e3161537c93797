import Mathlib.Data.List.Basic
import PullReview.Proofs.GitHub.Retrying

/-!
# Getting tokens

An app gets its tokens from the code host and keeps the last one it was granted. Here the code
host and the clock are arbitrary: each reading of the clock gives any instant, later or earlier
than the one before, and each request for a token is answered by anything.

`Called` has one rule for each way in which asking for a token goes: a token is kept and still
good; a request is due but cannot be dated, since what it claims would lie outside the calendar;
it is made and grants a token; it is made and grants none. Every call goes by one of the rules
(`token_called`), so whatever happened before, the token that is kept is the one that was granted
last (`callsAfter_isInOrder`).

Main statement: `token_calls`.
-/

namespace PullReview.GitHub

open Act

/-! ## The office -/

/-- What is outside a client that asks for tokens: what it keeps, the requests for tokens with
what came back, and how often the clock was read. -/
structure Office where
  client : ClientState := {}
  mints : List (HttpRequest × Except Fault HttpResponse) := []
  readings : Nat := 0

namespace Office

def clientPart : Part Office ClientState := ⟨Office.client, fun o c => { o with client := c }⟩

/-- The clock is read. -/
def read (o : Office) : Office := { o with readings := o.readings + 1 }

/-- A token is asked for. -/
def asked (o : Office) (request : HttpRequest) (reply : Except Fault HttpResponse) : Office :=
  { o with mints := o.mints ++ [(request, reply)] }

/-- A token is kept from now on. -/
def keeping (o : Office) (t : InstallationToken) : Office :=
  { o with client := { o.client with token := some t } }

/-- Behind the look at a token that is kept, if there is one. -/
def looked (o : Office) : Office := if o.client.token.isSome then o.read else o

end Office

/-- A session with a clock and a code host that may be anything. -/
def officeSession (clock : Nat → Instant) (answers : Nat → Except Fault HttpResponse)
    (signs : Signer) (client : Client) : Session Office where
  client := client
  transport := {
    send := fun request => Part.whole.step fun o =>
      (answers o.mints.length, o.asked request (answers o.mints.length))
    pause := fun _ => return ()
    now := Part.whole.step fun o => (.ok (clock o.readings), o.read) }
  signs := signs
  state := Office.clientPart

/-! ## Tokens that are granted -/

/-- The address at which an installation asks for tokens. -/
def mintUrl (credentials : AppCredentials) : String :=
  s!"/app/installations/{credentials.installationId}/access_tokens"

/-- A response holds a token: its status is below 400, and it is an object with a token and with
an end that can be read. -/
structure HoldsToken (how : Reading) (r : HttpResponse) (t : InstallationToken) : Prop where
  status : r.status < 400
  content : ∃ data, r.json how.depth = .ok data ∧ (∃ members, data = .obj members) ∧
    data.getD "token" = t.token ∧ t.token.isTruthy = true ∧
    (data.getD "expires_at").isTruthy = true ∧
    instantOf how.zone (data.getD "expires_at") = .ok t.expiresAt ∧
    data.getD "permissions" = t.permissions

theorem exists_members {data x : Json} {name : String} (h : data.member name = .ok x) :
    (∃ members, data = .obj members) ∧ data.getD name = x := by
  unfold Json.member at h
  split at h
  · exact ⟨⟨_, rfl⟩, Except.ok.inj h⟩
  · exact absurd h (by simp)

/-- A token is read off a response just if the response holds it. -/
theorem tokenOfResponse_eq_ok_iff {how : Reading} {url : String} {r : HttpResponse}
    {t : InstallationToken} : tokenOfResponse how url r = .ok t ↔ HoldsToken how r t := by
  constructor
  · intro h
    unfold tokenOfResponse at h
    dsimp only [bind, Except.bind] at h
    split at h
    · split at h
      · exact absurd h (by simp)
      · exact absurd h (by simp [throw, throwThe, MonadExceptOf.throw])
    next hstatus =>
    split at h
    · exact absurd h (by simp)
    next data hdata =>
    split at h
    · exact absurd h (by simp)
    next token htoken =>
    split at h
    · exact absurd h (by simp)
    next expiresAt hexpires =>
    split at h
    · exact absurd h (by simp [throw, throwThe, MonadExceptOf.throw])
    next htruthy =>
    split at h
    · exact absurd h (by simp)
    next hend =>
    obtain rfl := Except.ok.inj h
    obtain ⟨hobject, hname⟩ := exists_members htoken
    obtain ⟨-, hends⟩ := exists_members hexpires
    rw [Bool.or_eq_true, Bool.not_eq_true', Bool.not_eq_true', not_or, Bool.not_eq_false,
      Bool.not_eq_false] at htruthy
    refine ⟨Int.not_le.mp hstatus, data, hdata, hobject, hname, htruthy.1, ?_, ?_, rfl⟩
    · rw [hends]; exact htruthy.2
    · rw [hends]; exact hend
  · rintro ⟨hstatus, data, hdata, ⟨members, rfl⟩, htoken, htruthy, hexpires, hend, hpermissions⟩
    unfold tokenOfResponse
    rw [if_neg (Int.not_le.mpr hstatus), hdata]
    simp only [bind, Except.bind, pure, Except.pure, Json.member, htoken, htruthy, hexpires, hend,
      hpermissions]
    rfl

/-- What a request for a token grants. -/
def granted (how : Reading) (url : String) (mint : HttpRequest × Except Fault HttpResponse) :
    Except Fault InstallationToken :=
  (outcomeOf mint.1 mint.2).bind (tokenOfResponse how url)

/-- A request for a token is answered by a response that holds a token. -/
def Grants (how : Reading) (mint : HttpRequest × Except Fault HttpResponse)
    (t : InstallationToken) : Prop :=
  ∃ response, outcomeOf mint.1 mint.2 = .ok response ∧ HoldsToken how response t

theorem granted_eq_ok_iff {how : Reading} {url : String}
    {mint : HttpRequest × Except Fault HttpResponse} {t : InstallationToken} :
    granted how url mint = .ok t ↔ Grants how mint t := by
  unfold granted Grants
  cases outcomeOf mint.1 mint.2 with
  | error fault => simp [Except.bind]
  | ok response => simp [Except.bind, tokenOfResponse_eq_ok_iff]

/-- The token that was granted last. -/
def latest (how : Reading) (url : String) (mints : List (HttpRequest × Except Fault HttpResponse)) :
    Option InstallationToken :=
  (mints.filterMap fun mint => (granted how url mint).toOption).getLast?

section Latest

variable {how : Reading} {url : String} {mints : List (HttpRequest × Except Fault HttpResponse)}
  {mint : HttpRequest × Except Fault HttpResponse}

theorem latest_granted {t : InstallationToken} (h : granted how url mint = .ok t) :
    latest how url (mints ++ [mint]) = some t := by
  unfold latest
  rw [List.filterMap_append, List.filterMap_cons_some (by rw [h]; rfl), List.filterMap_nil,
    List.getLast?_concat]

theorem latest_denied {fault : Fault} (h : granted how url mint = .error fault) :
    latest how url (mints ++ [mint]) = latest how url mints := by
  unfold latest
  rw [List.filterMap_append, List.filterMap_cons_none (by rw [h]; rfl), List.filterMap_nil,
    List.append_nil]

/-- What is kept was granted. -/
theorem exists_of_latest {t : InstallationToken} (h : latest how url mints = some t) :
    ∃ mint ∈ mints, Grants how mint t := by
  obtain ⟨mint, hmint, ht⟩ := List.mem_filterMap.mp (List.mem_of_getLast? h)
  refine ⟨mint, hmint, ?_⟩
  cases hgranted : granted how url mint with
  | ok t' =>
    rw [hgranted] at ht
    obtain rfl := Option.some.inj ht
    exact granted_eq_ok_iff.mp hgranted
  | error fault => rw [hgranted] at ht; exact absurd ht (by simp [Except.toOption])

end Latest

/-! ## Instants -/

/-- A token has to be asked for: none is kept, or the one that is kept expires in a minute. -/
def IsDue (kept : Option InstallationToken) (now : Instant) : Prop :=
  kept = none ∨ ∃ t, kept = some t ∧ t.expiresAt.micros - InstallationToken.usualSkew ≤ now.micros

/-- The minute before and the ten minutes behind an instant lie in the calendar. -/
def IsDatable (now : Instant) : Prop :=
  Instant.first.micros + 60 * Instant.microsPerSecond ≤ now.micros ∧
    now.micros + 600 * Instant.microsPerSecond ≤ Instant.last.micros

/-- What an app claims at an instant. -/
def claimsOf (credentials : AppCredentials) (now : Instant) : AppClaims :=
  ⟨(now.addSeconds (-60)).seconds, (now.addSeconds 600).seconds, toString credentials.appId⟩

theorem isDatable_iff {now : Instant} :
    IsDatable now ↔
      (now.addSeconds (-60)).hasDate = true ∧ (now.addSeconds 600).hasDate = true := by
  have hcalendar : Instant.first.micros ≤ Instant.last.micros := by decide
  rw [Instant.hasDate_iff, Instant.hasDate_iff]
  unfold IsDatable Instant.addSeconds Instant.microsPerSecond
  dsimp only
  omega

theorem claimsAt_of_isDatable (credentials : AppCredentials) {now : Instant}
    (h : IsDatable now) : claimsAt credentials now = .ok (claimsOf credentials now) := by
  unfold claimsAt
  dsimp only
  rw [if_pos (Bool.and_eq_true_iff.mpr (isDatable_iff.mp h))]
  rfl

theorem claimsAt_of_not_isDatable (credentials : AppCredentials) {now : Instant}
    (h : ¬ IsDatable now) :
    claimsAt credentials now = .error (.outOfRange "date value out of range") := by
  unfold claimsAt
  dsimp only
  rw [if_neg fun hdates => h (isDatable_iff.mpr (Bool.and_eq_true_iff.mp hdates))]

/-- The instant of a stamp has a date. -/
theorem hasDate_instantOf {zone : Zone} {raw : Json} {t : Instant}
    (h : instantOf zone raw = .ok t) : t.hasDate = true := by
  unfold instantOf at h
  split at h
  · split at h
    · next hread =>
      obtain rfl := Except.ok.inj h
      exact Stamp.hasDate_of_read hread
    · exact absurd h (by simp)
    · exact absurd h (by simp)
  · exact absurd h (by simp)

/-- A token that is granted has its end in the calendar. -/
theorem Grants.hasDate {how : Reading} {mint : HttpRequest × Except Fault HttpResponse}
    {t : InstallationToken} (h : Grants how mint t) : t.expiresAt.hasDate = true := by
  obtain ⟨response, -, hholds⟩ := h
  obtain ⟨data, -, -, -, -, -, hend, -⟩ := hholds.content
  exact hasDate_instantOf hend

/-- The instant at which the year 1 is over. -/
def yearTwo : Instant := ⟨(Date.mk 2 1 1).toDays * Instant.microsPerDay⟩

/-- Whether a token is still good is told if it ends in the calendar, and not in its first
year. -/
theorem isActive_eq {t : InstallationToken} (hend : t.expiresAt.hasDate = true)
    (hlate : yearTwo.micros ≤ t.expiresAt.micros) (now : Instant) :
    t.isActive InstallationToken.usualSkew now
      = .ok (decide (now.micros < t.expiresAt.micros - InstallationToken.usualSkew)) := by
  have hfirst : Instant.first.micros + InstallationToken.usualSkew ≤ yearTwo.micros := by decide
  have hskew : 0 ≤ InstallationToken.usualSkew := by decide
  have hlimit : (⟨t.expiresAt.micros - InstallationToken.usualSkew⟩ : Instant).hasDate = true := by
    have hdate := Instant.hasDate_iff.mp hend
    rw [Instant.hasDate_iff]
    dsimp only
    omega
  unfold InstallationToken.isActive
  dsimp only
  rw [if_pos hlimit]

/-! ## One call -/

/-- The request for a token, at an address. -/
def mintRequest (address : Url.Reference) (claims : AppClaims) : HttpRequest where
  method := .post
  address := address
  authorization := (authorizationIn? address).getD (.app claims)
  accept := usualAccept
  apiVersion := some usualVersion
  body := none

theorem request_mint {client : Client} {url : String} {address : Url.Reference}
    (haddress : client.base.address url [] = .ok address)
    (hplace : headerFault? address.place = none) (claims : AppClaims) :
    client.request .post url [] (.app claims) usualAccept (some usualVersion) none
      = .ok (mintRequest address claims) := by
  have hbearer : headerFault? ("Bearer " ++ "") = none := by decide
  unfold Client.request
  rw [haddress]
  simp only [bind, Except.bind, List.forIn_cons, List.forIn_nil]
  rw [hbearer, hplace]
  rfl

/-- What a session needs to ask for the tokens of an app: a key that signs, and an address that
can be formed and sent. -/
structure CanMint (signs : Signer) (client : Client) (credentials : AppCredentials)
    (address : Url.Reference) : Prop where
  access : client.access = .app credentials
  signs : signs (normalKey credentials.privateKey) = true
  found : client.base.address (mintUrl credentials) [] = .ok address
  place : headerFault? address.place = none

section Calls

variable {clock : Nat → Instant} {answers : Nat → Except Fault HttpResponse} {signs : Signer}
  {client : Client} {how : Reading} {credentials : AppCredentials} {address : Url.Reference}

/-- What asking for a token comes to, from one office to the next. -/
inductive Called (clock : Nat → Instant) (answers : Nat → Except Fault HttpResponse) (how : Reading)
    (credentials : AppCredentials) (address : Url.Reference) (o : Office) :
    Except Fault Json → Office → Prop
  | kept {t} : o.client.token = some t → ¬ IsDue o.client.token (clock o.readings) →
      Called clock answers how credentials address o (.ok t.token) o.read
  | undated {fault} : IsDue o.client.token (clock o.readings) →
      ¬ IsDatable (clock o.looked.readings) →
      Called clock answers how credentials address o (.error fault) o.looked.read
  | granted {request reply t} : IsDue o.client.token (clock o.readings) →
      IsDatable (clock o.looked.readings) →
      request = mintRequest address (claimsOf credentials (clock o.looked.readings)) →
      reply = answers o.mints.length →
      granted how (mintUrl credentials) (request, reply) = .ok t →
      Called clock answers how credentials address o (.ok t.token)
        ((o.looked.read.asked request reply).keeping t)
  | denied {request reply fault} : IsDue o.client.token (clock o.readings) →
      IsDatable (clock o.looked.readings) →
      request = mintRequest address (claimsOf credentials (clock o.looked.readings)) →
      reply = answers o.mints.length →
      granted how (mintUrl credentials) (request, reply) = .error fault →
      Called clock answers how credentials address o (.error fault)
        (o.looked.read.asked request reply)

theorem now_leads (o : Office) :
    Leads (officeSession clock answers signs client).transport.now o (.ok (clock o.readings))
      o.read :=
  leads_step Part.whole fun (o : Office) => (.ok (clock o.readings), o.read)

theorem mint_leads (request : HttpRequest) (o : Office) :
    Leads ((officeSession clock answers signs client).send request) o
      (outcomeOf request (answers o.mints.length))
      (o.asked request (answers o.mints.length)) :=
  Session.send_leads (leads_step Part.whole fun (o : Office) =>
    (answers o.mints.length, o.asked request (answers o.mints.length)))

theorem keep_leads (o : Office) (t : InstallationToken) :
    Leads ((officeSession clock answers signs client).setState
        { o.client with token := some t }) o (.ok ()) (o.keeping t) := by
  rintro w rfl
  exact ⟨_, rfl, rfl⟩

/-- A request that cannot be dated is not made. -/
theorem mintToken_undated {o : Office} (hopen : o.client.closed = false)
    (hdatable : ¬ IsDatable (clock o.readings)) :
    Leads ((officeSession clock answers signs client).mintToken credentials) o
      (.error (.outOfRange "date value out of range")) o.read := by
  have hstate : ((officeSession clock answers signs client).state.get o).closed = false := hopen
  unfold Session.mintToken
  refine (Session.stateNow_leads o).bind ?_
  dsimp only
  rw [hstate]
  exact (now_leads o).bind
    (leads_bind_error (claimsAt_of_not_isDatable credentials hdatable) _)

/-- A request that can be dated is made. -/
theorem mintToken_sends (h : CanMint signs client credentials address) {o : Office}
    (hopen : o.client.closed = false) (hdatable : IsDatable (clock o.readings))
    {r : Except Fault Json} {o' : Office}
    (hsent : Leads (do
      let response ← (officeSession clock answers signs client).send
        (mintRequest address (claimsOf credentials (clock o.readings)))
      let token ← liftM (tokenOfResponse client.reading (mintUrl credentials) response)
      (officeSession clock answers signs client).setState { o.client with token := some token }
      return token.token) o.read r o') :
    Leads ((officeSession clock answers signs client).mintToken credentials) o r o' := by
  have hstate : ¬ ((officeSession clock answers signs client).state.get o).closed = true :=
    fun hclosed => absurd (hclosed.symm.trans hopen) (by decide)
  have hsigns : ¬ (!(officeSession clock answers signs client).signs
      (normalKey credentials.privateKey)) = true := by
    rw [show (officeSession clock answers signs client).signs
      (normalKey credentials.privateKey) = true from h.signs]
    decide
  unfold Session.mintToken
  refine (Session.stateNow_leads o).bind ?_
  dsimp only
  rw [if_neg hstate]
  refine (now_leads o).bind (leads_bind_ok (claimsAt_of_isDatable credentials hdatable) ?_)
  rw [if_neg hsigns]
  exact leads_bind_ok (request_mint h.found h.place _) hsent

/-- What a request grants is kept, and if it grants nothing, what is kept stays. -/
theorem mintToken_dated (h : CanMint signs client credentials address) {o : Office}
    (hopen : o.client.closed = false) (hdatable : IsDatable (clock o.readings))
    {request : HttpRequest} {reply : Except Fault HttpResponse}
    (hrequest : request = mintRequest address (claimsOf credentials (clock o.readings)))
    (hreply : reply = answers o.mints.length) :
    (∀ t, granted client.reading (mintUrl credentials) (request, reply) = .ok t →
      Leads ((officeSession clock answers signs client).mintToken credentials) o (.ok t.token)
        ((o.read.asked request reply).keeping t)) ∧
    ∀ fault, granted client.reading (mintUrl credentials) (request, reply) = .error fault →
      Leads ((officeSession clock answers signs client).mintToken credentials) o (.error fault)
        (o.read.asked request reply) := by
  have hsent : Leads ((officeSession clock answers signs client).send request) o.read
      (outcomeOf request reply) (o.read.asked request reply) := hreply ▸ mint_leads request o.read
  subst hrequest
  unfold granted
  cases houtcome : outcomeOf (mintRequest address (claimsOf credentials (clock o.readings)))
    reply with
  | error fault =>
    rw [houtcome] at hsent
    refine ⟨fun t ht => absurd ht (by simp [Except.bind]), fun fault' hfault => ?_⟩
    obtain rfl := Except.error.inj hfault
    exact mintToken_sends h hopen hdatable (hsent.bind_error _)
  | ok response =>
    rw [houtcome] at hsent
    refine ⟨fun t ht => ?_, fun fault hfault => ?_⟩
    · refine mintToken_sends h hopen hdatable (hsent.bind (leads_bind_ok ht ?_))
      exact (keep_leads (o.read.asked _ reply) t).bind (leads_pure _)
    · exact mintToken_sends h hopen hdatable (hsent.bind (leads_bind_error hfault _))

/-- A look at the token that is kept, if there is one. -/
theorem looked_client (o : Office) : o.looked.client = o.client := by
  unfold Office.looked
  split <;> rfl

theorem looked_mints (o : Office) : o.looked.mints = o.mints := by
  unfold Office.looked
  split <;> rfl

/-- Behind the look at the token that is kept, one that is due is asked for. -/
theorem called_of_isDue (h : CanMint signs client credentials address) {o : Office}
    (hopen : o.client.closed = false) (hdue : IsDue o.client.token (clock o.readings)) :
    ∃ r o', Leads ((officeSession clock answers signs client).mintToken credentials) o.looked r o' ∧
      Called clock answers client.reading credentials address o r o' := by
  have hopen' : o.looked.client.closed = false := (looked_client o).symm ▸ hopen
  by_cases hdatable : IsDatable (clock o.looked.readings)
  · obtain ⟨hgranted, hdenied⟩ := mintToken_dated h hopen' hdatable rfl
      (congrArg (answers ·.length) (looked_mints o).symm)
    cases hgrant : granted client.reading (mintUrl credentials)
        (mintRequest address (claimsOf credentials (clock o.looked.readings)),
          answers o.mints.length) with
    | ok t => exact ⟨_, _, hgranted t hgrant, .granted hdue hdatable rfl rfl hgrant⟩
    | error fault => exact ⟨_, _, hdenied fault hgrant, .denied hdue hdatable rfl rfl hgrant⟩
  · exact ⟨_, _, mintToken_undated hopen' hdatable, .undated hdue hdatable⟩

/-- **Every call goes by one of the rules.** -/
theorem token_called (h : CanMint signs client credentials address) {o : Office}
    (hopen : o.client.closed = false)
    (hkept : ∀ t, o.client.token = some t →
      t.expiresAt.hasDate = true ∧ yearTwo.micros ≤ t.expiresAt.micros) :
    ∃ r o', Leads (officeSession clock answers signs client).token o r o' ∧
      Called clock answers client.reading credentials address o r o' := by
  have hsession : (officeSession clock answers signs client).client.access = .app credentials :=
    h.access
  unfold Session.token
  rw [hsession]
  cases hkeeps : o.client.token with
  | none =>
    have hstate : ((officeSession clock answers signs client).state.get o).token = none := hkeeps
    obtain ⟨r, o', hleads, hcalled⟩ := called_of_isDue h hopen (Or.inl hkeeps)
    refine ⟨r, o', (Session.stateNow_leads o).bind ?_, hcalled⟩
    rw [hstate]
    rwa [Office.looked, hkeeps] at hleads
  | some t =>
    have hstate : ((officeSession clock answers signs client).state.get o).token = some t := hkeeps
    obtain ⟨hend, hlate⟩ := hkept t hkeeps
    have hactive := isActive_eq hend hlate (clock o.readings)
    by_cases hgood : (clock o.readings).micros
        < t.expiresAt.micros - InstallationToken.usualSkew
    · have hnot : ¬ IsDue o.client.token (clock o.readings) := by
        rintro (hnone | ⟨t', ht', hover⟩)
        · exact absurd (hnone.symm.trans hkeeps) (by simp)
        · obtain rfl := Option.some.inj (hkeeps.symm.trans ht')
          omega
      rw [decide_eq_true hgood] at hactive
      refine ⟨_, _, (Session.stateNow_leads o).bind ?_, .kept hkeeps hnot⟩
      rw [hstate]
      exact (now_leads o).bind (leads_bind_ok hactive (leads_pure _))
    · rw [decide_eq_false hgood] at hactive
      obtain ⟨r, o', hleads, hcalled⟩ :=
        called_of_isDue h hopen (Or.inr ⟨t, hkeeps, Int.not_lt.mp hgood⟩)
      refine ⟨r, o', (Session.stateNow_leads o).bind ?_, hcalled⟩
      rw [hstate]
      refine (now_leads o).bind (leads_bind_ok hactive ?_)
      rwa [Office.looked, hkeeps] at hleads

/-! ## Calls upon calls -/

/-- The world behind some calls for a token. -/
def callsAfter (s : Session Office) (w : World Office) : Nat → World Office
  | 0 => w
  | k + 1 => (s.token.runOn (callsAfter s w k)).2

/-- What is kept is what was granted last, and all that was asked for was answered. -/
structure IsInOrder (how : Reading) (credentials : AppCredentials)
    (answers : Nat → Except Fault HttpResponse) (o : Office) : Prop where
  isOpen : o.client.closed = false
  kept : o.client.token = latest how (mintUrl credentials) o.mints
  answered : ∀ mint ∈ o.mints, ∃ i, mint.2 = answers i

theorem isInOrder_new : IsInOrder how credentials answers {} :=
  ⟨rfl, rfl, fun _ h => absurd h List.not_mem_nil⟩

theorem answered_asked {o : Office} (h : ∀ mint ∈ o.mints, ∃ i, mint.2 = answers i)
    {request : HttpRequest} {i : Nat} :
    ∀ mint ∈ o.mints ++ [(request, answers i)], ∃ i, mint.2 = answers i := by
  intro mint hmint
  rcases List.mem_append.mp hmint with hold | hnew
  · exact h mint hold
  · exact ⟨i, congrArg Prod.snd (List.mem_singleton.mp hnew)⟩

/-- A call leaves the office in order. -/
theorem Called.isInOrder {o o' : Office} {r : Except Fault Json}
    (h : Called clock answers how credentials address o r o')
    (ho : IsInOrder how credentials answers o) : IsInOrder how credentials answers o' := by
  have hlooked : IsInOrder how credentials answers o.looked := by
    unfold Office.looked
    split <;> exact ⟨ho.isOpen, ho.kept, ho.answered⟩
  cases h with
  | kept => exact ⟨ho.isOpen, ho.kept, ho.answered⟩
  | undated => exact ⟨hlooked.isOpen, hlooked.kept, hlooked.answered⟩
  | granted _ _ _ hreply hgrant =>
    subst hreply
    exact ⟨hlooked.isOpen, (latest_granted hgrant).symm, answered_asked hlooked.answered⟩
  | denied _ _ _ hreply hgrant =>
    subst hreply
    exact ⟨hlooked.isOpen, hlooked.kept.trans (latest_denied hgrant).symm,
      answered_asked hlooked.answered⟩

/-- Tokens are granted for longer than the year 1. -/
def GrantsLate (how : Reading) (answers : Nat → Except Fault HttpResponse) : Prop :=
  ∀ request i t, Grants how (request, answers i) t → yearTwo.micros ≤ t.expiresAt.micros

/-- **Behind any calls the office is in order**, and the next call goes by one of the rules. -/
theorem callsAfter_isInOrder (h : CanMint signs client credentials address)
    (hlate : GrantsLate client.reading answers) {w : World Office} (hw : w.outside = {}) :
    ∀ k,
      let s := officeSession clock answers signs client
      IsInOrder client.reading credentials answers (callsAfter s w k).outside ∧
        Called clock answers client.reading credentials address (callsAfter s w k).outside
          (s.token.runOn (callsAfter s w k)).1 (callsAfter s w (k + 1)).outside := by
  intro k s
  have hnext : ∀ v : World Office, IsInOrder client.reading credentials answers v.outside →
      Called clock answers client.reading credentials address v.outside (s.token.runOn v).1
        (s.token.runOn v).2.outside := by
    intro v hv
    have hkept : ∀ t, v.outside.client.token = some t →
        t.expiresAt.hasDate = true ∧ yearTwo.micros ≤ t.expiresAt.micros := by
      intro t ht
      obtain ⟨mint, hmint, hgrant⟩ := exists_of_latest (hv.kept.symm.trans ht)
      obtain ⟨i, hi⟩ := hv.answered mint hmint
      exact ⟨hgrant.hasDate, hlate mint.1 i t (hi ▸ hgrant)⟩
    obtain ⟨r, o', hleads, hcalled⟩ := token_called h hv.isOpen hkept
    obtain ⟨v', hrun, hv'⟩ := hleads v rfl
    rw [show s.token.runOn v = (r, v') from hrun]
    exact hv' ▸ hcalled
  have horder : ∀ k, IsInOrder client.reading credentials answers (callsAfter s w k).outside := by
    intro k
    induction k with
    | zero => exact hw.symm ▸ isInOrder_new
    | succ k ih => exact (hnext _ ih).isInOrder ih
  exact ⟨horder k, hnext _ (horder k)⟩

/-- What a call owes, from one office to the next. -/
structure Owes (clock : Nat → Instant) (answers : Nat → Except Fault HttpResponse) (how : Reading)
    (credentials : AppCredentials) (address : Url.Reference) (o : Office) (r : Except Fault Json)
    (o' : Office) : Prop where
  /-- what is kept is the token that was granted last -/
  kept : o.client.token = latest how (mintUrl credentials) o.mints
  /-- a token is asked for once at most -/
  atMostOnce : o'.mints = o.mints ∨ ∃ mint, o'.mints = o.mints ++ [mint]
  /-- it is asked for just if that is due and can be dated -/
  asks : ∀ mint, o'.mints = o.mints ++ [mint] ↔
    IsDue (latest how (mintUrl credentials) o.mints) (clock o.readings) ∧
      IsDatable (clock o.looked.readings) ∧
      mint = (mintRequest address (claimsOf credentials (clock o.looked.readings)),
        answers o.mints.length)
  /-- if it is not due, the token that was granted last is the one to use -/
  gives : ¬ IsDue (latest how (mintUrl credentials) o.mints) (clock o.readings) →
    ∃ t, latest how (mintUrl credentials) o.mints = some t ∧ r = .ok t.token
  /-- what it is granted is given and kept -/
  grants : ∀ mint t, o'.mints = o.mints ++ [mint] → Grants how mint t →
    r = .ok t.token ∧ o'.client.token = some t
  /-- if it is granted nothing, the call fails and what is kept stays -/
  denies : ∀ mint, o'.mints = o.mints ++ [mint] → (∀ t, ¬ Grants how mint t) →
    (∃ fault, r = .error fault) ∧ o'.client.token = o.client.token
  /-- if it is due and cannot be dated, the call fails -/
  fails : IsDue (latest how (mintUrl credentials) o.mints) (clock o.readings) →
    ¬ IsDatable (clock o.looked.readings) → ∃ fault, r = .error fault
  rests : o'.mints = o.mints → o'.client.token = o.client.token

section Owes

variable {o o' : Office} {r : Except Fault Json} (ho : IsInOrder how credentials answers o)
include ho

/-- A call that asks for no token, and need not or cannot. -/
theorem owes_of_silent (hmints : o'.mints = o.mints) (htoken : o'.client.token = o.client.token)
    (hnot : ¬ (IsDue o.client.token (clock o.readings) ∧ IsDatable (clock o.looked.readings)))
    (hgives : ¬ IsDue o.client.token (clock o.readings) →
      ∃ t, o.client.token = some t ∧ r = .ok t.token)
    (hfails : IsDue o.client.token (clock o.readings) → ∃ fault, r = .error fault) :
    Owes clock answers how credentials address o r o' := by
  have hmore : ∀ mint, o'.mints ≠ o.mints ++ [mint] := fun mint hsame =>
    absurd (List.self_eq_append_right.mp (hmints.symm.trans hsame)) (List.cons_ne_nil _ _)
  rw [ho.kept] at hnot hgives hfails
  exact {
    kept := ho.kept
    atMostOnce := Or.inl hmints
    asks := fun mint => iff_of_false (hmore mint) fun hasks => hnot ⟨hasks.1, hasks.2.1⟩
    gives := hgives
    grants := fun mint _ hasked => absurd hasked (hmore mint)
    denies := fun mint hasked => absurd hasked (hmore mint)
    fails := fun hdue _ => hfails hdue
    rests := fun _ => htoken }

/-- A call that asks for a token that is due. -/
theorem owes_of_asked {mint : HttpRequest × Except Fault HttpResponse}
    (hmints : o'.mints = o.mints ++ [mint]) (hdue : IsDue o.client.token (clock o.readings))
    (hdatable : IsDatable (clock o.looked.readings))
    (hmint : mint = (mintRequest address (claimsOf credentials (clock o.looked.readings)),
      answers o.mints.length))
    (hgrants : ∀ t, Grants how mint t → r = .ok t.token ∧ o'.client.token = some t)
    (hdenies : (∀ t, ¬ Grants how mint t) →
      (∃ fault, r = .error fault) ∧ o'.client.token = o.client.token) :
    Owes clock answers how credentials address o r o' := by
  have honly : ∀ mint', o'.mints = o.mints ++ [mint'] ↔ mint' = mint := by
    intro mint'
    rw [hmints, List.append_cancel_left_eq, List.cons.injEq, and_iff_left rfl, eq_comm]
  rw [ho.kept] at hdue
  exact {
    kept := ho.kept
    atMostOnce := Or.inr ⟨mint, hmints⟩
    asks := fun mint' => by
      rw [honly, ← hmint, and_iff_right hdue, and_iff_right hdatable]
    gives := fun hnot => absurd hdue hnot
    grants := fun mint' t hasked => (honly mint').mp hasked ▸ hgrants t
    denies := fun mint' hasked => (honly mint').mp hasked ▸ hdenies
    fails := fun _ hnot => absurd hdatable hnot
    rests := fun hsame => absurd (List.self_eq_append_right.mp (hsame.symm.trans hmints))
      (List.cons_ne_nil _ _) }

/-- The rules say all that a call owes. -/
theorem Called.owes (h : Called clock answers how credentials address o r o') :
    Owes clock answers how credentials address o r o' := by
  cases h with
  | kept hkeeps hnot =>
    exact owes_of_silent ho rfl rfl (fun hboth => hnot hboth.1) (fun _ => ⟨_, hkeeps, rfl⟩)
      fun hdue => absurd hdue hnot
  | undated hdue hdatable =>
    exact owes_of_silent ho (looked_mints o) (congrArg ClientState.token (looked_client o))
      (fun hboth => hdatable hboth.2) (fun hnot => absurd hdue hnot) fun _ => ⟨_, rfl⟩
  | granted hdue hdatable hrequest hreply hgrant =>
    refine owes_of_asked ho (congrArg (· ++ _) (looked_mints o)) hdue hdatable
      (by rw [hrequest, hreply]) (fun t ht => ?_) fun hnone => ?_
    · obtain rfl := Except.ok.inj (hgrant.symm.trans (granted_eq_ok_iff.mpr ht))
      exact ⟨rfl, rfl⟩
    · exact absurd (granted_eq_ok_iff.mp hgrant) (hnone _)
  | denied hdue hdatable hrequest hreply hgrant =>
    refine owes_of_asked ho (congrArg (· ++ _) (looked_mints o)) hdue hdatable
      (by rw [hrequest, hreply]) (fun t ht => ?_) fun _ => ?_
    · exact absurd (hgrant.symm.trans (granted_eq_ok_iff.mpr ht)) (by simp)
    · exact ⟨⟨_, rfl⟩, congrArg ClientState.token (looked_client o)⟩

end Owes

/-- **The cache of tokens.** Whatever the clock shows and whatever the code host answers, every
call in a sequence does what it owes: it asks for a token if none was granted before or the one
that was granted last expires within a minute, and what it is granted is kept, and nothing
else. -/
theorem token_calls (h : CanMint signs client credentials address)
    (hlate : GrantsLate client.reading answers) {w : World Office} (hw : w.outside = {}) (k : Nat) :
    let s := officeSession clock answers signs client
    Owes clock answers client.reading credentials address (callsAfter s w k).outside
      (s.token.runOn (callsAfter s w k)).1 (callsAfter s w (k + 1)).outside := by
  intro s
  obtain ⟨horder, hcalled⟩ := callsAfter_isInOrder h hlate hw k
  exact hcalled.owes horder

/-- Below a base address in normal form tokens can be asked for. -/
theorem exists_canMint {front : List (List Char)} (hsite : client.base.IsSite front)
    (haccess : client.access = .app credentials)
    (hsigns : signs (normalKey credentials.privateKey) = true)
    (hnumber : (toString credentials.installationId).toList.length ≤ 800) :
    ∃ address, CanMint signs client credentials address ∧ address.hasType = true := by
  obtain ⟨address, haddress, hplace, htype, -⟩ :=
    address_ok hsite (isRooted_accessTokens hnumber) [] (by decide)
  exact ⟨address, ⟨haccess, hsigns, haddress, hplace⟩, htype⟩

end Calls

/-! A token for an hour, after which the code host cannot be reached. The clock is read every
fifty minutes. -/

def appCredentials : AppCredentials := ⟨123, "key", 456⟩

def appClient : Client where
  base := publicBase
  access := .app appCredentials

def hourAnswer : HttpResponse where
  status := 201
  content := "\x7b\"token\": \"t\", \"expires_at\": \"1970-01-01T01:00:00Z\"\x7d".toUTF8

def oneHour : Nat → Except Fault HttpResponse
  | 0 => .ok hourAnswer
  | _ + 1 => .error (.unreachable "down")

def everyFiftyMinutes (i : Nat) : Instant := ⟨i * 3000 * Instant.microsPerSecond⟩

def quietOffice : World Office where
  outside := {}
  tree := { root := .dir [], here := [] }
  journal := {}

theorem token_hourAnswer :
    ∃ t, tokenOfResponse {} (mintUrl appCredentials) hourAnswer = .ok t ∧
      yearTwo.micros ≤ t.expiresAt.micros := by
  have hread : (tokenOfResponse {} (mintUrl appCredentials) hourAnswer).toOption.any
      (fun t => yearTwo.micros ≤ t.expiresAt.micros) = true := by decide +kernel
  cases htoken : tokenOfResponse {} (mintUrl appCredentials) hourAnswer with
  | ok t =>
    rw [htoken] at hread
    exact ⟨t, rfl, of_decide_eq_true hread⟩
  | error fault =>
    rw [htoken] at hread
    exact absurd hread (by simp [Except.toOption])

theorem grantsLate_oneHour : GrantsLate {} oneHour := by
  rintro request i t ⟨response, houtcome, hholds⟩
  obtain ⟨r, hr, hdecoded⟩ := decoded_of_outcomeOf houtcome
  cases i with
  | zero =>
    obtain rfl := Except.ok.inj hr
    have hplain : hourAnswer.decoded = .ok hourAnswer := decoded_of_plain rfl
    obtain rfl := Except.ok.inj (hplain.symm.trans hdecoded)
    obtain ⟨t', ht', hlate⟩ := token_hourAnswer
    obtain rfl := Except.ok.inj (ht'.symm.trans (tokenOfResponse_eq_ok_iff.mpr hholds))
    exact hlate
  | succ i => exact absurd hr (by simp [oneHour])

/-- The first request is granted a token. -/
theorem exists_grants_hourAnswer {address : Url.Reference} (htype : address.hasType = true)
    (claims : AppClaims) : ∃ t, Grants {} (mintRequest address claims, .ok hourAnswer) t := by
  obtain ⟨t, ht, -⟩ := token_hourAnswer
  have hplain : hourAnswer.decoded = .ok hourAnswer := decoded_of_plain rfl
  have hstays : hourAnswer.redirection? = none := by decide
  have hrequest : (mintRequest address claims).address.hasType = true := htype
  exact ⟨t, hourAnswer, outcomeOf_ok hrequest hplain hstays, tokenOfResponse_eq_ok_iff.mp ht⟩

theorem token_calls_oneHour :
    let s := officeSession everyFiftyMinutes oneHour (fun _ => true) appClient
    ∃ address, CanMint (fun _ => true) appClient appCredentials address ∧
      GrantsLate {} oneHour ∧ quietOffice.outside = {} ∧
      (∃ t, (s.token.runOn quietOffice).1 = .ok t.token ∧
        (callsAfter s quietOffice 1).outside.client.token = some t) ∧
      ∀ k, Owes everyFiftyMinutes oneHour {} appCredentials address
        (callsAfter s quietOffice k).outside (s.token.runOn (callsAfter s quietOffice k)).1
        (callsAfter s quietOffice (k + 1)).outside := by
  intro s
  obtain ⟨address, hcan, htype⟩ : ∃ address,
      CanMint (fun _ => true) appClient appCredentials address ∧ address.hasType = true :=
    exists_canMint isSite_publicBase rfl rfl (by decide)
  have howes : ∀ k, Owes everyFiftyMinutes oneHour {} appCredentials address
      (callsAfter s quietOffice k).outside (s.token.runOn (callsAfter s quietOffice k)).1
      (callsAfter s quietOffice (k + 1)).outside := token_calls hcan grantsLate_oneHour rfl
  -- the first call asks for a token, since there is none, and is granted one
  have hdatable : IsDatable (everyFiftyMinutes 0) := by
    unfold IsDatable
    decide
  obtain ⟨t, ht⟩ := exists_grants_hourAnswer htype
    (claimsOf appCredentials (everyFiftyMinutes 0))
  have hfirst := (howes 0).grants _ t (((howes 0).asks _).mpr ⟨Or.inl rfl, hdatable, rfl⟩) ht
  rw [callsAfter, Nat.zero_add] at hfirst
  exact ⟨address, hcan, grantsLate_oneHour, rfl, ⟨t, hfirst⟩, howes⟩

/-- In the last minutes of the calendar a token that is due is not asked for. -/
theorem token_calls_lastSecond :
    let now : Instant := ⟨253402300799000000⟩
    let s := officeSession (fun _ => now) oneHour (fun _ => true) appClient
    IsDue (latest {} (mintUrl appCredentials) quietOffice.outside.mints) now ∧
      (callsAfter s quietOffice 1).outside.mints = [] ∧
      (s.token.runOn quietOffice).1 = .error (.outOfRange "date value out of range") :=
  ⟨Or.inl rfl, rfl, rfl⟩

end PullReview.GitHub
