import PullReview.Json.Writer
import PullReview.Proofs.Comments.InStep
import PullReview.Proofs.Comments.Reconciling
import PullReview.Proofs.GitHub.PageServer
import PullReview.Proofs.GitHub.Served
import PullReview.Proofs.GitHub.Trouble

/-!
# The code host as a store

Reconciling over a session with a code host does what it does over the comment store in
memory that holds the same comments and refuses the same paths: the reports are the same,
and so are the comments that are left (`reconcile_refines`). Neither shows there what goes
wrong in passing, nor how many pages a listing takes. The two are held together call by
call (`stores_inStep`); reconciling knows them by their calls alone (`reconcile_inStep`).

What goes wrong in passing has to be borne (`AreBearable`). A pause that is asked for in digits
that stand for no number ends the run over the code host (`reconcile_untold`).
-/

namespace PullReview.GitHub

open Act Comment Rehearsal Url

/-- Line comments on the same paths are refused, and nothing else is. -/
def SameRefusals (rules : HostRules) (refusals : Refusals) : Prop :=
  ∃ onPath : List (String × Fault), refusals = { onPath := onPath } ∧
    ∀ path, (rules.refusal? path = none → onPath.lookup path = none) ∧
      ((rules.refusal? path).isSome = true → ∃ cause, onPath.lookup path = some (.api cause))

/-- The ledger holds what the code host holds, and both refuse the same. The code host may
be troubled, as far as the client bears it. -/
structure Mirrors (rules : HostRules) (client : Client) (n : Net) (l : Ledger) : Prop where
  isOpen : n.client.closed = false
  hiccups : AreBearable client n.host.hiccups
  issueComments : n.host.issueComments = l.issueComments
  reviewComments : n.host.reviewComments = l.reviewComments
  nextId : n.host.nextId = l.nextId
  refusals : SameRefusals rules l.refusals

/-! ## The ledger's side -/

theorem leads_storeUse (call : StoreCall) (l : Ledger) :
    Leads (storeUse call) l (l.use call).1 (l.use call).2 := leads_step Part.whole _

/-- A use that is not refused is performed. -/
theorem leads_free {call : StoreCall} {l : Ledger}
    (hfree : l.refusals.of l.calls.size call = none) :
    Leads (storeUse call) l ((l.noted call).perform call).1 ((l.noted call).perform call).2 := by
  have huse := leads_storeUse call l
  rw [Ledger.use_free hfree] at huse
  exact huse

section Refusals

variable {rules : HostRules} {refusals : Refusals} (h : SameRefusals rules refusals)
include h

/-- Only new line comments are refused. -/
theorem SameRefusals.free {call : StoreCall} (hcall : ∀ c head, call ≠ .createReviewComment c head)
    (count : Nat) : refusals.of count call = none := by
  obtain ⟨onPath, rfl, _⟩ := h
  cases call with
  | createReviewComment c head => exact absurd rfl (hcall c head)
  | listIssueComments | createIssueComment | updateIssueComment | listReviewComments => rfl

theorem SameRefusals.free_path {c : LineComment} (hpath : rules.refusal? c.path = none)
    (head : Json) (count : Nat) : refusals.of count (.createReviewComment c head) = none := by
  obtain ⟨onPath, rfl, hsame⟩ := h
  have hlookup := (hsame c.path).1 hpath
  simp [Refusals.of, Refusals.ofKind, hlookup]

theorem SameRefusals.refused {c : LineComment} (hpath : (rules.refusal? c.path).isSome = true)
    (head : Json) (count : Nat) :
    ∃ cause, refusals.of count (.createReviewComment c head) = some (.api cause) := by
  obtain ⟨onPath, rfl, hsame⟩ := h
  obtain ⟨cause, hlookup⟩ := (hsame c.path).2 hpath
  exact ⟨cause, by simp [Refusals.of, Refusals.ofKind, hlookup]⟩

end Refusals

/-- A listed comment takes a new body. -/
theorem updateBody_mem {cs : List Json} (hcs : AreIssues cs) {c : Json} (hc : c ∈ cs) {id : Int}
    (hid : c.getD "id" = .int id) (body : String) :
    ∃ found cs', Ledger.updateBody (.int id) body cs = some (found, cs') := by
  obtain ⟨before, after, rfl⟩ := List.append_of_mem hc
  obtain ⟨members, rfl⟩ := (hcs.shape c hc).isObject
  -- no comment in front has the same number
  refine ⟨_, _, updateBody_eq body hid before fun d hd hsame => ?_⟩
  have hids := hcs.ids
  rw [List.map_append, List.map_cons, List.nodup_append] at hids
  exact hids.2.2 _ (List.mem_map_of_mem hd) _ (List.mem_cons_self ..) (hsame.trans hid.symm)

/-! ## Call by call -/

/-- Nothing but what was to go wrong is different behind a listing. -/
theorem Mirrors.listed {rules : HostRules} {client : Client} {n : Net} {l : Ledger}
    (h : Mirrors rules client n l) {hiccups : List (List Reply)}
    (hbearable : AreBearable client hiccups) (call : StoreCall) :
    Mirrors rules client { n with host := { n.host with hiccups := hiccups } } (l.noted call) :=
  ⟨h.isOpen, hbearable, h.issueComments, h.reviewComments, h.nextId, h.refusals⟩

/-- Both hold certain comments now. -/
def Holding (rules : HostRules) (client : Client) (cs rs : List Json) (n : Net) (l : Ledger) :
    Prop :=
  Mirrors rules client n l ∧ l.issueComments = cs ∧ l.reviewComments = rs

/-- Both hold certain line comments now. -/
def HoldingReviews (rules : HostRules) (client : Client) (rs : List Json) (n : Net) (l : Ledger) :
    Prop :=
  Mirrors rules client n l ∧ l.reviewComments = rs

section Calls

variable {rules : HostRules} {client : Client} (hs : Suits rules client) {cs rs : List Json}
include hs

theorem issueComments_inStep (hcs : AreListable rules client cs) :
    InStep (Holding rules client cs rs) (Holding rules client cs rs) (fun a b => a = cs ∧ b = cs)
      ((hostSession rules client).store.issueComments rules.pr)
      (wholeStore.issueComments rules.pr) := by
  refine alike_of_leads ?_
  rintro n l ⟨hm, rfl, rfl⟩
  obtain ⟨hiccups, hbearable, hhost⟩ := issueComments_leads hs hm.hiccups
    (hm.issueComments ▸ hcs) hm.isOpen
  have hledger : Leads (storeUse .listIssueComments) l (.ok (.arr l.issueComments))
      (l.noted .listIssueComments) := leads_free (hm.refusals.free (by simp) _)
  exact ⟨_, _, _, _, hhost, hledger.map commentsIn, ⟨hm.listed hbearable _, rfl, rfl⟩,
    hm.issueComments, rfl⟩

theorem reviewComments_inStep (hrs : AreListable rules client rs) :
    InStep (HoldingReviews rules client rs) (HoldingReviews rules client rs)
      (fun a b => a = rs ∧ b = rs) ((hostSession rules client).store.reviewComments rules.pr)
      (wholeStore.reviewComments rules.pr) := by
  refine alike_of_leads ?_
  rintro n l ⟨hm, rfl⟩
  obtain ⟨hiccups, hbearable, hhost⟩ := reviewComments_leads hs hm.hiccups
    (hm.reviewComments ▸ hrs) hm.isOpen
  have hledger : Leads (storeUse .listReviewComments) l (.ok (.arr l.reviewComments))
      (l.noted .listReviewComments) := leads_free (hm.refusals.free (by simp) _)
  exact ⟨_, _, _, _, hhost, hledger.map commentsIn, ⟨hm.listed hbearable _, rfl⟩,
    hm.reviewComments, rfl⟩

theorem createIssueComment_inStep (body : String) :
    InStep (Holding rules client cs rs) (HoldingReviews rules client rs) (fun _ _ => True)
      ((hostSession rules client).store.createIssueComment rules.pr body)
      (wholeStore.createIssueComment rules.pr body) := by
  refine alike_of_leads ?_
  rintro n l ⟨hm, rfl, rfl⟩
  obtain ⟨v, hhost⟩ := createIssueComment_leads hs hm.isOpen hm.hiccups body
  have hfree : l.refusals.of l.calls.size (.createIssueComment body) = none :=
    hm.refusals.free (by simp) _
  have hcomments : n.host.issueComments ++ [Ledger.listedIssue n.host.nextId body]
      = l.issueComments ++ [Ledger.listedIssue l.nextId body] := by
    rw [hm.issueComments, hm.nextId]
  have hnext : n.host.nextId + 1 = l.nextId + 1 := congrArg (· + 1) hm.nextId
  exact ⟨_, _, _, _, hhost, leads_free hfree,
    ⟨⟨hm.isOpen, hm.hiccups.settled, hcomments, hm.reviewComments, hnext, hm.refusals⟩, rfl⟩,
    trivial⟩

theorem updateIssueComment_inStep (hcs : AreIssues cs) {c : Json} (hc : c ∈ cs) {id : Int}
    (hid : c.getD "id" = .int id) (hshort : (toString id).toList.length ≤ 4300) (body : String) :
    InStep (Holding rules client cs rs) (HoldingReviews rules client rs) (fun _ _ => True)
      ((hostSession rules client).store.updateIssueComment rules.pr (.int id) body)
      (wholeStore.updateIssueComment rules.pr (.int id) body) := by
  refine alike_of_leads ?_
  rintro n l ⟨hm, rfl, rfl⟩
  obtain ⟨found, comments, hupdate⟩ := updateBody_mem hcs hc hid body
  obtain ⟨v, hhost⟩ := updateIssueComment_leads hs hm.isOpen hm.hiccups hshort
    (hm.issueComments ▸ hupdate)
  have hperform : (l.noted (.updateIssueComment (.int id) body)).perform
        (.updateIssueComment (.int id) body)
      = (.ok found, { l.noted (.updateIssueComment (.int id) body) with
          issueComments := comments }) := by
    have hsame : Ledger.updateBody (.int id) body
        (l.noted (.updateIssueComment (.int id) body)).issueComments = some (found, comments) :=
      hupdate
    unfold Ledger.perform
    dsimp only
    rw [hsame]
  have hfree : l.refusals.of l.calls.size (.updateIssueComment (.int id) body) = none :=
    hm.refusals.free (by simp) _
  have hledger := leads_free hfree
  rw [hperform] at hledger
  exact ⟨_, _, _, _, hhost, hledger,
    ⟨⟨hm.isOpen, hm.hiccups.settled, rfl, hm.reviewComments, hm.nextId, hm.refusals⟩, rfl⟩,
    trivial⟩

theorem createReviewComment_alike (comment : LineComment)
    (hline : Numeral.isShort comment.line = true) :
    Alike (Mirrors rules client) (Mirrors rules client) (fun _ _ => True) BothRefused
      ((hostSession rules client).store.createReviewComment rules.pr comment)
      (wholeStore.createReviewComment rules.pr comment) := by
  refine alike_of_leads fun n l hm => ?_
  rcases createReviewComment_leads hs hm.isOpen hm.hiccups hline
    with ⟨hfree, v, hhost⟩ | ⟨hrefused, cause, hhost⟩
  · have hcomments : n.host.reviewComments ++ [Ledger.listedReview n.host.nextId comment]
        = l.reviewComments ++ [Ledger.listedReview l.nextId comment] := by
      rw [hm.reviewComments, hm.nextId]
    have hnext : n.host.nextId + 1 = l.nextId + 1 := congrArg (· + 1) hm.nextId
    exact ⟨_, _, _, _, hhost, leads_free (hm.refusals.free_path hfree _ _),
      ⟨hm.isOpen, hm.hiccups.settled, hm.issueComments, hcomments, hnext, hm.refusals⟩, trivial⟩
  · obtain ⟨cause', hof⟩ := hm.refusals.refused hrefused rules.pr.head l.calls.size
    have hledger := leads_storeUse (.createReviewComment comment rules.pr.head) l
    rw [Ledger.use_refused hof] at hledger
    exact ⟨_, _, _, _, hhost, hledger,
      ⟨hm.isOpen, hm.hiccups.settled, hm.issueComments, hm.reviewComments, hm.nextId,
        hm.refusals⟩,
      ⟨cause, rfl⟩, ⟨cause', rfl⟩⟩

/-- The session with the code host and the ledger answer alike, call by call. -/
theorem stores_inStep (hcs : AreIssues cs) (hlistable : AreListable rules client cs)
    (hlistable' : AreListable rules client rs)
    (hshort : ∀ c ∈ cs, ∀ id : Int, c.getD "id" = .int id →
      (toString id).toList.length ≤ 4300) :
    StoresInStep (Holding rules client cs rs) (HoldingReviews rules client rs)
      (Mirrors rules client) rules.pr cs rs (hostSession rules client).store wholeStore where
  issueComments := issueComments_inStep hs hlistable
  createIssueComment := createIssueComment_inStep hs
  updateIssueComment := fun c hc id hid body =>
    updateIssueComment_inStep hs hcs hc hid (hshort c hc id hid) body
  reviewComments := reviewComments_inStep hs hlistable'
  after_of_between := fun _ _ h => h.1
  createReviewComment := createReviewComment_alike hs

end Calls

/-! ## Reconciling -/

/-- **The code host refines the store in memory.** Over a session with a code host and over
the ledger that mirrors it, reconciling gives the same report and leaves the same comments,
whatever is found on lines that can be written and whatever goes wrong in passing. -/
theorem reconcile_refines {rules : HostRules} {client : Client} (hs : Suits rules client)
    (w : World Net) (v : World Ledger) (hm : Mirrors rules client w.outside v.outside)
    (hissues : AreIssues v.outside.issueComments)
    (hshort : ∀ c ∈ v.outside.issueComments, ∀ id : Int, c.getD "id" = .int id →
      (toString id).toList.length ≤ 4300)
    (hreviews : ∀ c ∈ v.outside.reviewComments, IsReview c)
    (hlistable : AreListable rules client v.outside.issueComments)
    (hlistable' : AreListable rules client v.outside.reviewComments)
    (gap : Int) {result : ReviewResult} (hlines : ∀ f ∈ result.blocking, f.isWritable = true) :
    let here := (Reconcile.reconcile (hostSession rules client).store gap result rules.pr).runOn w
    let there := (Reconcile.reconcile wholeStore gap result rules.pr).runOn v
    ∃ report, here.1 = .ok report ∧ there.1 = .ok report ∧
      here.2.outside.host.issueComments = there.2.outside.issueComments ∧
      here.2.outside.host.reviewComments = there.2.outside.reviewComments := by
  obtain ⟨places, hplaces, _⟩ := mem_ownLocations _ hreviews
  have hstep := reconcile_inStep (stores_inStep hs hissues hlistable hlistable' hshort)
    hissues.shape ⟨places, hplaces⟩ gap hlines
  obtain ⟨report, hhere, hthere, hleft⟩ := hstep.gives ⟨hm, rfl, rfl⟩
  exact ⟨report, hhere, hthere, hleft.issueComments, hleft.reviewComments⟩

/-! A code host that is busy at first, loses the connection once and takes no comments on
one of the paths. -/

def remark : Json := .obj [("id", .int 7), ("body", .str "ok")]

def strictRules : HostRules where
  front := []
  pr := ⟨"owner", "repo", 3, .str "abc"⟩
  write := fun batch => (Json.write (.arr batch)).toUTF8
  receipt := fun _ => "null".toUTF8
  refusal? := fun path => if path = "d.ts" then some { status := 422 } else none

def busyNet : World Net where
  outside := {
    host := {
      issueComments := [remark]
      reviewComments := []
      nextId := 8
      hiccups := [[.responds busyAnswer, .fails (.unreachable "reset")], [],
        [.responds busyAnswer]] } }
  tree := { root := .dir [], here := [] }
  journal := {}

def strictLedger : World Ledger where
  outside := {
    issueComments := [remark]
    nextId := 8
    refusals := { onPath := [("d.ts", .api ⟨"not part of the diff", 422, .null⟩)] } }
  tree := { root := .dir [], here := [] }
  journal := {}

theorem suits_strictRules : Suits strictRules publicClient where
  site := isSite_publicBase
  owner := ⟨List.all_eq_true.mp (by decide), by decide, by decide⟩
  repo := ⟨List.all_eq_true.mp (by decide), by decide, by decide⟩
  name := by decide
  number := by decide
  head := ⟨_, rfl⟩
  token := ⟨"token", rfl, by decide⟩
  retries := by decide
  backoff := ⟨_, rfl⟩
  pauses := by decide +kernel
  receipt := fun _ => by
    have hnull : Json.readBytes Json.usualDepth "null".toUTF8 = .ok .null := by cbv
    exact ⟨.null, hnull⟩
  refusal := by
    intro path r hr
    have hrefusal : r = { status := 422 } := by
      simp only [strictRules] at hr
      split at hr
      · exact (Option.some.inj hr).symm
      · exact absurd hr (by simp)
    rw [hrefusal]
    exact ⟨_, decoded_plain _ _, by decide, by decide, .null, rfl⟩

theorem isHiccup_busyAnswer : IsHiccup (.responds busyAnswer) := by
  refine .responds decoded_busyAnswer rfl fun wanted hwanted _ => ?_
  obtain rfl := Option.some.inj (header?_busyAnswer.symm.trans hwanted)
  have hsome : (Double.ofDigits? "7".toList).any (·.isFinite) = true := by decide +kernel
  exact (Option.any_eq_true _ _).mp hsome

theorem mirrors_busyNet :
    Mirrors strictRules publicClient busyNet.outside strictLedger.outside where
  isOpen := rfl
  hiccups := by
    have hreset : IsHiccup (.fails (.unreachable "reset")) := .fails rfl
    simp [AreBearable, busyNet, publicClient, isHiccup_busyAnswer, hreset]
  issueComments := rfl
  reviewComments := rfl
  nextId := rfl
  refusals := by
    refine ⟨_, rfl, fun path => ?_⟩
    by_cases hpath : path = "d.ts"
    · rw [hpath]
      exact ⟨fun h => absurd h (by simp [strictRules]), fun _ => ⟨_, rfl⟩⟩
    · have hfree : strictRules.refusal? path = none := by simp [strictRules, hpath]
      have hother : (path == "d.ts") = false := beq_eq_false_iff_ne.mpr hpath
      refine ⟨fun _ => by simp [List.lookup, hother], fun h => ?_⟩
      rw [hfree] at h
      exact absurd h (by simp)

theorem written_nil : Json.readBytes Json.usualDepth (strictRules.write []) = .ok (.arr []) := by
  have hwrite : Json.write (.arr []) = "[]" := by decide +kernel
  show Json.readBytes Json.usualDepth (Json.write (.arr [])).toUTF8 = _
  rw [hwrite]
  cbv

theorem written_remark :
    Json.readBytes Json.usualDepth (strictRules.write [remark]) = .ok (.arr [remark]) := by
  have hwrite : Json.write (.arr [remark])
      = "[\x7b\"id\": 7, \"body\": \"ok\"\x7d]" := by
    decide +kernel
  show Json.readBytes Json.usualDepth (Json.write (.arr [remark])).toUTF8 = _
  rw [hwrite]
  cbv

theorem areListable_nil : AreListable strictRules publicClient [] where
  written := by
    intro batch hbatch
    obtain rfl := List.infix_nil.mp hbatch
    exact written_nil
  count := by decide
  pages := by decide

theorem areListable_remark : AreListable strictRules publicClient [remark] where
  written := by
    intro batch hbatch
    rcases List.infix_cons_iff.mp hbatch with hfront | hbehind
    · cases batch with
      | nil => exact written_nil
      | cons c cs =>
        obtain ⟨rfl, hcs⟩ := List.cons_prefix_cons.mp hfront
        obtain rfl := List.prefix_nil.mp hcs
        exact written_remark
    · obtain rfl := List.infix_nil.mp hbehind
      exact written_nil
  count := by decide
  pages := by decide

theorem reconcile_refines_busyNet :
    let here := (Reconcile.reconcile (hostSession strictRules publicClient).store 2 fourPlaces
      strictRules.pr).runOn busyNet
    let there := (Reconcile.reconcile wholeStore 2 fourPlaces strictRules.pr).runOn strictLedger
    ∃ report, here.1 = .ok report ∧ there.1 = .ok report ∧
      here.2.outside.host.issueComments = there.2.outside.issueComments ∧
      here.2.outside.host.reviewComments = there.2.outside.reviewComments := by
  have hremark : ∀ c ∈ strictLedger.outside.issueComments, c = remark := fun c hc =>
    List.mem_singleton.mp hc
  refine reconcile_refines suits_strictRules busyNet strictLedger mirrors_busyNet ?_ ?_ ?_
    areListable_remark areListable_nil 2 (by decide +kernel)
  · refine ⟨fun c hc => ?_, by simp [strictLedger]⟩
    rw [hremark c hc]
    exact ⟨⟨_, rfl⟩, ⟨7, rfl⟩, Or.inr ⟨_, rfl⟩⟩
  · intro c hc id hid
    rw [hremark c hc] at hid
    obtain rfl : 7 = id := Json.int.inj hid
    decide
  · exact fun c hc => absurd hc List.not_mem_nil

/-- The busy code host asks for a pause in raised digits, once. -/
def raisedNet : World Net :=
  { busyNet with outside := { busyNet.outside with host := { busyNet.outside.host with
      hiccups := [[.responds raisedDelay]] } } }

/-- A status that may pass by itself, well within the tries of the client, and a header that
stands for no number: reconciling ends with the fault of telling the pause, where it does not
over the store in memory. -/
theorem reconcile_untold :
    [Reply.responds raisedDelay].length ≤ publicClient.maxRetries.toNat ∧
      isPassing raisedDelay.status = true ∧
      ((Reconcile.reconcile (hostSession strictRules publicClient).store 2 fourPlaces
        strictRules.pr).runOn raisedNet).1 = .error (.data (.badDelay "²")) ∧
      ((Reconcile.reconcile wholeStore 2 fourPlaces strictRules.pr).runOn strictLedger).1
        = .ok { summary := .created, created := 2, failed := 1 } := by
  have hparams : AreSendable (pageParams 1) := areSendable_page (by decide)
  obtain ⟨a, ha⟩ := finds_issueComments suits_strictRules hparams
  have hbearer : ∀ t, Authorization.bearer "token" = .bearer t →
      headerFault? ("Bearer " ++ t) = none := fun t e => Authorization.bearer.inj e ▸ by decide
  obtain ⟨request, hrequest, -, haddress, -⟩ := request_eq .get ha.address ha.place hbearer
    (if publicClient.ownsConnection then usualAccept else "*/*")
    (if publicClient.ownsConnection then some usualVersion else none) none rfl
  have houtcome := outcomeOf_raisedDelay (haddress ▸ ha.hasType)
  obtain ⟨behind, hanswer⟩ : ∃ behind,
      raisedNet.outside.host.answer strictRules request = (.ok raisedDelay, behind) :=
    ⟨_, CodeHost.answer_responds rfl⟩
  have hsend : Leads ((hostSession strictRules publicClient).send request) raisedNet.outside
      (.ok raisedDelay) ⟨behind, {}⟩ := houtcome ▸ send_leads hanswer {}
  have htoken : Leads (hostSession strictRules publicClient).token raisedNet.outside
      (.ok (.str "token")) raisedNet.outside := Session.token_leads rfl _
  have hlisting : Leads ((hostSession strictRules publicClient).store.issueComments strictRules.pr)
      raisedNet.outside (.error (.data (.badDelay "²"))) ⟨behind, {}⟩ :=
    (Lists.issueComments strictRules.pr).untold htoken rfl hrequest hsend
      isRetryable_raisedDelay pauseAfter_raisedDelay (by decide) (by decide)
  have hreconcile : Leads (Reconcile.reconcile (hostSession strictRules publicClient).store 2
      fourPlaces strictRules.pr) raisedNet.outside (.error (.data (.badDelay "²"))) ⟨behind, {}⟩ :=
    (hlisting.bind_error _).bind_error _
  obtain ⟨v, hrun, -⟩ := hreconcile raisedNet rfl
  exact ⟨by decide, by decide, congrArg Prod.fst hrun, rfl⟩

end PullReview.GitHub
