import PullReview.Proofs.Comments.Listed
import PullReview.Proofs.GitHub.Legible

/-!
# Trouble with the code host

Publishing tells of faults of talking to the code host and leaves them; any other fault
ends the review. Over a session whose answers are all `Legible`, reconciling fails with
faults of the first kind alone (`reconcile_ends`). Hence the main statement: a review
gives an outcome, the one that it gives without a store (`review_outcome_dryRun`).

An answer that cannot be read is not contained: a page in place of a listing ends the
review (`review_pageAnswer`).
-/

namespace PullReview.GitHub

open Act Text Url Comment

variable {σ : Type}

section Session

variable {s : Session σ} {front : List (List Char)} (h : s.IsSound front)
include h

/-! ## Reconciling over the store -/

/-- A pull request whose name and number can stand in an address. -/
structure IsNameable (pr : PullRequest) : Prop where
  owner : IsShort 2000 pr.owner
  repo : IsShort 2000 pr.repo
  number : (toString pr.number).toList.length ≤ 800

omit h in
theorem isRooted_repoUrl {pr : PullRequest} (hpr : IsNameable pr) {rest : String}
    (hrest : IsShort 900 rest) : IsRooted (Session.repoUrl pr ++ rest) := by
  have hfirst : IsShort 7 "/repos/" := isShort_of_all (by decide) (by decide)
  have hslash : IsShort 1 "/" := isShort_of_all (by decide) (by decide)
  show IsRooted ("/repos/" ++ pr.owner ++ "/" ++ pr.repo ++ rest)
  simp only [String.append_assoc]
  exact isRooted_append rfl (by decide) hfirst
    (hpr.owner.append (hslash.append (hpr.repo.append hrest))) (by decide)

omit h in
theorem isRooted_commentsUrl {pr : PullRequest} (hpr : IsNameable pr) {kind : String}
    (hkind : IsShort 8 kind) :
    IsRooted (Session.repoUrl pr ++ kind ++ toString pr.number ++ "/comments") := by
  have hlast : IsShort 9 "/comments" := isShort_of_all (by decide) (by decide)
  have hrest := (hkind.append (isShort_number hpr.number)).append hlast
  simp only [String.append_assoc] at hrest ⊢
  exact isRooted_repoUrl hpr ⟨hrest.1, Nat.le_trans hrest.2 (by decide)⟩

variable {pr : PullRequest} (hpr : IsNameable pr)
include hpr

theorem issueComments_ends :
    Ends (s.store.issueComments pr) s.IsReady (fun cs => ∀ c ∈ cs, IsListed c) Hosting :=
  listing_ends h (isRooted_commentsUrl hpr (isShort_of_all (by decide) (by decide)))

theorem reviewComments_ends :
    Ends (s.store.reviewComments pr) s.IsReady (fun cs => ∀ c ∈ cs, IsListed c) Hosting :=
  listing_ends h (isRooted_commentsUrl hpr (isShort_of_all (by decide) (by decide)))

theorem createIssueComment_ends (body : String) :
    Ends (s.store.createIssueComment pr body) s.IsReady (fun _ => True) Hosting :=
  submit_ends h .post (isRooted_commentsUrl hpr (isShort_of_all (by decide) (by decide)))
    (flaw?_body _ body)

/-- A line comment can be sent if the number of its line can be written. -/
theorem createReviewComment_ends (hhead : ∃ sha, pr.head = .str sha) (comment : LineComment)
    (hline : Numeral.isShort comment.line = true) :
    Ends (s.store.createReviewComment pr comment) s.IsReady (fun _ => True) Hosting := by
  obtain ⟨sha, hsha⟩ := hhead
  refine submit_ends h .post (isRooted_commentsUrl hpr (isShort_of_all (by decide) (by decide))) ?_
  simp [Json.flaw?, Json.flawInside?, hsha, hline]

theorem updateIssueComment_ends {n : Int} (hn : (toString n).toList.length ≤ 800) (body : String) :
    Ends (s.store.updateIssueComment pr (.int n) body) s.IsReady (fun _ => True) Hosting := by
  have hplace : IsShort 17 "/issues/comments/" := isShort_of_all (by decide) (by decide)
  have hrest := hplace.append (isShort_number hn)
  have hurl := isRooted_repoUrl hpr ⟨hrest.1, Nat.le_trans hrest.2 (by decide)⟩
  rw [← String.append_assoc] at hurl
  exact submit_ends h .patch hurl (flaw?_body _ body)

omit h hpr

/-- The first marked comment is found without fail. -/
theorem firstMarked_listed :
    ∀ cs : List Json, (∀ c ∈ cs, IsListed c) →
      ∃ found, firstMarked cs = .ok found ∧ ∀ c, found = some c → IsListed c := by
  intro cs
  induction cs with
  | nil => intro _; exact ⟨none, rfl, fun c hc => absurd hc (by simp)⟩
  | cons c cs ih =>
    intro hcs
    have hc := hcs c (List.mem_cons_self ..)
    obtain ⟨marked, hmarked, _⟩ := isMarked_eq hc.isObject hc.body
    unfold firstMarked
    rw [hmarked]
    cases marked with
    | true => exact ⟨some c, rfl, fun d hd => Option.some.inj hd ▸ hc⟩
    | false => exact ih fun d hd => hcs d (List.mem_cons_of_mem _ hd)

theorem isOwn_listed {c : Json} (hc : IsListed c) : ∃ b, isOwn c = .ok b := by
  obtain ⟨marked, hmarked, _⟩ := holdsMarker_eq hc.body
  obtain ⟨bot, hbot, _⟩ := isByBot_eq hc.user
  unfold isOwn
  rw [member_eq hc.isObject, member_eq hc.isObject]
  simp only [bind, Except.bind, hmarked]
  cases marked with
  | true => exact ⟨true, rfl⟩
  | false => exact ⟨bot, hbot⟩

theorem location?_listed {c : Json} (hc : IsListed c) : ∃ found, location? c = .ok found := by
  unfold location?
  rcases hc.path with hpath | ⟨path, hpath⟩
  · rw [hpath]
    exact ⟨none, rfl⟩
  · rw [hpath]
    dsimp only
    split
    · exact ⟨none, rfl⟩
    · split
      · exact ⟨none, rfl⟩
      · next hkind => exact absurd hkind (by simp)
      · next hkind => exact absurd hkind (by simp)
      · exact ⟨_, rfl⟩

/-- The places of the program's own comments are found without fail. -/
theorem ownLocations_listed :
    ∀ cs : List Json, (∀ c ∈ cs, IsListed c) → ∃ places, ownLocations cs = .ok places := by
  intro cs
  induction cs with
  | nil => intro _; exact ⟨[], rfl⟩
  | cons c cs ih =>
    intro hcs
    have hc := hcs c (List.mem_cons_self ..)
    obtain ⟨more, hmore⟩ := ih fun d hd => hcs d (List.mem_cons_of_mem _ hd)
    obtain ⟨own, hown⟩ := isOwn_listed hc
    obtain ⟨found, hfound⟩ := location?_listed hc
    unfold ownLocations
    rw [hown, hmore, hfound]
    cases own with
    | true => exact ⟨_, rfl⟩
    | false => exact ⟨_, rfl⟩

include h hpr

theorem upsertSummary_ends (body : String) :
    Ends (Reconcile.upsertSummary s.store body pr) s.IsReady (fun _ => True) Hosting := by
  unfold Reconcile.upsertSummary
  refine (issueComments_ends h hpr).bind fun cs hcs => ?_
  obtain ⟨found, hfound, hlisted⟩ := firstMarked_listed cs hcs
  refine Ends.bind_ok hfound ?_
  cases found with
  | none =>
    refine (ends_write _ _ _).bind fun _ _ => ?_
    exact (createIssueComment_ends h hpr body).bind fun _ _ => ends_pure trivial
  | some c =>
    obtain ⟨n, hid, hn⟩ := (hlisted c rfl).id
    dsimp only
    rw [Json.get?_of_getD hid (by simp)]
    refine (ends_write _ _ _).bind fun _ _ => ?_
    exact (updateIssueComment_ends h hpr hn body).bind fun _ _ => ends_pure trivial

theorem postLineComments_ends (hhead : ∃ sha, pr.head = .str sha) :
    ∀ (fs : List Finding) (seen : List Location) (report : ReconcileReport),
      (∀ f ∈ fs, f.isWritable = true) →
        Ends (Reconcile.postLineComments s.store pr fs seen report) s.IsReady (fun _ => True)
          Hosting := by
  intro fs
  induction fs with
  | nil => intro seen report _; exact ends_pure trivial
  | cons f fs ih =>
    intro seen report hlines
    obtain ⟨hline, hrest⟩ := List.forall_mem_cons.mp hlines
    unfold Reconcile.postLineComments
    cases hf : f.line with
    | none => exact ih seen report hrest
    | some line =>
      have hshort : Numeral.isShort line = true := by simpa [Finding.isWritable, hf] using hline
      dsimp only
      split
      · exact (ends_write _ _ _).bind fun _ _ => ih seen _ hrest
      · refine (createReviewComment_ends h hpr hhead (Reconcile.lineComment f line)
          hshort).attempt.bind fun answer hanswer => ?_
        split
        · exact (ends_write _ _ _).bind fun _ _ => ih _ _ hrest
        · exact (ends_write _ _ _).bind fun _ _ => ih seen _ hrest
        · exact ends_throw hanswer

/-- **Reconciling over a session fails with faults of talking to the code host alone**, if the
lines of blocking findings can be written. -/
theorem reconcile_ends (hhead : ∃ sha, pr.head = .str sha) (gap : Int) {result : ReviewResult}
    (hlines : ∀ f ∈ result.blocking, f.isWritable = true) :
    Ends (Reconcile.reconcile s.store gap result pr) s.IsReady (fun _ => True) Hosting := by
  unfold Reconcile.reconcile
  refine (upsertSummary_ends h hpr _).bind fun action _ => ?_
  dsimp only
  split
  · exact ends_pure trivial
  · refine (reviewComments_ends h hpr).bind fun cs hcs => ?_
    obtain ⟨places, hplaces⟩ := ownLocations_listed cs hcs
    exact Ends.bind_ok hplaces (postLineComments_ends h hpr hhead _ _ _ hlines)

end Session

/-! ## The verdict -/

/-- A run on named revisions of a repository, whose name and number can stand in an
address. -/
structure IsNamed (context : RunContext) : Prop where
  base : ∃ base, context.base = .str base
  head : ∃ head, context.head = .str head
  repository : ∃ name, context.repository = .str name ∧ '/' ∈ name.toList ∧ IsShort 2000 name
  number : (toString context.number).toList.length ≤ 800

theorem IsShort.sublist {n : Nat} {s : String} (h : IsShort n s) {cs : List Char}
    (hcs : cs.Sublist s.toList) : IsShort n (String.ofList cs) := by
  unfold IsShort
  rw [String.toList_ofList]
  exact ⟨fun c hc => h.1 c (hcs.subset hc), Nat.le_trans hcs.length_le h.2⟩

theorem pullRequest_nameable {context : RunContext} (h : IsNamed context) :
    ∃ pr, context.pullRequest = .ok pr ∧ IsNameable pr ∧ pr.head = context.head := by
  obtain ⟨name, hname, hslash, hshort⟩ := h.repository
  have hsplit : ∃ repo, PullRequest.splitName name.toList
      = some (name.toList.takeWhile (· ≠ '/'), repo) ∧ repo.Sublist name.toList := by
    unfold PullRequest.splitName
    cases hrest : name.toList.dropWhile (· ≠ '/') with
    | nil =>
      have hall := List.dropWhile_eq_nil_iff.mp hrest '/' hslash
      exact absurd hall (by decide)
    | cons c repo =>
      refine ⟨repo, rfl, ?_⟩
      have hsuffix : (name.toList.dropWhile (· ≠ '/')).Sublist name.toList :=
        (List.dropWhile_suffix _).sublist
      exact (List.sublist_cons_self c repo).trans (hrest ▸ hsuffix)
  obtain ⟨repo, hsplit, hrepo⟩ := hsplit
  refine ⟨⟨String.ofList (name.toList.takeWhile (· ≠ '/')), String.ofList repo, context.number,
    context.head⟩, ?_, ?_, rfl⟩
  · unfold RunContext.pullRequest
    rw [hname]
    unfold PullRequest.ofFullName
    dsimp only
    rw [hsplit]
  · exact ⟨hshort.sublist (List.takeWhile_prefix _).sublist, hshort.sublist hrepo, h.number⟩

/-- **The code host does not touch the verdict** as long as its answers can be read, the pull
request can be named in an address and the lines of what is found can be written: the review
gives an outcome, whatever the code host refuses and whenever it cannot be reached, and it is
the outcome that the review gives without publishing. -/
theorem review_outcome_dryRun {p : Pipeline σ} {s : Session σ} {front : List (List Char)}
    (hstore : p.store = some s.store) (hs : s.IsSound front) (hp : p.IsReliable s.IsReady)
    (hlines : p.FindsWritable s.IsReady) {context : RunContext} (hcontext : IsNamed context)
    (hdiff : p.HasDiff context s.IsReady) (w : World σ) (hw : s.IsReady w.outside) :
    ∃ outcome, ((p.review context).runOn w).1 = .ok outcome ∧
      ((p.dryRun.review context).runOn w).1 = .ok outcome := by
  obtain ⟨base, hbase⟩ := hcontext.base
  obtain ⟨head, hhead⟩ := hcontext.head
  obtain ⟨pr, hpr, hnameable, hsame⟩ := pullRequest_nameable hcontext
  have hnamed : ∃ sha, pr.head = .str sha := ⟨head, hsame.trans hhead⟩
  have hhosting : p.HostingOnly pr s.IsReady := by
    intro store hsome result hresult
    obtain rfl := Option.some.inj (hsome.symm.trans hstore)
    exact reconcile_ends hs hnameable hnamed p.groupGap hresult
  have hgives := (review_succeeds hp hlines hdiff hbase hhead hpr hhosting w hw).2
  have hsame := review_sameResult hp hdiff hpr hhosting w hw
  cases hrun : ((p.review context).runOn w).1 with
  | ok outcome => exact ⟨outcome, rfl, hsame.symm.trans hrun⟩
  | error fault =>
    rw [hrun] at hgives
    exact hgives.elim

/-! A code host that gives every request the same answer, and that can be waited for as
long as the wait has an end. Refused with a text for
ever, a review only loses its comments. A page in place of a listing ends it. -/

def publicBase : Base := ⟨{ scheme := "https", host := "api.github.com", path := "/" }⟩

theorem isSite_publicBase : publicBase.IsSite [] where
  scheme := by decide
  parts := by rfl
  place := by decide
  path := by decide
  front := fun _ hs => absurd hs List.not_mem_nil
  query := rfl
  short := by decide

def publicClient : Client where
  base := publicBase
  access := .token "token"

def sameAnswerSession (answer : HttpResponse) : Session ClientState where
  client := publicClient
  transport := {
    send := fun _ => return answer
    pause := rest
    now := return ⟨0⟩ }
  signs := fun _ => true
  state := .whole

def sameAnswerPipeline (answer : HttpResponse) : Pipeline ClientState where
  workspace := .absolute []
  scope := {}
  groupGap := 3
  analyzers := [
    ⟨"typecheck", fun _ => return [{
      tool := "typecheck", rule := "TS1", severity := .blocking, file := "a.ts", message := "no"
      line := some 4 }]⟩,
    ⟨"lint", fun _ => throw (.programMissing "eslint")⟩ ]
  store := some (sameAnswerSession answer).store
  shell := fun _ => return { code := 0, stdout := oneLineDiff, stderr := "" }
  clock := return .nan

def busyAnswer : HttpResponse where
  status := 503
  headers := [("Retry-After", "7")]
  content := "\x7b\"message\": \"busy\"\x7d".toUTF8

/-- A page instead of a value. -/
def pageAnswer : HttpResponse where
  status := 200
  content := "<html>maintenance</html>".toUTF8

def quietWorld : World ClientState where
  outside := {}
  tree := { root := .dir [], here := [] }
  journal := {}

theorem header?_busyAnswer : busyAnswer.header? "Retry-After" = some "7" := by decide +kernel

theorem decoded_busyAnswer : busyAnswer.decoded = .ok busyAnswer := by
  have hcodings : busyAnswer.codings.isEmpty = true := by decide +kernel
  exact decoded_of_plain (List.isEmpty_iff.mp hcodings)

theorem token_refused {how : Reading} {r : HttpResponse} (hstatus : 400 ≤ r.status)
    {detail : Json} (hdetail : r.detail how.depth = .ok detail) (url : String) :
    Allowed InstallationToken.IsUsable Hosting (tokenOfResponse how url r) := by
  unfold tokenOfResponse
  rw [if_pos hstatus, hdetail]
  exact hosting_api _

theorem items_busyAnswer {items : List Json}
    (h : busyAnswer.json publicClient.reading.depth = .ok (.arr items)) : items = [] := by
  have hempty : (busyAnswer.json publicClient.reading.depth).toOption.all (·.list.isEmpty)
      = true := by
    decide +kernel
  rw [h] at hempty
  exact List.isEmpty_iff.mp hempty

theorem legible_busyAnswer (request : HttpRequest) : Legible publicClient request busyAnswer where
  redirection := by
    intro fault h
    have hnone : busyAnswer.redirection? = none := by decide +kernel
    unfold redirectFault? at h
    rw [hnone] at h
    exact absurd h (by simp)
  delay := by
    intro wanted hwanted _
    obtain rfl := Option.some.inj (header?_busyAnswer.symm.trans hwanted)
    have hsome : (Double.ofDigits? "7".toList).any (·.isFinite) = true := by decide +kernel
    obtain ⟨x, hx, hfinite⟩ := (Option.any_eq_true _ _).mp hsome
    exact ⟨x, hx, hfinite⟩
  refusal := fun _ => ok_of_isSome (by decide +kernel)
  value := fun h => absurd h (by decide)
  comments := by
    intro _ items hitems comment hcomment
    rw [items_busyAnswer hitems] at hcomment
    exact absurd hcomment List.not_mem_nil
  lastPage := by
    intro _ _ items hitems
    rw [items_busyAnswer hitems]
    exact Nat.zero_lt_succ _
  token := by
    intro _ _ url
    obtain ⟨detail, hdetail⟩ : ∃ detail, busyAnswer.detail Json.usualDepth = .ok detail :=
      ok_of_isSome (by decide +kernel)
    exact token_refused (by decide) hdetail url

theorem isSound_busyAnswer : (sameAnswerSession busyAnswer).IsSound [] where
  site := isSite_publicBase
  state := fun _ _ => rfl
  waits := by
    intro tried htried
    have hall : ∀ tried < 3,
        (Session.backoffAfter publicClient tried).toOption.any (·.isFinite) = true := by
      decide +kernel
    exact ok_of_any (hall tried htried)
  pages := by decide
  token := by
    intro token h
    obtain rfl := Access.token.inj h
    decide
  app := fun credentials h => absurd h (by simp [sameAnswerSession, publicClient])
  send := fun request => ends_pure fun r hr =>
    Except.ok.inj (decoded_busyAnswer.symm.trans hr) ▸ legible_busyAnswer request
  pause := fun _ hfinite => by
    have hrest : (sameAnswerSession busyAnswer).transport.pause _ = pure () := rest_finite hfinite
    rw [hrest]
    exact ends_pure trivial
  now := by
    refine ends_pure fun credentials => ?_
    have hdates : ((⟨0⟩ : Instant).addSeconds (-60)).hasDate = true ∧
        ((⟨0⟩ : Instant).addSeconds 600).hasDate = true := by decide
    unfold claimsAt
    dsimp only
    rw [hdates.1, hdates.2]
    exact ⟨_, rfl⟩

theorem isReliable_sameAnswer (answer : HttpResponse) :
    (sameAnswerPipeline answer).IsReliable (sameAnswerSession answer).IsReady where
  clock := ends_pure trivial
  analyzers := by
    intro a ha changes
    rcases List.mem_cons.mp ha with rfl | ha
    · exact ends_pure trivial
    · rw [List.mem_singleton.mp ha]
      exact ends_throw rfl

theorem findsWritable_sameAnswer (answer : HttpResponse) :
    (sameAnswerPipeline answer).FindsWritable (sameAnswerSession answer).IsReady := by
  intro a ha changes
  rcases List.mem_cons.mp ha with rfl | ha
  · refine ends_pure fun f hf => ?_
    rw [List.mem_singleton.mp hf]
    decide +kernel
  · rw [List.mem_singleton.mp ha]
    exact ends_throw trivial

theorem review_outcome_dryRun_busyAnswer :
    (sameAnswerPipeline busyAnswer).store = some (sameAnswerSession busyAnswer).store ∧
      (sameAnswerSession busyAnswer).IsSound [] ∧
      (sameAnswerPipeline busyAnswer).IsReliable (sameAnswerSession busyAnswer).IsReady ∧
      (sameAnswerPipeline busyAnswer).FindsWritable (sameAnswerSession busyAnswer).IsReady ∧
      IsNamed oneLineContext ∧
      (sameAnswerPipeline busyAnswer).HasDiff oneLineContext (sameAnswerSession busyAnswer).IsReady ∧
      (sameAnswerSession busyAnswer).IsReady quietWorld.outside ∧
      ∃ outcome,
        (((sameAnswerPipeline busyAnswer).review oneLineContext).runOn quietWorld).1 = .ok outcome ∧
        (((sameAnswerPipeline busyAnswer).dryRun.review oneLineContext).runOn quietWorld).1
          = .ok outcome := by
  have hnamed : IsNamed oneLineContext :=
    ⟨⟨_, rfl⟩, ⟨_, rfl⟩, ⟨_, rfl, by decide, isShort_of_all (by decide) (by decide)⟩, by decide⟩
  have hread : ∃ changes, ChangeMap.ofDiff {} oneLineDiff = .ok changes :=
    ok_of_isSome (by decide +kernel)
  have hdiff : (sameAnswerPipeline busyAnswer).HasDiff oneLineContext
      (sameAnswerSession busyAnswer).IsReady := ends_pure ⟨rfl, hread⟩
  have hready : (sameAnswerSession busyAnswer).IsReady quietWorld.outside :=
    ⟨rfl, fun t ht => absurd ht (by simp [sameAnswerSession, quietWorld, Part.whole])⟩
  have hlines := findsWritable_sameAnswer busyAnswer
  exact ⟨rfl, isSound_busyAnswer, isReliable_sameAnswer busyAnswer, hlines, hnamed, hdiff, hready,
    review_outcome_dryRun rfl isSound_busyAnswer (isReliable_sameAnswer busyAnswer) hlines hnamed
      hdiff quietWorld hready⟩

/-- A page in place of a listing ends the review, which has a verdict without a store. -/
theorem review_pageAnswer :
    (sameAnswerPipeline pageAnswer).IsReliable (sameAnswerSession pageAnswer).IsReady ∧
      (((sameAnswerPipeline pageAnswer).review oneLineContext).runOn quietWorld).1.toOption
        = none ∧
      ((((sameAnswerPipeline pageAnswer).dryRun.review oneLineContext).runOn
        quietWorld).1.toOption.map (·.passed)) = some false :=
  ⟨isReliable_sameAnswer pageAnswer, by decide +kernel, by decide +kernel⟩

end PullReview.GitHub
