import PullReview.Proofs.Changes.Reading
import PullReview.Proofs.Report.Aggregate
import PullReview.Proofs.Review.Analyzers

/-!
# A review speaks of changed lines only

A review with the usual analyzers asks git for a diff. Whatever that diff is and
whatever else the surroundings do, every finding of the result and every line
comment that the review asks the store for lies on a line that the diff adds to
a file in scope.

That a comment is never asked for is said with `CommentStore.divert`: the store,
except that some comments are handed to something else, which may do anything to
the world. A review that cannot tell the two stores apart asks for none of those
comments.

Main statement: `review_onDiff`.
-/

namespace PullReview

open Act

/-- A line of a file in scope that a diff adds. -/
def OnDiff (scope : Scope) (diff : String) (path : String) (line : Int) : Prop :=
  scope.admits path = true ∧
    ∃ m lines, ChangeMap.ofDiff scope diff = .ok m ∧ m.lines? path = some lines ∧ line ∈ lines

/-- `OnDiff`, computed. -/
def onDiff (scope : Scope) (diff : String) (path : String) (line : Int) : Bool :=
  scope.admits path && (ChangeMap.ofDiff scope diff).toOption.any fun m => m.touches path line

theorem onDiff_iff {scope : Scope} {diff path : String} {line : Int} :
    onDiff scope diff path line = true ↔ OnDiff scope diff path line := by
  unfold onDiff OnDiff
  rw [Bool.and_eq_true, Option.any_eq_true]
  refine and_congr_right fun _ => ⟨?_, ?_⟩
  · rintro ⟨m, hm, htouched⟩
    obtain ⟨lines, hlines, hin⟩ := ChangeMap.touches_iff.mp htouched
    refine ⟨m, lines, ?_, hlines, hin⟩
    cases hdiff : ChangeMap.ofDiff scope diff with
    | ok m' => rw [hdiff] at hm; exact congrArg Except.ok (Option.some.inj hm)
    | error e => rw [hdiff] at hm; exact absurd hm (by simp [Except.toOption])
  · rintro ⟨m, lines, hm, hlines, hin⟩
    refine ⟨m, ?_, ChangeMap.touches_iff.mpr ⟨lines, hlines, hin⟩⟩
    rw [hm]
    rfl

/-- A touched line of the map of a diff is a line of a file in scope. -/
theorem onDiff_of_touches {scope : Scope} {diff : String} {m : ChangeMap}
    (hm : ChangeMap.ofDiff scope diff = .ok m) {path : String} {line : Int}
    (h : m.touches path line = true) : OnDiff scope diff path line := by
  obtain ⟨lines, hlines, hin⟩ := ChangeMap.touches_iff.mp h
  exact ⟨ofDiff_admits hm path (ChangeMap.mem_paths_of_touches h), m, lines, hm, hlines, hin⟩

variable {σ : Type}

/-- The store, except that comments not to be kept are handed to `other`. -/
def CommentStore.divert (store : CommentStore σ) (keep : LineComment → Bool)
    (other : PullRequest → LineComment → Act σ Json) : CommentStore σ :=
  { store with
    createReviewComment := fun pr c =>
      if keep c then store.createReviewComment pr c else other pr c }

/-- What a review asks git for. -/
def Pipeline.diffCommand (p : Pipeline σ) (context : RunContext) : Command where
  argv := ["git", "diff", "-U0", "--no-color",
    Git.range context.base.display context.head.display]
  directory := some p.workspace

/-! ## The diff -/

theorem output_returns {shell : Shell σ} {directory : Option Path} {subcommand : String}
    {args : List String} {diff : String}
    (h : Returns (shell { argv := "git" :: subcommand :: args, directory := directory })
      fun answer => answer.stdout = diff) :
    Returns (Git.output shell directory subcommand args) fun text => text = diff := by
  unfold Git.output
  dsimp only
  refine Returns.bind h.attempt fun answer hanswer => ?_
  split
  · exact returns_throw _
  · exact returns_throw _
  · next result =>
    split
    · exact returns_pure (hanswer result rfl)
    · exact returns_bind fun _ => returns_bind fun _ => returns_throw _

/-- The change map of a review is that of the diff which git printed. -/
theorem changeMap_returns {p : Pipeline σ} {context : RunContext} {diff : String}
    (h : Returns (p.shell (p.diffCommand context)) fun answer => answer.stdout = diff) :
    Returns (Git.changeMap p.shell (some p.workspace) p.scope context.base.display
      context.head.display) fun m => ChangeMap.ofDiff p.scope diff = .ok m := by
  unfold Git.changeMap
  dsimp only
  refine returns_bind fun _ => Returns.bind (output_returns h) ?_
  rintro text rfl
  split
  · next m hm => exact returns_bind fun _ => returns_pure hm
  · exact returns_throw _
  · exact returns_throw _

/-! ## The comments -/

/-- Posting the comments of findings that are kept does not show the diversion. -/
theorem postLineComments_divert (store : CommentStore σ) {keep : LineComment → Bool}
    (other : PullRequest → LineComment → Act σ Json) (pr : PullRequest) :
    ∀ (fs : List Finding) (seen : List Comment.Location) (report : ReconcileReport),
      (∀ f ∈ fs, ∀ line, f.line = some line → keep (Reconcile.lineComment f line) = true) →
      Reconcile.postLineComments (store.divert keep other) pr fs seen report
        = Reconcile.postLineComments store pr fs seen report := by
  intro fs
  induction fs with
  | nil => intro seen report _; rfl
  | cons f fs ih =>
    intro seen report h
    have hrest := fun seen report => ih seen report fun g hg => h g (List.mem_cons_of_mem _ hg)
    unfold Reconcile.postLineComments
    cases hline : f.line with
    | none => exact hrest seen report
    | some line =>
      have hkeep := h f (List.mem_cons_self ..) line hline
      have hcreate : (store.divert keep other).createReviewComment pr (Reconcile.lineComment f line)
          = store.createReviewComment pr (Reconcile.lineComment f line) := by
        simp only [CommentStore.divert, hkeep, if_true]
      simp only [hcreate, hrest]

theorem reconcile_divert (store : CommentStore σ) {keep : LineComment → Bool}
    (other : PullRequest → LineComment → Act σ Json) (gap : Int) {result : ReviewResult}
    (pr : PullRequest)
    (h : ∀ f ∈ result.blocking, ∀ line, f.line = some line →
      keep (Reconcile.lineComment f line) = true) :
    Reconcile.reconcile (store.divert keep other) gap result pr
      = Reconcile.reconcile store gap result pr := by
  have hpost := fun seen report =>
    postLineComments_divert store other pr result.blocking seen report h
  have hsummary : Reconcile.upsertSummary (store.divert keep other)
      = Reconcile.upsertSummary store := rfl
  unfold Reconcile.reconcile
  simp only [hsummary, hpost]
  rfl

/-- The review with another store. -/
def Pipeline.withStore (p : Pipeline σ) (store : CommentStore σ) : Pipeline σ :=
  { p with store := some store }

/-- Publishing a result with findings that are kept does not show the diversion. -/
theorem publish_divert {p : Pipeline σ} {store : CommentStore σ} (hstore : p.store = some store)
    {keep : LineComment → Bool} (other : PullRequest → LineComment → Act σ Json)
    {result : ReviewResult} (context : RunContext)
    (h : ∀ f ∈ result.blocking, ∀ line, f.line = some line →
      keep (Reconcile.lineComment f line) = true) :
    (p.withStore (store.divert keep other)).publish result context = p.publish result context := by
  have hreconcile : ∀ pr, Reconcile.reconcile (store.divert keep other) p.groupGap result pr
      = Reconcile.reconcile store p.groupGap result pr :=
    fun pr => reconcile_divert store other p.groupGap pr h
  unfold Pipeline.publish
  simp only [Pipeline.withStore, hstore, hreconcile]

theorem reviewChanges_divert {p : Pipeline σ} {store : CommentStore σ}
    (hstore : p.store = some store) {keep : LineComment → Bool}
    (other : PullRequest → LineComment → Act σ Json) (context : RunContext) {changes : ChangeMap}
    (hanalyzers : ∀ a ∈ p.analyzers, Returns (a.run changes) (AllOnChange changes))
    (hkeep : ∀ path line, changes.touches path line = true →
      ∀ c : LineComment, c.path = path → c.line = line → keep c = true) :
    (p.withStore (store.divert keep other)).reviewChanges context changes
      = p.reviewChanges context changes := by
  unfold Pipeline.reviewChanges
  refine bind_congr fun _ => ?_
  refine Returns.bind_congr (Returns.timed fun _ => runAll_onChange hanalyzers)
    fun findings hfindings => ?_
  refine Returns.bind_congr (returns_liftM fun _ => ReviewResult.merge_eq_ok_iff.mp)
    fun result hresult => bind_congr fun _ => ?_
  obtain ⟨-, rfl⟩ := hresult
  -- a comment is asked for where a finding lies, and the findings lie on changed lines
  have hblocking : ∀ f ∈ (ReviewResult.ofFindings findings).blocking, ∀ line,
      f.line = some line → keep (Reconcile.lineComment f line) = true := by
    intro f hf line hline
    have hmem := ReviewResult.mem_of_mem_all (ReviewResult.mem_all_of_mem_blocking hf)
    obtain ⟨n, hn, htouched⟩ := hfindings f hmem
    obtain rfl := Option.some.inj (hn.symm.trans hline)
    exact hkeep f.file n htouched _ rfl rfl
  rw [publish_divert hstore other context hblocking]

/-! ## The findings -/

theorem reviewChanges_onChange {p : Pipeline σ} (context : RunContext) {changes : ChangeMap}
    (hanalyzers : ∀ a ∈ p.analyzers, Returns (a.run changes) (AllOnChange changes)) :
    Returns (p.reviewChanges context changes) fun outcome =>
      AllOnChange changes outcome.result.all := by
  unfold Pipeline.reviewChanges
  refine returns_bind fun _ => ?_
  refine Returns.bind (Returns.timed fun _ => runAll_onChange hanalyzers)
    fun findings hfindings => ?_
  refine Returns.bind (returns_liftM fun _ => ReviewResult.merge_eq_ok_iff.mp)
    fun result hresult => ?_
  obtain ⟨-, rfl⟩ := hresult
  have hall : AllOnChange changes (ReviewResult.ofFindings findings).outcome.result.all := by
    intro f hf
    rw [ReviewResult.outcome_result] at hf
    exact hfindings f (ReviewResult.mem_of_mem_all hf)
  refine returns_bind fun _ => returns_bind fun _ => ?_
  dsimp only
  split
  · exact returns_bind fun _ => returns_pure hall
  · exact returns_pure hall

/-! ## Both -/

/-- **A review speaks of changed lines only.** Let git answer with some diff
whenever it answers, and let everything else in the surroundings be as it may:
what a review with the usual analyzers finds lies on lines that the diff adds in
scope, and the store is asked for comments on such lines alone. -/
theorem review_onDiff (p : Pipeline σ) (context : RunContext) (diff : String)
    (settings : Settings) (place : List String) (depth : Nat) (tools : Shell σ)
    (tag : Act σ String) (husual : p.analyzers = Analyzer.usual settings place depth tools tag)
    (hgit : Returns (p.shell (p.diffCommand context)) fun answer => answer.stdout = diff) :
    (∀ w outcome w', (p.review context).runOn w = (.ok outcome, w') →
      ∀ f ∈ outcome.result.all, ∃ n, f.line = some n ∧ OnDiff p.scope diff f.file n) ∧
    ∀ store, p.store = some store → ∀ other,
      (p.withStore (store.divert (fun c => onDiff p.scope diff c.path c.line) other)).review
        context = p.review context := by
  have hanalyzers : ∀ changes, ∀ a ∈ p.analyzers,
      Returns (a.run changes) (AllOnChange changes) := by
    intro changes
    rw [husual]
    exact usual_onChange tools changes settings place depth tag
  have hmap : Returns _ fun m => ChangeMap.ofDiff p.scope diff = .ok m := changeMap_returns hgit
  constructor
  · have hreturns : Returns (p.review context) fun outcome =>
        ∀ f ∈ outcome.result.all, ∃ n, f.line = some n ∧ OnDiff p.scope diff f.file n := by
      unfold Pipeline.review
      refine returns_bind fun base => returns_bind fun head => returns_bind fun _ => ?_
      refine Returns.bind (Returns.timed fun _ => hmap) fun changes hchanges => ?_
      split
      · -- a change without files to review is reported on with no findings
        refine returns_bind fun _ => returns_pure fun f hf => ?_
        rw [ReviewResult.outcome_result] at hf
        exact absurd (ReviewResult.mem_of_mem_all hf) List.not_mem_nil
      · intro w outcome w' hrun f hf
        obtain ⟨n, hn, htouched⟩ :=
          reviewChanges_onChange context (hanalyzers changes) w outcome w' hrun f hf
        exact ⟨n, hn, onDiff_of_touches hchanges htouched⟩
    exact hreturns
  · intro store hstore other
    unfold Pipeline.review
    refine bind_congr fun base => bind_congr fun head => bind_congr fun _ => ?_
    refine Returns.bind_congr (Returns.timed fun _ => hmap) fun changes hchanges => ?_
    split
    · rfl
    · refine reviewChanges_divert hstore other context (hanalyzers changes) ?_
      intro path line htouched c hpath hline
      rw [onDiff_iff, hpath, hline]
      exact onDiff_of_touches hchanges htouched

/-! A change that adds one line, and a compiler that complains about that line
and about another one. -/

def oneLineDiff : String :=
  "diff --git a/a.ts b/a.ts\n--- a/a.ts\n+++ b/a.ts\n@@ -3,0 +4 @@\n+let x\n"

def oneLineShell : Shell Unit := fun c =>
  if c.argv.head? = some "git" then return { code := 0, stdout := oneLineDiff, stderr := "" }
  else if c.argv.contains "--listFilesOnly" then
    return { code := 0, stdout := "a.ts\n", stderr := "" }
  else if c.argv.contains "--noEmit" then
    return {
      code := 2
      stdout := "a.ts(4,5): error TS1: no\na.ts(9,5): error TS1: no\n"
      stderr := "" }
  else throw (.programMissing "eslint")

def oneLineSettings : Settings where
  baseUrl := "https://api.github.com"
  token := none
  appId := none
  privateKey := none
  installationId := none
  repository := none
  eventPath := none
  workspace := .absolute []
  scope := {}
  groupGap := 3
  maxRetries := 0
  backoff := .nan
  typeCheckCommand := ["tsc"]
  lintCommand := ["eslint"]
  postComments := true

def oneLinePipeline : Pipeline Unit where
  workspace := .absolute []
  scope := {}
  groupGap := 3
  analyzers := Analyzer.usual oneLineSettings [] Json.usualDepth oneLineShell (return "tag")
  store := some {
    issueComments := fun _ => return []
    createIssueComment := fun _ _ => return .null
    updateIssueComment := fun _ _ _ => return .null
    reviewComments := fun _ => return []
    createReviewComment := fun _ _ => return .null }
  shell := oneLineShell
  clock := return .nan

def oneLineContext : RunContext where
  repository := .str "owner/repo"
  base := .str "main"
  head := .str "topic"
  number := 1

theorem review_onDiff_oneLine :
    onDiff {} oneLineDiff "a.ts" 4 = true ∧ onDiff {} oneLineDiff "a.ts" 9 = false ∧
      (∀ w outcome w', (oneLinePipeline.review oneLineContext).runOn w = (.ok outcome, w') →
        ∀ f ∈ outcome.result.all, ∃ n, f.line = some n ∧ OnDiff {} oneLineDiff f.file n) ∧
      ∀ store, oneLinePipeline.store = some store → ∀ other,
        (oneLinePipeline.withStore
            (store.divert (fun c => onDiff {} oneLineDiff c.path c.line) other)).review
          oneLineContext = oneLinePipeline.review oneLineContext :=
  ⟨by decide +kernel, by decide +kernel,
    review_onDiff oneLinePipeline oneLineContext oneLineDiff oneLineSettings [] Json.usualDepth
      oneLineShell (return "tag") rfl (returns_pure rfl)⟩

end PullReview
