import PullReview.Proofs.Review.ChangedLines
import PullReview.Proofs.World.Ends

/-!
# Publishing and the verdict

The verdict of a review is found before the comments are brought up to date, and is
given after it. Publishing can touch it in one way only: by failing, which ends the
review. So as long as reconciling fails with faults of talking to the code host alone,
a review gives what it gives without a store (`review_sameResult`), and when git and
the analyzers do their part, it gives an outcome (`review_succeeds`). It is a part of
theirs that the lines of what they find can be written (`Pipeline.FindsWritable`).
-/

namespace PullReview

open Act

variable {σ : Type} {I : σ → Prop}

/-- The review without a comment store. -/
def Pipeline.dryRun (p : Pipeline σ) : Pipeline σ := { p with store := none }

/-- What a pipeline relies on beside its store: the clock does not fail, and an
analyzer that fails gives no order to stop. -/
structure Pipeline.IsReliable (p : Pipeline σ) (I : σ → Prop) : Prop where
  clock : Succeeds p.clock I fun _ => True
  analyzers : ∀ a ∈ p.analyzers, ∀ changes,
    Ends (a.run changes) I (fun _ => True) fun fault => fault.isOrdinary = true

/-- The lines of what analyzers find can be written. -/
def Pipeline.FindsWritable (p : Pipeline σ) (I : σ → Prop) : Prop :=
  ∀ a ∈ p.analyzers, ∀ changes,
    Ends (a.run changes) I (fun found => ∀ f ∈ found, f.isWritable = true) fun _ => True

/-- Git answers with a diff that can be read. -/
def Pipeline.HasDiff (p : Pipeline σ) (context : RunContext) (I : σ → Prop) : Prop :=
  Succeeds (p.shell (p.diffCommand context)) I fun answer =>
    answer.succeeded = true ∧ ∃ changes, ChangeMap.ofDiff p.scope answer.stdout = .ok changes

/-- Reconciling a result that can be written fails with faults of talking to the code host
alone. -/
def Pipeline.HostingOnly (p : Pipeline σ) (pr : PullRequest) (I : σ → Prop) : Prop :=
  ∀ store, p.store = some store → ∀ result : ReviewResult,
    (∀ f ∈ result.blocking, f.isWritable = true) →
    Ends (Reconcile.reconcile store p.groupGap result pr) I (fun _ => True) fun fault =>
      fault.isHosting = true

section Gathering

variable {P : Finding → Prop}

/-- What an analyzer gave, each finding with a property, or an ordinary fault. -/
def IsOrdinary (P : Finding → Prop) (outcome : String × Except Fault (List Finding)) : Prop :=
  Allowed (fun found => ∀ f ∈ found, P f) (fun fault => fault.isOrdinary = true) outcome.2

theorem outcomes_succeeds (changes : ChangeMap) :
    ∀ analyzers : List (Analyzer σ),
      (∀ a ∈ analyzers, Ends (a.run changes) I (fun found => ∀ f ∈ found, P f) fun fault =>
        fault.isOrdinary = true) →
      Succeeds (Analyzer.outcomes changes analyzers) I fun outcomes =>
        ∀ o ∈ outcomes, IsOrdinary P o := by
  intro analyzers
  induction analyzers with
  | nil => intro _; exact ends_pure fun o ho => absurd ho List.not_mem_nil
  | cons a rest ih =>
    intro h
    unfold Analyzer.outcomes
    refine (h a (List.mem_cons_self ..)).attempt.bind fun outcome houtcome => ?_
    refine (ih fun b hb => h b (List.mem_cons_of_mem _ hb)).bind fun more hmore => ?_
    exact ends_pure (List.forall_mem_cons.mpr ⟨houtcome, hmore⟩)

theorem gather_succeeds :
    ∀ outcomes : List (String × Except Fault (List Finding)), (∀ o ∈ outcomes, IsOrdinary P o) →
      Succeeds (Analyzer.gather outcomes : Act σ (List Finding)) I fun found =>
        ∀ f ∈ found, P f := by
  intro outcomes
  induction outcomes with
  | nil => intro _; exact ends_pure fun f hf => absurd hf List.not_mem_nil
  | cons o rest ih =>
    intro h
    have hrest := ih fun q hq => h q (List.mem_cons_of_mem _ hq)
    obtain ⟨name, outcome⟩ := o
    cases outcome with
    | ok found =>
      have hfound : ∀ f ∈ found, P f := h _ (List.mem_cons_self ..)
      unfold Analyzer.gather
      exact hrest.bind fun more hmore => ends_pure fun f hf =>
        (List.mem_append.mp hf).elim (hfound f) (hmore f)
    | error fault =>
      have hordinary : fault.isOrdinary = true := h _ (List.mem_cons_self ..)
      unfold Analyzer.gather
      rw [hordinary]
      exact (ends_write _ _ _).bind fun _ _ => hrest

end Gathering

section Review

variable {p : Pipeline σ} {context : RunContext}

/-- Of reliable analyzers something is gathered. -/
theorem runAll_succeeds (h : p.IsReliable I) (changes : ChangeMap) :
    Succeeds (Analyzer.runAll p.analyzers changes) I fun _ => True := by
  have hany : ∀ a ∈ p.analyzers, Ends (a.run changes) I (fun found => ∀ f ∈ found, True)
      fun fault => fault.isOrdinary = true := fun a ha =>
    (h.analyzers a ha changes).mono (fun _ _ _ _ => trivial) fun _ he => he
  exact ((outcomes_succeeds changes p.analyzers hany).bind gather_succeeds).mono
    (fun _ _ => trivial) fun _ he => he

/-- And if their lines can be written, it is something that can be written. -/
theorem runAll_writable (h : p.IsReliable I) (hlines : p.FindsWritable I) (changes : ChangeMap) :
    Succeeds (Analyzer.runAll p.analyzers changes) I fun found =>
      ∀ f ∈ found, f.isWritable = true := by
  have hboth : ∀ a ∈ p.analyzers, Ends (a.run changes) I
      (fun found => ∀ f ∈ found, f.isWritable = true) fun fault => fault.isOrdinary = true :=
    fun a ha => ((h.analyzers a ha changes).and (hlines a ha changes)).mono
      (fun _ hfound => hfound.2) fun _ he => he.1
  exact (outcomes_succeeds changes p.analyzers hboth).bind gather_succeeds

/-- Faults of talking to the code host do not leave publishing. -/
theorem publish_succeeds (h : p.IsReliable I) {pr : PullRequest}
    (hpr : context.pullRequest = .ok pr) (hstore : p.HostingOnly pr I) {result : ReviewResult}
    (hresult : ∀ f ∈ result.blocking, f.isWritable = true) :
    Succeeds (p.publish result context) I fun _ => True := by
  unfold Pipeline.publish
  cases hp : p.store with
  | none => exact ends_write _ _ _
  | some store =>
    dsimp only
    rw [hpr]
    refine (Ends.timed h.clock fun _ => hstore store hp result hresult).attempt.bind fun r hr => ?_
    cases r with
    | ok report => exact ends_write _ _ _
    | error fault =>
      have hhosting : fault.isHosting = true := hr
      dsimp only
      rw [hhosting]
      exact ends_write _ _ _

/-- From publishing on, the review only gives its outcome. -/
theorem conclude_succeeds (h : p.IsReliable I) {pr : PullRequest}
    (hpr : context.pullRequest = .ok pr) (hstore : p.HostingOnly pr I) {result : ReviewResult}
    (hresult : ∀ f ∈ result.blocking, f.isWritable = true) :
    Succeeds (do
      p.publish result context
      if result.outcome.passed then
        Logger.success {} result.outcome.message [("repository", context.repository)]
      return result.outcome : Act σ Outcome) I (· = result.outcome) := by
  refine (publish_succeeds h hpr hstore hresult).bind fun _ _ => ?_
  split
  · exact (ends_write _ _ _).bind fun _ _ => ends_pure rfl
  · exact ends_pure rfl

theorem writable_blocking {findings : List Finding} {result : ReviewResult}
    (hmerge : ReviewResult.merge findings = .ok result) :
    ∀ f ∈ result.blocking, f.isWritable = true := by
  obtain ⟨hwritable, rfl⟩ := ReviewResult.merge_eq_ok_iff.mp hmerge
  exact fun f hf => hwritable f
    (ReviewResult.mem_of_mem_all (ReviewResult.mem_all_of_mem_blocking hf))

theorem reviewChanges_succeeds (h : p.IsReliable I) (hlines : p.FindsWritable I)
    {pr : PullRequest} (hpr : context.pullRequest = .ok pr) (hstore : p.HostingOnly pr I)
    (changes : ChangeMap) : Succeeds (p.reviewChanges context changes) I fun _ => True := by
  unfold Pipeline.reviewChanges
  refine (ends_write _ _ _).bind fun _ _ => ?_
  refine (Ends.timed h.clock fun _ => runAll_writable h hlines changes).bind
    fun findings hfindings => ?_
  have hmerge := ReviewResult.merge_writable hfindings
  refine Ends.bind_ok hmerge ((ends_write _ _ _).bind fun _ _ => ?_)
  exact (conclude_succeeds h hpr hstore (writable_blocking hmerge)).mono (fun _ _ => trivial)
    fun _ he => he

theorem reviewChanges_sameResult (h : p.IsReliable I) {pr : PullRequest}
    (hpr : context.pullRequest = .ok pr) (hstore : p.HostingOnly pr I) (changes : ChangeMap) :
    SameResult I (p.reviewChanges context changes) (p.dryRun.reviewChanges context changes) := by
  have hdry : p.dryRun.IsReliable I := ⟨h.clock, h.analyzers⟩
  have hnone : p.dryRun.HostingOnly pr I := fun store hp => absurd hp (by simp [Pipeline.dryRun])
  unfold Pipeline.reviewChanges
  refine SameResult.bind (keeps_write _ _ _) fun _ => ?_
  refine SameResult.bind (Ends.timed h.clock fun _ => runAll_succeeds h changes).keeps
    fun findings => ?_
  -- what cannot be written ends both reviews before anything is published
  cases hmerge : ReviewResult.merge findings with
  | error fault => exact SameResult.refl _
  | ok result =>
    have hresult := writable_blocking hmerge
    refine SameResult.bind_ok (SameResult.bind (keeps_write _ _ _) fun _ => ?_)
    exact SameResult.of_succeeds (conclude_succeeds h hpr hstore hresult)
      (conclude_succeeds hdry hpr hnone hresult)

theorem changeMap_succeeds (hdiff : p.HasDiff context I) :
    Succeeds (Git.changeMap p.shell (some p.workspace) p.scope context.base.display
      context.head.display) I fun _ => True := by
  have houtput : Succeeds (Git.output p.shell (some p.workspace) "diff"
      ["-U0", "--no-color", Git.range context.base.display context.head.display]) I
      fun text => ∃ changes, ChangeMap.ofDiff p.scope text = .ok changes := by
    unfold Git.output
    refine hdiff.attempt.bind fun r hr => ?_
    cases r with
    | error fault => exact hr.elim
    | ok answer =>
      obtain ⟨hsucceeded, hread⟩ := hr
      dsimp only
      rw [hsucceeded]
      exact ends_pure hread
  unfold Git.changeMap
  dsimp only
  refine (ends_write _ _ _).bind fun _ _ => houtput.bind fun text htext => ?_
  obtain ⟨changes, hchanges⟩ := htext
  rw [hchanges]
  exact (ends_write _ _ _).bind fun _ _ => ends_pure trivial

theorem abbreviated_succeeds {v : Json} {s : String} (hv : v = .str s) :
    Succeeds (liftM (Pipeline.abbreviated v) : Act σ String) I fun _ => True := by
  rw [hv]
  exact ends_liftM trivial

/-- A review gives an outcome. -/
theorem review_succeeds (h : p.IsReliable I) (hlines : p.FindsWritable I)
    (hdiff : p.HasDiff context I) {base head : String} (hbase : context.base = .str base)
    (hhead : context.head = .str head) {pr : PullRequest} (hpr : context.pullRequest = .ok pr)
    (hstore : p.HostingOnly pr I) :
    Succeeds (p.review context) I fun _ => True := by
  unfold Pipeline.review
  refine (abbreviated_succeeds hbase).bind fun _ _ => ?_
  refine (abbreviated_succeeds hhead).bind fun _ _ => ?_
  refine (ends_write _ _ _).bind fun _ _ => ?_
  refine (Ends.timed h.clock fun _ => changeMap_succeeds hdiff).bind fun changes _ => ?_
  split
  · exact (ends_write _ _ _).bind fun _ _ => ends_pure trivial
  · exact reviewChanges_succeeds h hlines hpr hstore changes

/-- A store does not touch the verdict. -/
theorem review_sameResult (h : p.IsReliable I) (hdiff : p.HasDiff context I) {pr : PullRequest}
    (hpr : context.pullRequest = .ok pr) (hstore : p.HostingOnly pr I) :
    SameResult I (p.review context) (p.dryRun.review context) := by
  unfold Pipeline.review
  refine SameResult.bind (keeps_liftM _) fun _ => SameResult.bind (keeps_liftM _) fun _ => ?_
  refine SameResult.bind (keeps_write _ _ _) fun _ => ?_
  refine SameResult.bind (Ends.timed h.clock fun _ => changeMap_succeeds hdiff).keeps
    fun changes => ?_
  split
  · exact SameResult.refl _
  · exact reviewChanges_sameResult h hpr hstore changes

end Review

end PullReview
