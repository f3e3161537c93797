import PullReview.Proofs.Comments.Summary
import PullReview.Proofs.World.Alike

/-!
# Reconciling over two stores

Reconciling uses a store through five calls and looks at nothing else of it. Two stores
that answer these calls alike, call by call, are reconciled alike: the reports are the
same, and what is left behind is related as the calls leave it (`reconcile_inStep`). A
line comment may be refused, as long as both stores refuse it; of comments on lines that
cannot be written nothing is asked.
-/

namespace PullReview

open Act Reconcile Comment Rehearsal

variable {σ τ : Type}

/-- Two faults that are refusals. -/
def BothRefused (e f : Fault) : Prop := (∃ cause, e = .api cause) ∧ ∃ cause, f = .api cause

/-- Two stores that answer alike. `Before` relates what they are kept in before the
summary is put, `Between` before the first line comment and `After` from then on; `cs`
are the comments on the whole at first, `rs` the line comments. -/
structure StoresInStep (Before Between After : σ → τ → Prop) (pr : PullRequest)
    (cs rs : List Json) (s : CommentStore σ) (t : CommentStore τ) : Prop where
  issueComments : InStep Before Before (fun a b => a = cs ∧ b = cs)
    (s.issueComments pr) (t.issueComments pr)
  createIssueComment : ∀ body, InStep Before Between (fun _ _ => True)
    (s.createIssueComment pr body) (t.createIssueComment pr body)
  updateIssueComment : ∀ c ∈ cs, ∀ id, c.getD "id" = .int id → ∀ body,
    InStep Before Between (fun _ _ => True)
      (s.updateIssueComment pr (.int id) body) (t.updateIssueComment pr (.int id) body)
  reviewComments : InStep Between Between (fun a b => a = rs ∧ b = rs)
    (s.reviewComments pr) (t.reviewComments pr)
  after_of_between : ∀ x y, Between x y → After x y
  createReviewComment : ∀ comment : LineComment, Numeral.isShort comment.line = true →
    Alike After After (fun _ _ => True) BothRefused
      (s.createReviewComment pr comment) (t.createReviewComment pr comment)

section InStep

variable {Before Between After : σ → τ → Prop} {pr : PullRequest} {cs rs : List Json}
  {s : CommentStore σ} {t : CommentStore τ} (h : StoresInStep Before Between After pr cs rs s t)
include h

theorem upsertSummary_inStep (hcs : ∀ c ∈ cs, IsIssue c) (body : String) :
    InStep Before Between (· = ·) (upsertSummary s body pr) (upsertSummary t body pr) := by
  unfold upsertSummary
  refine h.issueComments.bind fun a b hlisted => ?_
  rw [hlisted.1, hlisted.2]
  rcases firstMarked_eq cs hcs with ⟨hnone, _⟩ | ⟨before, c, after, hsplit, _, _, hfound⟩
  · refine alike_bind_ok hnone hnone ?_
    refine (inStep_write _ _ _ _ _ _).bind fun _ _ _ => ?_
    exact (h.createIssueComment body).bind fun _ _ _ => inStep_pure rfl
  · have hmem : c ∈ cs := by
      rw [hsplit]
      exact List.mem_append_right _ (List.mem_cons_self ..)
    obtain ⟨id, hid⟩ := (hcs c hmem).id
    refine alike_bind_ok hfound hfound ?_
    dsimp only
    rw [Json.get?_of_getD hid (by simp)]
    refine (inStep_write _ _ _ _ _ _).bind fun _ _ _ => ?_
    exact (h.updateIssueComment c hmem id hid body).bind fun _ _ _ => inStep_pure rfl

/-- Comment after comment the stores stay in step, also when one is refused. -/
theorem postLineComments_inStep :
    ∀ (fs : List Finding) (seen : List Location) (report : ReconcileReport),
      (∀ f ∈ fs, f.isWritable = true) → InStep After After (· = ·)
        (postLineComments s pr fs seen report) (postLineComments t pr fs seen report) := by
  intro fs
  induction fs with
  | nil => intro seen report _; exact inStep_pure rfl
  | cons f fs ih =>
    intro seen report hlines
    obtain ⟨hline, hrest⟩ := List.forall_mem_cons.mp hlines
    unfold postLineComments
    cases hf : f.line with
    | none => exact ih seen report hrest
    | some line =>
      have hshort : Numeral.isShort line = true := by simpa [Finding.isWritable, hf] using hline
      dsimp only
      split
      · exact (inStep_write _ _ _ _ _ _).bind fun _ _ _ => ih seen _ hrest
      · refine (h.createReviewComment (lineComment f line) hshort).attempt.bind
          fun x y hanswers => ?_
        cases x with
        | ok a =>
          cases y with
          | ok b => exact (inStep_write _ _ _ _ _ _).bind fun _ _ _ => ih _ _ hrest
          | error f => exact hanswers.elim
        | error e =>
          cases y with
          | ok b => exact hanswers.elim
          | error f =>
            obtain ⟨⟨cause, rfl⟩, ⟨cause', rfl⟩⟩ := hanswers
            exact (inStep_write _ _ _ _ _ _).bind fun _ _ _ => ih seen _ hrest

/-- **Stores that answer alike are reconciled alike.** -/
theorem reconcile_inStep (hcs : ∀ c ∈ cs, IsIssue c)
    (hrs : ∃ places, ownLocations rs = .ok places) (gap : Int) {result : ReviewResult}
    (hlines : ∀ f ∈ result.blocking, f.isWritable = true) :
    InStep Before After (· = ·) (reconcile s gap result pr) (reconcile t gap result pr) := by
  obtain ⟨places, hplaces⟩ := hrs
  unfold reconcile
  refine (upsertSummary_inStep h hcs _).bind ?_
  rintro action _ rfl
  dsimp only
  split
  · exact (inStep_pure rfl).mono h.after_of_between fun _ _ h => h
  · refine h.reviewComments.bind fun a b hlisted => ?_
    rw [hlisted.1, hlisted.2]
    have hpost := postLineComments_inStep h result.blocking places { summary := action } hlines
    refine alike_bind_ok hplaces hplaces fun w v hw => ?_
    exact hpost w v (h.after_of_between _ _ hw)

end InStep

end PullReview
