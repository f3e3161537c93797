import PullReview.Comments.Reconcile
import PullReview.Proofs.World.Hindsight
import PullReview.Rehearsal.Ledger

/-!
# A store that answers by a script

The scripted store notes every use and answers it by a script, which may be any function
of the uses so far: comments to list, values, faults of any kind. A store may go by the text
of a summary, such as one that takes short summaries and refuses long ones. So two results
with the same blocking findings, whose summaries differ in the warnings at most, may be
answered differently. As long as they are not (`AnswersAlike`), the same line comments are
asked for (`reconcile_endsAlike`).
-/

namespace PullReview

open Act

variable {σ : Type}

/-- A part of the outside holds what was put there. -/
def Part.IsLawful {τ : Type} (part : Part σ τ) : Prop := ∀ s t, part.get (part.set s t) = t

namespace Rehearsal

/-- A use without the text of a summary. -/
def StoreCall.outline : StoreCall → StoreCall
  | .createIssueComment _ => .createIssueComment ""
  | .updateIssueComment id _ => .updateIssueComment id ""
  | call => call

/-- The line comment that a use asks for. -/
def StoreCall.lineComment? : StoreCall → Option LineComment
  | .createReviewComment comment _ => some comment
  | _ => none

/-- The line comments that uses ask for, in order. -/
def lineComments (calls : List StoreCall) : List LineComment :=
  calls.filterMap StoreCall.lineComment?

/-- An outline shows the line comments. -/
theorem lineComments_outline (calls : List StoreCall) :
    lineComments (calls.map StoreCall.outline) = lineComments calls := by
  have hcall : ∀ call : StoreCall, call.outline.lineComment? = call.lineComment? := by
    intro call
    cases call with
    | listIssueComments | createIssueComment | updateIssueComment | listReviewComments
    | createReviewComment => rfl
  unfold lineComments
  rw [List.filterMap_map]
  exact congrArg (List.filterMap · calls) (funext hcall)

/-- What a store answers to the last of some uses. -/
abbrev StoreScript := List StoreCall → Except Fault Json

/-- In two rows of uses the answers were the same as long as the uses were, texts of
summaries apart. -/
def AnswersAlike (script : StoreScript) (calls calls' : List StoreCall) : Prop :=
  ∀ front front', front <+: calls → front' <+: calls' →
    front.map StoreCall.outline = front'.map StoreCall.outline → script front = script front'

section Scripted

variable (part : Part σ (List StoreCall)) (script : StoreScript)

/-- A use is noted and answered by the script. -/
def scriptedUse (call : StoreCall) : Act σ Json :=
  part.step fun calls => (script (calls ++ [call]), calls ++ [call])

def scriptedStore : CommentStore σ where
  issueComments := fun _ => commentsIn <$> scriptedUse part script .listIssueComments
  createIssueComment := fun _ body => scriptedUse part script (.createIssueComment body)
  updateIssueComment := fun _ id body => scriptedUse part script (.updateIssueComment id body)
  reviewComments := fun _ => commentsIn <$> scriptedUse part script .listReviewComments
  createReviewComment := fun pr c => scriptedUse part script (.createReviewComment c pr.head)

/-- The uses noted in two outsides are the same in outline. -/
def SameOutline (s t : σ) : Prop :=
  (part.get s).map StoreCall.outline = (part.get t).map StoreCall.outline

/-- More uses were noted. -/
def MoreUses (s t : σ) : Prop := part.get s <+: part.get t

/-- The uses noted in two outsides were answered alike. -/
def AnsweredAlike (s t : σ) : Prop := AnswersAlike script (part.get s) (part.get t)

end Scripted

variable {part : Part σ (List StoreCall)} {script : StoreScript}

theorem SameOutline.refl (s : σ) : SameOutline part s s := rfl

theorem SameOutline.lineComments {s t : σ} (h : SameOutline part s t) :
    lineComments (part.get s) = lineComments (part.get t) := by
  rw [← lineComments_outline, h, lineComments_outline]

/-- What was answered alike to all uses was so to those in front. -/
theorem heldBefore_answeredAlike :
    HeldBefore (MoreUses part) (AnsweredAlike part script) where
  refl := fun _ => List.prefix_refl _
  held := fun _ _ _ _ hs ht h front front' hfront hfront' =>
    h front front' (hfront.trans hs) (hfront'.trans ht)

/-- Once their uses are the same in outline the actions end alike, if they are answered alike. -/
abbrev EndsAlike {α β : Type} (part : Part σ (List StoreCall)) (script : StoreScript)
    (V : α → β → Prop) (x : Act σ α) (y : Act σ β) : Prop :=
  Hindsight (MoreUses part) (AnsweredAlike part script) (SameOutline part) V x y

/-- Actions that end alike and give the same value may come before. -/
theorem EndsAlike.bind {α γ δ : Type} {x y : Act σ α} (h : EndsAlike part script (· = ·) x y)
    {W : γ → δ → Prop} {f : α → Act σ γ} {g : α → Act σ δ}
    (hnext : ∀ a, EndsAlike part script W (f a) (g a)) :
    EndsAlike part script W (x >>= f) (y >>= g) := by
  refine Hindsight.bind heldBefore_answeredAlike (fun _ => rfl) h ?_
  rintro a _ rfl
  exact hnext a

section EndsAlike

variable (hpart : part.IsLawful)
include hpart

theorem scriptedUse_moves (call : StoreCall) :
    Moves (MoreUses part) (scriptedUse part script call) := by
  intro s w hw
  show part.get s <+: part.get (part.set w.outside _)
  rw [hpart]
  exact hw.trans (List.prefix_append _ _)

/-- Uses that are the same in outline get the same answer. -/
theorem scriptedUse_endsAlike {call call' : StoreCall} (h : call.outline = call'.outline) :
    EndsAlike part script (· = ·) (scriptedUse part script call)
      (scriptedUse part script call') where
  moves := scriptedUse_moves hpart call
  moves' := scriptedUse_moves hpart call'
  ends := by
    intro w v hw hend
    have hcalls : (part.get w.outside ++ [call]).map StoreCall.outline
        = (part.get v.outside ++ [call']).map StoreCall.outline := by
      rw [List.map_append, List.map_append, hw, List.map_singleton, List.map_singleton, h]
    have halike : AnswersAlike script
        (part.get (part.set w.outside (part.get w.outside ++ [call])))
        (part.get (part.set v.outside (part.get v.outside ++ [call']))) := hend
    rw [hpart, hpart] at halike
    constructor
    · show SameOutline part (part.set w.outside _) (part.set v.outside _)
      unfold SameOutline
      rw [hpart, hpart, hcalls]
    · show Agree _ _ (script _) (script _)
      rw [halike _ _ (List.prefix_refl _) (List.prefix_refl _) hcalls]
      exact .refl _

theorem listed_endsAlike (call : StoreCall) :
    EndsAlike part script (· = ·) (commentsIn <$> scriptedUse part script call)
      (commentsIn <$> scriptedUse part script call) := by
  rw [map_eq_pure_bind]
  exact EndsAlike.bind (scriptedUse_endsAlike hpart rfl) fun a => hindsight_pure rfl

theorem upsertSummary_endsAlike (body body' : String) (pr : PullRequest) :
    EndsAlike part script (· = ·)
      (Reconcile.upsertSummary (scriptedStore part script) body pr)
      (Reconcile.upsertSummary (scriptedStore part script) body' pr) := by
  unfold Reconcile.upsertSummary
  refine EndsAlike.bind (listed_endsAlike hpart _) fun comments => ?_
  refine EndsAlike.bind (hindsight_liftM _) fun found => ?_
  cases found with
  | none =>
    have hcreate : EndsAlike part script (· = ·)
        ((scriptedStore part script).createIssueComment pr body)
        ((scriptedStore part script).createIssueComment pr body') :=
      scriptedUse_endsAlike hpart rfl
    refine EndsAlike.bind (hindsight_write _ _ _ _ _ _) fun _ => ?_
    exact EndsAlike.bind hcreate fun _ => hindsight_pure rfl
  | some comment =>
    dsimp only
    cases comment.get? "id" with
    | none => exact hindsight_throw _
    | some id =>
      have hupdate : EndsAlike part script (· = ·)
          ((scriptedStore part script).updateIssueComment pr id body)
          ((scriptedStore part script).updateIssueComment pr id body') :=
        scriptedUse_endsAlike hpart rfl
      refine EndsAlike.bind (hindsight_write _ _ _ _ _ _) fun _ => ?_
      exact EndsAlike.bind hupdate fun _ => hindsight_pure rfl

theorem postLineComments_endsAlike (pr : PullRequest) :
    ∀ (fs : List Finding) (seen : List Comment.Location) (report : ReconcileReport),
      EndsAlike part script (· = ·)
        (Reconcile.postLineComments (scriptedStore part script) pr fs seen report)
        (Reconcile.postLineComments (scriptedStore part script) pr fs seen report) := by
  intro fs
  induction fs with
  | nil => intro seen report; exact hindsight_pure rfl
  | cons f fs ih =>
    intro seen report
    unfold Reconcile.postLineComments
    cases f.line with
    | none => exact ih seen report
    | some line =>
      dsimp only
      split
      · exact EndsAlike.bind (hindsight_write _ _ _ _ _ _) fun _ => ih seen _
      · refine EndsAlike.bind (scriptedUse_endsAlike hpart rfl).attempt fun answer => ?_
        split
        · exact EndsAlike.bind (hindsight_write _ _ _ _ _ _) fun _ => ih _ _
        · exact EndsAlike.bind (hindsight_write _ _ _ _ _ _) fun _ => ih seen _
        · exact hindsight_throw _

/-- **Warnings do not show in the line comments** of a store that does not look at them:
answered alike, results with the same blocking findings are reconciled alike. -/
theorem reconcile_endsAlike (gap : Int) {result result' : ReviewResult}
    (h : result.blocking = result'.blocking) (pr : PullRequest) :
    EndsAlike part script (· = ·)
      (Reconcile.reconcile (scriptedStore part script) gap result pr)
      (Reconcile.reconcile (scriptedStore part script) gap result' pr) := by
  unfold Reconcile.reconcile
  refine EndsAlike.bind (upsertSummary_endsAlike hpart _ _ pr) fun action => ?_
  rw [h]
  dsimp only
  split
  · exact hindsight_pure rfl
  · refine EndsAlike.bind (listed_endsAlike hpart _) fun comments => ?_
    exact EndsAlike.bind (hindsight_liftM _) fun seen =>
      postLineComments_endsAlike hpart pr result'.blocking seen _

end EndsAlike

end Rehearsal

end PullReview
