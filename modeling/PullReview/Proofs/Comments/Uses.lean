import PullReview.Proofs.World.Run
import PullReview.Rehearsal.Ledger

/-!
# Using the comment store in memory

A use of the ledger is refused and only noted, or it is noted and performed. All
that proofs about reconciling know of the store is here: what each of the two
gives, how the ledgers of a run follow one another (`Ledger.Follows`), and that
refusals may be over from some use on (`Refusals.OverFrom`).
-/

namespace PullReview.Rehearsal

open Act

/-! ## One use -/

/-- The store of a ledger that is all there is outside. -/
abbrev wholeStore : CommentStore Ledger := ledgerStore .whole

/-- A world with another ledger. -/
def withLedger (w : World Ledger) (l : Ledger) : World Ledger := { w with outside := l }

/-- A use as an action. -/
def storeUse (call : StoreCall) : Act Ledger Json := Part.whole.step fun l => l.use call

variable {w : World Ledger} {call : StoreCall}

theorem runOn_storeUse (call : StoreCall) (w : World Ledger) :
    (storeUse call).runOn w
      = ((w.outside.use call).1, withLedger w (w.outside.use call).2) := rfl

/-- A use that is written to the journal first and whose answer is not looked at. -/
theorem runOn_write_use {α : Type} (log : Logger) (level : Level) (message : String)
    (call : StoreCall) (a : α) (w : World Ledger) :
    ∃ v, v.outside = (w.outside.use call).2 ∧
      (log.write level message >>= fun _ => storeUse call >>= fun _ => pure a).runOn w
        = ((w.outside.use call).1.map fun _ => a, v) := by
  obtain ⟨v, hv, hrun⟩ := runOn_write_bind log level message
    (storeUse call >>= fun _ => (pure a : Act Ledger α)) w
  refine ⟨withLedger v (w.outside.use call).2, rfl, ?_⟩
  rw [hrun]
  have huse : (storeUse call).runOn v
      = ((w.outside.use call).1, withLedger v (w.outside.use call).2) := by
    rw [runOn_storeUse, hv]
  cases hanswer : (w.outside.use call).1 with
  | ok c => rw [hanswer] at huse; exact runOn_bind_ok huse
  | error fault => rw [hanswer] at huse; exact runOn_bind_error huse

theorem Ledger.use_refused {l : Ledger} {fault : Fault}
    (h : l.refusals.of l.calls.size call = some fault) :
    l.use call = (.error fault, l.noted call) := by
  unfold Ledger.use
  rw [h]

theorem Ledger.use_free {l : Ledger} (h : l.refusals.of l.calls.size call = none) :
    l.use call = (l.noted call).perform call := by
  unfold Ledger.use
  rw [h]

/-- A listing that is refused gives no comments. -/
theorem list_refused {fault : Fault}
    (h : w.outside.refusals.of w.outside.calls.size call = some fault) :
    (commentsIn <$> storeUse call).runOn w
      = (.error fault, withLedger w (w.outside.noted call)) := by
  have huse : (storeUse call).runOn w = (.error fault, withLedger w (w.outside.noted call)) := by
    rw [runOn_storeUse, Ledger.use_refused h]
  rw [map_eq_pure_bind]
  exact runOn_bind_error huse

/-- A listing that is performed gives the comments there are. -/
theorem list_performed {comments : List Json}
    (hfree : w.outside.refusals.of w.outside.calls.size call = none)
    (h : (w.outside.noted call).perform call = (.ok (.arr comments), w.outside.noted call)) :
    (commentsIn <$> storeUse call).runOn w
      = (.ok comments, withLedger w (w.outside.noted call)) := by
  have huse : (storeUse call).runOn w
      = (.ok (.arr comments), withLedger w (w.outside.noted call)) := by
    rw [runOn_storeUse, Ledger.use_free hfree, h]
  rw [map_eq_pure_bind, runOn_bind_ok huse]
  rfl

/-- From some use on nothing is refused any more. -/
def Refusals.OverFrom (r : Refusals) (n : Nat) : Prop := ∀ i call, n ≤ i → r.of i call = none

theorem Refusals.OverFrom.not_refused {r : Refusals} {n i : Nat} {call : StoreCall} {fault : Fault}
    (h : r.OverFrom n) (hi : n ≤ i) : r.of i call ≠ some fault := by
  rw [h i call hi]
  simp

/-! ## Use after use -/

namespace Ledger

/-- A later ledger of the same run: it holds all comments and notes of the
earlier one in their places, and is under the same refusals. -/
structure Follows (l l' : Ledger) : Prop where
  refusals : l'.refusals = l.refusals
  calls : l.calls.toList <+: l'.calls.toList

theorem Follows.refl (l : Ledger) : Follows l l := ⟨rfl, List.prefix_rfl⟩

theorem Follows.trans {l l' l'' : Ledger} (h : Follows l l') (h' : Follows l' l'') :
    Follows l l'' :=
  ⟨h'.refusals.trans h.refusals, h.calls.trans h'.calls⟩

theorem Follows.size_le {l l' : Ledger} (h : Follows l l') : l.calls.size ≤ l'.calls.size :=
  h.calls.length_le

theorem Follows.overFrom {l l' : Ledger} (h : Follows l l')
    (hover : l.refusals.OverFrom l.calls.size) : l'.refusals.OverFrom l'.calls.size := by
  intro i call hi
  rw [h.refusals]
  exact hover i call (Nat.le_trans h.size_le hi)

theorem follows_noted (l : Ledger) (call : StoreCall) : Follows l (l.noted call) := by
  refine ⟨rfl, ?_⟩
  unfold noted
  rw [Array.toList_push]
  exact List.prefix_append _ _

theorem follows_use (l : Ledger) (call : StoreCall) : l.Follows (l.use call).2 := by
  have hnoted := follows_noted l call
  unfold use
  split
  · exact hnoted
  · cases call with
    | listIssueComments | listReviewComments => exact hnoted
    | createIssueComment | createReviewComment => exact ⟨hnoted.refusals, hnoted.calls⟩
    | updateIssueComment id body =>
      unfold perform
      dsimp only
      split
      · exact ⟨hnoted.refusals, hnoted.calls⟩
      · exact hnoted

theorem calls_use (l : Ledger) (call : StoreCall) : (l.use call).2.calls = l.calls.push call := by
  unfold use
  split
  · rfl
  · cases call with
    | listIssueComments | listReviewComments | createIssueComment | createReviewComment => rfl
    | updateIssueComment id body =>
      unfold perform
      dsimp only
      split <;> rfl

/-- Only one kind of use touches the line comments. -/
theorem reviewComments_use {l : Ledger} {call : StoreCall}
    (h : ∀ c head, call ≠ .createReviewComment c head) :
    (l.use call).2.reviewComments = l.reviewComments := by
  unfold use
  split
  · rfl
  · cases call with
    | listIssueComments | listReviewComments | createIssueComment => rfl
    | updateIssueComment id body =>
      unfold perform
      dsimp only
      split <;> rfl
    | createReviewComment c head => exact absurd rfl (h c head)

/-- A use that makes no line comment follows the ledger and keeps those there are. -/
theorem keeps_storeUse {l₀ : Ledger} {call : StoreCall}
    (h : ∀ c head, call ≠ .createReviewComment c head) :
    Keeps (storeUse call) fun l => l₀.Follows l ∧ l.reviewComments = l₀.reviewComments := by
  rintro w ⟨hfollows, hkept⟩
  exact ⟨hfollows.trans (follows_use w.outside call), (reviewComments_use h).trans hkept⟩

/-- What is noted stays noted, at its place. -/
theorem Follows.getElem?_calls {l l' : Ledger} {call : StoreCall}
    (h : Follows (l.noted call) l') : l'.calls[l.calls.size]? = some call := by
  obtain ⟨more, hmore⟩ := h.calls
  have hnoted : (l.noted call).calls.toList = l.calls.toList ++ [call] := Array.toList_push
  rw [← Array.getElem?_toList, ← hmore, hnoted, List.append_assoc,
    List.getElem?_append_right (Nat.le_of_eq Array.length_toList), Array.length_toList,
    Nat.sub_self]
  rfl

end Ledger

end PullReview.Rehearsal
