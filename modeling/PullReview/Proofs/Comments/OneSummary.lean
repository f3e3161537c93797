import PullReview.Proofs.Comments.History
import PullReview.Proofs.Comments.Summary

/-!
# One summary comment, over whole histories

However often `reconcile` runs, with whatever results and refusals, the comments
on the whole of a pull request stay as they are but for one: the first comment
with the marker is given another body, or, where there was none, one is put
behind all others (`Tended`). What becomes of the line comments in between, and
of which shape they are, does not matter here.

Main statement: `reach_oneSummary`.
-/

namespace PullReview.Rehearsal

open Act Reconcile Comment

/-! ## Marked comments, computed -/

/-- Whether a comment has the marker in its body. -/
def hasMarker (c : Json) : Bool :=
  match c.getD "body" with
  | .str text => occursIn marker.toList text.toList
  | _ => false

theorem hasMarker_iff {c : Json} : hasMarker c = true ↔ Marked c := by
  unfold hasMarker Marked
  cases c.getD "body" with
  | str text => simp only [occursIn_iff, Json.str.injEq, exists_eq_left']
  | null | bool | int | float | arr | obj => simp

theorem countP_hasMarker_eq_zero {cs : List Json} :
    cs.countP hasMarker = 0 ↔ ∀ c ∈ cs, ¬ Marked c := by
  simp only [List.countP_eq_zero, hasMarker_iff]

/-- Where the first marked comment stands. -/
theorem findIdx_append_cons {before after : List Json} {c : Json}
    (hbefore : ∀ x ∈ before, ¬ Marked x) (hc : Marked c) :
    (before ++ c :: after).findIdx hasMarker = before.length := by
  have hskip : before.findIdx hasMarker = before.length :=
    List.findIdx_eq_length.mpr fun x hx =>
      Bool.eq_false_iff.mpr fun hm => hbefore x hx (hasMarker_iff.mp hm)
  rw [List.findIdx_append, hskip, if_neg (Nat.lt_irrefl _),
    List.findIdx_cons, hasMarker_iff.mpr hc]
  simp

/-! ## What runs make of the comments on the whole -/

/-- Between two lists of comments nothing happened, or a first marked comment was
added, or the first marked one was replaced by another with its number. -/
inductive Tended : List Json → List Json → Prop
  | same (cs) : Tended cs cs
  | added {cs d} : (∀ c ∈ cs, ¬ Marked c) → Marked d → Tended cs (cs ++ [d])
  | replaced {before c d after} : (∀ x ∈ before, ¬ Marked x) → Marked c → Marked d →
      d.getD "id" = c.getD "id" → Tended (before ++ c :: after) (before ++ d :: after)

namespace Tended

variable {cs cs' cs'' : List Json}

theorem trans (h : Tended cs cs') (h' : Tended cs' cs'') : Tended cs cs'' := by
  cases h' with
  | same => exact h
  | added hnone hd =>
    -- the first step has left no marked comment, so it has done nothing
    cases h with
    | same => exact .added hnone hd
    | added _ hmarked =>
      exact absurd hmarked (hnone _ (List.mem_append_right _ (List.mem_cons_self ..)))
    | replaced _ _ hmarked =>
      exact absurd hmarked (hnone _ (List.mem_append_right _ (List.mem_cons_self ..)))
  | @replaced before c d after hbefore hc hd hid =>
    generalize hmiddle : before ++ c :: after = middle at h
    cases h with
    | same => rw [← hmiddle]; exact .replaced hbefore hc hd hid
    | added hnone hmarked =>
      obtain ⟨rfl, rfl, rfl⟩ := first_unique hc hmarked hbefore hnone hmiddle
      exact .added hnone hd
    | replaced hbefore' hc' hd' hid' =>
      obtain ⟨rfl, rfl, rfl⟩ := first_unique hc hd' hbefore hbefore' hmiddle
      exact .replaced hbefore hc' hd (hid.trans hid')

/-- No second marked comment comes about. -/
theorem countP_le (h : Tended cs cs') : cs'.countP hasMarker ≤ max 1 (cs.countP hasMarker) := by
  cases h with
  | same => exact Nat.le_max_right _ _
  | @added cs d hnone hd =>
    rw [List.countP_append, countP_hasMarker_eq_zero.mpr hnone, Nat.zero_add]
    exact Nat.le_trans List.countP_le_length (Nat.le_max_left _ _)
  | replaced hbefore hc hd _ =>
    rw [List.countP_append, List.countP_append, List.countP_cons_of_pos (hasMarker_iff.mpr hc),
      List.countP_cons_of_pos (hasMarker_iff.mpr hd)]
    exact Nat.le_max_right _ _

/-- At most one comment is made, and only where none was marked. -/
theorem length_eq (h : Tended cs cs') :
    cs'.length = cs.length ∨ cs'.length = cs.length + 1 ∧ ∀ c ∈ cs, ¬ Marked c := by
  cases h with
  | same => exact Or.inl rfl
  | added hnone _ => exact Or.inr ⟨by rw [List.length_append, List.length_singleton], hnone⟩
  | replaced => exact Or.inl (by simp only [List.length_append, List.length_cons])

/-- All other comments stay where they are. -/
theorem getElem?_eq (h : Tended cs cs') {i : Nat} (hi : i < cs.length)
    (hother : i ≠ cs.findIdx hasMarker) : cs'[i]? = cs[i]? := by
  cases h with
  | same => rfl
  | added => exact List.getElem?_append_left hi
  | @replaced before c d after hbefore hc _ _ =>
    rw [findIdx_append_cons hbefore hc] at hother
    rcases Nat.lt_or_gt_of_ne hother with hlt | hgt
    · rw [List.getElem?_append_left hlt, List.getElem?_append_left hlt]
    · obtain ⟨k, hk⟩ := Nat.exists_eq_add_of_lt hgt
      rw [hk, List.getElem?_append_right (by omega), List.getElem?_append_right (by omega)]
      have hnext : before.length + k + 1 - before.length = k + 1 := by omega
      rw [hnext, List.getElem?_cons_succ, List.getElem?_cons_succ]

/-- The first marked comment keeps its place and its number. -/
theorem first_kept (h : Tended cs cs') {c : Json} (hc : cs[cs.findIdx hasMarker]? = some c) :
    ∃ d, cs'[cs.findIdx hasMarker]? = some d ∧ Marked d ∧ d.getD "id" = c.getD "id" := by
  have hlt : cs.findIdx hasMarker < cs.length := (List.getElem?_eq_some_iff.mp hc).1
  cases h with
  | same =>
    refine ⟨c, hc, ?_, rfl⟩
    obtain ⟨_, rfl⟩ := List.getElem?_eq_some_iff.mp hc
    exact hasMarker_iff.mp (List.findIdx_getElem (w := hlt))
  | added hnone _ =>
    have hfound := hasMarker_iff.mp (List.findIdx_getElem (w := hlt))
    exact absurd hfound (hnone _ (List.getElem_mem hlt))
  | @replaced before x d after hbefore hx hd hid =>
    rw [findIdx_append_cons hbefore hx] at hc ⊢
    rw [List.getElem?_append_right (Nat.le_refl _), Nat.sub_self] at hc ⊢
    obtain rfl := Option.some.inj hc
    exact ⟨d, rfl, hd, hid⟩

end Tended

/-! ## One run -/

/-- Comments on the whole of the shape that is listed, none of which has a number
that is still to be given out. -/
structure Tidy (l : Ledger) : Prop where
  issues : AreIssues l.issueComments
  fresh : ∀ c ∈ l.issueComments, ∀ n, l.nextId ≤ n → c.getD "id" ≠ .int n

/-- The comments on the whole are those of `l`, and no number is given out again. -/
def SameIssues (l l' : Ledger) : Prop :=
  l'.issueComments = l.issueComments ∧ l.nextId ≤ l'.nextId

theorem SameIssues.tidy {l l' : Ledger} (hsame : SameIssues l l') (h : Tidy l) : Tidy l' where
  issues := by rw [hsame.1]; exact h.issues
  fresh := by
    rw [hsame.1]
    exact fun c hc n hn => h.fresh c hc n (Int.le_trans hsame.2 hn)

/-- Uses that are about line comments leave the comments on the whole. -/
theorem keeps_lineUse {l : Ledger} {call : StoreCall}
    (hcall : call = .listReviewComments ∨ ∃ c head, call = .createReviewComment c head) :
    Keeps (storeUse call) (SameIssues l) := by
  rintro w ⟨hissues, hnext⟩
  have huse : SameIssues w.outside (w.outside.use call).2 := by
    unfold Ledger.use
    split
    · exact ⟨rfl, Int.le_refl _⟩
    · rcases hcall with rfl | ⟨c, head, rfl⟩
      · exact ⟨rfl, Int.le_refl _⟩
      · exact ⟨rfl, Int.le_add_one (Int.le_refl _)⟩
  exact ⟨huse.1.trans hissues, Int.le_trans hnext huse.2⟩

theorem postLineComments_keeps (l : Ledger) (pr : PullRequest) :
    ∀ (fs : List Finding) (seen : List Location) (report : ReconcileReport),
      Keeps (postLineComments wholeStore pr fs seen report) (SameIssues l) := by
  intro fs
  induction fs with
  | nil => intro seen report; exact keeps_pure _
  | cons f fs ih =>
    intro seen report
    unfold postLineComments
    split
    · exact ih seen report
    · dsimp only
      split
      · exact (keeps_write _ _ _).bind fun _ => ih _ _
      · refine (keeps_lineUse (Or.inr ⟨_, _, rfl⟩)).attempt.bind fun answer => ?_
        split
        · exact (keeps_write _ _ _).bind fun _ => ih _ _
        · exact (keeps_write _ _ _).bind fun _ => ih _ _
        · exact keeps_throw _

/-- Behind the summary a run leaves the comments on the whole, whatever the line
comments look like. -/
theorem reconcile_issues (gap : Int) (result : ReviewResult) (pr : PullRequest)
    (w : World Ledger) :
    SameIssues ((upsertSummary wholeStore (result.summary gap) pr).runOn w).2.outside
      ((reconcile wholeStore gap result pr).runOn w).2.outside := by
  have hsame : ∀ l : Ledger, SameIssues l l := fun _ => ⟨rfl, Int.le_refl _⟩
  cases hsummary : (upsertSummary wholeStore (result.summary gap) pr).runOn w with
  | mk s v =>
    unfold reconcile
    cases s with
    | error fault => rw [runOn_bind_error hsummary]; exact hsame _
    | ok action =>
      rw [runOn_bind_ok hsummary]
      dsimp only
      split
      · exact hsame _
      · have hlist : Keeps (wholeStore.reviewComments pr) (SameIssues v.outside) := by
          show Keeps (commentsIn <$> storeUse .listReviewComments) _
          rw [map_eq_pure_bind]
          exact (keeps_lineUse (Or.inl rfl)).bind fun _ => keeps_pure _
        have hrest := hlist.bind fun comments =>
          (keeps_liftM (ownLocations comments)).bind fun seen =>
            postLineComments_keeps v.outside pr result.blocking seen { summary := action }
        exact hrest v (hsame _)

/-- The world in which a run starts: the same comments, under its refusals. -/
def starting (w : World Ledger) (refusals : Refusals) : World Ledger :=
  withLedger w { w.outside with refusals := refusals }

/-- How putting the summary ends in a run. -/
def summaryEnd (gap : Int) (result : ReviewResult) (pr : PullRequest) (refusals : Refusals)
    (w : World Ledger) : Except Fault SummaryAction :=
  ((upsertSummary wholeStore (result.summary gap) pr).runOn (starting w refusals)).1

theorem Summarized.tended {body : String} {cs cs' : List Json} {next next' : Int}
    {action : SummaryAction} (h : Summarized body cs next action cs' next')
    (hbody : marker.toList <:+: body.toList) : Tended cs cs' := by
  cases h with
  | created hnone =>
    refine .added hnone ⟨body, ?_, hbody⟩
    simp [Ledger.listedIssue, Json.getD, Json.get?]
  | updated hbefore hmarked =>
    exact .replaced hbefore hmarked (marked_withBody _ hbody)
      (Json.getD_setMember_of_ne _ (by decide) _)

/-- The first marked comment behind the summary is the summary. -/
theorem Summarized.find? {body : String} {cs cs' : List Json} {next next' : Int}
    {action : SummaryAction} (h : Summarized body cs next action cs' next')
    (hbody : marker.toList <:+: body.toList) :
    ∃ c, cs'.find? hasMarker = some c ∧ c.getD "body" = .str body := by
  have hfirst : ∀ {before : List Json} {c : Json} (after : List Json),
      (∀ x ∈ before, ¬ Marked x) → Marked c →
      (before ++ c :: after).find? hasMarker = some c := by
    intro before c after hbefore hc
    have hskip : before.find? hasMarker = none :=
      List.find?_eq_none.mpr fun x hx hm => hbefore x hx (hasMarker_iff.mp hm)
    rw [List.find?_append, hskip, Option.none_or, List.find?_cons_of_pos (hasMarker_iff.mpr hc)]
  cases h with
  | created hnone =>
    have hlisted : (Ledger.listedIssue next body).getD "body" = .str body := by
      simp [Ledger.listedIssue, Json.getD, Json.get?]
    exact ⟨_, hfirst [] hnone ⟨body, hlisted, hbody⟩, hlisted⟩
  | @updated before members after _ hbefore _ =>
    exact ⟨_, hfirst after hbefore (marked_withBody members hbody),
      Json.getD_setMember_self members "body" _⟩

/-- Numbers that are still to be given out stay new. -/
theorem Summarized.fresh {body : String} {cs cs' : List Json} {next next' : Int}
    {action : SummaryAction} (h : Summarized body cs next action cs' next')
    (hfresh : ∀ c ∈ cs, ∀ n, next ≤ n → c.getD "id" ≠ .int n) :
    ∀ c ∈ cs', ∀ n, next' ≤ n → c.getD "id" ≠ .int n := by
  intro c hc n hn
  cases h with
  | created hnone =>
    rcases List.mem_append.mp hc with hold | hnew
    · exact hfresh c hold n (by omega)
    · rw [List.mem_singleton.mp hnew, getD_id_listedIssue]
      intro hsame
      have hid := Json.int.inj hsame
      omega
  | @updated before members after _ hbefore hmarked =>
    rcases List.mem_append.mp hc with hin | hin
    · exact hfresh c (List.mem_append_left _ hin) n hn
    rcases List.mem_cons.mp hin with rfl | hin
    · rw [Json.getD_setMember_of_ne members (by decide)]
      exact hfresh _ (List.mem_append_right _ (List.mem_cons_self ..)) n hn
    · exact hfresh c (List.mem_append_right _ (List.mem_cons_of_mem _ hin)) n hn

/-- **A run tends the comments on the whole**: it leaves them, if putting the
summary fails, or the first marked one is its summary. -/
theorem published_tended {w : World Ledger} (h : Tidy w.outside) (gap : Int)
    (result : ReviewResult) (pr : PullRequest) (refusals : Refusals) :
    Tidy (published gap result pr refusals w).2.outside ∧
      Tended w.outside.issueComments (published gap result pr refusals w).2.outside.issueComments ∧
      ∀ action, summaryEnd gap result pr refusals w = .ok action →
        ∃ c, (published gap result pr refusals w).2.outside.issueComments.find? hasMarker = some c ∧
          c.getD "body" = .str (result.summary gap) := by
  have hbody := marker_infix_summary result gap
  have hrest := reconcile_issues gap result pr (starting w refusals)
  have hrun := upsertSummary_run (result.summary gap) pr (starting w refusals) h.issues
  unfold summaryEnd published starting at *
  rw [hrest.1]
  generalize hsummary : (upsertSummary wholeStore (result.summary gap) pr).runOn
    (withLedger w { w.outside with refusals := refusals }) = out at hrun hrest ⊢
  obtain ⟨ending, v⟩ := out
  dsimp only at hrun hrest ⊢
  cases hrun with
  | refused hissues hnext _ =>
    have hsame : SameIssues w.outside v.outside := ⟨hissues, Int.le_of_eq hnext.symm⟩
    refine ⟨hrest.tidy (hsame.tidy h), ?_, fun action haction => absurd haction (by simp)⟩
    rw [hissues]
    exact .same _
  | put hput =>
    have htidy : Tidy v.outside :=
      ⟨hput.areIssues h.issues fun c hc => h.fresh c hc _ (Int.le_refl _), hput.fresh h.fresh⟩
    exact ⟨hrest.tidy htidy, hput.tended hbody, fun _ _ => hput.find? hbody⟩

/-! ## Histories -/

namespace History

def issues (h : History) : List Json := h.world.outside.issueComments

/-- Whatever happens, the comments on the whole are tended. -/
theorem tended_step {h : History} (ht : Tidy h.world.outside) (e : Event) :
    Tidy (h.step e).world.outside ∧ Tended h.issues (h.step e).issues := by
  cases e with
  | run gap result pr refusals =>
    obtain ⟨htidy, htended, _⟩ := published_tended ht gap result pr refusals
    exact ⟨htidy, htended⟩
  | outdate position => exact ⟨⟨ht.issues, ht.fresh⟩, .same _⟩

theorem tended_reach {w : World Ledger} (hw : Tidy w.outside) (events : List Event) :
    Tidy (reach w events).world.outside ∧
      Tended w.outside.issueComments (reach w events).issues := by
  -- the induction is over histories that go on from any tidy one
  have hfold : ∀ (events : List Event) (h : History), Tidy h.world.outside →
      Tidy (events.foldl step h).world.outside ∧
        Tended h.issues (events.foldl step h).issues := by
    intro events
    induction events with
    | nil => intro h ht; exact ⟨ht, .same _⟩
    | cons e events ih =>
      intro h ht
      obtain ⟨hstep, htended⟩ := tended_step ht e
      obtain ⟨hlast, hrest⟩ := ih (h.step e) hstep
      exact ⟨hlast, htended.trans hrest⟩
  exact hfold events ⟨w, []⟩ hw

/-- **There is one summary comment, and nothing else is touched.** Over any
history of runs, with whatever results and refusals, no second marked comment
comes about; at most one comment on the whole is made, and only where none was
marked; every other one than the first marked one stays as it is in its place,
and that one keeps its place and number. A run behind it that does not fail to
put the summary leaves exactly its summary in the first marked comment. -/
theorem reach_oneSummary (w : World Ledger) (hissues : AreIssues w.outside.issueComments)
    (hfresh : ∀ c ∈ w.outside.issueComments, ∀ n, w.outside.nextId ≤ n → c.getD "id" ≠ .int n)
    (events : List Event) :
    let before := w.outside.issueComments
    let after := (reach w events).issues
    after.countP hasMarker ≤ max 1 (before.countP hasMarker) ∧
    (after.length = before.length ∨
      after.length = before.length + 1 ∧ before.countP hasMarker = 0) ∧
    (∀ i < before.length, i ≠ before.findIdx hasMarker → after[i]? = before[i]?) ∧
    (∀ c, before[before.findIdx hasMarker]? = some c →
      ∃ d, after[before.findIdx hasMarker]? = some d ∧ Marked d ∧
        d.getD "id" = c.getD "id") ∧
    ∀ gap result pr refusals action,
      summaryEnd gap result pr refusals (reach w events).world = .ok action →
      ∃ c, ((reach w events).step (.run gap result pr refusals)).issues.find? hasMarker = some c ∧
        c.getD "body" = .str (result.summary gap) := by
  intro before after
  obtain ⟨htidy, htended⟩ := tended_reach ⟨hissues, hfresh⟩ events
  refine ⟨htended.countP_le, ?_, fun i hi hother => htended.getElem?_eq hi hother,
    fun c hc => htended.first_kept hc, ?_⟩
  · rw [countP_hasMarker_eq_zero]
    exact htended.length_eq
  · intro gap result pr refusals action haction
    exact (published_tended htidy gap result pr refusals).2.2 action haction

/-- A run that may not make its summary comment, and one that may. -/
def failedThenPut : List Event :=
  [.run 2 fourPlaces default { createIssueComment := some .overdue }, .run 2 fourPlaces default {}]

theorem reach_oneSummary_failedThenPut :
    (reach talkedOver failedThenPut).issues.length = 2 ∧
      (reach talkedOver failedThenPut).issues.countP hasMarker ≤ 1 ∧
      (reach talkedOver failedThenPut).issues[0]? = talkedOver.outside.issueComments[0]? ∧
      ∃ c, ((reach talkedOver failedThenPut).step (.run 5 fourPlaces default {})).issues.find?
          hasMarker = some c ∧ c.getD "body" = .str (fourPlaces.summary 5) := by
  have hfresh : ∀ c ∈ talkedOver.outside.issueComments, ∀ n,
      talkedOver.outside.nextId ≤ n → c.getD "id" ≠ .int n := by
    intro c hc n hn hid
    rw [List.mem_singleton.mp hc] at hid
    have hseven : n = 7 := (Json.int.inj hid).symm
    rw [hseven] at hn
    exact absurd hn (by decide)
  obtain ⟨hcount, _, hothers, _, hsummary⟩ :=
    reach_oneSummary talkedOver areIssues_talkedOver hfresh failedThenPut
  have hput : summaryEnd 5 fourPlaces default {} (reach talkedOver failedThenPut).world
      = .ok .updated := by
    have hvalue : (summaryEnd 5 fourPlaces default {}
        (reach talkedOver failedThenPut).world).toOption = some .updated := by decide +kernel
    cases hend : summaryEnd 5 fourPlaces default {} (reach talkedOver failedThenPut).world with
    | ok action => rw [hend] at hvalue; exact congrArg Except.ok (Option.some.inj hvalue)
    | error fault => rw [hend] at hvalue; exact absurd hvalue (by simp [Except.toOption])
  exact ⟨by decide +kernel, hcount, hothers 0 (by decide) (by decide +kernel),
    hsummary 5 fourPlaces default {} .updated hput⟩

end History

end PullReview.Rehearsal
