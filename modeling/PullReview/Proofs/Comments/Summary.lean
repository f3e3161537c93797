import PullReview.Comments.Reconcile
import PullReview.Proofs.Comments.Listed
import PullReview.Proofs.Comments.Uses

/-!
# Putting the summary

`Summarized` says what becomes of the comments on the whole when the summary is
put among them. It is what `upsertSummary` does unless one of its uses is
refused, and then nothing is done (`upsertSummary_run`). Put once more, the same
summary changes nothing (`Summarized.again`).
-/

namespace PullReview.Rehearsal

open Act Reconcile Comment

/-- A comment on the whole as the code host lists it. -/
structure IsIssue (c : Json) : Prop where
  isObject : ∃ members, c = .obj members
  id : ∃ n, c.getD "id" = .int n
  body : c.getD "body" = .null ∨ ∃ text, c.getD "body" = .str text

/-- The summary is put among comments, new ones being numbered from a number on:
behind them, or into the first one with the marker. -/
inductive Summarized (body : String) : List Json → Int → SummaryAction → List Json → Int → Prop
  | created {cs next} : (∀ c ∈ cs, ¬ Marked c) →
      Summarized body cs next .created (cs ++ [Ledger.listedIssue next body]) (next + 1)
  | updated {before members after next} : (∀ c ∈ before, ¬ Marked c) → Marked (.obj members) →
      Summarized body (before ++ .obj members :: after) next .updated
        (before ++ .obj (Json.setMember members "body" (.str body)) :: after) next

/-- Comments on the whole of the shape that is listed, each with its own number. -/
structure AreIssues (cs : List Json) : Prop where
  shape : ∀ c ∈ cs, IsIssue c
  ids : (cs.map (·.getD "id")).Nodup

/-- How putting the summary ends: it is put, or a use is refused and nothing is
done. -/
inductive SummaryRun (body : String) (l : Ledger) : Except Fault SummaryAction → Ledger → Prop
  | put {action l'} :
      Summarized body l.issueComments l.nextId action l'.issueComments l'.nextId →
      SummaryRun body l (.ok action) l'
  | refused {fault l'} : l'.issueComments = l.issueComments → l'.nextId = l.nextId →
      ¬ l.refusals.OverFrom l.calls.size →
      SummaryRun body l (.error fault) l'

/-! ## What the functions on lists find -/

/-- The first marked comment is found without fail, if there is one. -/
theorem firstMarked_eq :
    ∀ cs : List Json, (∀ c ∈ cs, IsIssue c) →
      (firstMarked cs = .ok none ∧ ∀ c ∈ cs, ¬ Marked c) ∨
        ∃ before c after, cs = before ++ c :: after ∧ (∀ d ∈ before, ¬ Marked d) ∧ Marked c ∧
          firstMarked cs = .ok (some c) := by
  intro cs
  induction cs with
  | nil => intro _; exact Or.inl ⟨rfl, fun c hc => absurd hc List.not_mem_nil⟩
  | cons c cs ih =>
    intro h
    have hc : IsIssue c := h c (List.mem_cons_self ..)
    obtain ⟨marked, hmarked, hiff⟩ := isMarked_eq hc.isObject hc.body
    cases marked with
    | true =>
      refine Or.inr ⟨[], c, cs, rfl, fun d hd => absurd hd List.not_mem_nil, hiff.mp rfl, ?_⟩
      unfold firstMarked
      rw [hmarked]
      rfl
    | false =>
      have hnot : ¬ Marked c := fun h => absurd (hiff.mpr h) Bool.false_ne_true
      have hskip : firstMarked (c :: cs) = firstMarked cs := by
        rw [firstMarked, hmarked]
        rfl
      rw [hskip]
      rcases ih fun d hd => h d (List.mem_cons_of_mem _ hd) with ⟨hnone, hrest⟩ | hsome
      · exact Or.inl ⟨hnone, List.forall_mem_cons.mpr ⟨hnot, hrest⟩⟩
      · obtain ⟨before, d, after, rfl, hbefore, hd, hfound⟩ := hsome
        exact Or.inr ⟨c :: before, d, after, rfl, List.forall_mem_cons.mpr ⟨hnot, hbefore⟩, hd,
          hfound⟩

/-- Whether a comment has a number, as an update sees it. -/
theorem hasId_iff {c : Json} {n : Int} :
    (c.get? "id").any (· == .int n) = true ↔ c.getD "id" = .int n := by
  constructor
  · intro h
    obtain ⟨v, hv, hn⟩ := Option.any_eq_true _ _ |>.mp h
    rw [Json.getD_of_get? hv, Json.beq_int_iff.mp hn]
  · intro h
    rw [Json.get?_of_getD h (by simp), Option.any_some]
    exact Json.beq_int_iff.mpr rfl

/-- An update goes to the comment with the number. -/
theorem updateBody_eq {n : Int} (body : String) {members : List (String × Json)} {after : List Json}
    (hid : (Json.obj members).getD "id" = .int n) :
    ∀ before : List Json, (∀ d ∈ before, d.getD "id" ≠ .int n) →
      Ledger.updateBody (.int n) body (before ++ .obj members :: after)
        = some (.obj (Json.setMember members "body" (.str body)),
            before ++ .obj (Json.setMember members "body" (.str body)) :: after) := by
  intro before
  induction before with
  | nil =>
    intro _
    rw [List.nil_append, Ledger.updateBody]
    dsimp only
    rw [if_pos (hasId_iff.mpr hid)]
    rfl
  | cons d before ih =>
    intro h
    have hd : ¬ (d.get? "id").any (· == .int n) = true := fun hany =>
      h d (List.mem_cons_self ..) (hasId_iff.mp hany)
    have hrest := ih fun e he => h e (List.mem_cons_of_mem _ he)
    rw [List.cons_append]
    unfold Ledger.updateBody
    split
    · rw [if_neg hd, hrest]
      rfl
    · rw [hrest]
      rfl

/-! ## What putting the summary does -/

/-- Whatever happens, the line comments stay. -/
theorem upsertSummary_keeps (l₀ : Ledger) (body : String) (pr : PullRequest) :
    Keeps (upsertSummary wholeStore body pr) fun l =>
      l₀.Follows l ∧ l.reviewComments = l₀.reviewComments := by
  have hlist : Keeps (wholeStore.issueComments pr) fun l =>
      l₀.Follows l ∧ l.reviewComments = l₀.reviewComments := by
    show Keeps (commentsIn <$> storeUse .listIssueComments) _
    rw [map_eq_pure_bind]
    exact (Ledger.keeps_storeUse (by simp)).bind fun _ => keeps_pure _
  unfold upsertSummary
  refine hlist.bind fun comments => (keeps_liftM _).bind fun found => ?_
  split
  · split
    · exact keeps_throw _
    · refine (keeps_write _ _ _).bind fun _ => ?_
      exact (Ledger.keeps_storeUse (by simp)).bind fun _ => keeps_pure _
  · refine (keeps_write _ _ _).bind fun _ => ?_
    exact (Ledger.keeps_storeUse (by simp)).bind fun _ => keeps_pure _

theorem upsertSummary_follows (body : String) (pr : PullRequest) (w : World Ledger) :
    w.outside.Follows ((upsertSummary wholeStore body pr).runOn w).2.outside ∧
      ((upsertSummary wholeStore body pr).runOn w).2.outside.reviewComments
        = w.outside.reviewComments :=
  upsertSummary_keeps w.outside body pr w ⟨Ledger.Follows.refl _, rfl⟩

/-- Among comments without the marker the summary is put by a new one. -/
theorem upsertSummary_creates (body : String) (pr : PullRequest) {w : World Ledger}
    (hlist : w.outside.refusals.of w.outside.calls.size .listIssueComments = none)
    (hfound : firstMarked w.outside.issueComments = .ok none) :
    ∃ v, v.outside
        = ((w.outside.noted .listIssueComments).use (.createIssueComment body)).2 ∧
      (upsertSummary wholeStore body pr).runOn w
        = (((w.outside.noted .listIssueComments).use (.createIssueComment body)).1.map fun _ =>
            .created, v) := by
  have hlisted : (wholeStore.issueComments pr).runOn w
      = (.ok w.outside.issueComments, withLedger w (w.outside.noted .listIssueComments)) :=
    list_performed hlist rfl
  unfold upsertSummary
  rw [runOn_bind_ok hlisted, hfound]
  exact runOn_write_use (logFor pr) .info "Creating summary comment" (.createIssueComment body)
    SummaryAction.created (withLedger w (w.outside.noted .listIssueComments))

/-- Among comments with the marker the summary is put by an update of the first one. -/
theorem upsertSummary_updates (body : String) (pr : PullRequest) {w : World Ledger}
    (hlist : w.outside.refusals.of w.outside.calls.size .listIssueComments = none)
    {c id : Json} (hfound : firstMarked w.outside.issueComments = .ok (some c))
    (hid : c.get? "id" = some id) :
    ∃ v, v.outside
        = ((w.outside.noted .listIssueComments).use (.updateIssueComment id body)).2 ∧
      (upsertSummary wholeStore body pr).runOn w
        = (((w.outside.noted .listIssueComments).use (.updateIssueComment id body)).1.map fun _ =>
            .updated, v) := by
  have hlisted : (wholeStore.issueComments pr).runOn w
      = (.ok w.outside.issueComments, withLedger w (w.outside.noted .listIssueComments)) :=
    list_performed hlist rfl
  have hsearch : (liftM (firstMarked w.outside.issueComments) : Act Ledger (Option Json)).runOn
      (withLedger w (w.outside.noted .listIssueComments))
      = (.ok (some c), withLedger w (w.outside.noted .listIssueComments)) := by
    rw [runOn_liftM, hfound]
  unfold upsertSummary
  rw [runOn_bind_ok hlisted, runOn_bind_ok hsearch]
  simp only [hid]
  exact runOn_write_use (logFor pr) .info
    s!"Updating existing summary comment (id: {id.display})" (.updateIssueComment id body)
    SummaryAction.updated (withLedger w (w.outside.noted .listIssueComments))

/-- The last use puts the summary, or is refused. -/
theorem summaryRun_of_use {body : String} {l l₁ l₂ : Ledger} {call : StoreCall}
    {action : SummaryAction} {x : Json} (hfollows : l.Follows l₁)
    (hissues : l₁.issueComments = l.issueComments) (hnext : l₁.nextId = l.nextId)
    (hperform : (l₁.noted call).perform call = (.ok x, l₂))
    (hput : Summarized body l.issueComments l.nextId action l₂.issueComments l₂.nextId) :
    SummaryRun body l ((l₁.use call).1.map fun _ => action) (l₁.use call).2 := by
  cases hanswer : l₁.refusals.of l₁.calls.size call with
  | some fault =>
    rw [Ledger.use_refused hanswer]
    refine .refused hissues hnext fun hover => ?_
    rw [hfollows.refusals] at hanswer
    exact hover.not_refused hfollows.size_le hanswer
  | none =>
    rw [Ledger.use_free hanswer, hperform]
    exact .put hput

/-- **The summary is put, or a use is refused and nothing is done.** -/
theorem upsertSummary_run (body : String) (pr : PullRequest) (w : World Ledger)
    (hissues : AreIssues w.outside.issueComments) :
    SummaryRun body w.outside ((upsertSummary wholeStore body pr).runOn w).1
      ((upsertSummary wholeStore body pr).runOn w).2.outside := by
  have hlater := Ledger.follows_noted w.outside .listIssueComments
  cases hlist : w.outside.refusals.of w.outside.calls.size .listIssueComments with
  | some fault =>
    have hstop : (wholeStore.issueComments pr).runOn w
        = (.error fault, withLedger w (w.outside.noted .listIssueComments)) := list_refused hlist
    unfold upsertSummary
    rw [runOn_bind_error hstop]
    refine .refused rfl rfl fun hover => ?_
    exact hover.not_refused (Nat.le_refl _) hlist
  | none =>
    rcases firstMarked_eq w.outside.issueComments hissues.shape with
      ⟨hfound, hnone⟩ | ⟨before, c, after, hcs, hbefore, hmarked, hfound⟩
    · obtain ⟨v, hv, hrun⟩ := upsertSummary_creates body pr hlist hfound
      rw [hrun, hv]
      exact summaryRun_of_use hlater rfl rfl rfl (.created hnone)
    · have hin : c ∈ w.outside.issueComments := by
        rw [hcs]
        exact List.mem_append_right _ (List.mem_cons_self ..)
      obtain ⟨n, hn⟩ := (hissues.shape c hin).id
      obtain ⟨members, rfl⟩ := (hissues.shape c hin).isObject
      have hid : (Json.obj members).get? "id" = some (.int n) := Json.get?_of_getD hn (by simp)
      obtain ⟨v, hv, hrun⟩ := upsertSummary_updates body pr hlist hfound hid
      rw [hrun, hv]
      -- no other comment has the number, so the update finds the marked one
      have hothers : ∀ d ∈ before, d.getD "id" ≠ .int n := by
        intro d hd hsame
        have hids := hissues.ids
        rw [hcs, List.map_append, List.map_cons, hn] at hids
        have hdisjoint := (List.nodup_append.mp hids).2.2
        exact hdisjoint _ (List.mem_map_of_mem hd) _ (List.mem_cons_self ..) hsame
      have hupdate : Ledger.updateBody (.int n) body w.outside.issueComments
          = some (.obj (Json.setMember members "body" (.str body)),
              before ++ .obj (Json.setMember members "body" (.str body)) :: after) := by
        rw [hcs]
        exact updateBody_eq body hn before hothers
      have hperform : ((w.outside.noted .listIssueComments).noted
            (.updateIssueComment (.int n) body)).perform (.updateIssueComment (.int n) body)
          = (.ok (.obj (Json.setMember members "body" (.str body))),
              { (w.outside.noted .listIssueComments).noted (.updateIssueComment (.int n) body) with
                issueComments :=
                  before ++ .obj (Json.setMember members "body" (.str body)) :: after }) := by
        unfold Ledger.perform Ledger.noted
        dsimp only
        rw [hupdate]
      refine summaryRun_of_use hlater rfl rfl hperform ?_
      rw [hcs]
      exact .updated hbefore hmarked

/-! ## The summary once more -/

/-- A list is cut in one way only at its first item with a property. -/
theorem first_unique {P : Json → Prop} {c d : Json} {after after' : List Json} (hc : P c)
    (hd : P d) :
    ∀ {before before' : List Json}, (∀ x ∈ before, ¬ P x) → (∀ x ∈ before', ¬ P x) →
      before ++ c :: after = before' ++ d :: after' →
      before = before' ∧ c = d ∧ after = after' := by
  intro before
  induction before with
  | nil =>
    intro before' _ hbefore' h
    cases before' with
    | nil => exact ⟨rfl, List.cons.inj h⟩
    | cons x xs =>
      obtain ⟨rfl, _⟩ := List.cons.inj h
      exact absurd hc (hbefore' c (List.mem_cons_self ..))
  | cons x xs ih =>
    intro before' hbefore hbefore' h
    cases before' with
    | nil =>
      obtain ⟨rfl, _⟩ := List.cons.inj h
      exact absurd hd (hbefore x (List.mem_cons_self ..))
    | cons y ys =>
      obtain ⟨rfl, hrest⟩ := List.cons.inj h
      obtain ⟨rfl, rest⟩ := ih (fun z hz => hbefore z (List.mem_cons_of_mem _ hz))
        (fun z hz => hbefore' z (List.mem_cons_of_mem _ hz)) hrest
      exact ⟨rfl, rest⟩

section Again

variable {body : String} {cs cs' cs'' : List Json} {next next' next'' : Int}
  {action action' : SummaryAction}

/-- What is done with the summary is determined by the comments. -/
theorem Summarized.unique (h : Summarized body cs next action cs' next')
    (h' : Summarized body cs next action' cs'' next'') :
    action = action' ∧ cs' = cs'' ∧ next' = next'' := by
  cases h with
  | created hnone =>
    cases h' with
    | created => exact ⟨rfl, rfl, rfl⟩
    | updated _ hmarked =>
      exact absurd hmarked (hnone _ (List.mem_append_right _ (List.mem_cons_self ..)))
  | @updated before members after _ hbefore hmarked =>
    generalize hsame : before ++ .obj members :: after = same at h'
    cases h' with
    | created hnone =>
      refine absurd hmarked (hnone _ ?_)
      rw [← hsame]
      exact List.mem_append_right _ (List.mem_cons_self ..)
    | updated hbefore' hmarked' =>
      obtain ⟨rfl, hitem, rfl⟩ := first_unique hmarked hmarked' hbefore hbefore' hsame
      obtain rfl := Json.obj.inj hitem
      exact ⟨rfl, rfl, rfl⟩

theorem marked_withBody (members : List (String × Json)) (hbody : marker.toList <:+: body.toList) :
    Marked (.obj (Json.setMember members "body" (.str body))) :=
  ⟨body, Json.getD_setMember_self members "body" _, hbody⟩

/-- Once the summary is there, putting it again changes nothing. -/
theorem Summarized.again (h : Summarized body cs next action cs' next')
    (hbody : marker.toList <:+: body.toList) (next'' : Int) :
    Summarized body cs' next'' .updated cs' next'' := by
  cases h with
  | created hnone =>
    have hlisted : Ledger.listedIssue next body = .obj (Json.setMember
        [("id", .int next), ("user", Ledger.author)] "body" (.str body)) := by
      simp [Ledger.listedIssue, Json.setMember]
    have hmarked := marked_withBody [("id", .int next), ("user", Ledger.author)] hbody
    have h : Summarized body _ next'' .updated (cs ++ [_]) next'' := .updated hnone hmarked
    rw [Json.setMember_setMember, ← hlisted] at h
    exact h
  | @updated before members after _ hbefore hmarked =>
    have h : Summarized body _ next'' .updated (before ++ _ :: after) next'' :=
      .updated hbefore (marked_withBody members hbody)
    rw [Json.setMember_setMember] at h
    exact h

theorem getD_id_listedIssue (next : Int) (body : String) :
    (Ledger.listedIssue next body).getD "id" = .int next := by
  simp [Ledger.listedIssue, Json.getD, Json.get?]

theorem isIssue_listed (next : Int) (body : String) : IsIssue (Ledger.listedIssue next body) where
  isObject := ⟨_, rfl⟩
  id := ⟨next, getD_id_listedIssue next body⟩
  body := Or.inr ⟨body, by simp [Ledger.listedIssue, Json.getD, Json.get?]⟩

/-- Behind the summary the comments have their shape and their own numbers. -/
theorem Summarized.areIssues (h : Summarized body cs next action cs' next') (hcs : AreIssues cs)
    (hfresh : ∀ c ∈ cs, c.getD "id" ≠ .int next) : AreIssues cs' := by
  cases h with
  | created hnone =>
    refine ⟨fun c hc => ?_, ?_⟩
    · rcases List.mem_append.mp hc with hold | hnew
      · exact hcs.shape c hold
      · rw [List.mem_singleton.mp hnew]
        exact isIssue_listed next body
    · rw [List.map_append, List.map_singleton, getD_id_listedIssue]
      refine List.nodup_append.mpr ⟨hcs.ids, List.pairwise_singleton _ _, ?_⟩
      intro id hid other hother hsame
      obtain ⟨c, hc, rfl⟩ := List.mem_map.mp hid
      exact hfresh c hc (hsame.trans (List.mem_singleton.mp hother))
  | @updated before members after _ hbefore hmarked =>
    have hid : (Json.obj (Json.setMember members "body" (.str body))).getD "id"
        = (Json.obj members).getD "id" := Json.getD_setMember_of_ne members (by decide) _
    have hold := hcs.shape (.obj members) (List.mem_append_right _ (List.mem_cons_self ..))
    refine ⟨fun c hc => ?_, ?_⟩
    · rcases List.mem_append.mp hc with hin | hin
      · exact hcs.shape c (List.mem_append_left _ hin)
      rcases List.mem_cons.mp hin with rfl | hin
      · exact ⟨⟨_, rfl⟩, by rw [hid]; exact hold.id,
          Or.inr ⟨body, Json.getD_setMember_self members "body" _⟩⟩
      · exact hcs.shape c (List.mem_append_right _ (List.mem_cons_of_mem _ hin))
    · have hids := hcs.ids
      rw [List.map_append, List.map_cons] at hids ⊢
      rw [hid]
      exact hids

end Again

/-- The summary of a result starts with the marker. -/
theorem marker_infix_summary (result : ReviewResult) (gap : Int) :
    marker.toList <:+: (result.summary gap).toList := by
  have hlines : result.reportLines gap ≠ [] := by
    unfold ReviewResult.reportLines
    simp
  unfold ReviewResult.summary Text.join
  rw [String.intercalate_cons_of_ne_nil hlines, String.append_assoc, String.toList_append]
  exact (List.prefix_append _ _).isInfix

end PullReview.Rehearsal
