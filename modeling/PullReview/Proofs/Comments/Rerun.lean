import PullReview.Proofs.Comments.Reconciling

/-!
# Running again

A run of `reconcile` that is broken off leaves the summary put or not, and some
of the comments that were due. What a later run reads back from the ledger tells
it exactly which ones: the places of the comments made are those that the broken
run had in memory (`mem_seen_after`), so the later run makes the rest
(`due_resume`) and puts the same summary into the same comment.

Main statement: `reconcile_repairs`.
-/

namespace PullReview.Rehearsal

open Act Reconcile Comment

/-! ## The comments that are due -/

/-- The comments that posting makes when nothing is refused: for each place that
has none, the one of its first finding. -/
def due : List Finding → List Location → List LineComment
  | [], _ => []
  | f :: fs, seen =>
    match f.line with
    | none => due fs seen
    | some line =>
      if seen.contains (.str f.file, line) then due fs seen
      else lineComment f line :: due fs ((.str f.file, line) :: seen)

section Due

variable {f : Finding} {fs : List Finding} {seen : List Location} {line : Int}

theorem due_noLine (h : f.line = none) : due (f :: fs) seen = due fs seen := by
  rw [due, h]

theorem due_present (h : f.line = some line) (hin : (.str f.file, line) ∈ seen) :
    due (f :: fs) seen = due fs seen := by
  rw [due, h]
  dsimp only
  rw [if_pos (contains_place_iff.mpr hin)]

theorem due_new (h : f.line = some line) (hnew : (.str f.file, line) ∉ seen) :
    due (f :: fs) seen = lineComment f line :: due fs ((.str f.file, line) :: seen) := by
  rw [due, h]
  dsimp only
  rw [if_neg fun hin => hnew (contains_place_iff.mp hin)]

/-- **Who has seen the places of some comments due has the others left to make.** -/
theorem due_resume :
    ∀ (fs : List Finding) (seen seen' : List Location) (made rest : List LineComment),
      due fs seen = made ++ rest →
      (∀ path line, (.str path, line) ∈ seen' ↔
        (.str path, line) ∈ seen ∨ ∃ c ∈ made, c.path = path ∧ c.line = line) →
      due fs seen' = rest := by
  intro fs
  induction fs with
  | nil =>
    intro seen seen' made rest h _
    exact (List.append_eq_nil_iff.mp h.symm).2.symm
  | cons f fs ih =>
    intro seen seen' made rest h hseen
    cases hline : f.line with
    | none =>
      rw [due_noLine hline] at h ⊢
      exact ih seen seen' made rest h hseen
    | some line =>
      by_cases hin : (.str f.file, line) ∈ seen
      · rw [due_present hline hin] at h
        rw [due_present hline ((hseen _ _).mpr (Or.inl hin))]
        exact ih seen seen' made rest h hseen
      · rw [due_new hline hin] at h
        cases made with
        | nil =>
          -- nothing was made, so this one is due still
          have hnew : (.str f.file, line) ∉ seen' := by
            intro hin'
            rcases (hseen _ _).mp hin' with hold | ⟨c, hc, _⟩
            · exact hin hold
            · exact List.not_mem_nil hc
          rw [due_new hline hnew, ← h.trans (List.nil_append rest)]
          refine congrArg (lineComment f line :: ·)
            (ih ((.str f.file, line) :: seen) _ [] _ rfl fun path n => ?_)
          rw [List.mem_cons, List.mem_cons, hseen, or_assoc]
        | cons c made =>
          -- the first one made is the one for this finding, and it is read back
          obtain ⟨rfl, hrest⟩ := List.cons.inj h
          have hthere : (.str f.file, line) ∈ seen' :=
            (hseen _ _).mpr (Or.inr ⟨_, List.mem_cons_self .., rfl, rfl⟩)
          rw [due_present hline hthere]
          refine ih ((.str f.file, line) :: seen) seen' made rest hrest fun path n => ?_
          have hplace : (Json.str path, n) = (.str f.file, line) ↔
              (lineComment f line).path = path ∧ (lineComment f line).line = n := by
            rw [Prod.mk.injEq, Json.str.injEq, eq_comm, eq_comm (a := n)]
            rfl
          simp only [hseen, List.mem_cons, exists_eq_or_imp, hplace]
          rw [or_assoc, or_left_comm]

/-- Every comment due is for one of the findings. -/
theorem mem_due {c : LineComment} :
    ∀ (fs : List Finding) (seen : List Location), c ∈ due fs seen →
      ∃ f ∈ fs, ∃ line, f.line = some line ∧ c = lineComment f line := by
  intro fs
  induction fs with
  | nil => intro seen hc; exact absurd hc List.not_mem_nil
  | cons f fs ih =>
    intro seen hc
    have hrest : ∀ seen, c ∈ due fs seen →
        ∃ g ∈ f :: fs, ∃ line, g.line = some line ∧ c = lineComment g line := by
      intro seen hin
      obtain ⟨g, hg, hsource⟩ := ih seen hin
      exact ⟨g, List.mem_cons_of_mem _ hg, hsource⟩
    cases hline : f.line with
    | none =>
      rw [due_noLine hline] at hc
      exact hrest seen hc
    | some line =>
      by_cases hin : (.str f.file, line) ∈ seen
      · rw [due_present hline hin] at hc
        exact hrest seen hc
      · rw [due_new hline hin] at hc
        rcases List.mem_cons.mp hc with rfl | hc
        · exact ⟨f, List.mem_cons_self .., line, hline, rfl⟩
        · exact hrest _ hc

/-- Behind the comments made, the places read back are those from before and
theirs. -/
theorem mem_seen_after {comments : List Json} {next : Int} {made : List LineComment}
    {seen seen' : List Location} (hcomments : ∀ c ∈ comments, IsReview c)
    (hmade : ∀ c ∈ made, ∃ f line, Placeable f ∧ f.line = some line ∧ c = lineComment f line)
    (hseen : ownLocations comments = .ok seen)
    (hseen' : ownLocations (comments ++ numbered next made) = .ok seen') (path : String)
    (line : Int) :
    (.str path, line) ∈ seen' ↔
      (.str path, line) ∈ seen ∨ ∃ c ∈ made, c.path = path ∧ c.line = line := by
  obtain ⟨places, hplaces, hiff⟩ := mem_ownLocations comments hcomments
  obtain rfl := Except.ok.inj (hplaces.symm.trans hseen)
  obtain ⟨places', hplaces', hiff'⟩ :=
    mem_ownLocations _ (isReview_behind hcomments next made)
  obtain rfl := Except.ok.inj (hplaces'.symm.trans hseen')
  rw [hiff, hiff']
  constructor
  · rintro ⟨hpath, c, hc, hown, hplace⟩
    rcases List.mem_append.mp hc with hold | hnew
    · exact Or.inl ⟨hpath, c, hold, hown, hplace⟩
    · -- its line is not zero, so it is found where it was made and nowhere else
      obtain ⟨id, d, hd, rfl⟩ := mem_numbered hnew
      obtain ⟨f, n, hf, hn, rfl⟩ := hmade d hd
      rw [place_listed id _ (hf.line_ne hn)] at hplace
      obtain ⟨hpath, hline⟩ := Prod.mk.inj hplace
      exact Or.inr ⟨_, hd, Json.str.inj hpath, Json.int.inj hline⟩
  · rintro (⟨hpath, c, hc, hown, hplace⟩ | ⟨d, hd, rfl, rfl⟩)
    · exact ⟨hpath, c, List.mem_append_left _ hc, hown, hplace⟩
    · obtain ⟨id, hin⟩ := exists_mem_numbered next hd
      obtain ⟨f, n, hf, hn, rfl⟩ := hmade d hd
      exact ⟨hf.1, _, List.mem_append_right _ hin, own_listed id f n,
        place_listed id _ (hf.line_ne hn)⟩

end Due

/-! ## What a run makes of them -/

/-- One use fails, by its number. -/
def Refusals.once (k : Nat) (fault : Fault) : Refusals where
  atUse := fun n => if n = k then some fault else none

theorem Refusals.of_once (k : Nat) (fault : Fault) (n : Nat) (call : StoreCall) :
    (Refusals.once k fault).of n call = if n = k then some fault else none := by
  have hkind : (Refusals.once k fault).ofKind call = none := by cases call <;> rfl
  rw [Refusals.of, hkind, Option.none_or]
  rfl

theorem Refusals.overFrom_once (k : Nat) (fault : Fault) :
    (Refusals.once k fault).OverFrom (k + 1) := by
  intro n call hn
  rw [Refusals.of_once, if_neg (Nat.ne_of_gt hn)]

theorem Refusals.overFrom_none (n : Nat) : ({} : Refusals).OverFrom n := by
  intro i call _
  cases call <;> rfl

section Posting

variable {head : Json} {fs : List Finding} {seen : List Location}
  {report : ReconcileReport} {l l' : Ledger} {cs : List LineComment}
  {r : Except Fault ReconcileReport}

/-- When nothing is refused any more all comments due are made. -/
theorem Posting.all_due (h : Posting head fs seen report l cs r l')
    (hover : l.refusals.OverFrom l.calls.size) : (∃ told, r = .ok told) ∧ cs = due fs seen := by
  induction h with
  | done => exact ⟨⟨_, rfl⟩, rfl⟩
  | noLine hline _ ih => rw [due_noLine hline]; exact ih hover
  | present hline hin _ ih => rw [due_present hline hin]; exact ih hover
  | created hline hnew _ _ ih =>
    obtain ⟨htold, hrest⟩ := ih ((Ledger.follows_withReview _ _ _).overFrom hover)
    rw [due_new hline hnew, ← hrest]
    exact ⟨htold, rfl⟩
  | refused _ _ hanswer => exact absurd hanswer (hover.not_refused (Nat.le_refl _))
  | stopped _ _ hanswer => exact absurd hanswer (hover.not_refused (Nat.le_refl _))

/-- When a single use fails and that ends the posting, the comments made are the
first ones of those due. -/
theorem Posting.first_due (h : Posting head fs seen report l cs r l') {k : Nat} {fault stop : Fault}
    (honce : l.refusals = .once k fault) (hr : r = .error stop) :
    ∃ rest, due fs seen = cs ++ rest := by
  induction h with
  | done => exact absurd hr (by simp)
  | noLine hline _ ih => rw [due_noLine hline]; exact ih honce hr
  | present hline hin _ ih => rw [due_present hline hin]; exact ih honce hr
  | created hline hnew _ _ ih =>
    obtain ⟨rest, hrest⟩ := ih honce hr
    rw [due_new hline hnew, hrest]
    exact ⟨rest, rfl⟩
  | @refused f _ line _ _ l _ _ _ _ _ _ hanswer hrest =>
    -- the one fault is used up, so the rest would end with a report
    have hk : l.calls.size = k := by
      unfold Ledger.answer at hanswer
      rw [honce, Refusals.of_once] at hanswer
      by_cases hk : l.calls.size = k
      · exact hk
      · rw [if_neg hk] at hanswer
        exact absurd hanswer (by simp)
    have hover : (l.noted (.createReviewComment (lineComment f line) head)).refusals.OverFrom
        (l.noted (.createReviewComment (lineComment f line) head)).calls.size := by
      unfold Ledger.noted
      rw [Array.size_push, hk]
      exact honce ▸ Refusals.overFrom_once k fault
    obtain ⟨⟨told, htold⟩, _⟩ := hrest.all_due hover
    exact absurd (htold.symm.trans hr) (by simp)
  | stopped => exact ⟨_, rfl⟩

end Posting

/-! ## How far a run gets -/

/-- How far a run has come that started from the ledger `l`: the summary is put,
and the comments `cs` are made, numbered from `next` on. -/
structure Progress (body : String) (l : Ledger) (action : SummaryAction) (next : Int)
    (cs : List LineComment) (l' : Ledger) : Prop where
  summary : Summarized body l.issueComments l.nextId action l'.issueComments next
  reviews : l'.reviewComments = l.reviewComments ++ numbered next cs
  nextId : l'.nextId = next + cs.length

/-- The comments of two ledgers are the same. -/
structure SameComments (l l' : Ledger) : Prop where
  issues : l'.issueComments = l.issueComments
  reviews : l'.reviewComments = l.reviewComments
  nextId : l'.nextId = l.nextId

/-- Comments of the shape that is listed; no two comments on the whole have one
number. -/
structure AreListed (l : Ledger) : Prop where
  issues : AreIssues l.issueComments
  reviews : ∀ c ∈ l.reviewComments, IsReview c

theorem LineRun.all_due {head : Json} {fs : List Finding} {report : ReconcileReport}
    {l l' : Ledger} {cs : List LineComment} {r : Except Fault ReconcileReport}
    {seen : List Location} (h : LineRun head fs report l cs r l')
    (hover : l.refusals.OverFrom l.calls.size) (hseen : ownLocations l.reviewComments = .ok seen) :
    cs = due fs seen ∧ ∃ told, r = .ok told ∧ told.summary = report.summary ∧
      told.created = report.created + cs.length := by
  cases h with
  | nothing hfs => rw [hfs]; exact ⟨rfl, _, rfl, rfl, rfl⟩
  | unlisted _ hlist => exact absurd hlist (hover.not_refused (Nat.le_refl _))
  | posted _ _ hown hposting =>
    obtain rfl := Except.ok.inj (hown.symm.trans hseen)
    obtain ⟨⟨told, htold⟩, hcs⟩ :=
      hposting.all_due ((Ledger.follows_noted l .listReviewComments).overFrom hover)
    obtain ⟨hcount, hsummary⟩ := hposting.told htold
    exact ⟨hcs, told, htold, hsummary, hcount⟩

theorem LineRun.first_due {head : Json} {fs : List Finding} {report : ReconcileReport}
    {l l' : Ledger} {cs : List LineComment} {r : Except Fault ReconcileReport}
    {seen : List Location} {k : Nat} {fault stop : Fault} (h : LineRun head fs report l cs r l')
    (honce : l.refusals = .once k fault) (hr : r = .error stop)
    (hseen : ownLocations l.reviewComments = .ok seen) : ∃ rest, due fs seen = cs ++ rest := by
  cases h with
  | nothing => exact absurd hr (by simp)
  | unlisted => exact ⟨_, rfl⟩
  | posted _ _ hown hposting =>
    obtain rfl := Except.ok.inj (hown.symm.trans hseen)
    exact hposting.first_due honce hr

section Runs

variable (gap : Int) (result : ReviewResult) (pr : PullRequest) (w : World Ledger)
  {seen : List Location}

/-- A run is stopped before it does anything, or it puts the summary and goes on
to the line comments. -/
theorem reconcile_parts (hlisted : AreListed w.outside) :
    (∃ fault, ((reconcile wholeStore gap result pr).runOn w).1 = .error fault ∧
        SameComments w.outside ((reconcile wholeStore gap result pr).runOn w).2.outside ∧
        ¬ w.outside.refusals.OverFrom w.outside.calls.size) ∨
      ∃ action next cs l, w.outside.Follows l ∧
        l.reviewComments = w.outside.reviewComments ∧
        LineRun pr.head result.blocking { summary := action } l cs
          ((reconcile wholeStore gap result pr).runOn w).1
          ((reconcile wholeStore gap result pr).runOn w).2.outside ∧
        Progress (result.summary gap) w.outside action next cs
          ((reconcile wholeStore gap result pr).runOn w).2.outside := by
  obtain ⟨s, v, hsummary, hcase⟩ := reconcile_run gap result pr w hlisted.reviews
  have hrun := upsertSummary_run (result.summary gap) pr w hlisted.issues
  have hkept := upsertSummary_follows (result.summary gap) pr w
  rw [hsummary] at hrun hkept
  cases hrun with
  | refused hissues hnext hnot =>
    rcases hcase with ⟨fault, _, hout⟩ | ⟨action, cs, haction, _⟩
    · rw [hout]
      exact Or.inl ⟨fault, rfl, ⟨hissues, hkept.2, hnext⟩, hnot⟩
    · exact absurd haction (by simp)
  | @put action _ hput =>
    rcases hcase with ⟨fault, hfault, _⟩ | ⟨action', cs, haction, hlines⟩
    · exact absurd hfault (by simp)
    -- the line comments are numbered from where putting the summary has left off
    obtain rfl := Except.ok.inj haction
    refine Or.inr ⟨action, v.outside.nextId, cs, v.outside, hkept.1, hkept.2, hlines, ?_, ?_,
      hlines.nextId⟩
    · rw [hlines.issueComments]
      exact hput
    · rw [hlines.reviewComments, hkept.2]

/-- A run in which nothing is refused puts the summary and makes all comments due. -/
theorem reconcile_complete (hlisted : AreListed w.outside)
    (hover : w.outside.refusals.OverFrom w.outside.calls.size)
    (hseen : ownLocations w.outside.reviewComments = .ok seen) :
    ∃ report next, ((reconcile wholeStore gap result pr).runOn w).1 = .ok report ∧
      report.created = (due result.blocking seen).length ∧
      Progress (result.summary gap) w.outside report.summary next (due result.blocking seen)
        ((reconcile wholeStore gap result pr).runOn w).2.outside := by
  rcases reconcile_parts gap result pr w hlisted with
    ⟨_, _, _, hnot⟩ | ⟨action, next, cs, l, hfollows, hsame, hlines, hprogress⟩
  · exact absurd hover hnot
  · obtain ⟨rfl, told, htold, hsummary, hcount⟩ :=
      hlines.all_due (hfollows.overFrom hover) (hsame ▸ hseen)
    refine ⟨told, next, htold, hcount.trans (Nat.zero_add _), ?_⟩
    rw [hsummary]
    exact hprogress

/-- A run that a single refusal stops has changed nothing, or it has put the
summary and made the first ones of the comments due. -/
theorem reconcile_broken (hlisted : AreListed w.outside) {k : Nat} {fault stop : Fault}
    (honce : w.outside.refusals = .once k fault)
    (hseen : ownLocations w.outside.reviewComments = .ok seen)
    (hstop : ((reconcile wholeStore gap result pr).runOn w).1 = .error stop) :
    SameComments w.outside ((reconcile wholeStore gap result pr).runOn w).2.outside ∨
      ∃ action next cs rest, due result.blocking seen = cs ++ rest ∧
        Progress (result.summary gap) w.outside action next cs
          ((reconcile wholeStore gap result pr).runOn w).2.outside := by
  rcases reconcile_parts gap result pr w hlisted with
    ⟨_, _, hsame, _⟩ | ⟨action, next, cs, l, hfollows, hsame, hlines, hprogress⟩
  · exact Or.inl hsame
  · obtain ⟨rest, hrest⟩ :=
      hlines.first_due (hfollows.refusals.trans honce) hstop (hsame ▸ hseen)
    exact Or.inr ⟨action, next, cs, rest, hrest, hprogress⟩

end Runs

/-! ## One run after another -/

section Progress

variable {body : String} {fs : List Finding} {l l₁ l₂ : Ledger} {action action₁ : SummaryAction}
  {next next₁ : Int} {cs rest : List LineComment} {seen seen₁ : List Location}

theorem SameComments.progress (hsame : SameComments l l₁)
    (h : Progress body l₁ action next cs l₂) : Progress body l action next cs l₂ where
  summary := by rw [← hsame.issues, ← hsame.nextId]; exact h.summary
  reviews := by rw [← hsame.reviews]; exact h.reviews
  nextId := h.nextId

theorem SameComments.areListed (hsame : SameComments l l₁) (h : AreListed l) : AreListed l₁ where
  issues := by rw [hsame.issues]; exact h.issues
  reviews := by rw [hsame.reviews]; exact h.reviews

/-- Runs that have come equally far have left the same comments. -/
theorem Progress.unique (h : Progress body l action next cs l₁)
    (h' : Progress body l action₁ next₁ cs l₂) : SameComments l₁ l₂ := by
  obtain ⟨_, hissues, hnext⟩ := h.summary.unique h'.summary
  exact ⟨hissues.symm, by rw [h'.reviews, h.reviews, hnext], by rw [h'.nextId, h.nextId, hnext]⟩

theorem Progress.areListed (h : Progress body l action next cs l₁) (hlisted : AreListed l)
    (hfresh : ∀ c ∈ l.issueComments, c.getD "id" ≠ .int l.nextId) : AreListed l₁ := by
  refine ⟨h.summary.areIssues hlisted.issues hfresh, ?_⟩
  rw [h.reviews]
  exact isReview_behind hlisted.reviews next cs

/-- **A complete run behind a broken one comes as far as a complete run alone**,
and finds the summary there. -/
theorem Progress.resume (hbody : marker.toList <:+: body.toList)
    (hreviews : ∀ c ∈ l.reviewComments, IsReview c) (hfs : ∀ f ∈ fs, Placeable f)
    (hseen : ownLocations l.reviewComments = .ok seen) (hsplit : due fs seen = cs ++ rest)
    (h : Progress body l action next cs l₁)
    (hseen₁ : ownLocations l₁.reviewComments = .ok seen₁)
    (h₁ : Progress body l₁ action₁ next₁ (due fs seen₁) l₂) :
    action₁ = .updated ∧ due fs seen₁ = rest ∧
      Progress body l action next (due fs seen) l₂ := by
  have hmade : ∀ c ∈ cs, ∃ f line, Placeable f ∧ f.line = some line ∧ c = lineComment f line := by
    intro c hc
    have hin : c ∈ due fs seen := hsplit ▸ List.mem_append_left rest hc
    obtain ⟨f, hf, line, hline, hcomment⟩ := mem_due fs seen hin
    exact ⟨f, line, hfs f hf, hline, hcomment⟩
  rw [h.reviews] at hseen₁
  have hdue : due fs seen₁ = rest :=
    due_resume fs seen seen₁ cs rest hsplit (mem_seen_after hreviews hmade hseen hseen₁)
  -- the summary is there already, so it is put into the same comment again
  obtain ⟨haction, hissues, hnext⟩ := h₁.summary.unique (h.summary.again hbody l₁.nextId)
  refine ⟨haction, hdue, ?_, ?_, ?_⟩
  · rw [hissues]
    exact h.summary
  · rw [h₁.reviews, hdue, hnext, h.nextId, h.reviews, hsplit, numbered_append, List.append_assoc]
  · rw [h₁.nextId, hdue, hnext, h.nextId, hsplit, List.length_append]
    omega

end Progress

section Published

variable (gap : Int) (result : ReviewResult) (pr : PullRequest) {w : World Ledger}
  {seen : List Location}

theorem published_complete (hlisted : AreListed w.outside)
    (hseen : ownLocations w.outside.reviewComments = .ok seen) :
    ∃ report next v, published gap result pr {} w = (.ok report, v) ∧
      report.created = (due result.blocking seen).length ∧
      Progress (result.summary gap) w.outside report.summary next (due result.blocking seen)
        v.outside := by
  have hsame : SameComments w.outside
      (withLedger w { w.outside with refusals := {} }).outside := ⟨rfl, rfl, rfl⟩
  obtain ⟨report, next, hreport, hcount, hprogress⟩ :=
    reconcile_complete gap result pr (withLedger w { w.outside with refusals := {} })
      (hsame.areListed hlisted) (Refusals.overFrom_none _) hseen
  exact ⟨report, next, _, Prod.ext hreport rfl, hcount, hsame.progress hprogress⟩

theorem published_broken (hlisted : AreListed w.outside) {k : Nat} {fault stop : Fault}
    {v : World Ledger} (hseen : ownLocations w.outside.reviewComments = .ok seen)
    (hstop : published gap result pr (.once k fault) w = (.error stop, v)) :
    SameComments w.outside v.outside ∨
      ∃ action next cs rest, due result.blocking seen = cs ++ rest ∧
        Progress (result.summary gap) w.outside action next cs v.outside := by
  have hsame : SameComments w.outside
      (withLedger w { w.outside with refusals := .once k fault }).outside := ⟨rfl, rfl, rfl⟩
  have hbroken := reconcile_broken gap result pr
    (withLedger w { w.outside with refusals := .once k fault }) (hsame.areListed hlisted) rfl hseen
    (congrArg Prod.fst hstop)
  have hv : ((reconcile wholeStore gap result pr).runOn
      (withLedger w { w.outside with refusals := .once k fault })).2 = v := congrArg Prod.snd hstop
  rw [hv] at hbroken
  rcases hbroken with hnothing | ⟨action, next, cs, rest, hrest, hprogress⟩
  · exact Or.inl ⟨hnothing.issues, hnothing.reviews, hnothing.nextId⟩
  · exact Or.inr ⟨action, next, cs, rest, hrest, hsame.progress hprogress⟩

/-- **An interrupted run is repaired by running again.** Let a run be stopped by
the failure of any one use. A run without failures behind it leaves the comments
that it would have left alone, and one more changes nothing: it makes no comment
and finds its summary there. -/
theorem reconcile_repairs (hlisted : AreListed w.outside)
    (hfresh : ∀ c ∈ w.outside.issueComments, c.getD "id" ≠ .int w.outside.nextId)
    (hplaceable : ∀ f ∈ result.blocking, Placeable f) (k : Nat) (fault stop : Fault)
    (broken : World Ledger)
    (hstop : published gap result pr (.once k fault) w = (.error stop, broken)) :
    ∃ (alone mended settled : World Ledger) (told told' again : ReconcileReport),
      published gap result pr {} w = (.ok told, alone) ∧
      published gap result pr {} broken = (.ok told', mended) ∧
      published gap result pr {} mended = (.ok again, settled) ∧
      SameComments alone.outside mended.outside ∧
      SameComments mended.outside settled.outside ∧
      again.created = 0 ∧ again.summary = .updated := by
  have hbody := marker_infix_summary result gap
  have hread : ∀ v : World Ledger, AreListed v.outside →
      ∃ places, ownLocations v.outside.reviewComments = .ok places := by
    intro v hv
    obtain ⟨places, hplaces, _⟩ := mem_ownLocations v.outside.reviewComments hv.reviews
    exact ⟨places, hplaces⟩
  obtain ⟨seen, hseen⟩ := hread w hlisted
  obtain ⟨told, next, alone, halone, -, hdone⟩ := published_complete gap result pr hlisted hseen
  -- whatever the broken run did, the next one comes as far as a run alone
  obtain ⟨told', mended, hmended, action, next', hrepaired⟩ :
      ∃ told' mended, published gap result pr {} broken = (.ok told', mended) ∧
        ∃ action next', Progress (result.summary gap) w.outside action next'
          (due result.blocking seen) mended.outside := by
    rcases published_broken gap result pr hlisted hseen hstop with
      hsame | ⟨action, next₁, cs, rest, hsplit, hprogress⟩
    · obtain ⟨told', next', mended, hmended, -, hprogress⟩ := published_complete
        gap result pr (hsame.areListed hlisted) (hsame.reviews ▸ hseen)
      exact ⟨told', mended, hmended, _, next', hsame.progress hprogress⟩
    · have hlisted₁ := hprogress.areListed hlisted hfresh
      obtain ⟨seen₁, hseen₁⟩ := hread broken hlisted₁
      obtain ⟨told', next₂, mended, hmended, -, hprogress₁⟩ := published_complete
        gap result pr hlisted₁ hseen₁
      obtain ⟨_, _, hresumed⟩ :=
        hprogress.resume hbody hlisted.reviews hplaceable hseen hsplit hseen₁ hprogress₁
      exact ⟨told', mended, hmended, action, next₁, hresumed⟩
  -- and behind a run that has done everything nothing is left
  have hlisted' := hrepaired.areListed hlisted hfresh
  obtain ⟨seen', hseen'⟩ := hread mended hlisted'
  obtain ⟨again, next₃, settled, hsettled, hcount, hprogress'⟩ := published_complete
    gap result pr hlisted' hseen'
  obtain ⟨hupdated, hnone, hagain⟩ :=
    hrepaired.resume hbody hlisted.reviews hplaceable hseen (List.append_nil _).symm hseen'
      hprogress'
  refine ⟨alone, mended, settled, told, told', again, halone, hmended, hsettled,
    hdone.unique hrepaired, hrepaired.unique hagain, ?_, hupdated⟩
  rw [hcount, hnone]
  rfl

end Published

/-! A run that is stopped at the second of the comments it has to make. -/

theorem areListed_talkedOver : AreListed talkedOver.outside where
  issues := areIssues_talkedOver
  reviews := isReview_talkedOver

theorem reconcile_repairs_fourPlaces :
    ∃ broken : World Ledger,
      published 2 fourPlaces default (.once 4 (.missingKey "id")) talkedOver
          = (.error (.missingKey "id"), broken) ∧
        broken.outside.reviewComments.length = 2 ∧
        ∃ (alone mended settled : World Ledger) (told told' again : ReconcileReport),
          published 2 fourPlaces default {} talkedOver = (.ok told, alone) ∧
          published 2 fourPlaces default {} broken = (.ok told', mended) ∧
          published 2 fourPlaces default {} mended = (.ok again, settled) ∧
          SameComments alone.outside mended.outside ∧
          SameComments mended.outside settled.outside ∧
          again.created = 0 ∧ again.summary = .updated := by
  have hstop : published 2 fourPlaces default (.once 4 (.missingKey "id")) talkedOver
      = (.error (.missingKey "id"),
          (published 2 fourPlaces default (.once 4 (.missingKey "id")) talkedOver).2) := rfl
  refine ⟨_, hstop, by decide +kernel, ?_⟩
  exact reconcile_repairs 2 fourPlaces default areListed_talkedOver
    (by simp [talkedOver, Json.getD, Json.get?]) placeable_fourPlaces 4 _ _ _ hstop

end PullReview.Rehearsal
