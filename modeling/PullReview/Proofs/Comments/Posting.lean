import PullReview.Comments.Reconcile
import PullReview.Proofs.Comments.Listed
import PullReview.Proofs.Comments.Uses

/-!
# Posting line comments

`Posting` says, one rule for each thing that can happen at a finding, how posting
goes through the findings: which ledger it starts from, which comments it makes,
how it ends and which ledger it leaves. Every run of `postLineComments` goes that
way (`postLineComments_posting`), and everything else is shown by induction on it.
-/

namespace PullReview.Rehearsal

open Act Reconcile Comment

/-- The ledger with one line comment more. -/
def Ledger.withReview (l : Ledger) (head : Json) (c : LineComment) : Ledger :=
  { l.noted (.createReviewComment c head) with
    reviewComments := l.reviewComments ++ [Ledger.listedReview l.nextId c]
    nextId := l.nextId + 1 }

theorem Ledger.follows_withReview (l : Ledger) (head : Json) (c : LineComment) :
    l.Follows (l.withReview head c) :=
  have h := Ledger.follows_noted l (.createReviewComment c head)
  ⟨h.refusals, h.calls⟩

/-- What the ledger does when it is asked for a line comment. -/
def Ledger.answer (l : Ledger) (head : Json) (c : LineComment) : Option Fault :=
  l.refusals.of l.calls.size (.createReviewComment c head)

/-- Going through findings, given the places that have a comment and a report,
makes some comments and ends with a report or a fault. -/
inductive Posting (head : Json) : List Finding → List Location → ReconcileReport → Ledger →
    List LineComment → Except Fault ReconcileReport → Ledger → Prop
  | done {seen report l} : Posting head [] seen report l [] (.ok report) l
  | noLine {f fs seen report l cs r l'} : f.line = none →
      Posting head fs seen report l cs r l' →
      Posting head (f :: fs) seen report l cs r l'
  | present {f fs line seen report l cs r l'} : f.line = some line →
      (.str f.file, line) ∈ seen →
      Posting head fs seen { report with skipped := report.skipped + 1 } l cs r l' →
      Posting head (f :: fs) seen report l cs r l'
  | created {f fs line seen report l cs r l'} : f.line = some line →
      (.str f.file, line) ∉ seen →
      l.answer head (lineComment f line) = none →
      Posting head fs ((.str f.file, line) :: seen) { report with created := report.created + 1 }
        (l.withReview head (lineComment f line)) cs r l' →
      Posting head (f :: fs) seen report l (lineComment f line :: cs) r l'
  | refused {f fs line seen report l cause cs r l'} : f.line = some line →
      (.str f.file, line) ∉ seen →
      l.answer head (lineComment f line) = some (.api cause) →
      Posting head fs seen { report with failed := report.failed + 1 }
        (l.noted (.createReviewComment (lineComment f line) head)) cs r l' →
      Posting head (f :: fs) seen report l cs r l'
  | stopped {f fs line seen report l fault} : f.line = some line →
      (.str f.file, line) ∉ seen →
      l.answer head (lineComment f line) = some fault →
      (∀ cause, fault ≠ .api cause) →
      Posting head (f :: fs) seen report l [] (.error fault)
        (l.noted (.createReviewComment (lineComment f line) head))

theorem contains_place_iff {seen : List Location} {path : String} {line : Int} :
    seen.contains (.str path, line) = true ↔ (.str path, line) ∈ seen := by
  rw [List.contains_iff_exists_mem_beq]
  constructor
  · rintro ⟨place, hin, hbeq⟩
    obtain ⟨hpath, hline⟩ := Bool.and_eq_true_iff.mp hbeq
    have hplace : (.str path, line) = place :=
      Prod.ext (Json.beq_str_iff.mp hpath) (eq_of_beq hline)
    exact hplace ▸ hin
  · intro hin
    exact ⟨_, hin, Bool.and_eq_true_iff.mpr ⟨Json.beq_str_iff.mpr rfl, beq_self_eq_true line⟩⟩

section Asking

variable {w : World Ledger} {pr : PullRequest} {c : LineComment}

theorem create_performed (h : w.outside.answer pr.head c = none) :
    (attempt (wholeStore.createReviewComment pr c)).runOn w
      = (.ok (.ok (Ledger.listedReview w.outside.nextId c)),
          withLedger w (w.outside.withReview pr.head c)) := by
  have hasked : (wholeStore.createReviewComment pr c).runOn w
      = (.ok (Ledger.listedReview w.outside.nextId c),
          withLedger w (w.outside.withReview pr.head c)) := by
    show (storeUse (.createReviewComment c pr.head)).runOn w = _
    rw [runOn_storeUse, Ledger.use_free h]
    rfl
  rw [runOn_attempt, hasked]

theorem create_refused {fault : Fault} (h : w.outside.answer pr.head c = some fault) :
    (attempt (wholeStore.createReviewComment pr c)).runOn w
      = (.ok (.error fault),
          withLedger w (w.outside.noted (.createReviewComment c pr.head))) := by
  have hasked : (wholeStore.createReviewComment pr c).runOn w
      = (.error fault, withLedger w (w.outside.noted (.createReviewComment c pr.head))) := by
    show (storeUse (.createReviewComment c pr.head)).runOn w = _
    rw [runOn_storeUse, Ledger.use_refused h]
  rw [runOn_attempt, hasked]

end Asking

/-- **Every run of posting goes by the rules.** -/
theorem postLineComments_posting (pr : PullRequest) :
    ∀ (fs : List Finding) (seen : List Location) (report : ReconcileReport) (w : World Ledger),
      ∃ cs, Posting pr.head fs seen report w.outside cs
        ((postLineComments wholeStore pr fs seen report).runOn w).1
        ((postLineComments wholeStore pr fs seen report).runOn w).2.outside := by
  intro fs
  induction fs with
  | nil => intro seen report w; exact ⟨[], .done⟩
  | cons f fs ih =>
    intro seen report w
    -- what is written to the journal first does not matter
    have hlogged : ∀ (level : Level) (message : String) (seen : List Location)
        (report : ReconcileReport) (w : World Ledger), ∃ cs,
        Posting pr.head fs seen report w.outside cs
          (((logFor pr).write level message >>= fun _ =>
            postLineComments wholeStore pr fs seen report).runOn w).1
          (((logFor pr).write level message >>= fun _ =>
            postLineComments wholeStore pr fs seen report).runOn w).2.outside := by
      intro level message seen report w
      obtain ⟨v, hv, hrun⟩ := runOn_write_bind (logFor pr) level message
        (postLineComments wholeStore pr fs seen report) w
      rw [hrun, ← hv]
      exact ih seen report v
    unfold postLineComments
    cases hline : f.line with
    | none =>
      obtain ⟨cs, h⟩ := ih seen report w
      exact ⟨cs, .noLine hline h⟩
    | some line =>
      dsimp only
      split
      · next hseen =>
        obtain ⟨cs, h⟩ := hlogged .debug _ seen _ w
        exact ⟨cs, .present hline (contains_place_iff.mp hseen) h⟩
      · next hseen =>
        have hnew : (.str f.file, line) ∉ seen := fun h => hseen (contains_place_iff.mpr h)
        cases hanswer : w.outside.answer pr.head (lineComment f line) with
        | none =>
          rw [runOn_bind_ok (create_performed hanswer)]
          obtain ⟨cs, h⟩ := hlogged .info _ ((.str f.file, line) :: seen) _
            (withLedger w (w.outside.withReview pr.head (lineComment f line)))
          exact ⟨_, .created hline hnew hanswer h⟩
        | some fault =>
          rw [runOn_bind_ok (create_refused hanswer)]
          split
          · next hok => exact absurd hok (by simp)
          · next cause hcause =>
            obtain rfl := Except.error.inj hcause
            obtain ⟨cs, h⟩ := hlogged .warning _ seen _
              (withLedger w (w.outside.noted (.createReviewComment (lineComment f line) pr.head)))
            exact ⟨cs, .refused hline hnew hanswer h⟩
          · next other hother hthrown =>
            obtain rfl := Except.error.inj hthrown
            exact ⟨[], .stopped hline hnew hanswer hother⟩

/-! ## The comments that are made -/

/-- Comments as they are listed, numbered from `next` on. -/
def numbered (next : Int) : List LineComment → List Json
  | [] => []
  | c :: cs => Ledger.listedReview next c :: numbered (next + 1) cs

theorem numbered_append (ds : List LineComment) :
    ∀ (cs : List LineComment) (next : Int),
      numbered next (cs ++ ds) = numbered next cs ++ numbered (next + cs.length) ds := by
  intro cs
  induction cs with
  | nil => intro next; simp [numbered]
  | cons c cs ih =>
    intro next
    have hnext : next + 1 + (cs.length : Int) = next + ((c :: cs).length : Nat) := by
      rw [List.length_cons]
      omega
    rw [List.cons_append, numbered, numbered, ih, hnext, List.cons_append]

theorem mem_numbered {d : Json} :
    ∀ {cs : List LineComment} {next : Int}, d ∈ numbered next cs →
      ∃ id, ∃ c ∈ cs, d = Ledger.listedReview id c := by
  intro cs
  induction cs with
  | nil => intro next h; exact absurd h List.not_mem_nil
  | cons c cs ih =>
    intro next h
    rcases List.mem_cons.mp h with rfl | hrest
    · exact ⟨next, c, List.mem_cons_self .., rfl⟩
    · obtain ⟨id, e, he, hd⟩ := ih hrest
      exact ⟨id, e, List.mem_cons_of_mem _ he, hd⟩

theorem exists_mem_numbered {c : LineComment} :
    ∀ {cs : List LineComment} (next : Int), c ∈ cs →
      ∃ id, Ledger.listedReview id c ∈ numbered next cs := by
  intro cs
  induction cs with
  | nil => intro next h; exact absurd h List.not_mem_nil
  | cons e cs ih =>
    intro next h
    rcases List.mem_cons.mp h with rfl | hrest
    · exact ⟨next, List.mem_cons_self ..⟩
    · obtain ⟨id, hin⟩ := ih (next + 1) hrest
      exact ⟨id, List.mem_cons_of_mem _ hin⟩

section Listed

variable (id : Int) (c : LineComment)

theorem getD_path_listed : (Ledger.listedReview id c).getD "path" = .str c.path := by
  simp [Ledger.listedReview, Json.getD, Json.get?]

theorem getD_line_listed : (Ledger.listedReview id c).getD "line" = .int c.line := by
  simp [Ledger.listedReview, Json.getD, Json.get?]

theorem getD_body_listed : (Ledger.listedReview id c).getD "body" = .str c.body := by
  simp [Ledger.listedReview, Json.getD, Json.get?]

/-- What is made is read back as it was made. -/
theorem isReview_listed : IsReview (Ledger.listedReview id c) where
  isObject := ⟨_, rfl⟩
  body := Or.inr ⟨c.body, getD_body_listed id c⟩
  user := Or.inr ⟨[("type", .str "Bot")], by
    simp [Ledger.listedReview, Ledger.author, Json.getD, Json.get?]⟩
  path := ⟨c.path, getD_path_listed id c⟩
  line := Or.inr ⟨c.line, getD_line_listed id c⟩
  originalLine := Or.inl (by simp [Ledger.listedReview, Json.getD, Json.get?])

/-- Comments that are made do not spoil the shape of those listed. -/
theorem isReview_behind {comments : List Json} (h : ∀ d ∈ comments, IsReview d) (next : Int)
    (cs : List LineComment) : ∀ d ∈ comments ++ numbered next cs, IsReview d := by
  intro d hd
  rcases List.mem_append.mp hd with hold | hnew
  · exact h d hold
  · obtain ⟨id, c, _, rfl⟩ := mem_numbered hnew
    exact isReview_listed id c

theorem place_listed (hline : c.line ≠ 0) :
    place (Ledger.listedReview id c) = (.str c.path, .int c.line) := by
  rw [place_eq_line (getD_line_listed id c) hline, getD_path_listed]

end Listed

/-- A comment for a finding has the marker. -/
theorem own_listed (id : Int) (f : Finding) (line : Int) :
    Own (Ledger.listedReview id (lineComment f line)) := by
  refine Or.inl ⟨_, getD_body_listed id (lineComment f line), ?_⟩
  unfold lineComment
  rw [String.append_assoc, String.toList_append]
  exact (List.prefix_append _ _).isInfix

/-! ## What posting does -/

section Posting

variable {head : Json} {fs : List Finding} {seen : List Location}
  {report : ReconcileReport} {l l' : Ledger} {cs : List LineComment}
  {r : Except Fault ReconcileReport}

theorem Posting.follows (h : Posting head fs seen report l cs r l') : l.Follows l' := by
  induction h with
  | done => exact Ledger.Follows.refl _
  | noLine _ _ ih => exact ih
  | present _ _ _ ih => exact ih
  | created _ _ _ _ ih => exact (Ledger.follows_withReview _ _ _).trans ih
  | refused _ _ _ _ ih => exact (Ledger.follows_noted _ _).trans ih
  | stopped => exact Ledger.follows_noted _ _

/-- The comments that are made are put behind the others. -/
theorem Posting.reviewComments (h : Posting head fs seen report l cs r l') :
    l'.reviewComments = l.reviewComments ++ numbered l.nextId cs := by
  induction h with
  | done | stopped => exact (List.append_nil _).symm
  | noLine _ _ ih => exact ih
  | present _ _ _ ih => exact ih
  | refused _ _ _ _ ih => exact ih
  | created _ _ _ _ ih => rw [ih, Ledger.withReview, List.append_assoc]; rfl

theorem Posting.nextId (h : Posting head fs seen report l cs r l') :
    l'.nextId = l.nextId + cs.length := by
  induction h with
  | done | stopped => exact (Int.add_zero _).symm
  | noLine _ _ ih => exact ih
  | present _ _ _ ih => exact ih
  | refused _ _ _ _ ih => exact ih
  | created _ _ _ _ ih =>
    rw [ih, Ledger.withReview, List.length_cons]
    dsimp only
    omega

theorem Posting.issueComments (h : Posting head fs seen report l cs r l') :
    l'.issueComments = l.issueComments := by
  induction h with
  | done | stopped => rfl
  | noLine _ _ ih => exact ih
  | present _ _ _ ih => exact ih
  | refused _ _ _ _ ih => exact ih
  | created _ _ _ _ ih => exact ih

/-- The report counts the comments that are made, and keeps what it said of the
summary. -/
theorem Posting.told (h : Posting head fs seen report l cs r l') {told : ReconcileReport}
    (hr : r = .ok told) :
    told.created = report.created + cs.length ∧ told.summary = report.summary := by
  induction h with
  | done => obtain rfl := Except.ok.inj hr; exact ⟨rfl, rfl⟩
  | noLine _ _ ih => exact ih hr
  | present _ _ _ ih => exact ih hr
  | refused _ _ _ _ ih => exact ih hr
  | created _ _ _ _ ih =>
    obtain ⟨hcount, hsummary⟩ := ih hr
    refine ⟨?_, hsummary⟩
    rw [hcount, List.length_cons]
    dsimp only
    omega
  | stopped => exact absurd hr (by simp)

/-- Every comment is made for one of the findings. -/
theorem Posting.source (h : Posting head fs seen report l cs r l') :
    ∀ c ∈ cs, ∃ f ∈ fs, ∃ line, f.line = some line ∧ c = lineComment f line := by
  induction h with
  | done | stopped => exact fun c hc => absurd hc List.not_mem_nil
  | noLine _ _ ih =>
    intro c hc
    obtain ⟨f, hf, hsource⟩ := ih c hc
    exact ⟨f, List.mem_cons_of_mem _ hf, hsource⟩
  | present _ _ _ ih =>
    intro c hc
    obtain ⟨f, hf, hsource⟩ := ih c hc
    exact ⟨f, List.mem_cons_of_mem _ hf, hsource⟩
  | refused _ _ _ _ ih =>
    intro c hc
    obtain ⟨f, hf, hsource⟩ := ih c hc
    exact ⟨f, List.mem_cons_of_mem _ hf, hsource⟩
  | created hline _ _ _ ih =>
    intro c hc
    rcases List.mem_cons.mp hc with rfl | hrest
    · exact ⟨_, List.mem_cons_self .., _, hline, rfl⟩
    · obtain ⟨f, hf, hsource⟩ := ih c hrest
      exact ⟨f, List.mem_cons_of_mem _ hf, hsource⟩

/-- No comment is made at a place that has one. -/
theorem Posting.fresh (h : Posting head fs seen report l cs r l') :
    ∀ c ∈ cs, (.str c.path, c.line) ∉ seen := by
  induction h with
  | done | stopped => exact fun c hc => absurd hc List.not_mem_nil
  | noLine _ _ ih => exact ih
  | present _ _ _ ih => exact ih
  | refused _ _ _ _ ih => exact ih
  | created _ hnew _ _ ih =>
    intro c hc
    rcases List.mem_cons.mp hc with rfl | hrest
    · exact hnew
    · exact fun hseen => ih c hrest (List.mem_cons_of_mem _ hseen)

/-- No two comments are made at one place. -/
theorem Posting.distinct (h : Posting head fs seen report l cs r l') :
    cs.Pairwise fun a b => (a.path, a.line) ≠ (b.path, b.line) := by
  induction h with
  | done | stopped => exact List.Pairwise.nil
  | noLine _ _ ih => exact ih
  | present _ _ _ ih => exact ih
  | refused _ _ _ _ ih => exact ih
  | created _ _ _ hrest ih =>
    refine List.Pairwise.cons (fun c hc hsame => ?_) ih
    -- the place of the first one counts as seen for the others
    obtain ⟨hpath, hline⟩ := Prod.mk.inj hsame
    refine hrest.fresh c hc ?_
    rw [← hpath, ← hline]
    exact List.mem_cons_self ..

/-- Between two ledgers a line comment was asked for and refused. -/
def Refused (head : Json) (l l' : Ledger) (c : LineComment) : Prop :=
  ∃ i cause, l.calls.size ≤ i ∧ l'.calls[i]? = some (.createReviewComment c head) ∧
    l.refusals.of i (.createReviewComment c head) = some (.api cause)

theorem Refused.of_follows {head : Json} {l₀ l l' : Ledger} {c : LineComment} (h : l₀.Follows l)
    (hrefused : Refused head l l' c) : Refused head l₀ l' c := by
  obtain ⟨i, cause, hi, hcall, hfault⟩ := hrefused
  rw [h.refusals] at hfault
  exact ⟨i, cause, Nat.le_trans h.size_le hi, hcall, hfault⟩

/-- Posting that ends with a report leaves no finding with a line aside: its
place had a comment, or gets one, or the comment for it is refused. -/
theorem Posting.covers (h : Posting head fs seen report l cs r l') {told : ReconcileReport}
    (hr : r = .ok told) :
    ∀ f ∈ fs, ∀ line, f.line = some line →
      (.str f.file, line) ∈ seen ∨ (∃ c ∈ cs, c.path = f.file ∧ c.line = line) ∨
        Refused head l l' (lineComment f line) := by
  induction h with
  | done => exact fun f hf => absurd hf List.not_mem_nil
  | noLine hnone _ ih =>
    intro f hf line hline
    rcases List.mem_cons.mp hf with rfl | hrest
    · exact absurd (hnone.symm.trans hline) (by simp)
    · exact ih hr f hrest line hline
  | present hat hin _ ih =>
    intro f hf line hline
    rcases List.mem_cons.mp hf with rfl | hrest
    · obtain rfl := Option.some.inj (hat.symm.trans hline)
      exact Or.inl hin
    · exact ih hr f hrest line hline
  | created hat _ _ _ ih =>
    intro f hf line hline
    rcases List.mem_cons.mp hf with rfl | hrest
    · obtain rfl := Option.some.inj (hat.symm.trans hline)
      exact Or.inr (Or.inl ⟨_, List.mem_cons_self .., rfl, rfl⟩)
    · rcases ih hr f hrest line hline with hseen | ⟨c, hc, hplace⟩ | hrefused
      · -- seen later on: it was seen before, or it is the place just taken
        rcases List.mem_cons.mp hseen with hfirst | hseen
        · obtain ⟨hpath, rfl⟩ := Prod.mk.inj hfirst
          exact Or.inr (Or.inl ⟨_, List.mem_cons_self .., (Json.str.inj hpath).symm, rfl⟩)
        · exact Or.inl hseen
      · exact Or.inr (Or.inl ⟨c, List.mem_cons_of_mem _ hc, hplace⟩)
      · exact Or.inr (Or.inr (hrefused.of_follows (Ledger.follows_withReview _ _ _)))
  | refused hat _ hanswer hrest ih =>
    intro f hf line hline
    rcases List.mem_cons.mp hf with rfl | hin
    · obtain rfl := Option.some.inj (hat.symm.trans hline)
      exact Or.inr (Or.inr ⟨_, _, Nat.le_refl _, hrest.follows.getElem?_calls, hanswer⟩)
    · rcases ih hr f hin line hline with hseen | hmade | hrefused
      · exact Or.inl hseen
      · exact Or.inr (Or.inl hmade)
      · exact Or.inr (Or.inr (hrefused.of_follows (Ledger.follows_noted _ _)))
  | stopped => exact absurd hr (by simp)

end Posting

end PullReview.Rehearsal
