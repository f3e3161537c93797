import Mathlib.Data.List.Basic
import Mathlib.Data.List.Count
import PullReview.Proofs.Comments.Rerun
import PullReview.Proofs.Comments.Scripted

/-!
# Accounting for line comments

A run of `reconcile` is asked to put comments on lines and some of them are refused, any
subset. It ends with a report all the same, and an account can be given of it: for every
blocking finding what became of it, in order (`Fate`). The account decides at each finding
from those before it (`Comes`): what has no line is passed over, a place that has a comment
is left, and at any other place the store is asked, also where it refused before. The
report, the comments and the uses of the store are all read off the account.

The step is one rule of `Posting`, the run is `Posting.accounted`. If the refusals are those on
certain paths, the comments made are those of a run without refusals, less those on the paths
(`Accounted.spared`): the memory of the two runs differs on these paths only.

Main statement: `reconcile_accounts`.
-/

namespace PullReview.Rehearsal

open Act Reconcile Comment

/-! ## Fates -/

/-- What becomes of a finding. -/
inductive Fate where
  | noLine
  | present
  | created
  | failed
  deriving DecidableEq, Repr

/-- Whether the store is asked for a comment. -/
def Fate.isAsked : Fate → Bool
  | .created | .failed => true
  | .noLine | .present => false

/-- How many findings come to one of some fates. -/
def tally (p : Fate → Bool) (fates : List (Finding × Fate)) : Nat := fates.countP fun x => p x.2

/-- The comments for the findings that come to one of some fates. -/
def commentsOf (p : Fate → Bool) (fates : List (Finding × Fate)) : List LineComment :=
  fates.filterMap fun x => if p x.2 then x.1.line.map (lineComment x.1) else none

/-- A place has a comment: from the start, or by one of the findings before. -/
def Taken (places : List Location) (before : List (Finding × Fate)) (path : String) (line : Int) :
    Prop :=
  (.str path, line) ∈ places ∨
    ∃ g, (g, Fate.created) ∈ before ∧ g.file = path ∧ g.line = some line

/-- What a finding comes to behind others. The store is asked as often as there are findings
that ask it; `refuse` tells which of the times it refuses. -/
inductive Comes (places : List Location) (refuse : Nat → Option ApiFault)
    (before : List (Finding × Fate)) (f : Finding) : Fate → Prop
  | noLine : f.line = none → Comes places refuse before f .noLine
  | present {line} : f.line = some line → Taken places before f.file line →
      Comes places refuse before f .present
  | created {line} : f.line = some line → ¬ Taken places before f.file line →
      refuse (tally Fate.isAsked before) = none → Comes places refuse before f .created
  | failed {line cause} : f.line = some line → ¬ Taken places before f.file line →
      refuse (tally Fate.isAsked before) = some cause → Comes places refuse before f .failed

/-- Behind others every finding comes to its fate. -/
def Accounted (places : List Location) (refuse : Nat → Option ApiFault)
    (before fates : List (Finding × Fate)) : Prop :=
  ∀ i f fate, fates[i]? = some (f, fate) → Comes places refuse (before ++ fates.take i) f fate

section Fates

variable {p : Fate → Bool} {f : Finding} {fate : Fate} {fates before : List (Finding × Fate)}
  {places : List Location} {refuse : Nat → Option ApiFault}

theorem tally_cons : tally p ((f, fate) :: fates) = tally p fates + if p fate then 1 else 0 :=
  List.countP_cons

theorem tally_behind :
    tally p (before ++ [(f, fate)]) = tally p before + if p fate then 1 else 0 := by
  unfold tally
  rw [List.countP_append, List.countP_singleton]

theorem commentsOf_cons (p : Fate → Bool) :
    commentsOf p ((f, fate) :: fates) = commentsOf p [(f, fate)] ++ commentsOf p fates :=
  List.filterMap_append (l := [(f, fate)])

theorem commentsOf_skip (h : p fate = false) :
    commentsOf p ((f, fate) :: fates) = commentsOf p fates := by
  unfold commentsOf
  rw [List.filterMap_cons_none (by rw [h]; rfl)]

theorem commentsOf_take {line : Int} (h : p fate = true) (hline : f.line = some line) :
    commentsOf p ((f, fate) :: fates) = lineComment f line :: commentsOf p fates := by
  unfold commentsOf
  rw [List.filterMap_cons_some (by rw [h, hline]; rfl)]

theorem taken_behind {path : String} {line : Int} :
    Taken places (before ++ [(f, fate)]) path line ↔
      Taken places before path line ∨ fate = .created ∧ f.file = path ∧ f.line = some line := by
  unfold Taken
  rw [or_assoc]
  refine or_congr_right ?_
  constructor
  · rintro ⟨g, hg, hplace⟩
    rcases List.mem_append.mp hg with hold | hnew
    · exact Or.inl ⟨g, hold, hplace⟩
    · obtain ⟨rfl, rfl⟩ := Prod.mk.inj (List.mem_singleton.mp hnew)
      exact Or.inr ⟨rfl, hplace⟩
  · rintro (⟨g, hg, hplace⟩ | ⟨rfl, hplace⟩)
    · exact ⟨g, List.mem_append_left _ hg, hplace⟩
    · exact ⟨f, List.mem_append_right _ (List.mem_singleton_self _), hplace⟩

theorem taken_behind_of_ne (h : fate ≠ .created) {path : String} {line : Int} :
    Taken places (before ++ [(f, fate)]) path line ↔ Taken places before path line := by
  rw [taken_behind]
  exact or_iff_left fun hplace => h hplace.1

/-- A finding that gets a comment takes its place. -/
theorem taken_behind_created {seen : List Location} {line : Int} (hline : f.line = some line)
    {path : String} {n : Int} (hseen : (.str path, n) ∈ seen ↔ Taken places before path n) :
    (.str path, n) ∈ (.str f.file, line) :: seen ↔
      Taken places (before ++ [(f, .created)]) path n := by
  rw [taken_behind, List.mem_cons, hseen, hline, or_comm]
  refine or_congr_right ?_
  rw [Prod.mk.injEq, Json.str.injEq, Option.some.injEq, eq_comm, eq_comm (a := n)]
  exact (and_iff_right rfl).symm

theorem accounted_nil : Accounted places refuse before [] := fun _ _ _ h => absurd h (by simp)

/-- An account is given finding after finding. -/
theorem accounted_cons :
    Accounted places refuse before ((f, fate) :: fates) ↔
      Comes places refuse before f fate ∧
        Accounted places refuse (before ++ [(f, fate)]) fates := by
  constructor
  · intro h
    refine ⟨?_, fun i g fate' hg => ?_⟩
    · have hfirst := h 0 f fate rfl
      rwa [List.take_zero, List.append_nil] at hfirst
    · have hrest := h (i + 1) g fate' hg
      rwa [List.take_succ_cons, List.append_cons] at hrest
  · rintro ⟨hfirst, hrest⟩ i g fate' hg
    cases i with
    | zero =>
      obtain ⟨rfl, rfl⟩ := Prod.mk.inj (Option.some.inj hg)
      rw [List.take_zero, List.append_nil]
      exact hfirst
    | succ i =>
      rw [List.take_succ_cons, List.append_cons]
      exact hrest i g fate' hg

end Fates

/-! ## What an account adds up to -/

section Sums

variable {p : Fate → Bool} {fates before : List (Finding × Fate)} {places : List Location}
  {refuse : Nat → Option ApiFault}

/-- Every finding that asks for a comment has a line, so there are as many comments as such
findings. -/
theorem Accounted.length_commentsOf (hp : p .noLine = false) :
    ∀ {fates before}, Accounted places refuse before fates →
      (commentsOf p fates).length = tally p fates := by
  intro fates
  induction fates with
  | nil => intro before _; rfl
  | cons x fates ih =>
    obtain ⟨f, fate⟩ := x
    intro before h
    obtain ⟨hcomes, hrest⟩ := accounted_cons.mp h
    rw [tally_cons, ← ih hrest]
    cases hfate : p fate with
    | false => rw [commentsOf_skip hfate]; rfl
    | true =>
      cases hcomes with
      | noLine => exact absurd hfate (by simp [hp])
      | present hline | created hline | failed hline =>
        rw [commentsOf_take hfate hline, List.length_cons]
        rfl

/-- What is asked for behind a finding is asked for in its turn. -/
theorem Comes.asked_behind {f : Finding} {fate : Fate} (h : Comes places refuse before f fate)
    {k : Nat} {c : LineComment} (hk : (commentsOf Fate.isAsked fates)[k]? = some c) :
    (commentsOf Fate.isAsked ((f, fate) :: fates))[(if fate.isAsked then 1 else 0) + k]?
      = some c := by
  have hasked : (commentsOf Fate.isAsked [(f, fate)]).length = if fate.isAsked then 1 else 0 :=
    ((accounted_cons.mpr ⟨h, accounted_nil⟩).length_commentsOf rfl).trans
      (tally_cons.trans (Nat.zero_add _))
  rw [commentsOf_cons, ← hasked, List.getElem?_append_right (Nat.le_add_right _ _),
    Nat.add_sub_cancel_left]
  exact hk

/-- Of the findings with a line none is left out of the sums. -/
theorem Accounted.total :
    ∀ {fates before}, Accounted places refuse before fates →
      tally (· = .created) fates + tally (· = .present) fates + tally (· = .failed) fates
        = (fates.map Prod.fst).countP (·.line.isSome) := by
  intro fates
  induction fates with
  | nil => intro before _; rfl
  | cons x fates ih =>
    obtain ⟨f, fate⟩ := x
    intro before h
    obtain ⟨hcomes, hrest⟩ := accounted_cons.mp h
    rw [List.map_cons, List.countP_cons, ← ih hrest, tally_cons, tally_cons, tally_cons]
    cases hcomes with
    | noLine hline => simp [hline]
    | present hline | created hline | failed hline => simp [hline]; omega

/-- A finding fails for each time that the store refuses. -/
theorem Accounted.tally_failed :
    ∀ {fates before}, Accounted places refuse before fates →
      tally (· = .failed) fates
        = (List.range' (tally Fate.isAsked before) (tally Fate.isAsked fates)).countP fun k =>
            (refuse k).isSome := by
  intro fates
  induction fates with
  | nil => intro before _; rfl
  | cons x fates ih =>
    obtain ⟨f, fate⟩ := x
    intro before h
    obtain ⟨hcomes, hrest⟩ := accounted_cons.mp h
    rw [tally_cons, ih hrest, tally_cons, tally_behind]
    cases hcomes with
    | noLine | present => rfl
    | created _ _ hanswer | failed _ _ hanswer =>
      simp [Fate.isAsked, List.range'_succ, hanswer]

end Sums

/-! ## Posting gives an account -/

/-- From some use on the uses are refused in turn, or not. -/
def Refusals.InTurn (refusals : Refusals) (start : Nat) (refuse : Nat → Option ApiFault) : Prop :=
  ∀ k call, refusals.of (start + k) call = (refuse k).map .api

/-- A report that some more findings are told in. -/
def reported (report : ReconcileReport) (fates : List (Finding × Fate)) : ReconcileReport :=
  { report with
    created := report.created + tally (· = .created) fates
    skipped := report.skipped + tally (· = .present) fates
    failed := report.failed + tally (· = .failed) fates }

section Posting

variable {head : Json} {places : List Location} {refuse : Nat → Option ApiFault}
  {before fates : List (Finding × Fate)} {f : Finding} {fate : Fate} {fs : List Finding}
  {report report' : ReconcileReport} {l l₁ l' : Ledger} {cs cs' : List LineComment}
  {r : Except Fault ReconcileReport}

/-- An account of posting, behind others: the findings, how it ends, what is made and what the
store is asked for. -/
structure IsAccount (head : Json) (places : List Location) (refuse : Nat → Option ApiFault)
    (before : List (Finding × Fate)) (fs : List Finding) (report : ReconcileReport) (l : Ledger)
    (cs : List LineComment) (r : Except Fault ReconcileReport) (l' : Ledger)
    (fates : List (Finding × Fate)) : Prop where
  findings : fates.map Prod.fst = fs
  accounted : Accounted places refuse before fates
  report : r = .ok (reported report fates)
  made : cs = commentsOf (· = .created) fates
  asked : l'.calls.toList
    = l.calls.toList ++ (commentsOf Fate.isAsked fates).map (.createReviewComment · head)

/-- An account is given of one more finding in front. -/
theorem IsAccount.cons
    (h : IsAccount head places refuse (before ++ [(f, fate)]) fs report' l₁ cs r l' fates)
    (hcomes : Comes places refuse before f fate)
    (hreport : reported report' fates = reported report ((f, fate) :: fates))
    (hmade : cs' = commentsOf (· = .created) [(f, fate)] ++ cs)
    (hasked : l₁.calls.toList = l.calls.toList
      ++ (commentsOf Fate.isAsked [(f, fate)]).map (.createReviewComment · head)) :
    IsAccount head places refuse before (f :: fs) report l cs' r l' ((f, fate) :: fates) where
  findings := by rw [List.map_cons, h.findings]
  accounted := accounted_cons.mpr ⟨hcomes, h.accounted⟩
  report := by rw [h.report, hreport]
  made := by rw [hmade, h.made]; exact (commentsOf_cons _).symm
  asked := by rw [commentsOf_cons, h.asked, hasked, List.map_append, List.append_assoc]

/-- Behind some findings posting has the places in mind that are taken, and has asked the store
as often as it did. -/
structure Recalls (places : List Location) (start : Nat) (before : List (Finding × Fate))
    (seen : List Location) (l : Ledger) : Prop where
  seen : ∀ path line, (.str path, line) ∈ seen ↔ Taken places before path line
  asked : l.calls.size = start + tally Fate.isAsked before

section Recalls

variable {start : Nat} {seen : List Location} (h : Recalls places start before seen l)
include h

theorem Recalls.unasked (f : Finding) (fate : Fate) (hfate : fate.isAsked = false) :
    Recalls places start (before ++ [(f, fate)]) seen l where
  seen path line := by
    have hne : fate ≠ .created := fun hcreated => by rw [hcreated] at hfate; exact nomatch hfate
    rw [h.seen, taken_behind_of_ne hne]
  asked := by rw [h.asked, tally_behind, hfate]; rfl

theorem Recalls.failed (f : Finding) (call : StoreCall) :
    Recalls places start (before ++ [(f, .failed)]) seen (l.noted call) where
  seen path line := by rw [h.seen, taken_behind_of_ne (by decide)]
  asked := by rw [tally_behind, ← Nat.add_assoc, ← h.asked]; exact Array.size_push ..

theorem Recalls.created {line : Int} (hline : f.line = some line) (head : Json) (c : LineComment) :
    Recalls places start (before ++ [(f, .created)]) ((.str f.file, line) :: seen)
      (l.withReview head c) where
  seen path n := taken_behind_created hline (h.seen path n)
  asked := by rw [tally_behind, ← Nat.add_assoc, ← h.asked]; exact Array.size_push ..

/-- What the store answers next. -/
theorem Recalls.answer_eq (hturn : l.refusals.InTurn start refuse) (head : Json)
    (c : LineComment) :
    l.answer head c = (refuse (tally Fate.isAsked before)).map .api := by
  unfold Ledger.answer
  rw [h.asked]
  exact hturn _ _

end Recalls

/-- **Posting gives an account.** -/
theorem Posting.isAccount {seen : List Location} (h : Posting head fs seen report l cs r l')
    {start : Nat} (hturn : l.refusals.InTurn start refuse)
    (hrecalls : Recalls places start before seen l) :
    ∃ fates, IsAccount head places refuse before fs report l cs r l' fates := by
  induction h generalizing before with
  | done => exact ⟨[], rfl, accounted_nil, rfl, rfl, (List.append_nil _).symm⟩
  | noLine hline _ ih =>
    obtain ⟨fates, hfates⟩ := ih hturn (hrecalls.unasked _ .noLine rfl)
    exact ⟨_, hfates.cons (.noLine hline) (by simp [reported, tally_cons]) rfl
      (List.append_nil _).symm⟩
  | present hline hin _ ih =>
    obtain ⟨fates, hfates⟩ := ih hturn (hrecalls.unasked _ .present rfl)
    refine ⟨_, hfates.cons (.present hline ((hrecalls.seen _ _).mp hin)) ?_ rfl
      (List.append_nil _).symm⟩
    simp [reported, tally_cons, Nat.add_assoc, Nat.add_comm 1]
  | created hline hnew hfree _ ih =>
    obtain ⟨fates, hfates⟩ := ih hturn (hrecalls.created hline _ _)
    have hanswer := (hrecalls.answer_eq hturn _ _).symm.trans hfree
    refine ⟨_, hfates.cons (.created hline (mt (hrecalls.seen _ _).mpr hnew)
      (Option.map_eq_none_iff.mp hanswer)) ?_ ?_ ?_⟩
    · simp [reported, tally_cons, Nat.add_assoc, Nat.add_comm 1]
    · rw [commentsOf_take rfl hline]
      rfl
    · rw [commentsOf_take rfl hline]
      exact Array.toList_push
  | refused hline hnew hrefused _ ih =>
    obtain ⟨fates, hfates⟩ := ih hturn (hrecalls.failed _ _)
    obtain ⟨cause, hcause, _⟩ :=
      Option.map_eq_some_iff.mp ((hrecalls.answer_eq hturn _ _).symm.trans hrefused)
    refine ⟨_, hfates.cons (.failed hline (mt (hrecalls.seen _ _).mpr hnew) hcause) ?_ rfl ?_⟩
    · simp [reported, tally_cons, Nat.add_assoc, Nat.add_comm 1]
    · rw [commentsOf_take rfl hline]
      exact Array.toList_push
  | stopped _ _ hrefused hother =>
    -- the store has no other faults
    obtain ⟨cause, _, hcause⟩ :=
      Option.map_eq_some_iff.mp ((hrecalls.answer_eq hturn _ _).symm.trans hrefused)
    exact absurd hcause.symm (hother cause)

end Posting

/-! ## Refusals on certain paths -/

section Spared

variable {F : String → Bool} {places : List Location} {refuse : Nat → Option ApiFault}

/-- A finding on one of the paths leaves the comments on the other paths that are due. -/
theorem filter_due_spared {f : Finding} (hf : F f.file = true) (fs : List Finding)
    (seen : List Location) :
    ∃ seen',
      (∀ path line, F path = false → ((.str path, line) ∈ seen' ↔ (.str path, line) ∈ seen)) ∧
      (due (f :: fs) seen).filter (fun c => !F c.path)
        = (due fs seen').filter fun c => !F c.path := by
  cases hline : f.line with
  | none => exact ⟨seen, fun _ _ _ => Iff.rfl, by rw [due_noLine hline]⟩
  | some line =>
    by_cases hin : (.str f.file, line) ∈ seen
    · exact ⟨seen, fun _ _ _ => Iff.rfl, by rw [due_present hline hin]⟩
    · refine ⟨(.str f.file, line) :: seen, fun path n hpath => ?_, ?_⟩
      · rw [List.mem_cons]
        refine or_iff_right fun hsame => ?_
        rw [Json.str.inj (Prod.mk.inj hsame).1, hf] at hpath
        exact absurd hpath (by decide)
      · have hdrop : (!F (lineComment f line).path) = false := by
          show (!F f.file) = false
          rw [hf]
          rfl
        rw [due_new hline hin, List.filter_cons, hdrop]
        rfl

/-- **Refusals on certain paths cost the comments on these paths and no others.** -/
theorem Accounted.spared :
    ∀ {fates before : List (Finding × Fate)} {seen : List Location},
      Accounted places refuse before fates →
      (∀ k c, (commentsOf Fate.isAsked fates)[k]? = some c →
        ((refuse (tally Fate.isAsked before + k)).isSome = true ↔ F c.path = true)) →
      (∀ path line, F path = false →
        ((.str path, line) ∈ seen ↔ Taken places before path line)) →
      commentsOf (· = .created) fates
        = (due (fates.map Prod.fst) seen).filter fun c => !F c.path := by
  intro fates
  induction fates with
  | nil => intro before seen _ _ _; rfl
  | cons x fates ih =>
    obtain ⟨f, fate⟩ := x
    intro before seen h hF hseen
    obtain ⟨hcomes, hrest⟩ := accounted_cons.mp h
    have hlater : ∀ k c, (commentsOf Fate.isAsked fates)[k]? = some c →
        ((refuse (tally Fate.isAsked (before ++ [(f, fate)]) + k)).isSome = true
          ↔ F c.path = true) := by
      intro k c hk
      rw [tally_behind, Nat.add_assoc]
      exact hF _ c (hcomes.asked_behind hk)
    -- without a comment of its own a finding changes what is in mind on the paths at most
    have hpassed : fate ≠ .created → ∀ seen',
        (∀ path line, F path = false → ((.str path, line) ∈ seen' ↔ (.str path, line) ∈ seen)) →
        commentsOf (· = .created) ((f, fate) :: fates)
          = (due (fates.map Prod.fst) seen').filter fun c => !F c.path := by
      intro hne seen' hseen'
      rw [commentsOf_skip (decide_eq_false hne)]
      refine ih hrest hlater fun path line hpath => ?_
      rw [hseen' path line hpath, hseen path line hpath, taken_behind_of_ne hne]
    have hspared : fate ≠ .created → F f.file = true →
        commentsOf (· = .created) ((f, fate) :: fates)
          = (due (f :: fates.map Prod.fst) seen).filter fun c => !F c.path := by
      intro hne hf
      obtain ⟨seen', hseen', hdue⟩ := filter_due_spared hf (fates.map Prod.fst) seen
      rw [hdue]
      exact hpassed hne seen' hseen'
    have hfirst : ∀ {line}, f.line = some line → fate.isAsked = true →
        ((refuse (tally Fate.isAsked before)).isSome = true ↔ F f.file = true) := by
      intro line hline hfate
      exact hF 0 (lineComment f line) (by rw [commentsOf_take hfate hline]; rfl)
    rw [List.map_cons]
    cases hcomes with
    | noLine hline =>
      rw [due_noLine hline]
      exact hpassed (by decide) seen fun _ _ _ => Iff.rfl
    | present hline htaken =>
      cases hf : F f.file with
      | true => exact hspared (by decide) hf
      | false =>
        rw [due_present hline ((hseen _ _ hf).mpr htaken)]
        exact hpassed (by decide) seen fun _ _ _ => Iff.rfl
    | failed hline _ hrefused =>
      exact hspared (by decide) ((hfirst hline rfl).mp (by rw [hrefused]; rfl))
    | @created line hline hnew hfree =>
      have hf : F f.file = false := by
        rw [← Bool.not_eq_true, ← hfirst hline rfl, hfree]
        exact Bool.false_ne_true
      have hkeep : (!F (lineComment f line).path) = true := by
        show (!F f.file) = true
        rw [hf]
        rfl
      rw [due_new hline (mt (hseen _ _ hf).mp hnew), commentsOf_take rfl hline, List.filter_cons,
        if_pos hkeep]
      refine congrArg (lineComment f line :: ·) (ih hrest hlater fun path n hpath => ?_)
      exact taken_behind_created hline (hseen path n hpath)

end Spared

/-! ## The summary in front -/

/-- The summary can be put among comments: none of them has the marker, or the first one that
has it can be updated. -/
def TakesSummary (body : String) (cs : List Json) : Prop :=
  firstMarked cs = .ok none ∨
    ∃ c id found, firstMarked cs = .ok (some c) ∧ c.get? "id" = some id ∧
      Ledger.updateBody id body cs = some found

theorem exists_updateBody {n : Int} {members : List (String × Json)} (body : String)
    (hid : (Json.obj members).getD "id" = .int n) :
    ∀ {cs : List Json}, .obj members ∈ cs →
      ∃ found, Ledger.updateBody (.int n) body cs = some found := by
  intro cs
  induction cs with
  | nil => intro h; exact absurd h List.not_mem_nil
  | cons c cs ih =>
    intro h
    unfold Ledger.updateBody
    rcases List.mem_cons.mp h with rfl | hrest
    · exact ⟨_, if_pos (hasId_iff.mpr hid)⟩
    · obtain ⟨found, hfound⟩ := ih hrest
      split
      · split
        · exact ⟨_, rfl⟩
        · rw [hfound]
          exact ⟨_, rfl⟩
      · rw [hfound]
        exact ⟨_, rfl⟩

/-- Comments of the shape that is listed take the summary. -/
theorem takesSummary_of_isIssue {cs : List Json} (h : ∀ c ∈ cs, IsIssue c) (body : String) :
    TakesSummary body cs := by
  rcases firstMarked_eq cs h with ⟨hnone, _⟩ | ⟨before, c, after, rfl, _, _, hfound⟩
  · exact Or.inl hnone
  · have hin : c ∈ before ++ c :: after := List.mem_append_right _ (List.mem_cons_self ..)
    obtain ⟨n, hn⟩ := (h c hin).id
    obtain ⟨members, rfl⟩ := (h c hin).isObject
    obtain ⟨found, hupdate⟩ := exists_updateBody body hn hin
    exact Or.inr ⟨_, .int n, found, hfound, Json.get?_of_getD hn (by simp), hupdate⟩

/-- A summary that can be put is put by two uses, if these are not refused. -/
theorem upsertSummary_puts {body : String} (pr : PullRequest) {w : World Ledger}
    (hput : TakesSummary body w.outside.issueComments)
    (hlist : w.outside.refusals.of w.outside.calls.size .listIssueComments = none)
    (hfree : ∀ call, w.outside.refusals.of (w.outside.calls.size + 1) call = none) :
    ∃ action call v, (upsertSummary wholeStore body pr).runOn w = (.ok action, v) ∧
      call.lineComment? = none ∧
      v.outside.calls.toList = w.outside.calls.toList ++ [.listIssueComments, call] := by
  have hperformed : ∀ call, (w.outside.noted .listIssueComments).use call
      = ((w.outside.noted .listIssueComments).noted call).perform call := fun call =>
    Ledger.use_free (by
      show w.outside.refusals.of (w.outside.calls.push _).size call = none
      rw [Array.size_push]
      exact hfree call)
  have hcalls : ∀ call, ((w.outside.noted .listIssueComments).use call).2.calls.toList
      = w.outside.calls.toList ++ [.listIssueComments, call] := by
    intro call
    rw [Ledger.calls_use]
    simp [Ledger.noted]
  rcases hput with hnone | ⟨c, id, found, hfound, hid, hupdate⟩
  · obtain ⟨v, hv, hrun⟩ := upsertSummary_creates body pr hlist hnone
    refine ⟨.created, .createIssueComment body, v, hrun.trans ?_, rfl, ?_⟩
    · rw [hperformed]
      rfl
    · rw [hv]
      exact hcalls _
  · obtain ⟨v, hv, hrun⟩ := upsertSummary_updates body pr hlist hfound hid
    refine ⟨.updated, .updateIssueComment id body, v, hrun.trans ?_, rfl, ?_⟩
    · have hperform : (((w.outside.noted .listIssueComments).noted
          (.updateIssueComment id body)).perform (.updateIssueComment id body)).1
          = .ok found.1 := by
        unfold Ledger.perform Ledger.noted
        dsimp only
        rw [hupdate]
      rw [hperformed, hperform]
      rfl
    · rw [hv]
      exact hcalls _

/-! ## Whole runs -/

/-- The first three uses are not refused, those behind them are in turn: they are the ones that
ask for line comments. -/
structure Refusals.OnLines (refusals : Refusals) (n : Nat) (refuse : Nat → Option ApiFault) :
    Prop where
  free : ∀ i call, i < 3 → refusals.of (n + i) call = none
  inTurn : refusals.InTurn (n + 3) refuse

theorem Refusals.onLines_none (n : Nat) : Refusals.OnLines {} n fun _ => none where
  free _ call _ := Refusals.overFrom_none 0 _ call (Nat.zero_le _)
  inTurn _ call := Refusals.overFrom_none 0 _ call (Nat.zero_le _)

/-- The refusals of line comments in turn, when `n` uses were noted before. -/
def Refusals.ofLines (n : Nat) (refuse : Nat → Option ApiFault) : Refusals where
  atUse := fun i => if i < n + 3 then none else (refuse (i - (n + 3))).map .api

theorem Refusals.onLines_ofLines (n : Nat) (refuse : Nat → Option ApiFault) :
    (Refusals.ofLines n refuse).OnLines n refuse := by
  have hof : ∀ i call, (Refusals.ofLines n refuse).of i call
      = if i < n + 3 then none else (refuse (i - (n + 3))).map .api := by
    intro i call
    have hkind : (Refusals.ofLines n refuse).ofKind call = none := by cases call <;> rfl
    rw [Refusals.of, hkind, Option.none_or]
    rfl
  refine ⟨fun i call hi => ?_, fun k call => ?_⟩
  · rw [hof, if_pos (Nat.add_lt_add_left hi n)]
  · rw [hof, if_neg (Nat.not_lt.mpr (Nat.le_add_right _ _)), Nat.add_sub_cancel_left]

theorem lineComments_append (calls more : List StoreCall) :
    lineComments (calls ++ more) = lineComments calls ++ lineComments more :=
  List.filterMap_append

theorem lineComments_create (head : Json) (cs : List LineComment) :
    lineComments (cs.map (.createReviewComment · head)) = cs := by
  unfold lineComments
  rw [List.filterMap_map]
  exact List.filterMap_some

/-- An account of a run from one ledger to another, in which the store refuses line comments in
turn: `fates` are those of the findings `fs`, `places` what had a comment at the start. -/
structure Accounts (refuse : Nat → Option ApiFault) (fs : List Finding) (places : List Location)
    (l l' : Ledger) (report : ReconcileReport) (fates : List (Finding × Fate)) : Prop where
  findings : fates.map Prod.fst = fs
  accounted : Accounted places refuse [] fates
  created : report.created = tally (· = .created) fates
  skipped : report.skipped = tally (· = .present) fates
  failed : report.failed = tally (· = .failed) fates
  /-- what the store is asked for, and how often it refuses -/
  asked : lineComments (l'.calls.toList.drop l.calls.size) = commentsOf Fate.isAsked fates
  refused : report.failed
    = (List.range (commentsOf Fate.isAsked fates).length).countP fun k => (refuse k).isSome
  /-- what is added to the comments, and how much that is -/
  added : ∃ next, l'.reviewComments
    = l.reviewComments ++ numbered next (commentsOf (· = .created) fates)
  made : report.created = (commentsOf (· = .created) fates).length
  total : report.created + report.skipped + report.failed = fs.countP (·.line.isSome)

section Runs

variable {refuse : Nat → Option ApiFault} {places : List Location} {fs : List Finding}

/-- An account of the posting is one of the run, if the uses in front are not for line
comments. -/
theorem IsAccount.accounts {head : Json} {action : SummaryAction} {l₀ l l' : Ledger}
    {cs : List LineComment} {r : Except Fault ReconcileReport} {fates : List (Finding × Fate)}
    (h : IsAccount head places refuse [] fs { summary := action } l cs r l' fates)
    {calls : List StoreCall} (hcalls : l.calls.toList = l₀.calls.toList ++ calls)
    (hnone : lineComments calls = []) {next : Int}
    (hreviews : l'.reviewComments = l₀.reviewComments ++ numbered next cs) :
    ∃ report, r = .ok report ∧ Accounts refuse fs places l₀ l' report fates := by
  have hasked : (commentsOf Fate.isAsked fates).length = tally Fate.isAsked fates :=
    h.accounted.length_commentsOf rfl
  have hfailed : tally (· = .failed) fates
      = (List.range (commentsOf Fate.isAsked fates).length).countP fun k => (refuse k).isSome := by
    rw [hasked, List.range_eq_range']
    exact h.accounted.tally_failed
  refine ⟨_, h.report, ?_⟩
  refine ⟨h.findings, h.accounted, Nat.zero_add _, Nat.zero_add _, Nat.zero_add _, ?_,
    (Nat.zero_add _).trans hfailed, ⟨next, h.made ▸ hreviews⟩,
    (Nat.zero_add _).trans (h.accounted.length_commentsOf rfl).symm, ?_⟩
  · rw [h.asked, hcalls, List.append_assoc, ← Array.length_toList, List.drop_left,
      lineComments_append, lineComments_create, hnone, List.nil_append]
  · rw [← h.findings, ← h.accounted.total]
    simp [reported]

theorem LineRun.accounts {head : Json} {action : SummaryAction} {l₀ l l' : Ledger}
    {cs : List LineComment} {r : Except Fault ReconcileReport}
    (h : LineRun head fs { summary := action } l cs r l') {calls : List StoreCall}
    (hcalls : l.calls.toList = l₀.calls.toList ++ calls) (hlength : calls.length = 2)
    (hnone : lineComments calls = []) (hreviews : l.reviewComments = l₀.reviewComments)
    (hlines : l.refusals.OnLines l₀.calls.size refuse)
    (hplaces : ownLocations l.reviewComments = .ok places) :
    ∃ report fates, r = .ok report ∧ Accounts refuse fs places l₀ l' report fates := by
  have hsize : l.calls.size = l₀.calls.size + 2 := by
    rw [← Array.length_toList, hcalls, List.length_append, hlength, Array.length_toList]
  have hbehind : l'.reviewComments = l₀.reviewComments ++ numbered l.nextId cs := by
    rw [← hreviews]
    exact h.reviewComments
  cases h with
  | nothing hfs =>
    rw [hfs]
    have haccount : IsAccount head places refuse [] [] { summary := action } l [] _ l [] :=
      ⟨rfl, accounted_nil, rfl, rfl, (List.append_nil _).symm⟩
    obtain ⟨report, hreport, haccounts⟩ := haccount.accounts hcalls hnone hbehind
    exact ⟨report, [], hreport, haccounts⟩
  | unlisted _ hlist =>
    have hfree := hlines.free 2 .listReviewComments (by decide)
    rw [← hsize] at hfree
    exact absurd (hlist.symm.trans hfree) (by simp)
  | posted _ _ hown hposting =>
    obtain rfl := Except.ok.inj (hplaces.symm.trans hown)
    have hrecalls : Recalls places (l₀.calls.size + 3) [] places (l.noted .listReviewComments) :=
      ⟨fun path line => by simp [Taken], by
        show (l.calls.push _).size = _
        rw [Array.size_push, hsize]
        rfl⟩
    obtain ⟨fates, hfates⟩ := hposting.isAccount hlines.inTurn hrecalls
    have hcalls' : (l.noted .listReviewComments).calls.toList
        = l₀.calls.toList ++ (calls ++ [.listReviewComments]) := by
      rw [← List.append_assoc, ← hcalls]
      exact Array.toList_push
    obtain ⟨report, hreport, haccounts⟩ := hfates.accounts hcalls'
      (by rw [lineComments_append, hnone]; rfl) hbehind
    exact ⟨report, fates, hreport, haccounts⟩

/-- A run in which only line comments are refused ends with a report, and with an account. -/
theorem published_accounts (gap : Int) (result : ReviewResult) (pr : PullRequest)
    {w : World Ledger} (hreviews : ∀ c ∈ w.outside.reviewComments, IsReview c)
    (hput : TakesSummary (result.summary gap) w.outside.issueComments) {refusals : Refusals}
    (hlines : refusals.OnLines w.outside.calls.size refuse)
    (hplaces : ownLocations w.outside.reviewComments = .ok places) :
    ∃ report v fates, published gap result pr refusals w = (.ok report, v) ∧
      Accounts refuse result.blocking places w.outside v.outside report fates := by
  obtain ⟨action, call, v, hrun, hcall, hcalls⟩ := upsertSummary_puts pr
    (w := withLedger w { w.outside with refusals := refusals }) hput
    (hlines.free 0 _ (by decide)) fun call => hlines.free 1 call (by decide)
  have hkept := upsertSummary_follows (result.summary gap) pr
    (withLedger w { w.outside with refusals := refusals })
  rw [hrun] at hkept
  obtain ⟨s, v', hsummary, hcase⟩ := reconcile_run gap result pr
    (withLedger w { w.outside with refusals := refusals }) hreviews
  obtain ⟨rfl, rfl⟩ := Prod.mk.inj (hrun.symm.trans hsummary)
  rcases hcase with ⟨fault, hfault, _⟩ | ⟨action', cs, haction, hlineRun⟩
  · exact absurd hfault (by simp)
  · have hnone : lineComments [.listIssueComments, call] = [] := by
      rw [lineComments, List.filterMap_cons_none rfl, List.filterMap_cons_none hcall]
      rfl
    have hrefusals : v.outside.refusals.OnLines w.outside.calls.size refuse := by
      rw [hkept.1.refusals]
      exact hlines
    obtain ⟨report, fates, hreport, haccounts⟩ : ∃ report fates,
        (published gap result pr refusals w).1 = .ok report ∧
        Accounts refuse result.blocking places w.outside
          (published gap result pr refusals w).2.outside report fates :=
      hlineRun.accounts hcalls rfl hnone hkept.2 hrefusals (by rw [hkept.2]; exact hplaces)
    exact ⟨report, _, fates, Prod.ext hreport rfl, haccounts⟩

/-- **Refusals of line comments are isolated, and accounted for.** Let the summary be put and
the comments be listed, and let any of the line comments be refused. The run ends with a report,
and there is an account of it: the findings with a line are those told as created, skipped or
failed, a comment is asked for where none has been from the start or is made earlier, and only
there. If the refusals are those on certain paths, the comments made are those of a run in which
nothing is refused, less the ones on these paths. -/
theorem reconcile_accounts (gap : Int) (result : ReviewResult) (pr : PullRequest)
    {w : World Ledger} (hreviews : ∀ c ∈ w.outside.reviewComments, IsReview c)
    (hput : TakesSummary (result.summary gap) w.outside.issueComments)
    (refuse : Nat → Option ApiFault) :
    ∃ places report v fates, ownLocations w.outside.reviewComments = .ok places ∧
      published gap result pr (.ofLines w.outside.calls.size refuse) w = (.ok report, v) ∧
      Accounts refuse result.blocking places w.outside v.outside report fates ∧
      ∀ F : String → Bool,
        (∀ k c, (lineComments (v.outside.calls.toList.drop w.outside.calls.size))[k]? = some c →
          ((refuse k).isSome = true ↔ F c.path = true)) →
        ∃ report' v' all next next',
          published gap result pr {} w = (.ok report', v') ∧
          v'.outside.reviewComments = w.outside.reviewComments ++ numbered next' all ∧
          v.outside.reviewComments
            = w.outside.reviewComments ++ numbered next (all.filter fun c => !F c.path) := by
  obtain ⟨places, hplaces, _⟩ := mem_ownLocations w.outside.reviewComments hreviews
  obtain ⟨report, v, fates, hrun, haccounts⟩ := published_accounts gap result pr hreviews hput
    (Refusals.onLines_ofLines w.outside.calls.size refuse) hplaces
  refine ⟨places, report, v, fates, hplaces, hrun, haccounts, fun F hF => ?_⟩
  obtain ⟨report', v', fates', hrun', haccounts'⟩ := published_accounts gap result pr hreviews hput
    (Refusals.onLines_none w.outside.calls.size) hplaces
  have hseen : ∀ path line, (.str path, line) ∈ places ↔ Taken places [] path line := by
    simp [Taken]
  obtain ⟨next, hadded⟩ := haccounts.added
  obtain ⟨next', hadded'⟩ := haccounts'.added
  rw [haccounts.asked] at hF
  have hspared := haccounts.accounted.spared (fun k c hk => by rw [← hF k c hk]; simp [tally])
    fun path line _ => hseen path line
  -- a run without refusals is one with refusals on no path
  have hdue := haccounts'.accounted.spared (F := fun _ => false) (by simp) fun path line _ =>
    hseen path line
  refine ⟨report', v', _, next, next', hrun', hadded', ?_⟩
  rw [hadded, hspared, hdue, haccounts.findings, haccounts'.findings]
  simp

end Runs

/-! Two findings at one place, where the first comment is refused. -/

def onePlaceTwice : ReviewResult :=
  let findings := [blockingAt "a.ts" (some 1), { blockingAt "a.ts" (some 1) with rule := "TS2304" },
    blockingAt "a.ts" (some 1), blockingAt "b.ts" (some 2), blockingAt "c.ts" none]
  { blocking := findings, warnings := [], all := findings }

def firstRefused (k : Nat) : Option ApiFault :=
  if k = 0 then some ⟨"no such line", 422, .null⟩ else none

theorem reconcile_accounts_onePlaceTwice :
    (published 2 onePlaceTwice default (.ofLines 0 firstRefused) talkedOver).1
        = .ok { summary := .created, created := 1, skipped := 2, failed := 1 } ∧
      ∃ places report v fates, ownLocations talkedOver.outside.reviewComments = .ok places ∧
        published 2 onePlaceTwice default (.ofLines 0 firstRefused) talkedOver = (.ok report, v) ∧
        Accounts firstRefused onePlaceTwice.blocking places talkedOver.outside v.outside report
          fates := by
  refine ⟨rfl, ?_⟩
  obtain ⟨places, report, v, fates, hplaces, hrun, haccounts, _⟩ :=
    reconcile_accounts 2 onePlaceTwice default isReview_talkedOver
      (takesSummary_of_isIssue areIssues_talkedOver.shape _) firstRefused
  exact ⟨places, report, v, fates, hplaces, hrun, haccounts⟩

end PullReview.Rehearsal
