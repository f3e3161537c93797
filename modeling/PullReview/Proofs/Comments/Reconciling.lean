import PullReview.Proofs.Comments.Posting
import PullReview.Proofs.Comments.Summary

/-!
# Reconciling, step by step

A run of `reconcile` puts the summary and then, unless that failed, deals with
the line comments. `LineRun` has one rule for each way in which the second part
goes; `reconcile_run` takes a whole run apart.
-/

namespace PullReview.Rehearsal

open Act Reconcile Comment

/-- A run of `reconcile` on a ledger with some refusals. -/
def published (gap : Int) (result : ReviewResult) (pr : PullRequest) (refusals : Refusals)
    (w : World Ledger) : Except Fault ReconcileReport × World Ledger :=
  (reconcile wholeStore gap result pr).runOn
    (withLedger w { w.outside with refusals := refusals })

/-- Findings that a comment can be put at, and found again: not in a file without
a name, and not on a line zero. -/
def Placeable (f : Finding) : Prop := f.file ≠ "" ∧ f.line ≠ some 0

theorem Placeable.line_ne {f : Finding} {line : Int} (h : Placeable f)
    (hline : f.line = some line) : line ≠ 0 := fun hzero => h.2 (hline.trans (congrArg some hzero))

/-- How the line comments are dealt with once the summary is put. -/
inductive LineRun (head : Json) (fs : List Finding) (report : ReconcileReport) (l : Ledger) :
    List LineComment → Except Fault ReconcileReport → Ledger → Prop
  | nothing : fs = [] → LineRun head fs report l [] (.ok report) l
  | unlisted {fault} : fs ≠ [] →
      l.refusals.of l.calls.size .listReviewComments = some fault →
      LineRun head fs report l [] (.error fault) (l.noted .listReviewComments)
  | posted {seen cs r l'} : fs ≠ [] →
      l.refusals.of l.calls.size .listReviewComments = none →
      ownLocations l.reviewComments = .ok seen →
      Posting head fs seen report (l.noted .listReviewComments) cs r l' →
      LineRun head fs report l cs r l'

section LineRun

variable {head : Json} {fs : List Finding} {report : ReconcileReport} {l l' : Ledger}
  {cs : List LineComment} {r : Except Fault ReconcileReport}

theorem LineRun.reviewComments (h : LineRun head fs report l cs r l') :
    l'.reviewComments = l.reviewComments ++ numbered l.nextId cs := by
  cases h with
  | nothing | unlisted => exact (List.append_nil _).symm
  | posted _ _ _ hposting => exact hposting.reviewComments

theorem LineRun.issueComments (h : LineRun head fs report l cs r l') :
    l'.issueComments = l.issueComments := by
  cases h with
  | nothing | unlisted => rfl
  | posted _ _ _ hposting => exact hposting.issueComments

theorem LineRun.nextId (h : LineRun head fs report l cs r l') :
    l'.nextId = l.nextId + cs.length := by
  cases h with
  | nothing | unlisted => exact (Int.add_zero _).symm
  | posted _ _ _ hposting => exact hposting.nextId

end LineRun

/-- A run of `reconcile` in its two parts. -/
theorem reconcile_run (gap : Int) (result : ReviewResult) (pr : PullRequest) (w : World Ledger)
    (hreviews : ∀ c ∈ w.outside.reviewComments, IsReview c) :
    ∃ s v, (upsertSummary wholeStore (result.summary gap) pr).runOn w = (s, v) ∧
      ((∃ fault, s = .error fault ∧
          (reconcile wholeStore gap result pr).runOn w = (.error fault, v)) ∨
        ∃ action cs, s = .ok action ∧
          LineRun pr.head result.blocking { summary := action } v.outside cs
            ((reconcile wholeStore gap result pr).runOn w).1
            ((reconcile wholeStore gap result pr).runOn w).2.outside) := by
  cases hsummary : (upsertSummary wholeStore (result.summary gap) pr).runOn w with
  | mk s v =>
    refine ⟨s, v, rfl, ?_⟩
    cases s with
    | error fault => exact Or.inl ⟨fault, rfl, runOn_bind_error hsummary⟩
    | ok action =>
      refine Or.inr ⟨action, ?_⟩
      -- the summary has left the line comments, so those listed now have the shape
      have hkept := upsertSummary_follows (result.summary gap) pr w
      rw [hsummary] at hkept
      unfold reconcile
      rw [runOn_bind_ok hsummary]
      dsimp only
      split
      · next hempty =>
        exact ⟨[], rfl, .nothing (List.isEmpty_iff.mp hempty)⟩
      · next hsome =>
        have hfs : result.blocking ≠ [] := fun h => hsome (List.isEmpty_iff.mpr h)
        cases hlist : v.outside.refusals.of v.outside.calls.size .listReviewComments with
        | some fault =>
          have hstop : (wholeStore.reviewComments pr).runOn v
              = (.error fault, withLedger v (v.outside.noted .listReviewComments)) :=
            list_refused hlist
          rw [runOn_bind_error hstop]
          exact ⟨[], rfl, .unlisted hfs hlist⟩
        | none =>
          have hlisted : (wholeStore.reviewComments pr).runOn v
              = (.ok v.outside.reviewComments,
                  withLedger v (v.outside.noted .listReviewComments)) :=
            list_performed hlist rfl
          rw [runOn_bind_ok hlisted]
          obtain ⟨seen, hseen, _⟩ := mem_ownLocations v.outside.reviewComments
            (by rw [hkept.2]; exact hreviews)
          have hread : (liftM (ownLocations v.outside.reviewComments) :
              Act Ledger (List Location)).runOn
                (withLedger v (v.outside.noted .listReviewComments))
              = (.ok seen, withLedger v (v.outside.noted .listReviewComments)) := by
            rw [runOn_liftM, hseen]
          rw [runOn_bind_ok hread]
          obtain ⟨cs, hposting⟩ := postLineComments_posting pr result.blocking seen
            { summary := action } (withLedger v (v.outside.noted .listReviewComments))
          exact ⟨cs, rfl, .posted hfs hlist hseen hposting⟩

/-! ## The line comments of a whole run -/

/-- What a run makes of the line comments: it puts new ones behind those there
are, each for one of the findings, at places of their own that had none. -/
structure LinesPut (fs : List Finding) (seen : List Location) (l l' : Ledger) (next : Int)
    (cs : List LineComment) : Prop where
  reviews : l'.reviewComments = l.reviewComments ++ numbered next cs
  source : ∀ c ∈ cs, ∃ f ∈ fs, ∃ line, f.line = some line ∧ c = lineComment f line
  fresh : ∀ c ∈ cs, (.str c.path, c.line) ∉ seen
  distinct : cs.Pairwise fun a b => (a.path, a.line) ≠ (b.path, b.line)

theorem linesPut_nil {fs : List Finding} {seen : List Location} {l l' : Ledger} (next : Int)
    (h : l'.reviewComments = l.reviewComments) : LinesPut fs seen l l' next [] where
  reviews := by rw [h]; exact (List.append_nil _).symm
  source := fun _ hc => absurd hc List.not_mem_nil
  fresh := fun _ hc => absurd hc List.not_mem_nil
  distinct := List.Pairwise.nil

/-- No comment is put where an own comment stands. -/
theorem LinesPut.place_ne {fs : List Finding} {seen : List Location} {l l' : Ledger}
    {next : Int} {cs : List LineComment} (h : LinesPut fs seen l l' next cs)
    (hfs : ∀ f ∈ fs, Placeable f) (hreviews : ∀ c ∈ l.reviewComments, IsReview c)
    (hseen : ownLocations l.reviewComments = .ok seen) {c : Json} (hc : c ∈ l.reviewComments)
    (hown : Own c) {d : LineComment} (hd : d ∈ cs) : place c ≠ (.str d.path, .int d.line) := by
  intro hplace
  obtain ⟨places, hplaces, hiff⟩ := mem_ownLocations l.reviewComments hreviews
  obtain rfl := Except.ok.inj (hplaces.symm.trans hseen)
  refine h.fresh d hd ?_
  -- an own comment at the place would have been read back as seen
  obtain ⟨f, hf, line, hline, rfl⟩ := h.source d hd
  exact (hiff _ _).mpr
    ⟨(hfs f hf).1, c, hc, hown, hplace⟩

/-- The comments of placeable findings are on lines. -/
theorem LinesPut.line_ne {fs : List Finding} {seen : List Location} {l l' : Ledger}
    {next : Int} {cs : List LineComment} (h : LinesPut fs seen l l' next cs)
    (hfs : ∀ f ∈ fs, Placeable f) : ∀ c ∈ cs, c.line ≠ 0 := by
  intro c hc
  obtain ⟨f, hf, line, hline, rfl⟩ := h.source c hc
  exact (hfs f hf).line_ne hline

/-- What is put is listed as one's own, and on a line. -/
theorem LinesPut.own_listed {fs : List Finding} {seen : List Location} {l l' : Ledger}
    {next : Int} {cs : List LineComment} (h : LinesPut fs seen l l' next cs)
    (hfs : ∀ f ∈ fs, Placeable f) {c : Json} (hc : c ∈ numbered next cs) :
    Own c ∧ c.getD "line" ≠ .int 0 := by
  obtain ⟨id, d, hd, rfl⟩ := mem_numbered hc
  refine ⟨?_, ?_⟩
  · obtain ⟨f, _, line, _, rfl⟩ := h.source d hd
    exact Rehearsal.own_listed id f line
  · rw [getD_line_listed]
    exact fun hzero => h.line_ne hfs d hd (Json.int.inj hzero)

/-- **A run forgets no finding and repeats no comment**, whatever is refused. -/
theorem reconcile_lines (gap : Int) (result : ReviewResult) (pr : PullRequest)
    (w : World Ledger) (hreviews : ∀ c ∈ w.outside.reviewComments, IsReview c)
    {seen : List Location} (hseen : ownLocations w.outside.reviewComments = .ok seen) :
    ∃ next cs,
      LinesPut result.blocking seen w.outside
        ((reconcile wholeStore gap result pr).runOn w).2.outside next cs ∧
      ∀ told, ((reconcile wholeStore gap result pr).runOn w).1 = .ok told →
        ∀ f ∈ result.blocking, ∀ line, f.line = some line →
          (.str f.file, line) ∈ seen ∨ (∃ c ∈ cs, c.path = f.file ∧ c.line = line) ∨
            Refused pr.head w.outside ((reconcile wholeStore gap result pr).runOn w).2.outside
              (lineComment f line) := by
  obtain ⟨s, v, hsummary, hcase⟩ := reconcile_run gap result pr w hreviews
  have hkept := upsertSummary_follows (result.summary gap) pr w
  rw [hsummary] at hkept
  rcases hcase with ⟨fault, _, hout⟩ | ⟨action, cs, _, hlines⟩
  · rw [hout]
    exact ⟨0, [], linesPut_nil 0 hkept.2, fun told htold => absurd htold (by simp)⟩
  · -- the rules speak of variables, not of the two parts of a run
    generalize ((reconcile wholeStore gap result pr).runOn w).1 = r at hlines ⊢
    generalize ((reconcile wholeStore gap result pr).runOn w).2.outside = l at hlines ⊢
    have hreviews' : l.reviewComments
        = w.outside.reviewComments ++ numbered v.outside.nextId cs := by
      rw [← hkept.2]
      exact hlines.reviewComments
    refine ⟨v.outside.nextId, cs, ?_⟩
    cases hlines with
    | nothing hfs =>
      rw [hfs]
      exact ⟨linesPut_nil _ hkept.2, fun _ _ f hf => absurd hf List.not_mem_nil⟩
    | unlisted => exact ⟨linesPut_nil _ hkept.2, fun told htold => absurd htold (by simp)⟩
    | posted _ _ hown hposting =>
      rw [hkept.2] at hown
      obtain rfl := Except.ok.inj (hown.symm.trans hseen)
      refine ⟨⟨hreviews', hposting.source, hposting.fresh, hposting.distinct⟩, ?_⟩
      intro told htold f hf line hline
      rcases hposting.covers htold f hf line hline with hin | hmade | hrefused
      · exact Or.inl hin
      · exact Or.inr (Or.inl hmade)
      · exact Or.inr (Or.inr (hrefused.of_follows (hkept.1.trans (Ledger.follows_noted _ _))))

/-! A result with findings at four places, one of them without a line, and a pull
request with a comment at one of the others. -/

def blockingAt (file : String) (line : Option Int) : Finding where
  tool := "typecheck"
  rule := "TS2322"
  severity := .blocking
  file := file
  message := "wrong type"
  line := line

def fourPlaces : ReviewResult :=
  let findings := [blockingAt "a.ts" (some 1), blockingAt "b.ts" (some 2),
    blockingAt "c.ts" none, blockingAt "d.ts" (some 4)]
  { blocking := findings, warnings := [], all := findings }

def outdatedComment : Json :=
  .obj [("user", .obj [("type", .str "Bot")]), ("path", .str "b.ts"), ("line", .null),
    ("original_line", .int 2)]

def talkedOver : World Ledger where
  outside := {
    issueComments := [.obj [("id", .int 7), ("body", .str "Looks good.")]]
    reviewComments := [outdatedComment] }
  tree := { root := .dir [], here := [] }
  journal := {}

theorem placeable_fourPlaces : ∀ f ∈ fourPlaces.blocking, Placeable f := by
  simp [fourPlaces, Placeable, blockingAt]

theorem areIssues_talkedOver : AreIssues talkedOver.outside.issueComments := by
  refine ⟨fun c hc => ?_, by simp [talkedOver]⟩
  rw [List.mem_singleton.mp hc]
  exact ⟨⟨_, rfl⟩, ⟨7, rfl⟩, Or.inr ⟨_, rfl⟩⟩

theorem isReview_talkedOver : ∀ c ∈ talkedOver.outside.reviewComments, IsReview c := by
  intro c hc
  rw [List.mem_singleton.mp hc]
  exact ⟨⟨_, rfl⟩, Or.inl rfl, Or.inr ⟨_, rfl⟩, ⟨_, rfl⟩, Or.inl rfl, Or.inr ⟨2, rfl⟩⟩

end PullReview.Rehearsal
