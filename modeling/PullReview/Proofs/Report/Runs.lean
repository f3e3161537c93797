import Mathlib.Algebra.Ring.Nat
import Mathlib.Data.List.SplitBy
import PullReview.Proofs.Report.Merging
import PullReview.Report.Group

/-!
# Groups are runs

A finding adjoins the one in front of it if file, rule and tool are the same, both lines are
known and the second is at most `gap` behind the first. `IsCut` says of a way to cut a list
of findings into consecutive runs that two neighbours are in one run just if they adjoin.
There is one such way (`isCut_iff`), and the groups of a list are what it shows
(`FindingGroup.StandsFor`):

> `grouping_runs`: each group stands for its run, the counts add up, and a finding on a whole
> file is alone; the lines of a run in report order lie within the span of its group; a wider
> gap joins whole runs.

The groups are built along the findings with one group open. What is kept is that the open
group stands for the run read so far (`collect_standsFor`); the rest follows from the runs.
-/

namespace PullReview

namespace Finding

/-- Whether a finding right behind another one is shown together with it. -/
def adjoins (gap : Int) (f g : Finding) : Bool :=
  f.file = g.file && f.rule = g.rule && f.tool = g.tool &&
    match f.line, g.line with
    | some m, some n => n - m ≤ gap
    | _, _ => false

theorem adjoins_iff {gap : Int} {f g : Finding} :
    f.adjoins gap g = true ↔ f.file = g.file ∧ f.rule = g.rule ∧ f.tool = g.tool ∧
      ∃ m n, f.line = some m ∧ g.line = some n ∧ n - m ≤ gap := by
  unfold adjoins
  cases hf : f.line <;> cases hg : g.line <;> simp [and_assoc]

/-- What adjoins adjoins under a wider gap. -/
theorem adjoins_mono {gap wide : Int} (h : gap ≤ wide) {f g : Finding}
    (hfg : f.adjoins gap g = true) : f.adjoins wide g = true := by
  obtain ⟨hfile, hrule, htool, m, n, hm, hn, hle⟩ := adjoins_iff.mp hfg
  exact adjoins_iff.mpr ⟨hfile, hrule, htool, m, n, hm, hn, by omega⟩

end Finding

/-! ## Cutting a list into runs -/

/-- The list is cut into consecutive runs such that two neighbours are in one run if they
adjoin, and in two runs if not. -/
structure IsCut (gap : Int) (fs : List Finding) (runs : List (List Finding)) : Prop where
  whole : runs.flatten = fs
  nonempty : [] ∉ runs
  within : ∀ run ∈ runs, run.IsChain fun f g => f.adjoins gap g = true
  between : runs.IsChain fun run next =>
    ∀ f ∈ run.getLast?, ∀ g ∈ next.head?, f.adjoins gap g = false

/-- The runs of a list of findings. -/
def runsOf (gap : Int) (fs : List Finding) : List (List Finding) :=
  fs.splitBy (Finding.adjoins gap)

section Runs

variable {gap : Int} {fs : List Finding}

/-- **There is one way to cut a list into runs.** -/
theorem isCut_iff {runs : List (List Finding)} : IsCut gap fs runs ↔ runs = runsOf gap fs := by
  rw [eq_comm, runsOf, List.splitBy_eq_iff]
  have hbetween : [] ∉ runs → ((runs.IsChain fun run next =>
        ∃ ha hb, Finding.adjoins gap (run.getLast ha) (next.head hb) = false) ↔
      runs.IsChain fun run next =>
        ∀ f ∈ run.getLast?, ∀ g ∈ next.head?, f.adjoins gap g = false) := by
    intro hnil
    refine List.IsChain.iff_of_mem_imp fun run next hrun hnext => ?_
    have hrun' : run ≠ [] := fun h => hnil (h ▸ hrun)
    have hnext' : next ≠ [] := fun h => hnil (h ▸ hnext)
    simp [List.getLast?_eq_some_getLast hrun', List.head?_eq_some_head hnext', hrun', hnext']
  constructor
  · rintro ⟨hwhole, hnonempty, hwithin, hapart⟩
    exact ⟨hwhole.symm, hnonempty, hwithin, (hbetween hnonempty).mpr hapart⟩
  · rintro ⟨hwhole, hnonempty, hwithin, hapart⟩
    exact ⟨hwhole.symm, hnonempty, hwithin, (hbetween hnonempty).mp hapart⟩

theorem isCut_runsOf (gap : Int) (fs : List Finding) : IsCut gap fs (runsOf gap fs) :=
  isCut_iff.mpr rfl

/-- A finding on a whole file is a run by itself. -/
theorem eq_singleton_of_noLine {run : List Finding}
    (hrun : run.IsChain fun f g => f.adjoins gap g = true) {f : Finding} (hf : f ∈ run)
    (hline : f.line = none) : run = [f] := by
  obtain ⟨before, after, rfl⟩ := List.append_of_mem hf
  have hbefore : before = [] := by
    cases hlast : before.getLast? with
    | none => exact List.getLast?_eq_none_iff.mp hlast
    | some g =>
      have hadjoins := (List.isChain_append.mp hrun).2.2 g hlast f rfl
      obtain ⟨_, _, _, m, n, _, hn, _⟩ := Finding.adjoins_iff.mp hadjoins
      exact absurd (hline.symm.trans hn) (by simp)
  have hafter : after = [] := by
    cases after with
    | nil => rfl
    | cons g back =>
      have hadjoins := (List.isChain_cons.mp hrun.right_of_append).1 g rfl
      obtain ⟨_, _, _, m, n, hm, _, _⟩ := Finding.adjoins_iff.mp hadjoins
      exact absurd (hline.symm.trans hm) (by simp)
  rw [hbefore, hafter]
  rfl

/-- A run is a part of the list in its order. -/
theorem sublist_of_mem_runsOf {run : List Finding} (h : run ∈ runsOf gap fs) : run.Sublist fs := by
  have hsub := List.sublist_flatten_of_mem h
  rwa [(isCut_runsOf gap fs).whole] at hsub

/-- Runs are cut one by one where nothing adjoins from one list to the next. -/
theorem runsOf_flatten {parts : List (List Finding)} (hnonempty : [] ∉ parts)
    (hbetween : parts.IsChain fun part next =>
      ∀ f ∈ part.getLast?, ∀ g ∈ next.head?, f.adjoins gap g = false) :
    runsOf gap parts.flatten = (parts.map (runsOf gap)).flatten := by
  induction parts with
  | nil => rfl
  | cons part parts ih =>
    have hrest := ih (fun h => hnonempty (List.mem_cons_of_mem _ h)) hbetween.tail
    have hedge : ∀ f ∈ part.getLast?, ∀ g ∈ parts.flatten.head?, f.adjoins gap g = false := by
      intro f hf g hg
      cases parts with
      | nil => exact absurd hg (by simp)
      | cons next parts =>
        have hnext : next ≠ [] := fun h =>
          hnonempty (List.mem_cons_of_mem _ (h ▸ List.mem_cons_self ..))
        rw [List.flatten_cons, List.head?_append_of_ne_nil _ hnext] at hg
        exact (List.isChain_cons.mp hbetween).1 next rfl f hf g hg
    rw [List.flatten_cons, runsOf, List.splitBy_append hedge, List.map_cons, List.flatten_cons]
    exact congrArg (runsOf gap part ++ ·) hrest

/-- **A wider gap joins whole runs.** -/
theorem runsOf_wider {wide : Int} (h : gap ≤ wide) (fs : List Finding) :
    ((runsOf wide fs).map (runsOf gap)).flatten = runsOf gap fs ∧
      ((runsOf wide fs).map (runsOf gap)).map List.flatten = runsOf wide fs := by
  have hcut := isCut_runsOf wide fs
  constructor
  · have hapart := hcut.between.imp fun run next hrun f hf g hg =>
      Bool.eq_false_iff.mpr fun hadjoins =>
        Bool.eq_false_iff.mp (hrun f hf g hg) (Finding.adjoins_mono h hadjoins)
    rw [← runsOf_flatten hcut.nonempty hapart, hcut.whole]
  · have hwhole : ∀ run, (runsOf gap run).flatten = run := fun run => (isCut_runsOf gap run).whole
    rw [List.map_map]
    simp [Function.comp_def, hwhole]

end Runs

/-! ## Groups -/

namespace FindingGroup

/-- What a group shows of a run: file, rule and tool of all its findings, the line, message
and note of the first, the line of the last, and how many they are. -/
structure StandsFor (g : FindingGroup) (run : List Finding) : Prop where
  alike : ∀ f ∈ run, f.file = g.file ∧ f.rule = g.rule ∧ f.tool = g.tool
  first : ∃ f, run.head? = some f ∧ g.span.map Prod.fst = f.line ∧
    g.message = f.message ∧ g.note = f.note
  last : ∃ f, run.getLast? = some f ∧ g.span.map Prod.snd = f.line
  count : g.count = run.length

section StandsFor

variable {gap : Int} {g : FindingGroup} {run : List Finding} {f : Finding}

theorem standsFor_single (f : Finding) : (single f).StandsFor [f] := by
  have hspan : (single f).span.map Prod.fst = f.line ∧ (single f).span.map Prod.snd = f.line := by
    unfold single
    cases f.line <;> exact ⟨rfl, rfl⟩
  refine ⟨fun x hx => ?_, ⟨f, rfl, hspan.1, rfl, rfl⟩, ⟨f, rfl, hspan.2⟩, rfl⟩
  obtain rfl := List.mem_singleton.mp hx
  exact ⟨rfl, rfl, rfl⟩

/-- A finding goes on with a group just if it adjoins the last one of its run. -/
theorem StandsFor.continues_eq (h : g.StandsFor run) {last : Finding}
    (hlast : run.getLast? = some last) : g.continues gap f = last.adjoins gap f := by
  obtain ⟨hfile, hrule, htool⟩ := h.alike last (List.mem_of_getLast? hlast)
  obtain ⟨last', hlast', hline⟩ := h.last
  obtain rfl := Option.some.inj (hlast.symm.trans hlast')
  unfold continues Finding.adjoins
  rw [← hline, hfile, hrule, htool]
  cases f.line <;> cases g.span <;> rfl

theorem StandsFor.extend (h : g.StandsFor run) (hf : g.continues gap f = true) :
    (g.extend f).StandsFor (run ++ [f]) := by
  obtain ⟨last, hlast, hline⟩ := h.last
  obtain ⟨head, hhead, hfirst, hmessage, hnote⟩ := h.first
  rw [h.continues_eq hlast] at hf
  obtain ⟨hfile, hrule, htool, m, n, hm, hn, _⟩ := Finding.adjoins_iff.mp hf
  obtain ⟨⟨first, stop⟩, hspan, rfl⟩ := Option.map_eq_some_iff.mp (hline.trans hm)
  have hextended : (g.extend f).span = some (first, n) := by
    unfold FindingGroup.extend
    rw [hspan, hn]
  have hkeeps := h.alike last (List.mem_of_getLast? hlast)
  refine ⟨fun x hx => ?_, ⟨head, ?_, ?_, hmessage, hnote⟩, ⟨f, ?_, ?_⟩, ?_⟩
  · rcases List.mem_append.mp hx with hin | hin
    · exact h.alike x hin
    · obtain rfl := List.mem_singleton.mp hin
      exact ⟨hfile.symm.trans hkeeps.1, hrule.symm.trans hkeeps.2.1, htool.symm.trans hkeeps.2.2⟩
  · rw [List.head?_append, hhead, Option.some_or]
  · rw [hextended, ← hfirst, hspan]
    rfl
  · exact List.getLast?_concat
  · rw [hextended, hn]
    rfl
  · rw [List.length_append, ← h.count]
    rfl

end StandsFor

/-- Growing a group that stands for a run gives the groups of that run and what follows. -/
theorem collect_standsFor (gap : Int) :
    ∀ (fs : List Finding) {g : FindingGroup} {run : List Finding}, g.StandsFor run →
      (run.IsChain fun f g => f.adjoins gap g = true) →
      ∃ runs, IsCut gap (run ++ fs) runs ∧ List.Forall₂ StandsFor (collect gap g fs) runs := by
  intro fs
  induction fs with
  | nil =>
    intro g run hg hrun
    obtain ⟨head, hhead, _⟩ := hg.first
    have hnonempty : [] ∉ [run] := fun h => by
      rw [← List.mem_singleton.mp h] at hhead
      exact absurd hhead (by simp)
    refine ⟨[run], ⟨rfl, hnonempty, List.forall_mem_singleton.mpr hrun, .singleton _⟩, ?_⟩
    exact .cons hg .nil
  | cons f fs ih =>
    intro g run hg hrun
    obtain ⟨last, hlast, _⟩ := hg.last
    have hnext : g.continues gap f = last.adjoins gap f := hg.continues_eq hlast
    unfold collect
    split
    · next hcontinues =>
      have hlonger : (run ++ [f]).IsChain fun f g => f.adjoins gap g = true := by
        refine hrun.append (.singleton f) fun x hx y hy => ?_
        obtain rfl := Option.some.inj (hlast.symm.trans hx)
        obtain rfl := Option.some.inj hy
        rw [← hnext, hcontinues]
      have hgrown := ih (hg.extend hcontinues) hlonger
      rwa [List.append_assoc] at hgrown
    · next hstops =>
      -- the run is closed in front of a finding that does not adjoin it
      obtain ⟨runs, hcut, hgroups⟩ := ih (standsFor_single f) (.singleton f)
      obtain ⟨head, hhead, _⟩ := hg.first
      refine ⟨run :: runs, ⟨?_, ?_, ?_, ?_⟩, .cons hg hgroups⟩
      · rw [List.flatten_cons, hcut.whole]
        rfl
      · intro h
        rcases List.mem_cons.mp h with rfl | hin
        · exact absurd hhead (by simp)
        · exact hcut.nonempty hin
      · exact List.forall_mem_cons.mpr ⟨hrun, hcut.within⟩
      · refine hcut.between.cons fun next hnextrun x hx y hy => ?_
        obtain rfl := Option.some.inj (hlast.symm.trans hx)
        obtain ⟨more, rfl⟩ : ∃ more, runs = next :: more := List.head?_eq_some_iff.mp hnextrun
        have hfirst : (next ++ more.flatten).head? = some f := by
          rw [← List.flatten_cons, hcut.whole]
          rfl
        rw [List.head?_append, hy, Option.some_or] at hfirst
        obtain rfl := Option.some.inj hfirst
        rw [← hnext]
        exact Bool.eq_false_iff.mpr hstops

/-- **The groups of a list stand for its runs**, one for each and in order. -/
theorem ofFindings_standsFor (gap : Int) (fs : List Finding) :
    List.Forall₂ StandsFor (ofFindings gap fs) (runsOf gap fs) := by
  cases fs with
  | nil => exact .nil
  | cons f fs =>
    obtain ⟨runs, hcut, hgroups⟩ := collect_standsFor gap fs (standsFor_single f) (.singleton f)
    obtain rfl := isCut_iff.mp hcut
    exact hgroups

/-- The counts of groups add up to the length of what they stand for. -/
theorem sum_counts {groups : List FindingGroup} {runs : List (List Finding)}
    (h : List.Forall₂ StandsFor groups runs) :
    (groups.map (·.count)).sum = runs.flatten.length := by
  induction h with
  | nil => rfl
  | cons hg _ ih =>
    rw [List.map_cons, List.sum_cons, ih, hg.count, List.flatten_cons, List.length_append]

theorem sum_counts_ofFindings (gap : Int) (fs : List Finding) :
    ((ofFindings gap fs).map (·.count)).sum = fs.length := by
  rw [sum_counts (ofFindings_standsFor gap fs), (isCut_runsOf gap fs).whole]

/-- The span of a group goes forward, and all lines of the run lie within it. -/
def Encloses (g : FindingGroup) (run : List Finding) : Prop :=
  ∀ first last, g.span = some (first, last) →
    first ≤ last ∧ ∀ f ∈ run, ∀ n, f.line = some n → first ≤ n ∧ n ≤ last

/-- In report order findings of one file stand by their lines. -/
theorem StandsFor.line_le {g : FindingGroup} {run : List Finding} (h : g.StandsFor run)
    {f f' : Finding} (hf : f ∈ run) (hf' : f' ∈ run) (hprecedes : Finding.precedes f f' = true)
    {n n' : Int} (hn : f.line = some n) (hn' : f'.line = some n') : n ≤ n' := by
  have hfile : f.file = f'.file := (h.alike f hf).1.trans (h.alike f' hf').1.symm
  have hposition : f.position = n ∧ f'.position = n' := by
    unfold Finding.position
    rw [hn, hn']
    exact ⟨rfl, rfl⟩
  rcases Finding.precedes_iff.mp hprecedes with hlt | ⟨_, hlt | ⟨heq, _⟩⟩
  · exact absurd (hfile ▸ hlt) (String.lt_irrefl _)
  · omega
  · omega

theorem StandsFor.encloses {g : FindingGroup} {run : List Finding} (h : g.StandsFor run)
    (hordered : run.Pairwise fun f g => Finding.precedes f g = true) : g.Encloses run := by
  intro first last hspan
  obtain ⟨head, hhead, hfirst, _⟩ := h.first
  obtain ⟨final, hfinal, hlast⟩ := h.last
  rw [hspan] at hfirst hlast
  have hin : head ∈ run := List.mem_of_head? hhead
  have hin' : final ∈ run := List.mem_of_getLast? hfinal
  have hwithin : ∀ f ∈ run, ∀ n, f.line = some n → first ≤ n ∧ n ≤ last := by
    intro f hf n hn
    constructor
    · obtain ⟨rest, rfl⟩ := List.head?_eq_some_iff.mp hhead
      rcases List.mem_cons.mp hf with rfl | hrest
      · exact h.line_le hin hin (Finding.precedes_self f) hfirst.symm hn
      · exact h.line_le hin hf ((List.pairwise_cons.mp hordered).1 f hrest) hfirst.symm hn
    · obtain ⟨front, rfl⟩ := List.getLast?_eq_some_iff.mp hfinal
      rcases List.mem_append.mp hf with hfront | hlast'
      · exact h.line_le hf hin' ((List.pairwise_append.mp hordered).2.2 f hfront final
          (List.mem_singleton_self _)) hn hlast.symm
      · obtain rfl := List.mem_singleton.mp hlast'
        exact h.line_le hin' hin' (Finding.precedes_self f) hn hlast.symm
  exact ⟨(hwithin head hin first hfirst.symm).2, hwithin⟩

/-- In report order every group encloses its run. -/
theorem encloses_of_standsFor {groups : List FindingGroup} {runs : List (List Finding)}
    (h : List.Forall₂ StandsFor groups runs)
    (hordered : ∀ run ∈ runs, run.Pairwise fun f g => Finding.precedes f g = true) :
    List.Forall₂ Encloses groups runs := by
  induction h with
  | nil => exact .nil
  | cons hg _ ih =>
    obtain ⟨hrun, hruns⟩ := List.forall_mem_cons.mp hordered
    exact .cons (hg.encloses hrun) (ih hruns)

/-- **Grouping cuts a list exactly into its runs.** The runs are the one way to cut the list
such that neighbours are in one run just if they adjoin; the groups stand for them, one for
each. So the counts add up to the number of findings, and findings on whole files are alone.
If the list is taken from a merged result, the lines of each run lie within the span of its
group. Under a wider gap each run is made of whole runs. -/
theorem grouping_runs (gap : Int) (fs : List Finding) :
    (∀ runs, IsCut gap fs runs ↔ runs = runsOf gap fs) ∧
      List.Forall₂ StandsFor (ofFindings gap fs) (runsOf gap fs) ∧
      ((ofFindings gap fs).map (·.count)).sum = fs.length ∧
      (∀ run ∈ runsOf gap fs, ∀ f ∈ run, f.line = none → run = [f]) ∧
      (∀ merged, fs.Sublist (ReviewResult.ofFindings merged).all →
        List.Forall₂ Encloses (ofFindings gap fs) (runsOf gap fs)) ∧
      ∀ wide, gap ≤ wide → ∃ parts : List (List (List Finding)),
        parts.flatten = runsOf gap fs ∧ parts.map List.flatten = runsOf wide fs := by
  have hcut := isCut_runsOf gap fs
  have hgroups := ofFindings_standsFor gap fs
  refine ⟨fun runs => isCut_iff, hgroups, sum_counts_ofFindings gap fs, ?_, ?_, ?_⟩
  · intro run hrun f hf hline
    exact eq_singleton_of_noLine (hcut.within run hrun) hf hline
  · intro merged hsub
    have hordered := ReviewResult.ordered_ofFindings.sublist hsub
    exact encloses_of_standsFor hgroups fun run hrun =>
      hordered.sublist (sublist_of_mem_runsOf hrun)
  · intro wide hwide
    exact ⟨_, runsOf_wider hwide fs⟩

/-! Findings of one rule in one file: one on the whole file, three that are close together,
and one further away. -/

def scatteredFindings : List Finding :=
  [none, some 10, some 11, some 13, some 20].map fun line =>
    { tool := "eslint", rule := "no-undef", severity := .blocking, file := "a.ts", message := "no"
      line := line }

theorem grouping_runs_scattered :
    scatteredFindings.Sublist (ReviewResult.ofFindings scatteredFindings).all ∧
      (runsOf 2 scatteredFindings).map List.length = [1, 3, 1] ∧
      List.Forall₂ Encloses (ofFindings 2 scatteredFindings) (runsOf 2 scatteredFindings) ∧
      ∃ parts : List (List (List Finding)),
        parts.flatten = runsOf 2 scatteredFindings ∧
        parts.map List.flatten = runsOf 7 scatteredFindings := by
  have hall : (ReviewResult.ofFindings scatteredFindings).all = scatteredFindings :=
    ReviewResult.ofFindings_all_of_ordered (by decide) (by decide)
  have hmerged : scatteredFindings.Sublist (ReviewResult.ofFindings scatteredFindings).all := by
    rw [hall]
  obtain ⟨_, _, _, _, hencloses, hwider⟩ := grouping_runs 2 scatteredFindings
  exact ⟨hmerged, by decide, hencloses _ hmerged, hwider 7 (by decide)⟩

end FindingGroup

end PullReview
