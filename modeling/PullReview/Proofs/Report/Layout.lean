import PullReview.Proofs.Number.Digits
import PullReview.Proofs.Report.Runs
import PullReview.Proofs.Text.Lines
import PullReview.Proofs.Text.Trim
import PullReview.Report.Markdown

/-!
# The layout of the report

Messages come from tools and may hold anything, line ends of every kind and Markdown
included. No message shows in the layout of the report: cut at line feeds, the summary is a
fixed frame around the entries, and each entry is one line that opens it and lines below that
are indented.

> `summary_lines`: the lines of the summary are those of `reportFrame` around one entry for
> each group, and the numbers in the frame are what the groups count.

A message is trimmed, cut at every line separator and trimmed again line by line, so what is
left of a line begins with something that can be seen and holds no line feed
(`isTelling_of_mem`). The lines below an entry come from there (`linesOf_told`).
-/

namespace PullReview

open Text

/-! ## Lines -/

/-- The lines of a text, cut at line feeds. -/
def linesOf (s : String) : List String := (splitAtEach '\n' s.toList).map String.ofList

/-- A text without line feeds. -/
def IsLine (s : String) : Prop := '\n' ∉ s.toList

instance (s : String) : Decidable (IsLine s) := inferInstanceAs (Decidable (¬ _))

theorem IsLine.append {s t : String} (hs : IsLine s) (ht : IsLine t) : IsLine (s ++ t) := by
  unfold IsLine
  rw [String.toList_append]
  exact fun h => (List.mem_append.mp h).elim hs ht

theorem isLine_int (n : Int) : IsLine (toString n) := by
  intro h
  rcases mem_intText h with hsign | hdigit
  · exact absurd hsign (by decide)
  · exact absurd hdigit (by decide)

theorem isLine_nat (n : Nat) : IsLine (toString n) := isLine_int (Int.ofNat n)

theorem IsLine.linesOf_eq {s : String} (h : IsLine s) : linesOf s = [s] := by
  unfold linesOf
  rw [splitAtEach_eq_self h, List.map_singleton, String.ofList_toList]

/-- Texts with a line feed between them have the lines of each. -/
theorem linesOf_feed (s t : String) : linesOf (s ++ "\n" ++ t) = linesOf s ++ linesOf t := by
  have hfeed : (s ++ "\n" ++ t).toList = s.toList ++ '\n' :: t.toList := by
    rw [String.toList_append, String.toList_append, List.append_assoc]
    rfl
  unfold linesOf
  rw [hfeed, splitAtEach_join, List.map_append]

theorem linesOf_join :
    ∀ parts : List String, parts ≠ [] → linesOf (join "\n" parts) = parts.flatMap linesOf := by
  intro parts
  induction parts with
  | nil => intro h; exact absurd rfl h
  | cons part parts ih =>
    intro _
    cases parts with
    | nil => simp [join]
    | cons next parts =>
      have hjoin : join "\n" (part :: next :: parts)
          = part ++ "\n" ++ join "\n" (next :: parts) := String.intercalate_cons_cons
      rw [hjoin, linesOf_feed, ih (List.cons_ne_nil _ _)]
      exact List.flatMap_cons.symm

/-! ## Messages -/

/-- A line that begins with something that can be seen. -/
structure IsTelling (line : String) : Prop where
  isLine : IsLine line
  seen : ∃ c rest, line.toList = c :: rest ∧ isBlank c = false

/-- A line with two spaces in front of something that can be seen. -/
def IsIndented (line : String) : Prop :=
  ∃ c rest, line.toList = ' ' :: ' ' :: c :: rest ∧ isBlank c = false

/-- **What is left of a message are lines that begin with something that can be seen.** -/
theorem isTelling_of_mem {message line : String} (h : line ∈ tellingLines message) :
    IsTelling line := by
  unfold tellingLines at h
  obtain ⟨cs, hcs, rfl⟩ := List.mem_map.mp h
  obtain ⟨hmem, hnonempty⟩ := List.mem_filter.mp hcs
  obtain ⟨piece, hpiece, rfl⟩ := List.mem_map.mp hmem
  refine ⟨fun hfeed => ?_, ?_⟩
  · rw [String.toList_ofList] at hfeed
    exact absurd (separatedLines_unbroken hpiece _ (mem_of_mem_trim hfeed)) (by decide)
  · cases hchars : trim piece with
    | nil => rw [hchars] at hnonempty; exact absurd hnonempty (by decide)
    | cons c rest =>
      refine ⟨c, rest, String.toList_ofList, ?_⟩
      exact isBlank_head?_trim (by rw [hchars]; rfl)

/-- **The lines of a message between a beginning and an end**: the first goes on with the
beginning, and all others are indented. -/
theorem linesOf_told :
    ∀ (told : List String) (front back : String), (∀ t ∈ told, IsTelling t) →
      IsLine front → IsLine back →
      ∃ head below, linesOf (front ++ join "\n  " told ++ back) = head :: below ∧
        (front ++ told.headD "").toList <+: head.toList ∧ ∀ line ∈ below, IsIndented line := by
  intro told
  induction told with
  | nil =>
    intro front back _ hfront hback
    have hline : IsLine (front ++ "" ++ back) := (hfront.append (by decide)).append hback
    refine ⟨_, [], hline.linesOf_eq, ?_, fun _ h => absurd h List.not_mem_nil⟩
    simp
  | cons t told ih =>
    intro front back htold hfront hback
    obtain ⟨ht, hrest⟩ := List.forall_mem_cons.mp htold
    have hopening : IsLine (front ++ t) := hfront.append ht.isLine
    cases told with
    | nil =>
      have hjoin : join "\n  " [t] = t := String.intercalate_singleton
      rw [hjoin]
      refine ⟨_, [], (hopening.append hback).linesOf_eq, ?_, fun _ h => absurd h List.not_mem_nil⟩
      rw [String.toList_append (s := front ++ t)]
      exact List.prefix_append _ _
    | cons u told =>
      -- the line feed ends the first line, and the two spaces begin the next
      have hjoin : front ++ join "\n  " (t :: u :: told) ++ back
          = front ++ t ++ "\n" ++ ("  " ++ join "\n  " (u :: told) ++ back) := by
        have hfeed : "\n  " = "\n" ++ "  " := rfl
        unfold join
        rw [String.intercalate_cons_cons, hfeed]
        simp only [String.append_assoc]
      obtain ⟨head, below, hlines, hhead, hbelow⟩ := ih "  " back hrest (by decide) hback
      refine ⟨front ++ t, head :: below, ?_, List.prefix_rfl, ?_⟩
      · rw [hjoin, linesOf_feed, hopening.linesOf_eq, hlines]
        rfl
      · refine List.forall_mem_cons.mpr ⟨?_, hbelow⟩
        obtain ⟨c, rest, hu, hc⟩ := (hrest u (List.mem_cons_self ..)).seen
        obtain ⟨more, hmore⟩ := hhead
        have hfront : ("  " ++ u).toList = ' ' :: ' ' :: c :: rest := by
          rw [String.toList_append, hu]
          rfl
        refine ⟨c, rest ++ more, ?_, hc⟩
        rw [← hmore, List.headD_cons, hfront]
        rfl

/-! ## Entries -/

/-- What a finding shows besides its message keeps within a line. -/
structure Finding.IsPlain (f : Finding) : Prop where
  tool : IsLine f.tool
  rule : IsLine f.rule
  file : IsLine f.file
  note : f.note = none

namespace FindingGroup

/-- What the line that opens an entry begins with. -/
def heading (g : FindingGroup) : String :=
  "- `" ++ g.file ++ g.location ++ "` **[" ++ g.tool ++ "/" ++ g.rule ++ "]** "

/-- The lines of the entry of a group: one that opens it, and below it indented lines. -/
def IsEntry (g : FindingGroup) (lines : List String) : Prop :=
  ∃ head below, lines = head :: below ∧ g.heading.toList <+: head.toList ∧
    ∀ line ∈ below, IsIndented line

/-- What a group shows besides its message keeps within a line. -/
structure IsPlain (g : FindingGroup) : Prop where
  tool : IsLine g.tool
  rule : IsLine g.rule
  file : IsLine g.file
  note : g.note = none

theorem location_isLine (g : FindingGroup) : IsLine g.location := by
  have hcolon : IsLine ":" := by decide
  have hdash : IsLine "-" := by decide
  unfold location
  split
  · decide
  · next first last _ =>
    split
    · exact hcolon.append (isLine_int first)
    · exact ((hcolon.append (isLine_int first)).append hdash).append (isLine_int last)

theorem IsPlain.heading_isLine {g : FindingGroup} (h : g.IsPlain) : IsLine g.heading := by
  have hlocation := g.location_isLine
  have htick : IsLine "- `" := by decide
  have hopen : IsLine "` **[" := by decide
  have hslash : IsLine "/" := by decide
  have hclose : IsLine "]** " := by decide
  exact ((((((htick.append h.file).append hlocation).append hopen).append h.tool).append
    hslash).append h.rule).append hclose

/-- **An entry keeps its message below the line that opens it.** -/
theorem IsPlain.isEntry {g : FindingGroup} (h : g.IsPlain) : g.IsEntry (linesOf g.entry) := by
  have hcount : IsLine (if 1 < g.count then s!" _({g.count} occurrences)_" else "") := by
    have hopen : IsLine " _(" := by decide
    have hclose : IsLine " occurrences)_" := by decide
    split
    · exact (hopen.append (isLine_nat g.count)).append hclose
    · decide
  obtain ⟨head, below, hlines, hhead, hbelow⟩ := linesOf_told (tellingLines g.message) g.heading _
    (fun _ => isTelling_of_mem) h.heading_isLine hcount
  refine ⟨head, below, ?_, ?_, hbelow⟩
  · rw [← hlines]
    unfold entry
    rw [h.note]
    exact congrArg linesOf String.append_empty
  · refine List.IsPrefix.trans ?_ hhead
    rw [String.toList_append]
    exact List.prefix_append _ _

/-- A group shows what a finding of its run has. -/
theorem StandsFor.isPlain {g : FindingGroup} {run : List Finding} (h : g.StandsFor run)
    (hrun : ∀ f ∈ run, f.IsPlain) : g.IsPlain := by
  obtain ⟨f, hf, _, _, hnote⟩ := h.first
  have hin : f ∈ run := List.mem_of_head? hf
  have hplain := hrun f hin
  obtain ⟨hfile, hrule, htool⟩ := h.alike f hin
  exact ⟨htool ▸ hplain.tool, hrule ▸ hplain.rule, hfile ▸ hplain.file, hnote.trans hplain.note⟩

theorem isPlain_of_standsFor {groups : List FindingGroup} {runs : List (List Finding)}
    (h : List.Forall₂ StandsFor groups runs) (hruns : ∀ run ∈ runs, ∀ f ∈ run, f.IsPlain) :
    ∀ g ∈ groups, g.IsPlain := by
  induction h with
  | nil => exact fun g hg => absurd hg List.not_mem_nil
  | cons hg _ ih =>
    obtain ⟨hrun, hrest⟩ := List.forall_mem_cons.mp hruns
    exact List.forall_mem_cons.mpr ⟨hg.isPlain hrun, ih hrest⟩

/-- The entries of plain findings, line by line. -/
theorem isEntry_ofFindings (gap : Int) {fs : List Finding} (h : ∀ f ∈ fs, f.IsPlain) :
    List.Forall₂ IsEntry (ofFindings gap fs)
      ((ofFindings gap fs).map fun g => linesOf g.entry) := by
  have hplain := isPlain_of_standsFor (ofFindings_standsFor gap fs) fun run hrun f hf =>
    h f ((sublist_of_mem_runsOf hrun).subset hf)
  rw [List.forall₂_map_right_iff, List.forall₂_same]
  exact fun g hg => (hplain g hg).isEntry

/-- Whether a line opens an entry. -/
def opensEntry (line : String) : Bool := "- `".toList.isPrefixOf line.toList

/-- A line that begins with something else opens no entry. -/
theorem opensEntry_eq_false {line : String} (h : line.toList.head? ≠ some '-') :
    opensEntry line = false := by
  unfold opensEntry
  cases hline : line.toList with
  | nil => rfl
  | cons c rest =>
    have hc : '-' ≠ c := fun e => h (by rw [hline, e]; rfl)
    show ('-' == c && _) = false
    rw [beq_eq_false_iff_ne.mpr hc, Bool.false_and]

theorem opensEntry_of_heading {g : FindingGroup} {line : String}
    (h : g.heading.toList <+: line.toList) : opensEntry line = true := by
  have hmark : "- `".toList <+: g.heading.toList := by
    unfold heading
    simp only [String.toList_append, List.append_assoc]
    exact List.prefix_append _ _
  exact List.isPrefixOf_iff_prefix.mpr (hmark.trans h)

/-- **Of the lines of entries just the first of each opens one.** -/
theorem filter_opensEntry {groups : List FindingGroup} {entries : List (List String)}
    (h : List.Forall₂ IsEntry groups entries) :
    List.Forall₂ (fun g line => g.heading.toList <+: line.toList) groups
      (entries.flatten.filter opensEntry) := by
  induction h with
  | nil => exact .nil
  | cons hg _ ih =>
    obtain ⟨head, below, rfl, hhead, hbelow⟩ := hg
    have hnone : below.filter opensEntry = [] := by
      refine List.filter_eq_nil_iff.mpr fun line hline => ?_
      obtain ⟨c, rest, hchars, _⟩ := hbelow line hline
      have hfirst : line.toList.head? ≠ some '-' := by
        rw [hchars]
        exact fun h => absurd (Option.some.inj h) (by decide)
      rw [opensEntry_eq_false hfirst]
      decide
    rw [List.flatten_cons, List.filter_append,
      List.filter_cons_of_pos (opensEntry_of_heading hhead), hnone]
    exact .cons hhead ih

end FindingGroup

/-! ## The frame -/

/-- The title, with the sign for the numbers of blocking findings and of warnings. -/
def titleLine (blocking warnings : Nat) : String :=
  let sign := if blocking ≠ 0 then "🔴" else if warnings ≠ 0 then "🟡" else "🟢"
  s!"## {sign} PR Quality Report"

def blockingLine (blocking : Nat) : String := s!"| Blocking | **{blocking}** |"

def warningsLine (warnings : Nat) : String := s!"| Warning  | {warnings} |"

/-- The line by which the warnings are shown. -/
def openingLine (warnings : Nat) : String :=
  s!"<summary>Warnings ({warnings}, click to expand)</summary>"

/-- The lines of a report by the two numbers, around the lines of the entries. -/
def reportFrame (blocking warnings : Nat) (first second : List String) : List String :=
  [titleLine blocking warnings, "", "| Severity | Count |", "|----------|-------|",
    blockingLine blocking, warningsLine warnings, ""] ++
  (if blocking = 0 then [] else ["### Blocking", ""] ++ first ++ [""]) ++
  (if warnings = 0 then []
    else ["<details>", openingLine warnings, ""] ++ second ++ ["", "</details>"]) ++
  (if blocking = 0 ∧ warnings = 0 then ["No issues found in the changed files."] else [])

section Frame

variable {n m : Nat} {first second : List String}

/-- The report of a result is the frame around its entries. -/
theorem reportLines_eq (r : ReviewResult) (gap : Int) :
    r.reportLines gap = reportFrame r.blocking.length r.warnings.length
      (ReviewResult.entries gap r.blocking) (ReviewResult.entries gap r.warnings) := by
  obtain ⟨blocking, warnings, all⟩ := r
  cases blocking <;> cases warnings <;> rfl

/-- The lines of the frame that have no number in them. -/
def fixedLines : List String :=
  ["", "| Severity | Count |", "|----------|-------|", "### Blocking", "<details>", "</details>",
    "No issues found in the changed files."]

/-- What holds of the lines with a number and of those without one holds of all. -/
theorem forall_mem_reportFrame {P : String → Prop} (htitle : P (titleLine n m))
    (hblocking : P (blockingLine n)) (hwarnings : P (warningsLine m))
    (hopening : P (openingLine m)) (hfixed : ∀ line ∈ fixedLines, P line) :
    ∀ line ∈ reportFrame n m [] [], P line := by
  have hsubset : reportFrame n m [] [] ⊆
      titleLine n m :: blockingLine n :: warningsLine m :: openingLine m :: fixedLines := by
    intro line hline
    unfold reportFrame at hline
    by_cases hn : n = 0 <;> by_cases hm : m = 0 <;> simp [hn, hm, fixedLines] at hline ⊢ <;> tauto
  have hall := List.forall_mem_cons.mpr ⟨htitle, List.forall_mem_cons.mpr ⟨hblocking,
    List.forall_mem_cons.mpr ⟨hwarnings, List.forall_mem_cons.mpr ⟨hopening, hfixed⟩⟩⟩⟩
  exact fun line hline => hall line (hsubset hline)

theorem reportFrame_isLine : ∀ line ∈ reportFrame n m [] [], IsLine line := by
  have htitle : IsLine (titleLine n m) := by
    unfold titleLine
    split
    · decide
    · split <;> decide
  have hblocking : IsLine (blockingLine n) :=
    ((by decide : IsLine "| Blocking | **").append (isLine_nat n)).append (by decide)
  have hwarnings : IsLine (warningsLine m) :=
    ((by decide : IsLine "| Warning  | ").append (isLine_nat m)).append (by decide)
  have hopening : IsLine (openingLine m) :=
    ((by decide : IsLine "<summary>Warnings (").append (isLine_nat m)).append (by decide)
  exact forall_mem_reportFrame htitle hblocking hwarnings hopening (by decide)

/-- The frame opens no entry. -/
theorem reportFrame_opensNothing :
    ∀ line ∈ reportFrame n m [] [], FindingGroup.opensEntry line = false := by
  -- a line with a number in it begins with the text in front of the number
  have hfront : ∀ {front back : String} {c : Char} {rest : List Char}, front.toList = c :: rest →
      c ≠ '-' → FindingGroup.opensEntry (front ++ back) = false := by
    intro front back c rest hchars hc
    refine FindingGroup.opensEntry_eq_false ?_
    rw [String.toList_append, hchars]
    exact fun h => hc (Option.some.inj h)
  have htitle : FindingGroup.opensEntry (titleLine n m) = false := by
    unfold titleLine
    split
    · decide
    · split <;> decide
  have hblocking : FindingGroup.opensEntry (blockingLine n) = false := by
    show FindingGroup.opensEntry ("| Blocking | **" ++ toString n ++ "** |") = false
    rw [String.append_assoc]
    exact hfront rfl (by decide)
  have hwarnings : FindingGroup.opensEntry (warningsLine m) = false := by
    show FindingGroup.opensEntry ("| Warning  | " ++ toString m ++ " |") = false
    rw [String.append_assoc]
    exact hfront rfl (by decide)
  have hopening : FindingGroup.opensEntry (openingLine m) = false := by
    show FindingGroup.opensEntry
      ("<summary>Warnings (" ++ toString m ++ ", click to expand)</summary>") = false
    rw [String.append_assoc]
    exact hfront rfl (by decide)
  exact forall_mem_reportFrame htitle hblocking hwarnings hopening (by decide)

/-- The lines of the frame are its own, and those of what stands in it. -/
theorem flatMap_reportFrame :
    (reportFrame n m first second).flatMap linesOf
      = reportFrame n m (first.flatMap linesOf) (second.flatMap linesOf) := by
  have hself : ∀ line ∈ reportFrame n m [] [], linesOf line = [line] := fun line hline =>
    (reportFrame_isLine line hline).linesOf_eq
  unfold reportFrame at hself ⊢
  by_cases hn : n = 0 <;> by_cases hm : m = 0 <;> simp [hn, hm] at hself ⊢ <;> simp [hself]

/-- What opens an entry stands in the frame. -/
theorem filter_reportFrame (hfirst : n = 0 → first = []) (hsecond : m = 0 → second = []) :
    (reportFrame n m first second).filter FindingGroup.opensEntry
      = (first ++ second).filter FindingGroup.opensEntry := by
  have hnone := reportFrame_opensNothing (n := n) (m := m)
  unfold reportFrame at hnone ⊢
  by_cases hn : n = 0 <;> by_cases hm : m = 0 <;> simp [hn, hm] at hnone ⊢ <;> simp_all

end Frame

/-! ## The summary -/

theorem reportLines_ne_nil (r : ReviewResult) (gap : Int) : r.reportLines gap ≠ [] :=
  List.cons_ne_nil _ _

/-- The lines of a summary, whatever the messages are. -/
theorem linesOf_summary (r : ReviewResult) (gap : Int) :
    linesOf (r.summary gap) = marker :: reportFrame r.blocking.length r.warnings.length
      ((FindingGroup.ofFindings gap r.blocking).map fun g => linesOf g.entry).flatten
      ((FindingGroup.ofFindings gap r.warnings).map fun g => linesOf g.entry).flatten := by
  have hentries : ∀ fs, (ReviewResult.entries gap fs).flatMap linesOf
      = ((FindingGroup.ofFindings gap fs).map fun g => linesOf g.entry).flatten := fun fs => by
    unfold ReviewResult.entries
    rw [List.flatMap_map, List.flatMap_def]
  have hmarker : linesOf marker = [marker] := IsLine.linesOf_eq (by decide)
  unfold ReviewResult.summary
  rw [linesOf_join _ (List.cons_ne_nil _ _), List.flatMap_cons, hmarker, reportLines_eq,
    flatMap_reportFrame, hentries, hentries]
  rfl

/-- **No message can break the report.** Let tool, rule and file of the findings keep within a
line, and let there be no notes; the messages may be any. Cut at line feeds, the summary is
the marker and the frame around the entries of the groups, each of them a line that opens it
and indented lines below. So one line opens an entry for each group, and no other line does.
The numbers in the frame are what the groups of the two parts count. The report for the page
of the job is the summary without its first line, with a line feed at the end. -/
theorem summary_lines {findings : List Finding} (h : ∀ f ∈ findings, f.IsPlain) (gap : Int) :
    let result := ReviewResult.ofFindings findings
    let blocking := FindingGroup.ofFindings gap result.blocking
    let warnings := FindingGroup.ofFindings gap result.warnings
    let counted (groups : List FindingGroup) := (groups.map (·.count)).sum
    (∃ first second : List (List String),
      List.Forall₂ FindingGroup.IsEntry blocking first ∧
      List.Forall₂ FindingGroup.IsEntry warnings second ∧
      linesOf (result.summary gap)
        = marker :: reportFrame (counted blocking) (counted warnings) first.flatten
            second.flatten) ∧
    List.Forall₂ (fun g line => g.heading.toList <+: line.toList) (blocking ++ warnings)
      ((linesOf (result.summary gap)).filter FindingGroup.opensEntry) ∧
    ∃ report, result.summary gap = marker ++ "\n" ++ report ∧
      result.stepSummary gap = report ++ "\n" := by
  intro result blocking warnings counted
  have hall : ∀ f ∈ result.all, f.IsPlain := fun f hf => h f (ReviewResult.mem_of_mem_all hf)
  have hblocking : ∀ f ∈ result.blocking, f.IsPlain := fun f hf =>
    hall f (List.mem_filter.mp hf).1
  have hwarnings : ∀ f ∈ result.warnings, f.IsPlain := fun f hf =>
    hall f (List.mem_filter.mp hf).1
  have hfirst := FindingGroup.isEntry_ofFindings gap hblocking
  have hsecond := FindingGroup.isEntry_ofFindings gap hwarnings
  have hlines := linesOf_summary result gap
  have hempty : ∀ fs : List Finding, fs.length = 0 →
      ((FindingGroup.ofFindings gap fs).map fun g => linesOf g.entry).flatten = [] := by
    intro fs hfs
    rw [List.eq_nil_of_length_eq_zero hfs]
    rfl
  refine ⟨⟨_, _, hfirst, hsecond, ?_⟩, ?_, join "\n" (result.reportLines gap), ?_, rfl⟩
  · show _ = marker :: reportFrame ((FindingGroup.ofFindings gap _).map _).sum
      ((FindingGroup.ofFindings gap _).map _).sum _ _
    rw [hlines, FindingGroup.sum_counts_ofFindings, FindingGroup.sum_counts_ofFindings]
  · have hmarker : ¬ FindingGroup.opensEntry marker = true := by decide
    rw [hlines, List.filter_cons_of_neg hmarker, filter_reportFrame (hempty _) (hempty _),
      ← List.flatten_append]
    exact FindingGroup.filter_opensEntry (List.rel_append hfirst hsecond)
  · exact String.intercalate_cons_of_ne_nil (reportLines_ne_nil result gap)

/-! Messages that imitate an entry, a heading and the marker, with line ends of several kinds. -/

def mimicFindings : List Finding := [
  { tool := "eslint", rule := "no-undef", severity := .blocking, file := "a.ts", line := some 4
    message := "x is not defined\n- `b.ts:1` **[eslint/none]** made up\n\n### Blocking\n" },
  { tool := "eslint", rule := "eqeqeq", severity := .warning, file := "a.ts", line := some 9
    message := "\r\n<!-- pr-quality-review -->\u2028- `c.ts`\x0c</details>" }]

theorem summary_lines_mimics :
    (∀ f ∈ mimicFindings, f.IsPlain) ∧
      ((linesOf ((ReviewResult.ofFindings mimicFindings).summary 2)).filter
        FindingGroup.opensEntry).length = 2 := by
  have hplain : ∀ f ∈ mimicFindings, f.IsPlain := by
    refine List.forall_mem_cons.mpr ⟨?_, List.forall_mem_singleton.mpr ?_⟩
    · exact ⟨by decide, by decide, by decide, rfl⟩
    · exact ⟨by decide, by decide, by decide, rfl⟩
  refine ⟨hplain, ?_⟩
  rw [← (summary_lines hplain 2).2.1.length_eq]
  have hall : (ReviewResult.ofFindings mimicFindings).all = mimicFindings :=
    ReviewResult.ofFindings_all_of_ordered (by decide) (by decide)
  show (FindingGroup.ofFindings 2 ((ReviewResult.ofFindings mimicFindings).all.filter _)
    ++ FindingGroup.ofFindings 2 ((ReviewResult.ofFindings mimicFindings).all.filter _)).length = 2
  rw [hall]
  decide

end PullReview
