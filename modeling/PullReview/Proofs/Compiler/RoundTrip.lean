import PullReview.Proofs.Compiler.Folding

/-!
# Reading back what the checker prints

A problem is printed as `file(line,column): category TScode: message`, with further lines of
its message below it, each behind one space or more. Whatever blank lines stand between
them, and whichever line end each line has, the problems are read back, each with its own
lines and no others.

Main statement: `ofOutput_printed`. The file name may hold parentheses and the message may
name places of its own: the name is cut where the first place begins (`located?_append`).
-/

namespace PullReview

open Text

namespace Text

/-- The text of some lines, each with an end of its own. -/
def printedEach (lines : List (LineText × LineEnd)) : List Char :=
  lines.flatMap fun l => l.1.chars ++ l.2.chars

/-- What is read of a line with its end. -/
def receivedLine (l : LineText × LineEnd) : List Char := l.2.received l.1.chars

/-- Whatever their ends, the lines are read one by one. -/
theorem unixLines_printedEach (lines : List (LineText × LineEnd)) :
    unixLines (printedEach lines) = lines.map receivedLine ++ [[]] := by
  induction lines with
  | nil => exact unixLines_nil
  | cons l lines ih =>
    unfold printedEach at ih ⊢
    rw [List.flatMap_cons, unixLines_line l.2 l.1.unbroken, ih, List.map_cons, List.cons_append]
    rfl

/-- The line end takes no part in whether a line is blank. -/
theorem filter_receivedLine (lines : List (LineText × LineEnd)) :
    (lines.map receivedLine).filter (!allBlank ·)
      = (lines.filter fun l => !allBlank l.1.chars).map receivedLine := by
  have hblank : ((fun cs => !allBlank cs) ∘ receivedLine)
      = fun l : LineText × LineEnd => !allBlank l.1.chars :=
    funext fun l => congrArg _ (allBlank_received l.2 l.1.chars)
  rw [List.filter_map, hblank]

end Text

namespace CompilerMessage

/-! ## Problems and how they are printed -/

/-- A text within one line with no blank at either end. -/
structure OneLine extends LineText where
  trimmed : trim chars = chars

/-- The name of a file in which no place is named. -/
structure FileName extends OneLine where
  nonempty : chars ≠ []
  placeless : ¬ NamesPlace chars

/-- Digits of any script, no more than are read. -/
structure Number extends DigitText where
  short : chars.length ≤ Numeral.maxDigits

/-- A further line of a message, behind one space and `indent` more. -/
structure Continuation where
  indent : Nat
  text : OneLine
  nonempty : text.chars ≠ []

/-- A problem as the checker knows it. -/
structure Problem where
  file : FileName
  line : Number
  column : Number
  category : MessageCategory
  code : Number
  message : OneLine
  further : List Continuation

/-- The printed line. -/
def Continuation.chars (c : Continuation) : List Char :=
  List.replicate (c.indent + 1) ' ' ++ c.text.chars

theorem areBlank_space : AreBlank [' '] := areBlank_singleton (by decide)

namespace Problem

/-- The line with the place. -/
def header (p : Problem) : List Char :=
  p.file.chars ++ "(".toList ++ p.line.chars ++ ",".toList ++ p.column.chars ++ "): ".toList ++
    p.category.name.toList ++ " TS".toList ++ p.code.chars ++ ": ".toList ++ p.message.chars

/-- All lines of a problem. -/
def lines (p : Problem) : List (List Char) := p.header :: p.further.map Continuation.chars

/-- What is to be read of a problem. -/
def told (p : Problem) : CompilerMessage where
  file := String.ofList p.file.chars
  line := p.line.value
  column := p.column.value
  category := p.category
  code := p.code.value
  message := join "\n"
    (String.ofList p.message.chars :: p.further.map fun c => String.ofList c.text.chars)

/-- The problem without its further lines. -/
def first (p : Problem) : Problem := { p with further := [] }

/-- What stands behind the file name. -/
def tail (p : Problem) : Tail where
  line := p.line.toDigitText
  column := p.column.toDigitText
  gap := [' ']
  category := p.category
  parting := [' ']
  code := p.code.toDigitText
  slack := []
  text := ' ' :: p.message.chars
  gap_blank := areBlank_space
  parting_blank := areBlank_space
  parting_ne_nil := List.cons_ne_nil _ _
  slack_blank := List.forall_mem_nil _

theorem header_eq (p : Problem) : p.header = p.file.chars ++ p.tail.chars := by
  simp [header, tail, Tail.chars, stamp]

end Problem

/-! ## Single lines of a problem -/

theorem OneLine.not_areBlank {text : OneLine} (h : text.chars ≠ []) : ¬ AreBlank text.chars :=
  fun hblank => h (text.trimmed.symm.trans (areBlank_iff_trim.mp hblank))

theorem Continuation.trim_chars (c : Continuation) : trim c.chars = c.text.chars := by
  have hspaces : AreBlank (List.replicate (c.indent + 1) ' ') := fun d hd =>
    areBlank_space d (by simpa using List.eq_of_mem_replicate hd)
  exact (trim_blanks_append hspaces _).trans c.text.trimmed

theorem isContinuation_chars (c : Continuation) : isContinuation c.chars = true := by
  have hblank : ¬ AreBlank c.chars := fun hall =>
    c.text.not_areBlank c.nonempty fun d hd => hall d (List.mem_append_right _ hd)
  exact isContinuation_cons hblank

/-- With its numbers and texts, the tail of a problem is read as the problem says. -/
theorem read_located (p : Problem) (eol : LineEnd) :
    ({ (p.tail.withText (eol.received p.tail.text)).located with file := p.file.chars }).read
      = .ok p.first.told := by
  have hmessage : trim (trimStart (eol.received p.tail.text)) = p.message.chars := by
    calc trim (trimStart (eol.received p.tail.text))
        = trim ([' '] ++ p.message.chars) := by rw [trim_trimStart, trim_received]; rfl
      _ = p.message.chars := by rw [trim_blanks_append areBlank_space, p.message.trimmed]
  have hline := p.line.natOf_eq p.line.short
  have hcolumn := p.column.natOf_eq p.column.short
  have hcode := p.code.natOf_eq p.code.short
  unfold Located.read
  simp only [Tail.located, Tail.withText, Problem.tail] at hmessage ⊢
  rw [hline, hcolumn, hcode, hmessage, p.file.trimmed]
  simp [Problem.told, Problem.first, join]
  rfl

/-- The line with the place begins a message of its own. -/
theorem step_problem (p : Problem) (eol : LineEnd) (done : List CompilerMessage) :
    step done (eol.received p.header) = .ok (p.first.told :: done) := by
  obtain ⟨c, file, hfile⟩ := List.exists_cons_of_ne_nil p.file.nonempty
  have hfirst : isBlank c = false := isBlank_head_of_trim (hfile ▸ p.file.trimmed)
  have hname : ¬ NamesPlace (c :: file) := hfile ▸ p.file.placeless
  have hlocated : located? (eol.received p.header)
      = some
          { (p.tail.withText (eol.received p.tail.text)).located with file := p.file.chars } := by
    rw [p.header_eq, received_tail, hfile]
    exact located?_append hfirst hname _
  rw [step_header hlocated, read_located]
  rfl

/-! ## Whole outputs -/

/-- The further lines make up the rest of the message. -/
theorem foldl_further (p : Problem) :
    (p.further.map Continuation.chars).foldl extend p.first.told = p.told := by
  have htexts : (p.further.map Continuation.chars).map (fun l => String.ofList (trim l))
      = p.further.map fun c => String.ofList c.text.chars := by
    rw [List.map_map]
    exact List.map_congr_left fun c _ => congrArg String.ofList c.trim_chars
  rw [foldl_extend, htexts]
  simp [Problem.told, Problem.first, join]

/-- The lines of one problem put that problem behind those read before. -/
theorem foldlM_problem (p : Problem) {lines : List (LineText × LineEnd)}
    (h : lines.map (·.1.chars) = p.lines) (done : List CompilerMessage) :
    (lines.map receivedLine).foldlM step done = .ok (p.told :: done) := by
  obtain ⟨first, further, rfl, hfirst, hfurther⟩ := List.map_eq_cons_iff.mp h
  have hcontinued : ∀ l ∈ further.map receivedLine, isContinuation l = true := by
    intro l hl
    obtain ⟨line, hline, rfl⟩ := List.mem_map.mp hl
    have hmem : line.1.chars ∈ p.further.map Continuation.chars :=
      hfurther ▸ List.mem_map_of_mem hline
    obtain ⟨c, -, hc⟩ := List.mem_map.mp hmem
    exact isContinuation_received line.2 (hc ▸ isContinuation_chars c)
  have hextend : (further.map receivedLine).foldl extend p.first.told
      = (further.map (·.1.chars)).foldl extend p.first.told := by
    rw [List.foldl_map, List.foldl_map]
    exact congrArg (fun f => further.foldl f p.first.told)
      (funext fun m => funext fun l => extend_received l.2 m l.1.chars)
  have hstep : step done (receivedLine first) = .ok (p.first.told :: done) := by
    unfold receivedLine
    rw [hfirst]
    exact step_problem p first.2 done
  rw [List.map_cons, List.foldlM_cons, hstep]
  show (further.map receivedLine).foldlM step (p.first.told :: done) = .ok (p.told :: done)
  rw [foldlM_continuations hcontinued, hextend, hfurther, foldl_further]

/-- The lines of problems put those problems, the last one foremost. -/
theorem foldlM_problems (problems : List Problem) :
    ∀ {lines : List (LineText × LineEnd)} (done : List CompilerMessage),
      lines.map (·.1.chars) = problems.flatMap Problem.lines →
      (lines.map receivedLine).foldlM step done
        = .ok ((problems.map Problem.told).reverse ++ done) := by
  induction problems with
  | nil =>
    intro lines done h
    obtain rfl := List.map_eq_nil_iff.mp h
    rfl
  | cons p problems ih =>
    intro lines done h
    -- the line ends are cut along with the lines
    obtain ⟨own, others, rfl, hown, hothers⟩ := List.map_eq_append_iff.mp h
    rw [List.map_append, List.foldlM_append, foldlM_problem p hown]
    show (others.map receivedLine).foldlM step (p.told :: done) = _
    rw [ih (p.told :: done) hothers, List.map_cons, List.reverse_cons, List.append_assoc]
    rfl

/-- **What the checker prints is read back**: in any output whose lines are those of some
problems, with blank lines anywhere between them, exactly these problems are found, in
order, each with the lines of its own message. -/
theorem ofOutput_printed (problems : List Problem) (lines : List (LineText × LineEnd))
    (h : (lines.map (·.1.chars)).filter (!allBlank ·) = problems.flatMap Problem.lines) :
    ofOutput (String.ofList (printedEach lines)) = .ok (problems.map Problem.told) := by
  have hkept : (lines.filter fun l => !allBlank l.1.chars).map (·.1.chars)
      = problems.flatMap Problem.lines := by
    rw [← h, List.filter_map]
    rfl
  have hread : (unixLines (printedEach lines)).foldlM step []
      = .ok (problems.map Problem.told).reverse := by
    calc (unixLines (printedEach lines)).foldlM step []
        = ((lines.map receivedLine ++ [[]]).filter (!allBlank ·)).foldlM step [] := by
          rw [unixLines_printedEach, foldlM_withoutBlanks]
      _ = ((lines.filter fun l => !allBlank l.1.chars).map receivedLine).foldlM step [] := by
          rw [List.filter_append, filter_receivedLine]
          exact congrArg (List.foldlM step []) (List.append_nil _)
      _ = .ok (problems.map Problem.told).reverse := by
          rw [foldlM_problems problems [] hkept, List.append_nil]
  unfold ofOutput
  rw [String.toList_ofList, hread]
  exact congrArg Except.ok (List.reverse_reverse _)

/-- A problem in a folder with parentheses and digits in its name, told in a message that
begins with a place and goes on in another line. -/
def inRouteGroup : Problem where
  file := {
    chars := "app/(1,2)/a.tsx".toList
    unbroken := by decide
    trimmed := by decide
    nonempty := by decide
    placeless := fun h => absurd (colon_mem_of_namesPlace h) (by decide) }
  line := ⟨.ofNat 3, by decide⟩
  column := ⟨.ofNat 14, by decide⟩
  category := .error
  code := ⟨.ofNat 2322, by decide⟩
  message := ⟨⟨"b.ts(1,2): error TS1: no".toList, by decide⟩, by decide⟩
  further := [⟨3, ⟨⟨"Type (a)".toList, by decide⟩, by decide⟩, by decide⟩]

/-- The lines of that problem between blank ones. -/
def routeGroupOutput : List (LineText × LineEnd) := [
  (.empty, .lf),
  (⟨inRouteGroup.header, by decide⟩, .crlf),
  (⟨" \t".toList, by decide⟩, .crlf),
  (⟨"    Type (a)".toList, by decide⟩, .lf),
  (.empty, .crlf)]

theorem ofOutput_routeGroupOutput :
    ofOutput (String.ofList (printedEach routeGroupOutput))
      = .ok [⟨"app/(1,2)/a.tsx", 3, 14, .error, 2322, "b.ts(1,2): error TS1: no\nType (a)"⟩] := by
  have h : (routeGroupOutput.map (·.1.chars)).filter (!allBlank ·)
      = [inRouteGroup].flatMap Problem.lines := by decide
  exact (ofOutput_printed [inRouteGroup] routeGroupOutput h).trans (by decide)

end CompilerMessage

end PullReview
