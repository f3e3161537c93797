import PullReview.Proofs.Compiler.Header

/-!
# Folding lines into messages

A line of the checker's output does one of three things, whatever was read before it: it
begins a message (`step_header`), goes on with the last one (`step_continuation`), or is
passed over (`step_passed`). Blank lines are of the last kind wherever they stand
(`foldlM_withoutBlanks`), and a line does the same with its carriage return as without it.

Messages behind the last one are out of reach. So what any lines do to the messages so far
is one thing for all of them: a text goes behind the last one, and others are put after it
(`foldlM_behind`).
-/

namespace PullReview

open Text

namespace Text

theorem areBlank_iff_trim {cs : List Char} : AreBlank cs ↔ trim cs = [] := by
  constructor
  · intro h
    unfold trim
    rw [trimStart_eq_nil h]
    rfl
  · intro h
    by_contra hblank
    exact trim_ne_nil hblank h

/-- Trimming takes away what is lost with the line end. -/
theorem trim_received (eol : LineEnd) (cs : List Char) : trim (eol.received cs) = trim cs := by
  cases eol with
  | lf => exact trim_dropReturn cs
  | crlf => rfl

theorem areBlank_received (eol : LineEnd) {cs : List Char} :
    AreBlank (eol.received cs) ↔ AreBlank cs := by
  rw [areBlank_iff_trim, areBlank_iff_trim, trim_received]

theorem allBlank_received (eol : LineEnd) (cs : List Char) :
    allBlank (eol.received cs) = allBlank cs := by
  rw [Bool.eq_iff_iff, allBlank_iff, allBlank_iff, areBlank_received]

end Text

namespace CompilerMessage

/-! ## Single lines -/

/-- A line that begins with a blank names no place. -/
theorem not_isHeader_of_blank {c : Char} (h : isBlank c = true) (cs : List Char) :
    ¬ IsHeader (c :: cs) := by
  rintro ⟨first, file, t, hfirst, hcs⟩
  obtain ⟨rfl, -⟩ := List.cons.inj hcs
  exact absurd (h.symm.trans hfirst) (by simp)

theorem isContinuation_cons {cs : List Char} (h : ¬ AreBlank (' ' :: cs)) :
    isContinuation (' ' :: cs) = true := by
  have hblank : allBlank (' ' :: cs) = false := by
    rw [Bool.eq_false_iff]
    exact fun hall => h (allBlank_iff.mp hall)
  unfold isContinuation
  rw [hblank]
  rfl

theorem exists_of_isContinuation {line : List Char} (h : isContinuation line = true) :
    ∃ cs, line = ' ' :: cs ∧ ¬ AreBlank line := by
  obtain ⟨hhead, hblank⟩ := Bool.and_eq_true_iff.mp h
  cases line with
  | nil => exact absurd hhead (by simp)
  | cons c cs =>
    obtain rfl : c = ' ' := by simpa using hhead
    exact ⟨cs, rfl, fun hall => absurd (allBlank_iff.mpr hall) (by simpa using hblank)⟩

theorem isContinuation_received (eol : LineEnd) {line : List Char}
    (h : isContinuation line = true) : isContinuation (eol.received line) = true := by
  obtain ⟨cs, rfl, hblank⟩ := exists_of_isContinuation h
  have hline : eol.received (' ' :: cs) = ' ' :: eol.received cs := eol.received_cons (by decide) cs
  rw [hline]
  exact isContinuation_cons fun hall => hblank ((areBlank_received eol).mp (hline ▸ hall))

/-- What is lost with the line end does not show in a message. -/
theorem extend_received (eol : LineEnd) (m : CompilerMessage) (line : List Char) :
    m.extend (eol.received line) = m.extend line := by
  unfold extend
  rw [trim_received]

theorem step_header {line : List Char} {l : Located} (h : located? line = some l)
    (done : List CompilerMessage) : step done line = l.read >>= fun m => .ok (m :: done) := by
  unfold step
  rw [h]
  rfl

theorem step_continuation {line : List Char} (h : isContinuation line = true)
    (last : CompilerMessage) (rest : List CompilerMessage) :
    step (last :: rest) line = .ok (last.extend line :: rest) := by
  obtain ⟨cs, rfl, -⟩ := exists_of_isContinuation h
  unfold step
  rw [located?_eq_none_iff.mpr (not_isHeader_of_blank (by decide) cs)]
  exact if_pos h

theorem step_passed {line : List Char} (hheader : ¬ IsHeader line)
    (hline : isContinuation line = false) (done : List CompilerMessage) :
    step done line = .ok done := by
  unfold step
  rw [located?_eq_none_iff.mpr hheader]
  cases done with
  | nil => rfl
  | cons last rest => exact if_neg (by simp [hline])

/-- Where no message has begun, none is gone on with. -/
theorem step_first {line : List Char} (h : ¬ IsHeader line) : step [] line = .ok [] := by
  unfold step
  rw [located?_eq_none_iff.mpr h]

/-- A blank line is passed over. -/
theorem step_blank {line : List Char} (h : AreBlank line) (done : List CompilerMessage) :
    step done line = .ok done := by
  have hline : isContinuation line = false := by
    rw [Bool.eq_false_iff]
    intro hcontinuation
    obtain ⟨-, -, hblank⟩ := exists_of_isContinuation hcontinuation
    exact hblank h
  refine step_passed ?_ hline done
  cases line with
  | nil => exact fun ⟨_, _, _, _, hcs⟩ => absurd hcs (by simp)
  | cons c cs => exact not_isHeader_of_blank (h c (List.mem_cons_self ..)) cs

/-! ## Many lines -/

/-- **Blank lines do nothing, wherever they stand.** -/
theorem foldlM_withoutBlanks (lines : List (List Char)) (done : List CompilerMessage) :
    (lines.filter (!allBlank ·)).foldlM step done = lines.foldlM step done := by
  have hstep : (fun done line => if (!allBlank line) = true then step done line else pure done)
      = step := by
    funext done line
    split
    · rfl
    · next hblank => exact (step_blank (allBlank_iff.mp (by simpa using hblank)) done).symm
  rw [List.foldlM_filter, hstep]

/-- Lines that go on with a message are put behind it one after another. -/
theorem foldlM_continuations {lines : List (List Char)}
    (h : ∀ line ∈ lines, isContinuation line = true) :
    ∀ (last : CompilerMessage) (rest : List CompilerMessage),
      lines.foldlM step (last :: rest) = .ok (lines.foldl extend last :: rest) := by
  induction lines with
  | nil => intro last rest; rfl
  | cons line lines ih =>
    intro last rest
    obtain ⟨hline, hlines⟩ := List.forall_mem_cons.mp h
    rw [List.foldlM_cons, step_continuation hline]
    exact ih hlines (last.extend line) rest

/-- The text of a message with further lines behind it. -/
theorem foldl_extend (lines : List (List Char)) :
    ∀ m : CompilerMessage, lines.foldl extend m
      = { m with
          message := join "\n" (m.message :: lines.map fun l => String.ofList (trim l)) } := by
  induction lines with
  | nil => intro m; rfl
  | cons line lines ih =>
    intro m
    rw [List.foldl_cons, ih, List.map_cons]
    unfold extend join
    dsimp only
    rw [String.append_assoc, String.intercalate_cons_append, String.intercalate_cons_append,
      String.intercalate_cons_cons, String.append_assoc]

/-- **What lines do to the messages so far**: they fail whatever these are, or put the same
text behind the last one and the same messages after it. -/
theorem foldlM_behind (lines : List (List Char)) :
    (∃ fault, ∀ (m : CompilerMessage) rest, lines.foldlM step (m :: rest) = .error fault) ∨
      ∃ news more, ∀ (m : CompilerMessage) rest, lines.foldlM step (m :: rest)
        = .ok (news ++ { m with message := m.message ++ more } :: rest) := by
  induction lines with
  | nil => exact Or.inr ⟨[], "", fun m rest => by simp; rfl⟩
  | cons line lines ih =>
    simp only [List.foldlM_cons]
    cases hline : located? line with
    | some l =>
      simp only [step_header hline]
      cases l.read with
      | error fault => exact Or.inl ⟨fault, fun _ _ => rfl⟩
      | ok next =>
        -- what the rest adds goes behind the new message, none of it behind the one in front
        rcases ih with ⟨fault, h⟩ | ⟨news, more, h⟩
        · exact Or.inl ⟨fault, fun m rest => h next (m :: rest)⟩
        · refine Or.inr ⟨news ++ [{ next with message := next.message ++ more }], "", ?_⟩
          intro m rest
          refine (h next (m :: rest)).trans ?_
          simp
    | none =>
      have hheader := located?_eq_none_iff.mp hline
      cases hcontinuation : isContinuation line with
      | true =>
        simp only [step_continuation hcontinuation]
        rcases ih with ⟨fault, h⟩ | ⟨news, more, h⟩
        · exact Or.inl ⟨fault, fun m rest => h (m.extend line) rest⟩
        · refine Or.inr ⟨news, "\n" ++ String.ofList (trim line) ++ more, fun m rest => ?_⟩
          refine (h (m.extend line) rest).trans ?_
          simp [extend, String.append_assoc]
      | false =>
        simp only [step_passed hheader hcontinuation]
        exact ih

end CompilerMessage

end PullReview
