import PullReview.Proofs.Compiler.Folding
import PullReview.Proofs.Except

/-!
# Errors without a place

The checker's output is a row of blocks: a header, with further lines of its message below.
Most headers name a place; those about the program as a whole, `error TScode: text`, do not,
and no message begins with them. Their further lines are read all the same, as a part of
the last message in front, whichever block that belongs to.

So a block without a place does not show if it has no further lines, if no message stands in
front of it, or if reading fails anyway. It shows in every other case
(`ofOutput_global_iff`).
-/

namespace PullReview.CompilerMessage

open Text

/-! ## Blocks -/

/-- A line that names a file and a place in it. -/
structure PlacedLine extends LineText where
  placed : IsHeader chars

/-- A line with `error`, a code and a text. -/
def globalChars (code : DigitText) (text : LineText) : List Char :=
  "error TS".toList ++ code.chars ++ ": ".toList ++ text.chars

/-- An error that names no place, not in its text either. -/
structure GlobalError where
  code : DigitText
  text : LineText
  placeless : ¬ IsHeader (globalChars code text)

/-- The first line of a block. -/
inductive Header where
  | located (line : PlacedLine)
  | global (error : GlobalError)

/-- A line that goes on with a message: it begins with a space and is not blank. -/
structure Addition extends LineText where
  indented : chars.head? = some ' '
  shown : ¬ AreBlank chars

/-- A header with the lines that go on with it. -/
structure Block where
  header : Header
  further : List Addition

def Header.chars : Header → List Char
  | located line => line.chars
  | global error => globalChars error.code error.text

/-- Whether a header names no place. -/
def Header.IsGlobal : Header → Prop
  | located _ => False
  | global _ => True

def Block.lines (b : Block) : List (List Char) := b.header.chars :: b.further.map (·.chars)

/-- The output of the checker. -/
def outputText (eol : LineEnd) (blocks : List Block) : String :=
  String.ofList (printed eol (blocks.flatMap Block.lines))

/-! ## Reading blocks -/

/-- Reads the lines of some blocks behind the messages so far, which are in reverse. -/
def readBlocks (eol : LineEnd) (blocks : List Block) (done : List CompilerMessage) :
    Except NumeralFault (List CompilerMessage) :=
  ((blocks.flatMap Block.lines).map eol.received).foldlM step done

/-- The text that the further lines of a block put behind a message. -/
def Block.extend (b : Block) (m : CompilerMessage) : CompilerMessage :=
  (b.further.map (·.chars)).foldl CompilerMessage.extend m

theorem Header.feed_not_mem (h : Header) : '\n' ∉ h.chars := by
  cases h with
  | located line => exact line.unbroken
  | global error =>
    have hmark : '\n' ∉ "error TS".toList := by decide
    have hcolon : '\n' ∉ ": ".toList := by decide
    show '\n' ∉ globalChars error.code error.text
    unfold globalChars
    rw [List.mem_append, List.mem_append, List.mem_append]
    rintro (((hin | hin) | hin) | hin)
    · exact hmark hin
    · exact error.code.feed_not_mem hin
    · exact hcolon hin
    · exact error.text.unbroken hin

theorem lines_unbroken (blocks : List Block) : ∀ l ∈ blocks.flatMap Block.lines, '\n' ∉ l := by
  intro l hl
  obtain ⟨b, -, hline⟩ := List.mem_flatMap.mp hl
  rcases List.mem_cons.mp hline with rfl | hfurther
  · exact b.header.feed_not_mem
  · obtain ⟨a, -, rfl⟩ := List.mem_map.mp hfurther
    exact a.unbroken

theorem ofOutput_outputText (eol : LineEnd) (blocks : List Block) :
    ofOutput (outputText eol blocks) = List.reverse <$> readBlocks eol blocks [] := by
  have hlast (done : List CompilerMessage) : [[]].foldlM step done = .ok done := by
    rw [List.foldlM_cons, step_blank (List.forall_mem_nil _)]
    rfl
  unfold ofOutput outputText readBlocks
  rw [String.toList_ofList, unixLines_printed eol _ (lines_unbroken blocks), List.foldlM_append]
  simp only [hlast]
  cases ((blocks.flatMap Block.lines).map eol.received).foldlM step [] <;> rfl

/-- The order in which the messages are handed out takes nothing from them. -/
theorem map_reverse_inj {x y : Except NumeralFault (List CompilerMessage)} :
    List.reverse <$> x = List.reverse <$> y ↔ x = y := by
  cases x <;> cases y <;> simp [Functor.map, Except.map]

theorem exists_map_reverse_eq_error {x : Except NumeralFault (List CompilerMessage)} :
    (∃ fault, List.reverse <$> x = .error fault) ↔ ∃ fault, x = .error fault := by
  cases x <;> simp [Functor.map, Except.map]

theorem readBlocks_append (eol : LineEnd) (front back : List Block)
    (done : List CompilerMessage) :
    readBlocks eol (front ++ back) done
      = readBlocks eol front done >>= readBlocks eol back := by
  unfold readBlocks
  rw [List.flatMap_append, List.map_append, List.foldlM_append]

theorem readBlocks_cons (eol : LineEnd) (b : Block) (back : List Block)
    (done : List CompilerMessage) :
    readBlocks eol (b :: back) done = readBlocks eol [b] done >>= readBlocks eol back :=
  readBlocks_append eol [b] back done

/-- A block is read line by line. -/
theorem readBlocks_one (eol : LineEnd) (b : Block) (done : List CompilerMessage) :
    readBlocks eol [b] done = step done (eol.received b.header.chars) >>= fun done =>
      ((b.further.map (·.chars)).map eol.received).foldlM step done := by
  unfold readBlocks
  rw [List.flatMap_singleton]
  rfl

theorem Addition.isContinuation_received (a : Addition) (eol : LineEnd) :
    isContinuation (eol.received a.chars) = true := by
  obtain ⟨cs, hcs⟩ := List.head?_eq_some_iff.mp a.indented
  have hshown : ¬ AreBlank (' ' :: cs) := hcs ▸ a.shown
  rw [hcs]
  exact CompilerMessage.isContinuation_received eol (isContinuation_cons hshown)

/-- The further lines of a block go behind the last message. -/
theorem foldlM_further (eol : LineEnd) (b : Block) (last : CompilerMessage)
    (rest : List CompilerMessage) :
    ((b.further.map (·.chars)).map eol.received).foldlM step (last :: rest)
      = .ok (b.extend last :: rest) := by
  have hlines : ∀ l ∈ (b.further.map (·.chars)).map eol.received, isContinuation l = true := by
    simp only [List.forall_mem_map]
    exact fun a _ => a.isContinuation_received eol
  have hextend : (fun m l => CompilerMessage.extend m (eol.received l)) = CompilerMessage.extend :=
    funext fun m => funext fun l => extend_received eol m l
  rw [foldlM_continuations hlines, List.foldl_map, hextend]
  rfl

/-- Where there is no message, they go nowhere. -/
theorem foldlM_further_nil (eol : LineEnd) (further : List Addition) :
    ((further.map (·.chars)).map eol.received).foldlM step [] = .ok [] := by
  induction further with
  | nil => rfl
  | cons a further ih =>
    obtain ⟨cs, hcs, -⟩ := exists_of_isContinuation (a.isContinuation_received eol)
    have hline : step [] (eol.received a.chars) = .ok [] :=
      step_first (hcs ▸ not_isHeader_of_blank (by decide) cs)
    rw [List.map_cons, List.map_cons, List.foldlM_cons, hline]
    exact ih

/-! ## Blocks without a place -/

section Global

variable (eol : LineEnd) {g : Block} (hg : g.header.IsGlobal)
include hg

/-- No message begins with a header that names no place. -/
theorem step_global (done : List CompilerMessage) :
    step done (eol.received g.header.chars) = .ok done := by
  obtain ⟨header, further⟩ := g
  cases header with
  | located line => exact absurd hg id
  | global error =>
    refine step_passed (mt (isHeader_received eol).mp error.placeless) ?_ done
    have hfirst : eol.received (globalChars error.code error.text)
        = 'e' :: eol.received (globalChars error.code error.text).tail :=
      eol.received_cons (by decide) _
    show isContinuation (eol.received (globalChars error.code error.text)) = false
    rw [hfirst]
    rfl

theorem readBlocks_global_cons (last : CompilerMessage) (rest : List CompilerMessage) :
    readBlocks eol [g] (last :: rest) = .ok (g.extend last :: rest) := by
  rw [readBlocks_one, step_global eol hg]
  exact foldlM_further eol g last rest

theorem readBlocks_global_nil : readBlocks eol [g] [] = .ok [] := by
  rw [readBlocks_one, step_global eol hg]
  exact foldlM_further_nil eol g.further

end Global

/-- Blocks without a place alone give no messages. -/
theorem readBlocks_globals (eol : LineEnd) {blocks : List Block}
    (h : ∀ b ∈ blocks, b.header.IsGlobal) : readBlocks eol blocks [] = .ok [] := by
  induction blocks with
  | nil => rfl
  | cons b blocks ih =>
    obtain ⟨hb, hblocks⟩ := List.forall_mem_cons.mp h
    rw [readBlocks_cons, readBlocks_global_nil eol hb]
    exact ih hblocks

/-! ## Blocks with a place -/

/-- Messages are never taken back. -/
theorem step_ne_nil {line : List Char} {done later : List CompilerMessage}
    (h : step done line = .ok later) (hdone : done ≠ [] ∨ IsHeader line) : later ≠ [] := by
  by_cases hheader : IsHeader line
  · obtain ⟨l, hl⟩ : ∃ l, located? line = some l :=
      Option.ne_none_iff_exists'.mp (mt located?_eq_none_iff.mp (not_not.mpr hheader))
    rw [step_header hl] at h
    obtain ⟨m, -, hm⟩ := exists_of_bind_eq_ok h
    obtain rfl := Except.ok.inj hm
    exact List.cons_ne_nil m done
  · obtain ⟨last, rest, rfl⟩ := List.exists_cons_of_ne_nil (hdone.resolve_right hheader)
    cases hcontinuation : isContinuation line with
    | true =>
      rw [step_continuation hcontinuation] at h
      obtain rfl := Except.ok.inj h
      exact List.cons_ne_nil _ rest
    | false =>
      rw [step_passed hheader hcontinuation] at h
      obtain rfl := Except.ok.inj h
      exact List.cons_ne_nil last rest

theorem foldlM_ne_nil {lines : List (List Char)} :
    ∀ {done later : List CompilerMessage}, lines.foldlM step done = .ok later →
      (done ≠ [] ∨ ∃ line ∈ lines, IsHeader line) → later ≠ [] := by
  induction lines with
  | nil =>
    intro done later h hdone
    obtain rfl := Except.ok.inj h
    exact hdone.resolve_right (by simp)
  | cons line lines ih =>
    intro done later h hdone
    rw [List.foldlM_cons] at h
    obtain ⟨next, hstep, hnext⟩ := exists_of_bind_eq_ok h
    refine ih hnext ?_
    rcases hdone with hdone | ⟨placed, hplaced, hheader⟩
    · exact Or.inl (step_ne_nil hstep (Or.inl hdone))
    · rcases List.mem_cons.mp hplaced with rfl | hlater
      · exact Or.inl (step_ne_nil hstep (Or.inr hheader))
      · exact Or.inr ⟨placed, hlater, hheader⟩

/-- A block with a place gives a message, if nothing fails. -/
theorem readBlocks_ne_nil (eol : LineEnd) {blocks : List Block} {done : List CompilerMessage}
    (h : readBlocks eol blocks [] = .ok done) (hlocated : ∃ b ∈ blocks, ¬ b.header.IsGlobal) :
    done ≠ [] := by
  obtain ⟨⟨header, further⟩, hb, hplace⟩ := hlocated
  cases header with
  | global error => exact absurd trivial hplace
  | located line =>
    have hheader : IsHeader (eol.received line.chars) := (isHeader_received eol).mpr line.placed
    refine foldlM_ne_nil h (Or.inr ⟨eol.received line.chars, ?_, hheader⟩)
    exact List.mem_map_of_mem (List.mem_flatMap.mpr ⟨_, hb, List.mem_cons_self ..⟩)

/-! ## When a block without a place shows -/

/-- Further lines leave no message as it was. -/
theorem Block.extend_eq_iff {b : Block} {m : CompilerMessage} :
    (b.extend m).message = m.message ↔ b.further = [] := by
  unfold extend
  rw [foldl_extend]
  cases hfurther : b.further with
  | nil => simp [join]
  | cons a further =>
    refine ⟨fun h => ?_, fun h => absurd h (by simp)⟩
    -- a line feed at least has come behind the message
    have hlength := congrArg String.length h
    have hfeed : "\n".length = 1 := rfl
    simp only [join, List.map_cons, String.intercalate_cons_cons, String.length_append] at hlength
    omega

/-- What reading blocks behind a message makes of that message: it fails in any case, or
puts the same text behind it. -/
theorem readBlocks_behind (eol : LineEnd) (back : List Block) (m m' : CompilerMessage)
    (rest : List CompilerMessage) :
    (∃ fault, readBlocks eol back (m :: rest) = .error fault ∧
        readBlocks eol back (m' :: rest) = .error fault) ∨
      ∃ news more,
        readBlocks eol back (m :: rest)
          = .ok (news ++ { m with message := m.message ++ more } :: rest) ∧
        readBlocks eol back (m' :: rest)
          = .ok (news ++ { m' with message := m'.message ++ more } :: rest) := by
  rcases foldlM_behind ((back.flatMap Block.lines).map eol.received) with
    ⟨fault, h⟩ | ⟨news, more, h⟩
  · exact Or.inl ⟨fault, h m rest, h m' rest⟩
  · exact Or.inr ⟨news, more, h m rest, h m' rest⟩

theorem readBlocks_global_iff (eol : LineEnd) (front back : List Block) {g : Block}
    (hg : g.header.IsGlobal) :
    readBlocks eol (front ++ g :: back) [] = readBlocks eol (front ++ back) [] ↔
      g.further = [] ∨ (∀ b ∈ front, b.header.IsGlobal) ∨
        ∃ fault, readBlocks eol (front ++ back) [] = .error fault := by
  rw [readBlocks_append, readBlocks_append]
  cases hfront : readBlocks eol front [] with
  | error fault => exact ⟨fun _ => Or.inr (Or.inr ⟨fault, rfl⟩), fun _ => rfl⟩
  | ok done =>
    show readBlocks eol (g :: back) done = readBlocks eol back done ↔ _ ∨ _ ∨
      ∃ fault, readBlocks eol back done = .error fault
    rw [readBlocks_cons]
    cases done with
    | nil =>
      -- nothing was read in front, so there was no place in front
      have hglobals : ∀ b ∈ front, b.header.IsGlobal := by
        by_contra hlocated
        refine readBlocks_ne_nil eol hfront ?_ rfl
        simpa using hlocated
      rw [readBlocks_global_nil eol hg]
      exact ⟨fun _ => Or.inr (Or.inl hglobals), fun _ => rfl⟩
    | cons m rest =>
      have hlocated : ¬ ∀ b ∈ front, b.header.IsGlobal := by
        intro hglobals
        rw [readBlocks_globals eol hglobals] at hfront
        exact absurd (Except.ok.inj hfront) (by simp)
      rw [readBlocks_global_cons eol hg]
      show readBlocks eol back (g.extend m :: rest) = _ ↔ _
      rcases readBlocks_behind eol back (g.extend m) m rest with
        ⟨fault, hwith, hwithout⟩ | ⟨news, more, hwith, hwithout⟩
      · rw [hwith, hwithout]
        exact ⟨fun _ => Or.inr (Or.inr ⟨fault, rfl⟩), fun _ => rfl⟩
      · rw [hwith, hwithout]
        constructor
        · intro h
          -- both readings put as much after it, so the two last messages face each other
          have hmessages := (List.cons.inj (List.append_cancel_left (Except.ok.inj h))).1
          have hmessage : (g.extend m).message ++ more = m.message ++ more :=
            congrArg CompilerMessage.message hmessages
          exact Or.inl (Block.extend_eq_iff.mp (String.append_left_inj more |>.mp hmessage))
        · rintro (hnone | hglobals | ⟨fault, hfault⟩)
          · unfold Block.extend
            rw [hnone]
            rfl
          · exact absurd hglobals hlocated
          · exact absurd hfault (by simp)

/-- **When a block without a place does not show**: if it has no further lines, if only such
blocks stand in front of it, or if the output cannot be read anyway. In any other place its
lines become part of the message in front. -/
theorem ofOutput_global_iff (eol : LineEnd) (front back : List Block) (error : GlobalError)
    (further : List Addition) :
    ofOutput (outputText eol (front ++ ⟨.global error, further⟩ :: back))
        = ofOutput (outputText eol (front ++ back)) ↔
      further = [] ∨ (∀ b ∈ front, b.header.IsGlobal) ∨
        ∃ fault, ofOutput (outputText eol (front ++ back)) = .error fault := by
  rw [ofOutput_outputText, ofOutput_outputText, map_reverse_inj, exists_map_reverse_eq_error]
  exact readBlocks_global_iff eol front back (g := ⟨.global error, further⟩) trivial

/-- A problem in a file. -/
def inFile : Block where
  header := .located ⟨⟨"app/a.ts(1,7): error TS2322: no".toList, by decide⟩, by decide⟩
  further := []

/-- A file that the project names and that is not there. -/
def notFound : Block where
  header := .global ⟨.ofNat 6053, ⟨"File 'b.ts' not found.".toList, by decide⟩, by decide⟩
  further := [⟨⟨"  Root file of the project".toList, by decide⟩, by decide, by
    rw [← allBlank_iff]
    decide⟩]

/-- What is said of the missing file is read as a part of the problem above it. -/
theorem ofOutput_straying :
    ofOutput (outputText .lf [inFile]) = .ok [⟨"app/a.ts", 1, 7, .error, 2322, "no"⟩] ∧
    ofOutput (outputText .lf [inFile, notFound])
      = .ok [⟨"app/a.ts", 1, 7, .error, 2322, "no\nRoot file of the project"⟩] := by
  decide

end PullReview.CompilerMessage
