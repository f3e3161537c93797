import PullReview.Text.Lines

/-!
# Cutting a printed text gives its lines back

A text is printed from lines by putting a line end behind each of them. Reading
it with `unixLines` gives the lines back, with an empty one after the last line
end. With line feeds alone a line loses a carriage return at its end, since
that one reads as part of the line end.

Main statement: `unixLines_printed`.
-/

namespace PullReview.Text

/-- What ends a line. -/
inductive LineEnd where
  | lf
  | crlf
  deriving DecidableEq, Repr

namespace LineEnd

def chars : LineEnd → List Char
  | lf => ['\n']
  | crlf => ['\r', '\n']

/-- What is read of a line that was printed with this end. -/
def received : LineEnd → List Char → List Char
  | lf => dropReturn
  | crlf => id

end LineEnd

/-- The text of some lines, each with its end. -/
def printed (eol : LineEnd) (lines : List (List Char)) : List Char :=
  lines.flatMap (· ++ eol.chars)

theorem splitAtEach_sep (sep : Char) (cs : List Char) :
    splitAtEach sep (sep :: cs) = [] :: splitAtEach sep cs := by
  simp [splitAtEach]

/-- A text has at least one piece. -/
theorem splitAtEach_ne_nil (sep : Char) (cs : List Char) : splitAtEach sep cs ≠ [] := by
  cases cs with
  | nil => simp [splitAtEach]
  | cons c cs =>
    unfold splitAtEach
    rw [List.foldr_cons]
    split
    · simp
    · split <;> simp

/-- A character other than the separator joins the first piece. -/
theorem splitAtEach_cons {sep c : Char} (h : c ≠ sep) {cs piece : List Char}
    {rest : List (List Char)} (hcs : splitAtEach sep cs = piece :: rest) :
    splitAtEach sep (c :: cs) = (c :: piece) :: rest := by
  unfold splitAtEach at hcs ⊢
  rw [List.foldr_cons, if_neg h, hcs]

/-- The first piece ends at the first separator. -/
theorem splitAtEach_append (sep : Char) (rest : List Char) :
    ∀ line : List Char, sep ∉ line →
      splitAtEach sep (line ++ sep :: rest) = line :: splitAtEach sep rest := by
  intro line
  induction line with
  | nil => intro _; exact splitAtEach_sep sep rest
  | cons c cs ih =>
    intro h
    have hc : c ≠ sep := fun e => h (e ▸ List.mem_cons_self ..)
    have hcs : sep ∉ cs := fun hm => h (List.mem_cons_of_mem _ hm)
    exact splitAtEach_cons hc (ih hcs)

theorem unixLines_nil : unixLines [] = [[]] := rfl

/-- A line up to the first line feed is read on its own. -/
theorem unixLines_append {line : List Char} (h : '\n' ∉ line) (rest : List Char) :
    unixLines (line ++ '\n' :: rest) = dropReturn line :: unixLines rest := by
  obtain ⟨first, more, hrest⟩ := List.exists_cons_of_ne_nil (splitAtEach_ne_nil '\n' rest)
  simp only [unixLines]
  rw [splitAtEach_append '\n' rest line h, hrest, List.dropLast_cons_cons, List.map_cons,
    List.getLast?_cons_cons, List.cons_append]

/-! ## The carriage return at the end of a line -/

theorem dropReturn_nil : dropReturn [] = [] := rfl

/-- Any first character but a carriage return stays. -/
theorem dropReturn_cons {c : Char} (h : c ≠ '\r') (cs : List Char) :
    dropReturn (c :: cs) = c :: dropReturn cs := by
  cases cs with
  | nil => simp [dropReturn, h]
  | cons d ds =>
    unfold dropReturn
    rw [List.getLast?_cons_cons]
    split
    · rw [List.dropLast_cons_cons]
    · rfl

/-- A beginning without carriage returns stays. -/
theorem dropReturn_append :
    ∀ {front : List Char}, '\r' ∉ front → ∀ cs : List Char,
      dropReturn (front ++ cs) = front ++ dropReturn cs := by
  intro front
  induction front with
  | nil => intro _ cs; rfl
  | cons c front ih =>
    intro h cs
    have hc : c ≠ '\r' := fun e => h (e ▸ List.mem_cons_self ..)
    have hfront : '\r' ∉ front := fun hm => h (List.mem_cons_of_mem _ hm)
    rw [List.cons_append, dropReturn_cons hc, ih hfront, List.cons_append]

/-- What stands in front of something stays. -/
theorem dropReturn_append_right {cs : List Char} (h : cs ≠ []) (front : List Char) :
    dropReturn (front ++ cs) = front ++ dropReturn cs := by
  have hlast : (front ++ cs).getLast? = cs.getLast? := by
    rw [List.getLast?_append, List.getLast?_eq_some_getLast h, Option.some_or]
  unfold dropReturn
  rw [hlast]
  split
  · rw [List.dropLast_append_of_ne_nil h]
  · rfl

/-- A text without carriage returns stays as it is. -/
theorem dropReturn_eq_self {cs : List Char} (h : '\r' ∉ cs) : dropReturn cs = cs := by
  have happ := dropReturn_append h []
  rwa [List.append_nil, dropReturn_nil, List.append_nil] at happ

theorem dropReturn_concat (cs : List Char) : dropReturn (cs ++ ['\r']) = cs := by
  simp [dropReturn]

theorem dropReturn_of_getLast? {cs : List Char} (h : cs.getLast? ≠ some '\r') :
    dropReturn cs = cs := if_neg h

/-- Dropping a carriage return leaves a beginning of the text. -/
theorem dropReturn_prefix (cs : List Char) : dropReturn cs <+: cs := by
  unfold dropReturn
  split
  · exact List.dropLast_prefix cs
  · exact List.prefix_rfl

/-! ## Texts with a line feed between them -/

theorem splitAtEach_eq_self {sep : Char} :
    ∀ {cs : List Char}, sep ∉ cs → splitAtEach sep cs = [cs] := by
  intro cs
  induction cs with
  | nil => intro _; rfl
  | cons c cs ih =>
    intro h
    have hc : c ≠ sep := fun e => h (e ▸ List.mem_cons_self ..)
    exact splitAtEach_cons hc (ih fun hm => h (List.mem_cons_of_mem _ hm))

/-- The pieces of two texts with a separator between them are the pieces of each. -/
theorem splitAtEach_join (sep : Char) (back : List Char) :
    ∀ front : List Char,
      splitAtEach sep (front ++ sep :: back) = splitAtEach sep front ++ splitAtEach sep back := by
  intro front
  induction front with
  | nil => exact splitAtEach_sep sep back
  | cons c front ih =>
    rw [List.cons_append]
    by_cases hc : c = sep
    · rw [hc, splitAtEach_sep, splitAtEach_sep, ih, List.cons_append]
    · obtain ⟨piece, rest, hfront⟩ := List.exists_cons_of_ne_nil (splitAtEach_ne_nil sep front)
      rw [hfront] at ih
      rw [splitAtEach_cons hc hfront, splitAtEach_cons hc ih]
      rfl

/-- **Each of two texts is read on its own**, as long as the first one ends in no
carriage return, which would go with the line feed behind it. -/
theorem unixLines_join (back : List Char) :
    ∀ front : List Char, front.getLast? ≠ some '\r' →
      unixLines (front ++ '\n' :: back) = unixLines front ++ unixLines back := by
  intro front h
  by_cases hfeed : '\n' ∈ front
  · obtain ⟨line, rest, rfl, hline⟩ := List.eq_append_cons_of_mem hfeed
    have hrest : rest.getLast? ≠ some '\r' := by
      cases rest with
      | nil => simp
      | cons c cs => simpa using h
    rw [List.append_assoc, List.cons_append, unixLines_append hline, unixLines_append hline,
      unixLines_join back rest hrest, List.cons_append]
  · have hone : unixLines front = [front] := by
      unfold unixLines
      rw [splitAtEach_eq_self hfeed]
      rfl
    rw [unixLines_append hfeed, dropReturn_of_getLast? h, hone, List.singleton_append]
termination_by front => front.length
decreasing_by simp_all; omega

/-- The lines of texts that are joined by line feeds. -/
theorem unixLines_joined :
    ∀ texts : List String, texts ≠ [] → (∀ t ∈ texts, t.toList.getLast? ≠ some '\r') →
      unixLines (join "\n" texts).toList = texts.flatMap fun t => unixLines t.toList := by
  intro texts
  induction texts with
  | nil => intro h _; exact absurd rfl h
  | cons t texts ih =>
    intro _ h
    obtain ⟨ht, hrest⟩ := List.forall_mem_cons.mp h
    cases texts with
    | nil => simp [join]
    | cons u texts =>
      have hjoin : (join "\n" (t :: u :: texts)).toList
          = t.toList ++ '\n' :: (join "\n" (u :: texts)).toList := by
        unfold join
        rw [String.intercalate_cons_cons, String.toList_append, String.toList_append,
          List.append_assoc]
        rfl
      rw [hjoin, unixLines_join _ _ ht, ih (by simp) hrest]
      rfl

/-- Texts with a line feed between them, and one behind the last, are printed lines. -/
theorem toList_joined :
    ∀ texts : List String, texts ≠ [] →
      (join "\n" texts ++ "\n").toList = printed .lf (texts.map String.toList) := by
  intro texts
  induction texts with
  | nil => intro h; exact absurd rfl h
  | cons t texts ih =>
    intro _
    cases texts with
    | nil =>
      unfold join printed
      rw [String.intercalate_singleton, String.toList_append, List.map_singleton,
        List.flatMap_singleton]
      rfl
    | cons u texts =>
      have hrest := ih (List.cons_ne_nil _ _)
      unfold join printed at hrest ⊢
      rw [String.intercalate_cons_cons, String.append_assoc, String.toList_append, hrest,
        String.toList_append]
      rfl

/-! ## Pieces -/

/-- The first piece of a text is all of it, or what stands in front of a separator. -/
theorem head?_splitAtEach_iff {sep : Char} {cs piece : List Char} (hpiece : sep ∉ piece) :
    (splitAtEach sep cs).head? = some piece ↔ cs = piece ∨ piece ++ [sep] <+: cs := by
  constructor
  · intro h
    by_cases hsep : sep ∈ cs
    · obtain ⟨line, rest, rfl, hline⟩ := List.eq_append_cons_of_mem hsep
      rw [splitAtEach_append sep rest line hline, List.head?_cons] at h
      obtain rfl := Option.some.inj h
      exact Or.inr ⟨rest, by rw [List.append_assoc, List.singleton_append]⟩
    · rw [splitAtEach_eq_self hsep, List.head?_cons] at h
      exact Or.inl (Option.some.inj h)
  · rintro (rfl | ⟨rest, rfl⟩)
    · rw [splitAtEach_eq_self hpiece, List.head?_cons]
    · rw [List.append_assoc, List.singleton_append, splitAtEach_append sep rest piece hpiece,
        List.head?_cons]

/-- No piece holds the separator. -/
theorem not_mem_of_mem_splitAtEach {sep : Char} {cs piece : List Char}
    (h : piece ∈ splitAtEach sep cs) : sep ∉ piece := by
  induction cs generalizing piece with
  | nil =>
    obtain rfl := List.mem_singleton.mp h
    exact List.not_mem_nil
  | cons c cs ih =>
    by_cases hc : c = sep
    · rw [hc, splitAtEach_sep] at h
      rcases List.mem_cons.mp h with rfl | h
      · exact List.not_mem_nil
      · exact ih h
    · obtain ⟨first, rest, hcs⟩ := List.exists_cons_of_ne_nil (splitAtEach_ne_nil sep cs)
      rw [splitAtEach_cons hc hcs] at h
      rcases List.mem_cons.mp h with rfl | h
      · rw [List.mem_cons, not_or]
        exact ⟨fun e => hc e.symm, ih (hcs ▸ List.mem_cons_self ..)⟩
      · exact ih (hcs ▸ List.mem_cons_of_mem _ h)

/-- Pieces put together again, the separator in front of all but the first. -/
theorem flatten_intersperse_cons {α : Type} (sep : α) (piece : List α) (rest : List (List α)) :
    ((piece :: rest).intersperse [sep]).flatten = piece ++ rest.flatMap (sep :: ·) := by
  induction rest generalizing piece with
  | nil => simp
  | cons next rest ih =>
    rw [List.intersperse_cons_cons, List.flatten_cons, List.flatten_cons, ih, List.flatMap_cons]
    rfl

theorem splitAtEach_flatten (sep : Char) (cs : List Char) :
    ((splitAtEach sep cs).intersperse [sep]).flatten = cs := by
  induction cs with
  | nil => rfl
  | cons c cs ih =>
    obtain ⟨piece, rest, hcs⟩ := List.exists_cons_of_ne_nil (splitAtEach_ne_nil sep cs)
    rw [hcs, flatten_intersperse_cons] at ih
    by_cases hc : c = sep
    · rw [hc, splitAtEach_sep, hcs, flatten_intersperse_cons, List.flatMap_cons, ← ih]
      rfl
    · rw [splitAtEach_cons hc hcs, flatten_intersperse_cons, ← ih]
      rfl

/-! ## Lines under every separator -/

/-- Reading on from lines without separators gives such lines. -/
theorem separatedLinesFrom_unbroken (cs line : List Char) (done : List (List Char))
    (hline : ∀ c ∈ line, isLineSeparator c = false)
    (hdone : ∀ l ∈ done, ∀ c ∈ l, isLineSeparator c = false) :
    ∀ l ∈ separatedLinesFrom cs line done, ∀ c ∈ l, isLineSeparator c = false := by
  have hclose : ∀ l ∈ line.reverse :: done, ∀ c ∈ l, isLineSeparator c = false :=
    List.forall_mem_cons.mpr ⟨fun c hc => hline c (List.mem_reverse.mp hc), hdone⟩
  have hnone : ∀ c ∈ ([] : List Char), isLineSeparator c = false :=
    fun c hc => absurd hc List.not_mem_nil
  fun_induction separatedLinesFrom cs line done with
  | case1 done => exact fun l hl => hdone l (List.mem_reverse.mp hl)
  | case2 line done _ => exact fun l hl => hclose l (List.mem_reverse.mp hl)
  | case3 cs line done ih =>
    exact ih hnone hclose (List.forall_mem_cons.mpr ⟨hnone, hclose⟩)
  | case4 c cs line done _ _ ih =>
    exact ih hnone hclose (List.forall_mem_cons.mpr ⟨hnone, hclose⟩)
  | case5 c cs line done _ hc ih =>
    have hlonger : ∀ d ∈ c :: line, isLineSeparator d = false :=
      List.forall_mem_cons.mpr ⟨Bool.eq_false_iff.mpr hc, hline⟩
    refine ih hlonger hdone (List.forall_mem_cons.mpr ⟨fun d hd => ?_, hdone⟩)
    exact hlonger d (List.mem_reverse.mp hd)

/-- No separator is left in a line. -/
theorem separatedLines_unbroken {cs line : List Char} (h : line ∈ separatedLines cs) :
    ∀ c ∈ line, isLineSeparator c = false :=
  separatedLinesFrom_unbroken cs [] [] (fun _ hc => absurd hc List.not_mem_nil)
    (fun _ hl => absurd hl List.not_mem_nil) line h

/-! ## What is received of a printed line -/

/-- A beginning without carriage returns arrives, whatever the line end. -/
theorem LineEnd.received_append (eol : LineEnd) {front : List Char} (h : '\r' ∉ front)
    (cs : List Char) : eol.received (front ++ cs) = front ++ eol.received cs := by
  cases eol with
  | lf => exact dropReturn_append h cs
  | crlf => rfl

/-- What stands in front of something arrives, whatever the line end. -/
theorem LineEnd.received_append_right (eol : LineEnd) {cs : List Char} (h : cs ≠ [])
    (front : List Char) : eol.received (front ++ cs) = front ++ eol.received cs := by
  cases eol with
  | lf => exact dropReturn_append_right h front
  | crlf => rfl

theorem LineEnd.received_cons (eol : LineEnd) {c : Char} (h : c ≠ '\r') (cs : List Char) :
    eol.received (c :: cs) = c :: eol.received cs := by
  cases eol with
  | lf => exact dropReturn_cons h cs
  | crlf => rfl

theorem LineEnd.received_eq_self (eol : LineEnd) {cs : List Char} (h : '\r' ∉ cs) :
    eol.received cs = cs := by
  cases eol with
  | lf => exact dropReturn_eq_self h
  | crlf => rfl

/-- What arrives of a line is a beginning of it. -/
theorem LineEnd.received_prefix (eol : LineEnd) (cs : List Char) : eol.received cs <+: cs := by
  cases eol with
  | lf => exact dropReturn_prefix cs
  | crlf => exact List.prefix_rfl

/-- One printed line in front of a text is read as what is received of it. -/
theorem unixLines_line (eol : LineEnd) {line : List Char} (h : '\n' ∉ line) (rest : List Char) :
    unixLines (line ++ eol.chars ++ rest) = eol.received line :: unixLines rest := by
  cases eol with
  | lf =>
    show unixLines (line ++ ['\n'] ++ rest) = dropReturn line :: unixLines rest
    rw [List.append_assoc]
    exact unixLines_append h rest
  | crlf =>
    -- the cut is at the line feed alone, and the carriage return goes with it
    have hcr : '\n' ∉ line ++ ['\r'] := by simpa using h
    show unixLines (line ++ ['\r', '\n'] ++ rest) = line :: unixLines rest
    have hsplit : line ++ ['\r', '\n'] ++ rest = (line ++ ['\r']) ++ '\n' :: rest := by simp
    rw [hsplit, unixLines_append hcr, dropReturn_concat]

/-- **Reading a printed text gives what is received of its lines**, and an empty
line after the last line end. -/
theorem unixLines_printed (eol : LineEnd) :
    ∀ lines : List (List Char), (∀ l ∈ lines, '\n' ∉ l) →
      unixLines (printed eol lines) = lines.map eol.received ++ [[]] := by
  intro lines
  induction lines with
  | nil => intro _; exact unixLines_nil
  | cons line lines ih =>
    intro h
    have hline : '\n' ∉ line := h line (List.mem_cons_self ..)
    have hrest := ih fun l hl => h l (List.mem_cons_of_mem _ hl)
    unfold printed at hrest ⊢
    rw [List.flatMap_cons, unixLines_line eol hline, hrest, List.map_cons, List.cons_append]

end PullReview.Text
