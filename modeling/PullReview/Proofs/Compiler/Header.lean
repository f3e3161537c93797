import Mathlib.Data.List.Basic
import PullReview.Compiler.Message
import PullReview.Proofs.Text.Lines
import PullReview.Proofs.Text.Printed
import PullReview.Proofs.Text.Trim

/-!
# Lines that name a place

The checker reports a problem in a line that names a file, a place in it, a category and a
code, in front of a message. What stands behind the file name is a `Tail`, and nothing else
is read as one (`place?_eq_some_iff`). So a line is taken for a located message exactly if
it is a file name with a tail behind it (`located?_eq_none_iff`), and it still is when it
loses a carriage return with its line end (`isHeader_received`).

A line may be cut into name and tail in several ways, and the shortest name wins. A name
in which no place is named is never cut (`located?_append`).
-/

namespace PullReview.CompilerMessage

open Text

/-- A place in a file, `(line,column):`. -/
def stamp (line column : DigitText) : List Char :=
  '(' :: (line.chars ++ ',' :: (column.chars ++ [')', ':']))

/-- What stands behind the file name: a place, category and code, and a message behind the
last colon. There may be blanks around the category and in front of that colon. -/
structure Tail where
  line : DigitText
  column : DigitText
  gap : List Char
  category : MessageCategory
  parting : List Char
  code : DigitText
  slack : List Char
  text : List Char
  gap_blank : AreBlank gap
  parting_blank : AreBlank parting
  parting_ne_nil : parting ≠ []
  slack_blank : AreBlank slack

namespace Tail

def chars (t : Tail) : List Char :=
  stamp t.line t.column ++ (t.gap ++ (t.category.name.toList ++ (t.parting ++
    ("TS".toList ++ (t.code.chars ++ (t.slack ++ ':' :: t.text))))))

/-- What a tail says, with the name of the file still missing. -/
def located (t : Tail) : Located :=
  ⟨[], Numeral.digitValues t.line.chars, Numeral.digitValues t.column.chars, t.category,
    Numeral.digitValues t.code.chars, trimStart t.text⟩

end Tail

/-- A line that names a file, which begins with no blank, and a place in it. -/
def IsHeader (cs : List Char) : Prop :=
  ∃ first file, ∃ t : Tail, isBlank first = false ∧ cs = first :: (file ++ t.chars)

/-! ## Reading the parts of a tail -/

theorem stamp_append (line column : DigitText) (rest : List Char) :
    stamp line column ++ rest
      = '(' :: (line.chars ++ ',' :: (column.chars ++ ')' :: ':' :: rest)) := by
  simp [stamp]

theorem noDigitFirst_cons {c : Char} (h : isDecimalDigit c = false) (rest : List Char) :
    NoDigitFirst (c :: rest) := by
  intro d hd
  obtain rfl := Option.some.inj hd
  exact h

theorem noDigitFirst_blanks {gap : List Char} (h : AreBlank gap) {rest : List Char}
    (hrest : NoDigitFirst rest) : NoDigitFirst (gap ++ rest) := by
  cases gap with
  | nil => exact hrest
  | cons g gap =>
    exact noDigitFirst_cons (isDecimalDigit_of_isBlank (h g (List.mem_cons_self ..))) _

theorem category?_append (c : MessageCategory) (rest : List Char) :
    category? (c.name.toList ++ rest) = some (c, rest) := by
  cases c <;> rfl

theorem exists_of_category? {cs rest : List Char} {c : MessageCategory}
    (h : category? cs = some (c, rest)) : cs = c.name.toList ++ rest := by
  obtain ⟨category, -, hfound⟩ := List.exists_of_findSome?_eq_some h
  obtain ⟨more, hmore, hpair⟩ := Option.map_eq_some_iff.mp hfound
  obtain ⟨rfl, rfl⟩ := Prod.mk.inj hpair
  exact (List.isPrefixOf?_eq_some_iff_append_eq.mp hmore).symm

/-- The blanks in front of a text are those that trimming takes away. -/
theorem exists_blanks (cs : List Char) : ∃ gap, AreBlank gap ∧ cs = gap ++ trimStart cs :=
  ⟨cs.takeWhile isBlank, List.all_eq_true.mp List.all_takeWhile,
    List.takeWhile_append_dropWhile.symm⟩

theorem trimStart_category (c : MessageCategory) (rest : List Char) :
    trimStart (c.name.toList ++ rest) = c.name.toList ++ rest := by
  cases c <;> exact trimStart_cons (by decide) _

/-! ## Tails -/

/-- Every tail is read as what it says. -/
theorem place?_tail (t : Tail) : place? t.chars = some t.located := by
  obtain ⟨blank, more, hparting⟩ := List.exists_cons_of_ne_nil t.parting_ne_nil
  have hblank : isBlank blank = true := t.parting_blank blank (hparting ▸ List.mem_cons_self ..)
  have hword (rest : List Char) :
      trimStart (t.parting ++ ("TS".toList ++ rest)) = "TS".toList ++ rest :=
    (trimStart_blanks_append t.parting_blank _).trans (trimStart_cons (by decide) _)
  have hcolon : trimStart (t.slack ++ ':' :: t.text) = ':' :: t.text :=
    (trimStart_blanks_append t.slack_blank _).trans (trimStart_cons (by decide) _)
  -- each number ends where the next part begins, since that begins with no digit
  have hcode := t.code.digitsInFront?_append
    (noDigitFirst_blanks t.slack_blank (noDigitFirst_cons (c := ':') (by decide) t.text))
  have hline (rest : List Char) := t.line.digitsInFront?_append
    (noDigitFirst_cons (c := ',') (by decide) rest)
  have hcolumn (rest : List Char) := t.column.digitsInFront?_append
    (noDigitFirst_cons (c := ')') (by decide) rest)
  have hopen (rest : List Char) : "(".toList.isPrefixOf? ('(' :: rest) = some rest := rfl
  have hcomma (rest : List Char) : ",".toList.isPrefixOf? (',' :: rest) = some rest := rfl
  have hclose (rest : List Char) : "):".toList.isPrefixOf? (')' :: ':' :: rest) = some rest := rfl
  have hmark (rest : List Char) : "TS".toList.isPrefixOf? ("TS".toList ++ rest) = some rest := rfl
  have hend : ":".toList.isPrefixOf? (':' :: t.text) = some t.text := rfl
  have hhead (rest : List Char) : (t.parting ++ rest).head?.any isBlank = true := by
    rw [hparting]
    exact hblank
  unfold place? Tail.chars
  rw [stamp_append]
  simp only [hopen, hline, hcomma, hcolumn, hclose, trimStart_blanks_append t.gap_blank,
    trimStart_category, category?_append, hhead, if_true, hword, hmark, hcode, hcolon, hend,
    Option.bind_eq_bind, Option.bind_some]
  rfl

/-- Nothing else is read as a tail. -/
theorem exists_of_place? {cs : List Char} {l : Located} (h : place? cs = some l) :
    ∃ t : Tail, cs = t.chars ∧ l = t.located := by
  simp only [place?, Option.bind_eq_bind, Option.bind_eq_some_iff] at h
  obtain ⟨_, hopen, ⟨_, _⟩, hline, _, hcomma, ⟨_, _⟩, hcolumn, rest, hclose, ⟨category, behind⟩,
    hcategory, h⟩ := h
  split at h
  · next hparted =>
    simp only [Option.bind_some, Option.bind_eq_some_iff] at h
    obtain ⟨_, hmark, ⟨_, last⟩, hcode, text, hend, hl⟩ := h
    dsimp only at hparted hcomma hclose hend
    obtain ⟨line, rfl, rfl⟩ := DigitText.exists_of_digitsInFront? hline
    obtain ⟨column, rfl, rfl⟩ := DigitText.exists_of_digitsInFront? hcolumn
    obtain ⟨code, rfl, rfl⟩ := DigitText.exists_of_digitsInFront? hcode
    obtain ⟨gap, hgap, hrest⟩ := exists_blanks rest
    obtain ⟨parting, hparting, hbehind⟩ := exists_blanks behind
    obtain ⟨slack, hslack, hlast⟩ := exists_blanks last
    have hopen := List.isPrefixOf?_eq_some_iff_append_eq.mp hopen
    have hcomma := List.isPrefixOf?_eq_some_iff_append_eq.mp hcomma
    have hclose := List.isPrefixOf?_eq_some_iff_append_eq.mp hclose
    have hmark := List.isPrefixOf?_eq_some_iff_append_eq.mp hmark
    have hend := List.isPrefixOf?_eq_some_iff_append_eq.mp hend
    -- with no blank behind it the category would run on into the mark of the code
    have hne : parting ≠ [] := by
      rintro rfl
      rw [hbehind, ← hmark] at hparted
      have hmarkHead : isBlank 'T' = true := hparted
      exact absurd hmarkHead (by decide)
    refine ⟨⟨line, column, gap, category, parting, code, slack, text, hgap, hparting, hne, hslack⟩,
      ?_, (Option.some.inj hl).symm⟩
    unfold Tail.chars
    rw [stamp_append, ← hopen, ← hcomma, ← hclose, hrest, exists_of_category? hcategory, hbehind,
      ← hmark, hlast, ← hend]
    rfl
  · exact absurd h (by simp)

theorem place?_eq_some_iff {cs : List Char} {l : Located} :
    place? cs = some l ↔ ∃ t : Tail, cs = t.chars ∧ l = t.located := by
  constructor
  · exact exists_of_place?
  · rintro ⟨t, rfl, rfl⟩
    exact place?_tail t

/-! ## The search for the end of the name -/

theorem located?_cons (c : Char) (cs : List Char) :
    located? (c :: cs) = if isBlank c then none else search? [c] cs := rfl

theorem search?_here {c : Char} {cs : List Char} {l : Located} (h : place? (c :: cs) = some l)
    (before : List Char) : search? before (c :: cs) = some { l with file := before.reverse } := by
  rw [search?.eq_def]
  dsimp only
  rw [h]

theorem search?_on {c : Char} {cs : List Char} (h : place? (c :: cs) = none)
    (before : List Char) : search? before (c :: cs) = search? (c :: before) cs := by
  rw [search?.eq_def]
  dsimp only
  rw [h]

/-- The search fails exactly if no tail stands anywhere. -/
theorem search?_eq_none_iff {cs : List Char} :
    ∀ {before : List Char},
      search? before cs = none ↔ ∀ front (t : Tail), cs ≠ front ++ t.chars := by
  induction cs with
  | nil =>
    intro before
    refine ⟨fun _ front t h => ?_, fun _ => rfl⟩
    exact absurd (List.append_eq_nil_iff.mp h.symm).2 (by simp [Tail.chars, stamp])
  | cons c cs ih =>
    intro before
    cases hhere : place? (c :: cs) with
    | some l =>
      obtain ⟨t, ht, -⟩ := exists_of_place? hhere
      rw [search?_here hhere]
      exact ⟨fun h => absurd h (by simp), fun h => absurd ht (h [] t)⟩
    | none =>
      rw [search?_on hhere, ih]
      constructor
      · intro h front t hcs
        cases front with
        | nil =>
          rw [hcs, List.nil_append, place?_tail] at hhere
          exact absurd hhere (by simp)
        | cons d front => exact h front t (List.cons.inj hcs).2
      · exact fun h front t hcs => h (c :: front) t (by rw [hcs]; rfl)

/-- **A line is taken for a located message exactly if it names a file and a place.** -/
theorem located?_eq_none_iff {cs : List Char} : located? cs = none ↔ ¬ IsHeader cs := by
  cases cs with
  | nil => exact ⟨fun _ ⟨_, _, _, _, h⟩ => absurd h (by simp), fun _ => rfl⟩
  | cons c cs =>
    rw [located?_cons]
    constructor
    · rintro h ⟨first, file, t, hfirst, hcs⟩
      obtain ⟨rfl, hrest⟩ := List.cons.inj hcs
      rw [if_neg (by simp [hfirst])] at h
      exact search?_eq_none_iff.mp h file t hrest
    · intro h
      split
      · rfl
      · next hblank =>
        rw [search?_eq_none_iff]
        intro front t hcs
        exact h ⟨c, front, t, by simpa using hblank, by rw [hcs]⟩

instance : DecidablePred IsHeader := fun cs =>
  decidable_of_iff (located? cs ≠ none) (not_congr located?_eq_none_iff |>.trans not_not)

/-- The search ends where the tail begins, if none begins in the name. -/
theorem search?_append {rest : List Char} {l : Located} (hrest : place? rest = some l) :
    ∀ {file before : List Char},
      (∀ front back, file = front ++ back → back ≠ [] → place? (back ++ rest) = none) →
      search? before (file ++ rest) = some { l with file := before.reverse ++ file } := by
  intro file
  induction file with
  | nil =>
    intro before _
    cases rest with
    | nil =>
      have hempty : place? [] = none := rfl
      exact absurd (hempty.symm.trans hrest) (by simp)
    | cons c cs => rw [List.nil_append, search?_here hrest, List.append_nil]
  | cons c file ih =>
    intro before h
    have hhere : place? (c :: (file ++ rest)) = none := h [] (c :: file) rfl (by simp)
    have hlater : ∀ front back, file = front ++ back → back ≠ [] → place? (back ++ rest) = none :=
      fun front back hfile => h (c :: front) back (by rw [hfile]; rfl)
    rw [List.cons_append, search?_on hhere, ih hlater]
    simp

/-! ## Names without places -/

/-- Whether a place is named somewhere in a text. -/
def NamesPlace (cs : List Char) : Prop := ∃ line column, stamp line column <:+: cs

theorem colon_mem_of_namesPlace {cs : List Char} (h : NamesPlace cs) : ':' ∈ cs := by
  obtain ⟨line, column, hin⟩ := h
  exact hin.mem (by simp [stamp])

theorem open_not_mem_digits (d : DigitText) : '(' ∉ d.chars := fun h =>
  absurd (d.decimal _ h) (by decide)

/-- A place has no second opening parenthesis. -/
theorem open_not_mem_stamp (line column : DigitText) : '(' ∉ (stamp line column).tail := by
  simp [stamp, open_not_mem_digits]

/-- In a name in which no place is named no tail begins, whatever stands behind it. -/
theorem place?_name {back rest : List Char} (hback : back ≠ []) (hname : ¬ NamesPlace back) :
    place? (back ++ '(' :: rest) = none := by
  rw [Option.eq_none_iff_forall_ne_some]
  intro l hl
  obtain ⟨t, ht, -⟩ := exists_of_place? hl
  have hstamp : stamp t.line t.column <+: back ++ '(' :: rest := ⟨_, ht.symm⟩
  rcases List.prefix_or_prefix_of_prefix hstamp (List.prefix_append back _) with hin | hover
  · exact hname ⟨t.line, t.column, hin.isInfix⟩
  · obtain ⟨more, hmore⟩ := hover
    cases more with
    | nil =>
      rw [List.append_nil] at hmore
      exact hname ⟨t.line, t.column, hmore ▸ List.infix_rfl⟩
    | cons c more =>
      -- the place would go on over the parenthesis behind the name
      rw [← hmore] at hstamp
      obtain ⟨rfl, -⟩ := List.cons_prefix_cons.mp ((List.prefix_append_right_inj back).mp hstamp)
      obtain ⟨d, ds, rfl⟩ := List.exists_cons_of_ne_nil hback
      refine open_not_mem_stamp t.line t.column ?_
      rw [← hmore]
      simp

/-- **A name in which no place is named is read whole.** -/
theorem located?_append {first : Char} {file : List Char} (hfirst : isBlank first = false)
    (hname : ¬ NamesPlace (first :: file)) (t : Tail) :
    located? (first :: (file ++ t.chars)) = some { t.located with file := first :: file } := by
  rw [located?_cons, if_neg (by simp [hfirst])]
  refine search?_append (place?_tail t) fun front back hfile hback => ?_
  have hopen : t.chars = '(' :: t.chars.tail := by simp [Tail.chars, stamp]
  rw [hopen]
  refine place?_name hback fun ⟨line, column, hin⟩ => hname ⟨line, column, hin.trans ?_⟩
  rw [hfile]
  exact (List.suffix_append (first :: front) back).isInfix

/-! ## What is received of such a line -/

/-- A tail up to the colon in front of its message. -/
def Tail.front (t : Tail) : List Char :=
  stamp t.line t.column ++ (t.gap ++ (t.category.name.toList ++ (t.parting ++
    ("TS".toList ++ (t.code.chars ++ t.slack)))))

/-- A tail with another message. -/
def Tail.withText (t : Tail) (text : List Char) : Tail := { t with text := text }

theorem Tail.chars_withText (t : Tail) (text : List Char) :
    (t.withText text).chars = t.front ++ ':' :: text := by
  simp [Tail.chars, Tail.front, Tail.withText]

/-- A tail arrives but for the end of its message. -/
theorem received_tail (eol : LineEnd) (file : List Char) (t : Tail) :
    eol.received (file ++ t.chars) = file ++ (t.withText (eol.received t.text)).chars := by
  have hcolon : eol.received (':' :: t.text) = ':' :: eol.received t.text :=
    eol.received_cons (by decide) t.text
  calc eol.received (file ++ t.chars)
      = eol.received ((file ++ t.front) ++ ':' :: t.text) := by
        rw [List.append_assoc, ← t.chars_withText]
        rfl
    _ = file ++ (t.front ++ ':' :: eol.received t.text) := by
        rw [eol.received_append_right (by simp), hcolon, List.append_assoc]
    _ = file ++ (t.withText (eol.received t.text)).chars := by rw [t.chars_withText]

/-- **A line names a place exactly if it still does without its carriage return.** -/
theorem isHeader_received (eol : LineEnd) {cs : List Char} :
    IsHeader (eol.received cs) ↔ IsHeader cs := by
  constructor
  · rintro ⟨first, file, t, hfirst, hcs⟩
    obtain ⟨lost, hlost⟩ := eol.received_prefix cs
    refine ⟨first, file, t.withText (t.text ++ lost), hfirst, ?_⟩
    calc cs = first :: (file ++ (t.withText t.text).chars) ++ lost := by rw [← hlost, hcs]; rfl
      _ = first :: (file ++ (t.withText (t.text ++ lost)).chars) := by
        rw [t.chars_withText, t.chars_withText]
        simp
  · rintro ⟨first, file, t, hfirst, rfl⟩
    exact ⟨first, file, _, hfirst, received_tail eol (first :: file) t⟩

end PullReview.CompilerMessage
