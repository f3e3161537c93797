import PullReview.Settings.ShellWords

/-!
# Which commands have words

A command is closed if what it opens it also ends: an apostrophe is followed by a second one, a
double quote by another one that no backslash takes, and behind a backslash there is a
character (`IsClosed`).

> `ofText_hasWords`: the closed commands are the ones that have words. The others are refused for
> a quote that is not closed or a backslash with nothing behind it.
-/

namespace PullReview.ShellWords

/-- What may stand between double quotes. -/
inductive IsQuotedBody : List Char → Prop
  | nil : IsQuotedBody []
  | plain {c : Char} {cs : List Char} : c ≠ '"' → c ≠ '\\' → IsQuotedBody cs →
      IsQuotedBody (c :: cs)
  | escaped (c : Char) {cs : List Char} : IsQuotedBody cs → IsQuotedBody ('\\' :: c :: cs)

/-- Commands in which every quote is closed and every backslash has a character behind it. -/
inductive IsClosed : List Char → Prop
  | nil : IsClosed []
  | plain {c : Char} {cs : List Char} : c ≠ '\'' → c ≠ '"' → c ≠ '\\' → IsClosed cs →
      IsClosed (c :: cs)
  | escaped (c : Char) {cs : List Char} : IsClosed cs → IsClosed ('\\' :: c :: cs)
  | literal {body cs : List Char} : '\'' ∉ body → IsClosed cs →
      IsClosed ('\'' :: (body ++ '\'' :: cs))
  | quoted {body cs : List Char} : IsQuotedBody body → IsClosed cs →
      IsClosed ('"' :: (body ++ '"' :: cs))

/-- What is left of a closed command behind what was opened. -/
def Closes : Mode → List Char → Prop
  | .between, cs | .word, cs => IsClosed cs
  | .literal, cs => ∃ body rest, cs = body ++ '\'' :: rest ∧ '\'' ∉ body ∧ IsClosed rest
  | .quotes, cs => ∃ body rest, cs = body ++ '"' :: rest ∧ IsQuotedBody body ∧ IsClosed rest
  | .escaped, cs => ∃ c rest, cs = c :: rest ∧ IsClosed rest
  | .escapedInQuotes, cs => ∃ c body rest, cs = c :: (body ++ '"' :: rest) ∧ IsQuotedBody body ∧
      IsClosed rest

/-! ## One character more -/

section

variable {c : Char} {cs : List Char}

theorem isClosed_cons_plain (hapostrophe : c ≠ '\'') (hquote : c ≠ '"') (hbackslash : c ≠ '\\') :
    IsClosed (c :: cs) ↔ IsClosed cs := by
  constructor
  · intro h
    cases h with
    | plain _ _ _ hrest => exact hrest
    | escaped => exact absurd rfl hbackslash
    | literal => exact absurd rfl hapostrophe
    | quoted => exact absurd rfl hquote
  · exact .plain hapostrophe hquote hbackslash

theorem isClosed_cons_apostrophe : IsClosed ('\'' :: cs) ↔ Closes .literal cs := by
  constructor
  · intro h
    cases h with
    | plain hapostrophe => exact absurd rfl hapostrophe
    | literal hbody hrest => exact ⟨_, _, rfl, hbody, hrest⟩
  · rintro ⟨body, rest, rfl, hbody, hrest⟩
    exact .literal hbody hrest

theorem isClosed_cons_quote : IsClosed ('"' :: cs) ↔ Closes .quotes cs := by
  constructor
  · intro h
    cases h with
    | plain _ hquote => exact absurd rfl hquote
    | quoted hbody hrest => exact ⟨_, _, rfl, hbody, hrest⟩
  · rintro ⟨body, rest, rfl, hbody, hrest⟩
    exact .quoted hbody hrest

theorem isClosed_cons_backslash : IsClosed ('\\' :: cs) ↔ Closes .escaped cs := by
  constructor
  · intro h
    cases h with
    | plain _ _ hbackslash => exact absurd rfl hbackslash
    | escaped c hrest => exact ⟨c, _, rfl, hrest⟩
  · rintro ⟨c, rest, rfl, hrest⟩
    exact .escaped c hrest

theorem closes_literal_end : Closes .literal ('\'' :: cs) ↔ IsClosed cs := by
  constructor
  · rintro ⟨_ | ⟨first, body⟩, rest, heq, hbody, hrest⟩
    · obtain rfl := (List.cons.inj heq).2
      exact hrest
    · exact absurd ((List.cons.inj heq).1 ▸ List.mem_cons_self ..) hbody
  · exact fun h => ⟨[], cs, rfl, List.not_mem_nil, h⟩

theorem closes_literal_cons (hc : c ≠ '\'') : Closes .literal (c :: cs) ↔ Closes .literal cs := by
  constructor
  · rintro ⟨_ | ⟨first, body⟩, rest, heq, hbody, hrest⟩
    · exact absurd (List.cons.inj heq).1 hc
    · obtain rfl := (List.cons.inj heq).2
      exact ⟨body, rest, rfl, fun h => hbody (List.mem_cons_of_mem _ h), hrest⟩
  · rintro ⟨body, rest, rfl, hbody, hrest⟩
    exact ⟨c :: body, rest, rfl, List.not_mem_cons_of_ne_of_not_mem hc.symm hbody, hrest⟩

theorem closes_quotes_end : Closes .quotes ('"' :: cs) ↔ IsClosed cs := by
  constructor
  · rintro ⟨body, rest, heq, hbody, hrest⟩
    cases hbody with
    | nil =>
      obtain rfl := (List.cons.inj heq).2
      exact hrest
    | plain hquote => exact absurd (List.cons.inj heq).1.symm hquote
    | escaped => exact absurd (List.cons.inj heq).1 (by decide)
  · exact fun h => ⟨[], cs, rfl, .nil, h⟩

theorem closes_quotes_backslash : Closes .quotes ('\\' :: cs) ↔ Closes .escapedInQuotes cs := by
  constructor
  · rintro ⟨body, rest, heq, hbody, hrest⟩
    cases hbody with
    | nil => exact absurd (List.cons.inj heq).1 (by decide)
    | plain _ hbackslash => exact absurd (List.cons.inj heq).1.symm hbackslash
    | escaped c hbody => exact ⟨c, _, rest, (List.cons.inj heq).2, hbody, hrest⟩
  · rintro ⟨c, body, rest, rfl, hbody, hrest⟩
    exact ⟨'\\' :: c :: body, rest, rfl, .escaped c hbody, hrest⟩

theorem closes_quotes_cons (hquote : c ≠ '"') (hbackslash : c ≠ '\\') :
    Closes .quotes (c :: cs) ↔ Closes .quotes cs := by
  constructor
  · rintro ⟨body, rest, heq, hbody, hrest⟩
    cases hbody with
    | nil => exact absurd (List.cons.inj heq).1 hquote
    | plain _ _ hbody => exact ⟨_, rest, (List.cons.inj heq).2, hbody, hrest⟩
    | escaped => exact absurd (List.cons.inj heq).1 hbackslash
  · rintro ⟨body, rest, rfl, hbody, hrest⟩
    exact ⟨c :: body, rest, rfl, .plain hquote hbackslash hbody, hrest⟩

theorem closes_escaped_cons : Closes .escaped (c :: cs) ↔ IsClosed cs := by
  constructor
  · rintro ⟨_, rest, heq, hrest⟩
    obtain rfl := (List.cons.inj heq).2
    exact hrest
  · exact fun h => ⟨c, cs, rfl, h⟩

theorem closes_escapedInQuotes_cons : Closes .escapedInQuotes (c :: cs) ↔ Closes .quotes cs := by
  constructor
  · rintro ⟨_, body, rest, heq, hbody, hrest⟩
    exact ⟨body, rest, (List.cons.inj heq).2, hbody, hrest⟩
  · rintro ⟨body, rest, rfl, hbody, hrest⟩
    exact ⟨c, body, rest, rfl, hbody, hrest⟩

/-- A blank needs nothing to close it. -/
theorem isClosed_cons_blank (h : isBlank c = true) : IsClosed (c :: cs) ↔ IsClosed cs := by
  refine isClosed_cons_plain ?_ ?_ ?_ <;> rintro rfl <;> exact absurd h (by decide)

end

theorem not_closes_nil {mode : Mode} (hbetween : mode ≠ .between) (hword : mode ≠ .word) :
    ¬ Closes mode [] := by
  cases mode with
  | between => exact absurd rfl hbetween
  | word => exact absurd rfl hword
  | literal | quotes =>
    rintro ⟨body, rest, h, -⟩
    exact absurd h.symm (by simp)
  | escaped =>
    rintro ⟨c, rest, h, -⟩
    exact absurd h.symm (by simp)
  | escapedInQuotes =>
    rintro ⟨c, body, rest, h, -⟩
    exact absurd h.symm (by simp)

/-! ## Reading -/

/-- Why a command is refused. -/
inductive IsCutOff : Fault → Prop
  | quote : IsCutOff (.data .unclosedQuote)
  | backslash : IsCutOff (.data .nothingEscaped)

theorem IsCutOff.ne_settings {fault : Fault} (h : IsCutOff fault) (cause : SettingsFault) :
    fault ≠ .settings cause := by
  rintro rfl
  cases h

/-- There are words just if the condition holds. -/
structure HasWords (condition : Prop) (r : Except Fault (List String)) : Prop where
  ok : condition → ∃ words, r = .ok words
  error : ¬ condition → ∃ fault, r = .error fault ∧ IsCutOff fault

theorem HasWords.congr {p q : Prop} {r : Except Fault (List String)} (h : HasWords p r)
    (hpq : q ↔ p) : HasWords q r :=
  ⟨fun hq => h.ok (hpq.mp hq), fun hq => h.error fun hp => hq (hpq.mpr hp)⟩

theorem hasWords_ok {p : Prop} (hp : p) (words : List String) : HasWords p (.ok words) :=
  ⟨fun _ => ⟨words, rfl⟩, fun h => absurd hp h⟩

theorem hasWords_error {p : Prop} (hp : ¬ p) {fault : Fault} (h : IsCutOff fault) :
    HasWords p (.error fault) :=
  ⟨fun hq => absurd hq hp, fun _ => ⟨fault, rfl, h⟩⟩

/-- **From any mode there are words just if what is open is closed by the rest.** -/
theorem readFrom_hasWords (mode : Mode) (cs word : List Char) (done : List String) :
    HasWords (Closes mode cs) (readFrom mode cs word done) := by
  -- the cases are those of the reader: the text ends, or one character is read
  fun_induction readFrom mode cs word done with
  | case1 => exact hasWords_ok .nil _
  | case2 => exact hasWords_ok .nil _
  | case3 => exact hasWords_error (not_closes_nil (by simp) (by simp)) .quote
  | case4 => exact hasWords_error (not_closes_nil (by simp) (by simp)) .quote
  | case5 => exact hasWords_error (not_closes_nil (by simp) (by simp)) .backslash
  | case6 => exact hasWords_error (not_closes_nil (by simp) (by simp)) .backslash
  | case7 _ _ _ _ hblank ih | case12 _ _ _ _ hblank ih =>
    exact ih.congr (isClosed_cons_blank hblank)
  | case8 _ _ _ _ ih | case13 _ _ _ _ ih => exact ih.congr isClosed_cons_apostrophe
  | case9 _ _ _ _ _ ih | case14 _ _ _ _ _ ih => exact ih.congr isClosed_cons_quote
  | case10 _ _ _ _ _ _ ih | case15 _ _ _ _ _ _ ih => exact ih.congr isClosed_cons_backslash
  | case11 _ _ _ _ _ hapostrophe hquote hbackslash ih
  | case16 _ _ _ _ _ hapostrophe hquote hbackslash ih =>
    exact ih.congr (isClosed_cons_plain hapostrophe hquote hbackslash)
  | case17 _ _ _ ih => exact ih.congr closes_literal_end
  | case18 _ _ _ _ hc ih => exact ih.congr (closes_literal_cons hc)
  | case19 _ _ _ ih => exact ih.congr closes_quotes_end
  | case20 _ _ _ _ ih => exact ih.congr closes_quotes_backslash
  | case21 _ _ _ _ hquote hbackslash ih => exact ih.congr (closes_quotes_cons hquote hbackslash)
  | case22 _ _ _ _ ih => exact ih.congr closes_escaped_cons
  | case23 _ _ _ _ _ ih | case24 _ _ _ _ _ ih => exact ih.congr closes_escapedInQuotes_cons

/-- **The words of closed commands**: they are there, and for any other command there is a quote
that is not closed, or a backslash with nothing behind it. -/
theorem ofText_hasWords (s : String) : HasWords (IsClosed s.toList) (ofText s) :=
  readFrom_hasWords .between s.toList [] []

end PullReview.ShellWords
