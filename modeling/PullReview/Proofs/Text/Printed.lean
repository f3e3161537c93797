import PullReview.Proofs.Number.Digits

/-!
# Pieces of printed lines

What programs print is put together from texts that keep within a line (`LineText`) and
from numbers, which are texts of digits of any script (`DigitText`). In front of any other
character such digits are taken up exactly, no more and no fewer
(`DigitText.digitsInFront?_append`), and nothing else is
(`DigitText.exists_of_digitsInFront?`).
-/

namespace PullReview

open Text

/-- A text without line feeds. -/
structure LineText where
  chars : List Char
  unbroken : '\n' ∉ chars

theorem feed_not_mem_nil : '\n' ∉ ([] : List Char) := List.not_mem_nil

/-- The line with nothing on it. -/
def LineText.empty : LineText := ⟨[], feed_not_mem_nil⟩

/-- A text of decimal digits, at least one. -/
structure DigitText where
  chars : List Char
  nonempty : chars ≠ []
  decimal : ∀ c ∈ chars, isDecimalDigit c = true

/-- Whether a text begins with no decimal digit. -/
def NoDigitFirst (cs : List Char) : Prop := ∀ c ∈ cs.head?, isDecimalDigit c = false

namespace DigitText

/-- The number that the digits write. -/
def value (d : DigitText) : Nat := Numeral.ofDigits (Numeral.digitValues d.chars)

/-- A number in the usual digits. -/
def ofNat (n : Nat) : DigitText where
  chars := Nat.toDigits 10 n
  nonempty := Nat.toDigits_ne_nil
  decimal := fun _ hc =>
    isDecimalDigit_of_isDigit (Nat.isDigit_of_mem_toDigits (by decide) (by decide) hc)

theorem value_ofNat (n : Nat) : (DigitText.ofNat n).value = n := ofDigits_toDigits n

theorem feed_not_mem (d : DigitText) : '\n' ∉ d.chars := fun hm =>
  absurd (d.decimal _ hm) (by decide)

/-- Digits hold no carriage return. -/
theorem return_not_mem (d : DigitText) : '\r' ∉ d.chars := fun hm =>
  absurd (d.decimal _ hm) (by decide)

/-- Every digit has a value. -/
theorem length_digitValues (d : DigitText) :
    (Numeral.digitValues d.chars).length = d.chars.length :=
  List.filterMap_length_eq_length.mpr d.decimal

/-- With no more digits than are read the number is read. -/
theorem natOf_eq (d : DigitText) (h : d.chars.length ≤ Numeral.maxDigits) :
    Numeral.natOf (Numeral.digitValues d.chars) = .ok d.value := by
  have hlength : (Numeral.digitValues d.chars).length ≤ d.chars.length :=
    List.length_filterMap_le ..
  unfold Numeral.natOf
  rw [if_neg (by omega)]
  rfl

/-! ## Digits in front of something else -/

theorem takeWhile_append (d : DigitText) {rest : List Char} (h : NoDigitFirst rest) :
    (d.chars ++ rest).takeWhile isDecimalDigit = d.chars := by
  have hstop : rest.takeWhile isDecimalDigit = [] := by
    cases rest with
    | nil => rfl
    | cons c cs =>
      have hc : isDecimalDigit c = false := h c rfl
      rw [List.takeWhile_cons, hc]
      rfl
  rw [List.takeWhile_append_of_pos d.decimal, hstop, List.append_nil]

theorem dropWhile_append (d : DigitText) {rest : List Char} (h : NoDigitFirst rest) :
    (d.chars ++ rest).dropWhile isDecimalDigit = rest := by
  rw [List.dropWhile_append_of_pos d.decimal]
  cases rest with
  | nil => rfl
  | cons c cs =>
    have hc : isDecimalDigit c = false := h c rfl
    rw [List.dropWhile_cons, hc]
    rfl

/-- Digits in front are taken up to the first other character. -/
theorem digitsInFront?_append (d : DigitText) {rest : List Char} (h : NoDigitFirst rest) :
    Numeral.digitsInFront? (d.chars ++ rest) = some (Numeral.digitValues d.chars, rest) := by
  unfold Numeral.digitsInFront?
  simp only [d.takeWhile_append h, d.dropWhile_append h]
  rw [if_neg (by simpa using d.nonempty)]

/-- The digits in front of a text, if there are any. -/
def front (cs : List Char) (h : cs.takeWhile isDecimalDigit ≠ []) : DigitText where
  chars := cs.takeWhile isDecimalDigit
  nonempty := h
  decimal := List.all_eq_true.mp List.all_takeWhile

theorem front_append_dropWhile (cs : List Char) (h : cs.takeWhile isDecimalDigit ≠ []) :
    cs = (front cs h).chars ++ cs.dropWhile isDecimalDigit :=
  List.takeWhile_append_dropWhile.symm

theorem exists_of_digitsInFront? {cs rest : List Char} {ds : List Nat}
    (h : Numeral.digitsInFront? cs = some (ds, rest)) :
    ∃ d : DigitText, cs = d.chars ++ rest ∧ ds = Numeral.digitValues d.chars := by
  unfold Numeral.digitsInFront? at h
  dsimp only at h
  split at h
  · exact absurd h (by simp)
  · next hsome =>
    obtain ⟨rfl, rfl⟩ := Prod.mk.inj (Option.some.inj h)
    have hne : cs.takeWhile isDecimalDigit ≠ [] := by simpa using hsome
    exact ⟨.front cs hne, front_append_dropWhile cs hne, rfl⟩

end DigitText

end PullReview
