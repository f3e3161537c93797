import PullReview.Json.Reader
import PullReview.Json.Writer
import PullReview.Proofs.Number.Digits
import PullReview.Text.Lines

/-!
# Written values

A written value tells where it ends: in front of anything that is no part of a number, its text
belongs to no other value (`write_append_inj`). Strings can be read back from the text, whatever
characters they hold (`readString_written`), and all that is written is printable ASCII, so a
value never breaks a line (`isPlain_write`).

Values that hold doubles are left out (`IsExact`).
-/

namespace PullReview

namespace Text

/-! ## Hexadecimal digits -/

/-- One digit more is the last digit, behind the text of the rest. -/
theorem hexText_succ {width n : Nat} (hwidth : 0 < width) :
    hexText (width + 1) n = hexText width (n / 16) ++ [Nat.digitChar (n % 16)] := by
  unfold hexText
  by_cases hsmall : n < 16
  · obtain ⟨w, rfl⟩ := Nat.exists_eq_succ_of_ne_zero (Nat.ne_of_gt hwidth)
    rw [Nat.toDigits_of_lt_base hsmall, Nat.div_eq_of_lt hsmall, Nat.mod_eq_of_lt hsmall]
    show List.replicate (w + 1) '0' ++ _ = (List.replicate w '0' ++ ['0']) ++ _
    rw [List.replicate_succ']
  · dsimp only
    rw [Nat.toDigits_of_base_le (by decide) (Nat.le_of_not_lt hsmall), List.length_append,
      List.length_singleton, Nat.add_sub_add_right, List.append_assoc]

theorem hexText_four {n : Nat} (h : n < 0x10000) :
    hexText 4 n = [Nat.digitChar (n / 16 / 16 / 16), Nat.digitChar (n / 16 / 16 % 16),
      Nat.digitChar (n / 16 % 16), Nat.digitChar (n % 16)] := by
  have hfirst : n / 16 / 16 / 16 < 16 := by omega
  rw [hexText_succ (by decide), hexText_succ (by decide), hexText_succ (by decide)]
  unfold hexText
  rw [Nat.toDigits_of_lt_base hfirst]
  rfl

/-- The printable characters of ASCII. -/
def IsPlainChar (c : Char) : Prop := 0x20 ≤ c.toNat ∧ c.toNat ≤ 0x7e

instance (c : Char) : Decidable (IsPlainChar c) := inferInstanceAs (Decidable (_ ∧ _))

def ArePlain (cs : List Char) : Prop := ∀ c ∈ cs, IsPlainChar c

instance (cs : List Char) : Decidable (ArePlain cs) := List.decidableBAll _ cs

theorem ArePlain.append {cs ds : List Char} (hcs : ArePlain cs) (hds : ArePlain ds) :
    ArePlain (cs ++ ds) := List.forall_mem_append.mpr ⟨hcs, hds⟩

def IsPlain (s : String) : Prop := ArePlain s.toList

instance (s : String) : Decidable (IsPlain s) := inferInstanceAs (Decidable (ArePlain _))

theorem IsPlain.append {s t : String} (hs : IsPlain s) (ht : IsPlain t) : IsPlain (s ++ t) := by
  unfold IsPlain
  rw [String.toList_append]
  exact ArePlain.append hs ht

theorem isPlain_join {sep : String} (hsep : IsPlain sep) :
    ∀ {parts : List String}, (∀ part ∈ parts, IsPlain part) → IsPlain (join sep parts) := by
  intro parts
  induction parts with
  | nil => intro _ c hc; exact absurd hc List.not_mem_nil
  | cons part parts ih =>
    intro h
    obtain ⟨hpart, hparts⟩ := List.forall_mem_cons.mp h
    cases parts with
    | nil => unfold join; rw [String.intercalate_singleton]; exact hpart
    | cons next parts =>
      unfold join
      rw [String.intercalate_cons_cons]
      exact (hpart.append hsep).append (ih hparts)

theorem isPlainChar_of_isDigit {c : Char} (h : c.isDigit = true) : IsPlainChar c := by
  obtain ⟨hlow, hhigh⟩ : 0x30 ≤ c.toNat ∧ c.toNat ≤ 0x39 := Char.isDigit_iff_toNat.mp h
  exact ⟨by omega, by omega⟩

theorem isPlain_natText (n : Nat) : IsPlain (toString n) :=
  fun _ hc => isPlainChar_of_isDigit (mem_natText hc)

theorem isPlain_intText (n : Int) : IsPlain (toString n) := by
  intro c hc
  rcases mem_intText hc with rfl | hdigit
  · decide
  · exact isPlainChar_of_isDigit hdigit

end Text

namespace Json

open Text

/-! ## Reading escapes -/

/-- No character has a number beyond the last plane. -/
theorem toNat_lt (c : Char) : c.toNat < 0x110000 := by
  rcases c.valid with h | h
  · exact Nat.lt_trans h (by decide)
  · exact h.2

theorem hexValue?_digitChar : ∀ d < 16, hexValue? (Nat.digitChar d) = some d := by decide

/-- The four digits of a code unit write its number. -/
theorem exists_hexText {n : Nat} (h : n < 0x10000) :
    ∃ a b c d, hexText 4 n = [a, b, c, d] ∧ fourHex? a b c d = some n := by
  refine ⟨_, _, _, _, hexText_four h, ?_⟩
  unfold fourHex?
  rw [hexValue?_digitChar _ (by omega), hexValue?_digitChar _ (by omega),
    hexValue?_digitChar _ (by omega), hexValue?_digitChar _ (by omega)]
  show some _ = some n
  congr 1
  omega

section Escapes

variable (opening fuel : Nat) {rest : List Char} (hrest : rest ≠ []) (done : List Char)
include hrest

/-- A code unit that is no half of a pair is a character on its own. -/
theorem readString_unitEscape {n : Nat} (h : n < 0x10000) (hwhole : n < 0xd800 ∨ 0xdfff < n) :
    readString opening (fuel + 1) (unitEscape n ++ rest) done
      = readString opening fuel rest (Char.ofNat n :: done) := by
  obtain ⟨a, b, c, d, htext, hvalue⟩ := exists_hexText h
  obtain ⟨e, more, rfl⟩ := List.exists_cons_of_ne_nil hrest
  have hhigh : (decide (0xd800 ≤ n) && decide (n ≤ 0xdbff)) = false := by
    simp only [Bool.and_eq_false_iff, decide_eq_false_iff_not]
    omega
  have hunit : unitChar n = Char.ofNat n := by
    unfold unitChar
    rw [if_neg]
    simp only [Bool.and_eq_true, decide_eq_true_eq]
    omega
  unfold unitEscape
  rw [htext]
  show readString opening (fuel + 1) ('\\' :: 'u' :: a :: b :: c :: d :: e :: more) done = _
  rw [readString, hvalue]
  dsimp only
  rw [hhigh, hunit]
  rfl

/-- The two halves of a pair are one character. -/
theorem readString_pair {high low : Nat} (hhigh : 0xd800 ≤ high ∧ high ≤ 0xdbff)
    (hlow : 0xdc00 ≤ low ∧ low ≤ 0xdfff) :
    readString opening (fuel + 1) (unitEscape high ++ unitEscape low ++ rest) done
      = readString opening fuel rest
          (Char.ofNat (0x10000 + (high - 0xd800) * 0x400 + (low - 0xdc00)) :: done) := by
  obtain ⟨a, b, c, d, htext, hvalue⟩ := exists_hexText (n := high) (by omega)
  obtain ⟨p, q, r, s, htext', hvalue'⟩ := exists_hexText (n := low) (by omega)
  obtain ⟨t, tail, rfl⟩ := List.exists_cons_of_ne_nil hrest
  have hfirst : (decide (0xd800 ≤ high) && decide (high ≤ 0xdbff)) = true := by simp [hhigh]
  have hsecond : (decide (0xdc00 ≤ low) && decide (low ≤ 0xdfff)) = true := by simp [hlow]
  unfold unitEscape
  rw [htext, htext']
  show readString opening (fuel + 1) ('\\' :: 'u' :: a :: b :: c :: d :: '\\' :: 'u' :: p :: q ::
    r :: s :: t :: tail) done = _
  rw [readString, hvalue]
  dsimp only
  rw [if_pos hfirst]
  simp only [hvalue']
  exact if_pos hsecond

/-- **A written character is read as itself.** -/
theorem readString_writeChar (c : Char) :
    readString opening (fuel + 1) (writeChar c ++ rest) done
      = readString opening fuel rest (c :: done) := by
  unfold writeChar
  split
  -- the seven characters with a letter of their own
  iterate 7 rfl
  next hquote hslash _ _ _ _ _ =>
  dsimp only
  split
  · next hplain =>
    have hprint : ¬ c.toNat < 0x20 := by
      simp only [Bool.and_eq_true, decide_eq_true_eq] at hplain
      omega
    rw [List.singleton_append, readString, if_neg hprint]
    · exact hquote
    · exact fun h _ => hslash h
    · exact fun _ h _ => hslash h
    · exact fun _ _ h _ => hslash h
  · split
    · next hsmall =>
      have hwhole : c.toNat < 0xd800 ∨ 0xdfff < c.toNat :=
        c.valid.imp_right And.left
      rw [readString_unitEscape _ _ hrest _ hsmall hwhole, Char.ofNat_toNat]
    · next hlarge =>
      have hbound := toNat_lt c
      have hchar : 0x10000 + (0xd800 + (c.toNat - 0x10000) / 0x400 - 0xd800) * 0x400
          + (0xdc00 + (c.toNat - 0x10000) % 0x400 - 0xdc00) = c.toNat := by omega
      rw [readString_pair _ _ hrest _ ⟨by omega, by omega⟩ ⟨by omega, by omega⟩, hchar,
        Char.ofNat_toNat]

end Escapes

/-- **A written string reads back**, and what stands behind it is left. -/
theorem readString_written (opening : Nat) (rest : List Char) :
    ∀ (cs : List Char) (fuel : Nat) (done : List Char), cs.length < fuel →
      readString opening fuel (cs.flatMap writeChar ++ '"' :: rest) done
        = .ok (done.reverse ++ cs, rest) := by
  intro cs
  induction cs with
  | nil =>
    intro fuel done hfuel
    obtain ⟨fuel, rfl⟩ := Nat.exists_eq_succ_of_ne_zero (Nat.ne_of_gt hfuel)
    rw [List.append_nil]
    rfl
  | cons c cs ih =>
    intro fuel done hfuel
    obtain ⟨fuel, rfl⟩ := Nat.exists_eq_succ_of_ne_zero (Nat.ne_of_gt (Nat.zero_lt_of_lt hfuel))
    rw [List.flatMap_cons, List.append_assoc, readString_writeChar _ _ (by simp),
      ih fuel (c :: done) (Nat.lt_of_succ_lt_succ hfuel), List.reverse_cons, List.append_assoc,
      List.singleton_append]

theorem writeChar_ne_nil (c : Char) : writeChar c ≠ [] := by
  unfold writeChar unitEscape
  split
  iterate 7 exact List.cons_ne_nil _ _
  dsimp only
  split
  · exact List.cons_ne_nil _ _
  · split <;> exact List.cons_ne_nil _ _

/-- No text gets shorter. -/
theorem length_le_written (cs : List Char) : cs.length ≤ (cs.flatMap writeChar).length := by
  induction cs with
  | nil => exact Nat.le_refl 0
  | cons c cs ih =>
    have hpos : 0 < (writeChar c).length := List.length_pos_iff.mpr (writeChar_ne_nil c)
    rw [List.flatMap_cons, List.length_append, List.length_cons]
    omega

theorem toList_writeString (s : String) (rest : List Char) :
    (writeString s).toList ++ rest = '"' :: (s.toList.flatMap writeChar ++ '"' :: rest) := by
  unfold writeString
  rw [String.toList_ofList, List.cons_append, List.cons_append, List.append_assoc,
    List.singleton_append]

/-- A written string tells where it ends. -/
theorem writeString_append_inj {s t : String} {rest rest' : List Char}
    (h : (writeString s).toList ++ rest = (writeString t).toList ++ rest') :
    s = t ∧ rest = rest' := by
  rw [toList_writeString, toList_writeString] at h
  have hs := readString_written 0 rest s.toList (s.toList.length + t.toList.length + 1) []
    (by omega)
  have ht := readString_written 0 rest' t.toList (s.toList.length + t.toList.length + 1) []
    (by omega)
  rw [(List.cons.inj h).2, ht] at hs
  obtain ⟨hchars, hrest⟩ := Prod.mk.inj (Except.ok.inj hs)
  exact ⟨(String.toList_inj.mp hchars).symm, hrest.symm⟩

/-! ## Printable text -/

theorem arePlain_unitEscape {n : Nat} (h : n < 0x10000) : ArePlain (unitEscape n) := by
  have hdigit : ∀ d < 16, IsPlainChar (Nat.digitChar d) := by decide
  have hdigits : ArePlain (hexText 4 n) := by
    rw [hexText_four h]
    intro c hc
    simp only [List.mem_cons, List.not_mem_nil, or_false] at hc
    rcases hc with rfl | rfl | rfl | rfl <;> exact hdigit _ (by omega)
  have hfront : ArePlain ['\\', 'u'] := by decide
  exact hfront.append hdigits

theorem arePlain_writeChar (c : Char) : ArePlain (writeChar c) := by
  unfold writeChar
  split
  iterate 7 decide
  dsimp only
  split
  · next hplain =>
    simp only [Bool.and_eq_true, decide_eq_true_eq] at hplain
    exact List.forall_mem_singleton.mpr hplain
  · split
    · next hsmall => exact arePlain_unitEscape hsmall
    · have hbound := toNat_lt c
      exact (arePlain_unitEscape (by omega)).append (arePlain_unitEscape (by omega))

theorem isPlain_writeString (s : String) : IsPlain (writeString s) := by
  have hquote : ArePlain ['"'] := by decide
  have hchars : ArePlain (s.toList.flatMap writeChar) := by
    intro c hc
    obtain ⟨d, -, hc⟩ := List.mem_flatMap.mp hc
    exact arePlain_writeChar d c hc
  unfold IsPlain writeString
  rw [String.toList_ofList]
  exact (hquote.append hchars).append hquote

/-- Values without doubles. -/
inductive IsExact : Json → Prop
  | null : IsExact .null
  | bool (b : Bool) : IsExact (.bool b)
  | int (n : Int) : IsExact (.int n)
  | str (s : String) : IsExact (.str s)
  | arr {items : List Json} (h : ∀ x ∈ items, IsExact x) : IsExact (.arr items)
  | obj {members : List (String × Json)} (h : ∀ m ∈ members, IsExact m.2) : IsExact (.obj members)

/-! ## Lists and objects -/

section Collections

variable {α : Type} (text : α → List Char)

/-- What is written behind the first part of a list or an object. -/
def furtherText (parts : List α) : List Char := parts.flatMap fun x => ',' :: ' ' :: text x

/-- The text of a list or an object, from the texts of its parts. -/
def collectedText (opening closing : Char) : List α → List Char
  | [] => [opening, closing]
  | x :: parts => opening :: (text x ++ (furtherText text parts ++ [closing]))

theorem arePlain_collectedText {opening closing : Char} (hopening : IsPlainChar opening)
    (hclosing : IsPlainChar closing) {parts : List α} (h : ∀ x ∈ parts, ArePlain (text x)) :
    ArePlain (collectedText text opening closing parts) := by
  have hend : ArePlain [closing] := List.forall_mem_singleton.mpr hclosing
  cases parts with
  | nil => exact List.forall_mem_cons.mpr ⟨hopening, hend⟩
  | cons x parts =>
    obtain ⟨hx, hparts⟩ := List.forall_mem_cons.mp h
    have hbetween : ArePlain [',', ' '] := by decide
    have hfurther : ArePlain (furtherText text parts) := by
      intro c hc
      obtain ⟨y, hy, hc⟩ := List.mem_flatMap.mp hc
      exact hbetween.append (hparts y hy) c hc
    exact List.forall_mem_cons.mpr ⟨hopening, hx.append (hfurther.append hend)⟩

end Collections

def valueText (v : Json) : List Char := (write v).toList

/-- A member of an object as it is written. -/
def memberText (m : String × Json) : List Char :=
  (writeString m.1).toList ++ ':' :: ' ' :: valueText m.2

theorem toList_writeItems (items : List Json) :
    (writeItems items).toList = furtherText valueText items := by
  induction items with
  | nil => rw [writeItems]; rfl
  | cons x items ih =>
    rw [writeItems, String.toList_append, String.toList_append, ih]
    rfl

theorem toList_writeMembers (members : List (String × Json)) :
    (writeMembers members).toList = furtherText memberText members := by
  induction members with
  | nil => rw [writeMembers]; rfl
  | cons m members ih =>
    obtain ⟨name, x⟩ := m
    have hshape : furtherText memberText ((name, x) :: members)
        = ',' :: ' ' :: (memberText (name, x) ++ furtherText memberText members) := rfl
    rw [hshape, ← ih, memberText, valueText]
    simp only [writeMembers, String.toList_append, List.append_assoc, List.cons_append]
    rfl

theorem valueText_arr (items : List Json) :
    valueText (.arr items) = collectedText valueText '[' ']' items := by
  unfold valueText
  cases items with
  | nil => rw [write]; rfl
  | cons x items =>
    rw [write, String.toList_append, String.toList_append, String.toList_append,
      toList_writeItems, List.append_assoc, List.append_assoc]
    rfl

theorem valueText_obj (members : List (String × Json)) :
    valueText (.obj members) = collectedText memberText '\x7b' '\x7d' members := by
  cases members with
  | nil => unfold valueText; rw [write]; rfl
  | cons m members =>
    obtain ⟨name, x⟩ := m
    have hshape : collectedText memberText '\x7b' '\x7d' ((name, x) :: members)
        = '\x7b' :: (memberText (name, x) ++ (furtherText memberText members ++ ['\x7d'])) := rfl
    rw [hshape, ← toList_writeMembers, memberText, valueText, valueText]
    simp only [write, String.toList_append, List.append_assoc, List.cons_append]
    rfl

/-- **What is written is printable ASCII**, and so stays on one line. -/
theorem isPlain_write {v : Json} (hv : v.IsExact) : IsPlain (write v) := by
  induction hv with
  | null => unfold write; decide
  | bool b => unfold write; cases b <;> decide
  | int n => unfold write; exact isPlain_intText n
  | str s => unfold write; exact isPlain_writeString s
  | @arr items _ ih =>
    have hitems : ArePlain (valueText (.arr items)) := by
      rw [valueText_arr]
      exact arePlain_collectedText _ (by decide) (by decide) ih
    exact hitems
  | @obj members _ ih =>
    have hbetween : ArePlain [':', ' '] := by decide
    have hmembers : ArePlain (valueText (.obj members)) := by
      rw [valueText_obj]
      exact arePlain_collectedText _ (by decide) (by decide) fun m hm =>
        ArePlain.append (isPlain_writeString m.1) (hbetween.append (ih m hm))
    exact hmembers

/-! ## Where a value ends -/

/-- The characters of whole numbers. -/
def isNumberChar (c : Char) : Bool := c == '-' || c.isDigit

/-- No number goes on in this text. -/
def EndsNumber (rest : List Char) : Prop := ∀ c ∈ rest.head?, isNumberChar c = false

theorem takeWhile_number {n : Int} {rest : List Char} (h : EndsNumber rest) :
    ((toString n).toList ++ rest).takeWhile isNumberChar = (toString n).toList := by
  have hnumber : ∀ c ∈ (toString n).toList, isNumberChar c = true := by
    intro c hc
    unfold isNumberChar
    rw [Bool.or_eq_true, beq_iff_eq]
    exact mem_intText hc
  rw [List.takeWhile_append_of_pos hnumber]
  cases rest with
  | nil => rw [List.takeWhile_nil, List.append_nil]
  | cons c rest => rw [List.takeWhile_cons, h c rfl]; exact List.append_nil _

/-- A number tells where it ends, in front of anything that is no part of one. -/
theorem intText_append_inj {m n : Int} {rest rest' : List Char} (hrest : EndsNumber rest)
    (hrest' : EndsNumber rest')
    (h : (toString m).toList ++ rest = (toString n).toList ++ rest') : m = n ∧ rest = rest' := by
  have hnumber : (toString m).toList = (toString n).toList := by
    rw [← takeWhile_number hrest, h, takeWhile_number hrest']
  rw [hnumber] at h
  exact ⟨intText_injective (String.toList_inj.mp hnumber), List.append_cancel_left h⟩

/-- The kind of the value that begins with a character. -/
def kindOfLead? (c : Char) : Option String :=
  if c = 'n' then some "NoneType"
  else if c = 't' ∨ c = 'f' then some "bool"
  else if c = '"' then some "str"
  else if c = '[' then some "list"
  else if c = '\x7b' then some "dict"
  else if isNumberChar c then some "int"
  else none

theorem kindOfLead?_number {c : Char} (h : c = '-' ∨ c.isDigit = true) :
    kindOfLead? c = some "int" := by
  rcases h with rfl | hdigit
  · rfl
  · obtain ⟨hlow, hhigh⟩ : 0x30 ≤ c.toNat ∧ c.toNat ≤ 0x39 := Char.isDigit_iff_toNat.mp hdigit
    have hother : ∀ d : Char, 0x39 < d.toNat ∨ d.toNat < 0x30 → c ≠ d := by
      rintro d hd rfl
      omega
    unfold kindOfLead? isNumberChar
    rw [if_neg (hother 'n' (by decide)), if_neg, if_neg (hother '"' (by decide)),
      if_neg (hother '[' (by decide)), if_neg (hother '\x7b' (by decide)), hdigit, Bool.or_true]
    · rfl
    · exact not_or.mpr ⟨hother 't' (by decide), hother 'f' (by decide)⟩

/-- The first character tells the kind of a value. -/
theorem exists_lead {v : Json} (hv : v.IsExact) (rest : List Char) :
    ∃ c cs, valueText v ++ rest = c :: cs ∧ kindOfLead? c = some v.kindName := by
  cases hv with
  | null => exact ⟨_, _, by unfold valueText write; rfl, rfl⟩
  | bool b => cases b <;> exact ⟨_, _, by unfold valueText write; rfl, rfl⟩
  | int n =>
    have hne : (toString n).toList ≠ [] := by
      rw [toList_intText]
      exact List.append_ne_nil_of_right_ne_nil _ Nat.toDigits_ne_nil
    obtain ⟨c, cs, hcs⟩ := List.exists_cons_of_ne_nil hne
    refine ⟨c, cs ++ rest, by unfold valueText write; rw [hcs]; rfl,
      kindOfLead?_number (mem_intText (n := n) ?_)⟩
    rw [hcs]
    exact List.mem_cons_self ..
  | str s => exact ⟨_, _, by unfold valueText write; exact toList_writeString s rest, rfl⟩
  | @arr items _ => rw [valueText_arr]; cases items <;> exact ⟨_, _, rfl, rfl⟩
  | @obj members _ => rw [valueText_obj]; cases members <;> exact ⟨_, _, rfl, rfl⟩

theorem endsNumber_cons {c : Char} (h : isNumberChar c = false) (cs : List Char) :
    EndsNumber (c :: cs) := fun _ hd => Option.some.inj hd ▸ h

/-- In front of anything that is no part of a number, the text is the one of nothing else. -/
def IsTold {α : Type} (text : α → List Char) (Admits : α → Prop) (x : α) : Prop :=
  ∀ y : α, Admits y → ∀ rest rest' : List Char, EndsNumber rest → EndsNumber rest' →
    text x ++ rest = text y ++ rest' → x = y ∧ rest = rest'

section Told

variable {α : Type} {text : α → List Char} {Admits : α → Prop} {closing : Char}
  {rest rest' : List Char}

theorem endsNumber_furtherText (hclosing : isNumberChar closing = false) (parts : List α) :
    EndsNumber (furtherText text parts ++ closing :: rest) := by
  cases parts with
  | nil => exact endsNumber_cons hclosing rest
  | cons x parts => exact endsNumber_cons rfl _

theorem furtherText_append_inj (hclosing : isNumberChar closing = false) (hcomma : closing ≠ ',') :
    ∀ {xs ys : List α}, (∀ x ∈ xs, IsTold text Admits x) → (∀ y ∈ ys, Admits y) →
      furtherText text xs ++ closing :: rest = furtherText text ys ++ closing :: rest' →
      xs = ys ∧ rest = rest' := by
  intro xs
  induction xs with
  | nil =>
    intro ys _ _ h
    cases ys with
    | nil => exact ⟨rfl, (List.cons.inj h).2⟩
    | cons y ys => exact absurd (List.cons.inj h).1 hcomma
  | cons x xs ih =>
    intro ys htold hys h
    cases ys with
    | nil => exact absurd (List.cons.inj h).1.symm hcomma
    | cons y ys =>
      obtain ⟨hx, hxs⟩ := List.forall_mem_cons.mp htold
      obtain ⟨hy, hys⟩ := List.forall_mem_cons.mp hys
      have hparts : text x ++ (furtherText text xs ++ closing :: rest)
          = text y ++ (furtherText text ys ++ closing :: rest') := by
        rw [← List.append_assoc, ← List.append_assoc]
        exact (List.cons.inj (List.cons.inj h).2).2
      obtain ⟨hpart, htail⟩ := hx y hy _ _ (endsNumber_furtherText hclosing xs)
        (endsNumber_furtherText hclosing ys) hparts
      obtain ⟨hall, hrest⟩ := ih hxs hys htail
      exact ⟨by rw [hpart, hall], hrest⟩

/-- Parts that tell where they end make a list or an object that does. -/
theorem collectedText_append_inj {opening : Char} (hclosing : isNumberChar closing = false)
    (hcomma : closing ≠ ',')
    (hother : ∀ x, Admits x → ∀ rest rest' : List Char, text x ++ rest ≠ closing :: rest')
    {xs ys : List α} (hxs : ∀ x ∈ xs, Admits x) (htold : ∀ x ∈ xs, IsTold text Admits x)
    (hys : ∀ y ∈ ys, Admits y)
    (h : collectedText text opening closing xs ++ rest
      = collectedText text opening closing ys ++ rest') : xs = ys ∧ rest = rest' := by
  have hclosed : ∀ x, Admits x → ∀ (front : List Char) (more more' : List Char),
      (text x ++ front) ++ more ≠ closing :: more' := by
    intro x hx front more more'
    rw [List.append_assoc]
    exact hother x hx _ _
  cases xs with
  | nil =>
    cases ys with
    | nil => exact ⟨rfl, (List.cons.inj (List.cons.inj h).2).2⟩
    | cons y ys =>
      exact absurd (List.cons.inj h).2.symm (hclosed y (hys y (List.mem_cons_self ..)) _ _ _)
  | cons x xs =>
    cases ys with
    | nil => exact absurd (List.cons.inj h).2 (hclosed x (hxs x (List.mem_cons_self ..)) _ _ _)
    | cons y ys =>
      have hparts : text x ++ (furtherText text xs ++ closing :: rest)
          = text y ++ (furtherText text ys ++ closing :: rest') := by
        have hbehind : text x ++ (furtherText text xs ++ [closing]) ++ rest
            = text y ++ (furtherText text ys ++ [closing]) ++ rest' := (List.cons.inj h).2
        simpa only [List.append_assoc, List.singleton_append] using hbehind
      obtain ⟨hx, htold⟩ := List.forall_mem_cons.mp htold
      obtain ⟨hy, hys⟩ := List.forall_mem_cons.mp hys
      obtain ⟨hpart, htail⟩ := hx y hy _ _ (endsNumber_furtherText hclosing xs)
        (endsNumber_furtherText hclosing ys) hparts
      obtain ⟨hall, hrest⟩ := furtherText_append_inj hclosing hcomma htold hys htail
      exact ⟨by rw [hpart, hall], hrest⟩

end Told

/-- A member tells where it ends, as its value does. -/
theorem isTold_member {m : String × Json}
    (h : IsTold valueText IsExact m.2) : IsTold memberText (fun m => m.2.IsExact) m := by
  intro m' hm' rest rest' hrest hrest' hsame
  unfold memberText at hsame
  rw [List.append_assoc, List.append_assoc] at hsame
  obtain ⟨hname, hbehind⟩ := writeString_append_inj hsame
  obtain ⟨hvalue, hrests⟩ := h m'.2 hm' rest rest' hrest hrest'
    (List.cons.inj (List.cons.inj hbehind).2).2
  exact ⟨Prod.ext hname hvalue, hrests⟩

/-- No value begins with the end of a list. -/
theorem valueText_ne_closing (v : Json) (hv : v.IsExact) (rest rest' : List Char) :
    valueText v ++ rest ≠ ']' :: rest' := by
  obtain ⟨c, cs, hc, hkind⟩ := exists_lead hv rest
  intro h
  obtain rfl := (List.cons.inj (hc.symm.trans h)).1
  exact absurd hkind (by simp [kindOfLead?, isNumberChar])

theorem memberText_ne_closing (m : String × Json) (_ : m.2.IsExact) (rest rest' : List Char) :
    memberText m ++ rest ≠ '\x7d' :: rest' := by
  unfold memberText
  rw [List.append_assoc, toList_writeString]
  exact fun h => absurd (List.cons.inj h).1 (by decide)

/-- Values that begin alike are of one kind. -/
theorem kindName_eq_of_text {v w : Json} (hv : v.IsExact) (hw : w.IsExact)
    {rest rest' : List Char} (h : valueText v ++ rest = valueText w ++ rest') :
    v.kindName = w.kindName := by
  obtain ⟨c, cs, hc, hkind⟩ := exists_lead hv rest
  obtain ⟨d, ds, hd, hkind'⟩ := exists_lead hw rest'
  obtain rfl := (List.cons.inj (hc.symm.trans (h.trans hd))).1
  exact Option.some.inj (hkind.symm.trans hkind')

/-- **A written value tells where it ends**, and which value it is. -/
theorem write_append_inj {v : Json} (hv : v.IsExact) : IsTold valueText IsExact v := by
  -- the kinds agree, and behind the first character the parts agree one by one
  induction hv with
  | null =>
    intro w hw rest rest' _ _ h
    have hkind := kindName_eq_of_text .null hw h
    cases hw with
    | null => exact ⟨rfl, List.append_cancel_left h⟩
    | _ => exact absurd hkind (by simp [kindName])
  | bool b =>
    intro w hw rest rest' _ _ h
    have hkind := kindName_eq_of_text (.bool b) hw h
    cases hw with
    | bool b' => cases b <;> cases b' <;> simp [valueText, write] at h ⊢ <;> assumption
    | _ => exact absurd hkind (by simp [kindName])
  | int n =>
    intro w hw rest rest' hrest hrest' h
    have hkind := kindName_eq_of_text (.int n) hw h
    cases hw with
    | int n' =>
      unfold valueText write at h
      obtain ⟨rfl, hrests⟩ := intText_append_inj hrest hrest' h
      exact ⟨rfl, hrests⟩
    | _ => exact absurd hkind (by simp [kindName])
  | str s =>
    intro w hw rest rest' _ _ h
    have hkind := kindName_eq_of_text (.str s) hw h
    cases hw with
    | str s' =>
      unfold valueText write at h
      obtain ⟨rfl, hrests⟩ := writeString_append_inj h
      exact ⟨rfl, hrests⟩
    | _ => exact absurd hkind (by simp [kindName])
  | @arr xs hxs ih =>
    intro w hw rest rest' _ _ h
    have hkind := kindName_eq_of_text (.arr hxs) hw h
    cases hw with
    | @arr ys hys =>
      rw [valueText_arr, valueText_arr] at h
      obtain ⟨rfl, hrests⟩ := collectedText_append_inj (by decide) (by decide)
        valueText_ne_closing hxs ih hys h
      exact ⟨rfl, hrests⟩
    | _ => exact absurd hkind (by simp [kindName])
  | @obj xs hxs ih =>
    intro w hw rest rest' _ _ h
    have hkind := kindName_eq_of_text (.obj hxs) hw h
    cases hw with
    | @obj ys hys =>
      rw [valueText_obj, valueText_obj] at h
      obtain ⟨rfl, hrests⟩ := collectedText_append_inj (by decide) (by decide)
        memberText_ne_closing hxs (fun m hm => isTold_member (ih m hm)) hys h
      exact ⟨rfl, hrests⟩
    | _ => exact absurd hkind (by simp [kindName])

end Json

end PullReview
