import Mathlib.Data.List.Flatten
import PullReview.Proofs.Text.Bytes
import PullReview.Proofs.Text.Lines
import PullReview.Url.Reference

/-!
# Paths of addresses

Two normal forms meet in the path of an address: dot segments are taken out, and
characters that may not stand there are escaped. Taking dot segments out leaves
part of the path in its order (`withoutDotSegments_sublist`), still with a slash in
front (`withoutDotSegments_slash`); escaping leaves characters that may stand
(`keep_of_mem_escape`) and at most twelve for one (`length_escape_le`). A path of
plain segments stays what it is under both (`withoutDotSegments_segmentPath`,
`escapedPath_segmentPath`), and cutting it at its slashes gives the segments back
(`splitAtEach_segmentPath`).
-/

namespace PullReview.Url

open Text
open scoped List

/-! ## Escaping -/

theorem escape_cons (keep : Char → Bool) (c : Char) (cs : List Char) :
    escape keep (c :: cs)
      = (if keep c then [c] else (utf8Bytes c).flatMap escapeByte) ++ escape keep cs := rfl

theorem escape_eq_self {keep : Char → Bool} :
    ∀ {cs : List Char}, (∀ c ∈ cs, keep c = true) → escape keep cs = cs := by
  intro cs
  induction cs with
  | nil => intro _; rfl
  | cons c cs ih =>
    intro h
    rw [escape_cons, if_pos (h c (List.mem_cons_self ..)),
      ih fun d hd => h d (List.mem_cons_of_mem _ hd)]
    rfl

theorem length_utf8Bytes (c : Char) : (utf8Bytes c).length = c.utf8Size := by
  unfold utf8Bytes
  rw [List.length_map, toList_eq]
  exact String.size_toByteArray.trans String.utf8ByteSize_singleton

theorem length_escape_le (keep : Char → Bool) (cs : List Char) :
    (escape keep cs).length ≤ 12 * cs.length := by
  induction cs with
  | nil => exact Nat.le_refl 0
  | cons c cs ih =>
    rw [escape_cons, List.length_append, List.length_cons]
    have hone : (if keep c then [c] else (utf8Bytes c).flatMap escapeByte).length ≤ 12 := by
      split
      · exact Nat.le_of_ble_eq_true rfl
      · have hbytes : ((utf8Bytes c).flatMap escapeByte).length = 3 * (utf8Bytes c).length := by
          rw [List.length_flatMap]
          simp [escapeByte, List.map_const', Nat.mul_comm]
        have hfour := Char.utf8Size_le_four c
        rw [hbytes, length_utf8Bytes]
        omega
    omega

/-- The characters that escapes are made of. -/
def escapeChars : List Char := "%0123456789ABCDEF".toList

theorem hexDigit_mem {n : Nat} (h : n < 16) : hexDigit n ∈ escapeChars := by
  have hall : ∀ n < 16, hexDigit n ∈ escapeChars := by decide
  exact hall n h

theorem mem_escapeChars_of_mem_escapeByte {b : Nat} (hb : b < 256) {c : Char}
    (hc : c ∈ escapeByte b) : c ∈ escapeChars := by
  simp only [escapeByte, List.mem_cons, List.not_mem_nil, or_false] at hc
  rcases hc with rfl | rfl | rfl
  · decide
  · exact hexDigit_mem (by omega)
  · exact hexDigit_mem (by omega)

/-- Where escapes may stand, only characters that may stand are left. -/
theorem keep_of_mem_escape {keep : Char → Bool} (hkeep : ∀ c ∈ escapeChars, keep c = true)
    {cs : List Char} {c : Char} (h : c ∈ escape keep cs) : keep c = true := by
  obtain ⟨d, _, hd⟩ := List.mem_flatMap.mp h
  split at hd
  · next hkept => exact List.mem_singleton.mp hd ▸ hkept
  · obtain ⟨b, hb, hc⟩ := List.mem_flatMap.mp hd
    obtain ⟨byte, _, rfl⟩ := List.mem_map.mp hb
    exact hkeep c (mem_escapeChars_of_mem_escapeByte byte.toNat_lt hc)

/-- An escaped text starts with its first character, or with a percent sign. -/
theorem head?_escape {keep : Char → Bool} {first : Char} (hfirst : first ≠ '%') {cs : List Char}
    (h : cs.head? ≠ some first) : (escape keep cs).head? ≠ some first := by
  cases cs with
  | nil => simp [escape]
  | cons c cs =>
    rw [escape_cons]
    split
    · simpa using h
    · have hsize : (utf8Bytes c).length ≠ 0 := by
        rw [length_utf8Bytes]
        exact Nat.ne_of_gt c.utf8Size_pos
      obtain ⟨b, bs, hb⟩ := List.exists_cons_of_ne_nil (List.ne_nil_of_length_pos
        (Nat.pos_of_ne_zero hsize))
      rw [hb, List.flatMap_cons, escapeByte]
      simpa using hfirst.symm

/-- The characters that may stand in a path. -/
def inPath (c : Char) : Bool := visibleBut "\"#<>?`\x7b\x7d".toList c

theorem inPath_of_mem_escapedPath {cs : List Char} {c : Char} (h : c ∈ escapedPath cs) :
    inPath c = true :=
  keep_of_mem_escape (List.all_eq_true.mp (by decide)) h

theorem escapedPath_eq_self {cs : List Char} (h : ∀ c ∈ cs, inPath c = true) :
    escapedPath cs = cs :=
  escape_eq_self h

/-- What may stand in a path may stand in a query. -/
theorem escapedQuery_eq_self {cs : List Char} (h : ∀ c ∈ cs, inPath c = true) :
    escapedQuery cs = cs := by
  have hfewer : "\"#<>".toList ⊆ "\"#<>?`\x7b\x7d".toList := by decide
  refine escape_eq_self fun c hc => ?_
  have hin := h c hc
  simp only [inPath, visibleBut, Bool.and_eq_true, Bool.not_eq_true', List.contains_eq_mem,
    decide_eq_false_iff_not] at hin ⊢
  exact ⟨hin.1, fun htaken => hin.2 (hfewer htaken)⟩

theorem ne_of_inPath {c : Char} (h : inPath c = true) : c ≠ '?' ∧ c ≠ '#' := by
  constructor <;> rintro rfl <;> exact absurd h (by decide)

/-! ## Pieces between slashes -/

/-- Fewer pieces make a part of the text. -/
theorem flatten_intersperse_sublist {α : Type} (sep : α) {ps qs : List (List α)} (h : ps <+ qs) :
    (ps.intersperse [sep]).flatten <+ (qs.intersperse [sep]).flatten := by
  cases ps with
  | nil => exact List.nil_sublist _
  | cons p ps =>
    cases h with
    | @cons _ _ q hrest =>
      rw [flatten_intersperse_cons, flatten_intersperse_cons]
      refine List.Sublist.trans ?_ (List.sublist_append_right _ _)
      -- the separator in front of the first piece that is left goes too
      exact (List.sublist_cons_self sep _).trans (hrest.flatMap (sep :: ·))
    | cons_cons _ hrest =>
      rw [flatten_intersperse_cons, flatten_intersperse_cons]
      exact (List.Sublist.refl _).append (hrest.flatMap (sep :: ·))

/-! ## Dot segments -/

/-- What becomes of the segments so far when one more follows. -/
def stepSegment (out : List (List Char)) (part : List Char) : List (List Char) :=
  if part = ['.'] then out
  else if part = ['.', '.'] then (if out = [] || out = [[]] then out else out.dropLast)
  else out ++ [part]

theorem withoutDotSegments_eq (cs : List Char) :
    withoutDotSegments cs
      = (((splitAtEach '/' cs).foldl stepSegment []).intersperse ['/']).flatten := rfl

theorem foldl_stepSegment_sublist (parts out : List (List Char)) :
    parts.foldl stepSegment out <+ out ++ parts := by
  induction parts generalizing out with
  | nil => rw [List.append_nil]; exact List.Sublist.refl _
  | cons part parts ih =>
    have hstep : stepSegment out part <+ out ++ [part] := by
      unfold stepSegment
      split
      · exact List.sublist_append_left _ _
      · split
        · split
          · exact List.sublist_append_left _ _
          · exact (List.dropLast_sublist out).trans (List.sublist_append_left _ _)
        · exact List.Sublist.refl _
    have hrest := (ih (stepSegment out part)).trans (hstep.append (List.Sublist.refl parts))
    rwa [List.append_assoc] at hrest

theorem withoutDotSegments_sublist (cs : List Char) : withoutDotSegments cs <+ cs := by
  have h := flatten_intersperse_sublist '/' (foldl_stepSegment_sublist (splitAtEach '/' cs) [])
  rwa [List.nil_append, splitAtEach_flatten] at h

/-- The empty segment in front of the first slash stays. -/
theorem foldl_stepSegment_cons (parts out : List (List Char)) :
    ∃ rest, parts.foldl stepSegment ([] :: out) = [] :: rest := by
  induction parts generalizing out with
  | nil => exact ⟨out, rfl⟩
  | cons part parts ih =>
    have hstep : ∃ rest, stepSegment ([] :: out) part = [] :: rest := by
      unfold stepSegment
      split
      · exact ⟨out, rfl⟩
      · split
        · cases out with
          | nil => exact ⟨[], rfl⟩
          | cons segment out => exact ⟨(segment :: out).dropLast, rfl⟩
        · exact ⟨out ++ [part], rfl⟩
    obtain ⟨rest, hrest⟩ := hstep
    rw [List.foldl_cons, hrest]
    exact ih rest

/-- A path with a slash in front keeps it, or loses everything. -/
theorem withoutDotSegments_slash (cs : List Char) :
    withoutDotSegments ('/' :: cs) = [] ∨ (withoutDotSegments ('/' :: cs)).head? = some '/' := by
  rw [withoutDotSegments_eq, splitAtEach_sep]
  obtain ⟨rest, hrest⟩ := foldl_stepSegment_cons (splitAtEach '/' cs) []
  have hfirst : stepSegment [] [] = [[]] := rfl
  rw [List.foldl_cons, hfirst, hrest, flatten_intersperse_cons]
  cases rest with
  | nil => exact Or.inl rfl
  | cons segment rest => exact Or.inr rfl

/-! ## Plain segments -/

/-- Characters that mean themselves anywhere in an address. -/
def isUnreserved (c : Char) : Bool := c.isAlphanum || ['-', '.', '_', '~'].contains c

/-- A segment that stays as it is. -/
structure IsSegment (cs : List Char) : Prop where
  unreserved : ∀ c ∈ cs, isUnreserved c = true
  notDot : cs ≠ ['.']
  notDots : cs ≠ ['.', '.']

/-- The path of segments, each behind a slash. -/
def segmentPath (segments : List (List Char)) : List Char := segments.flatMap ('/' :: ·)

theorem segmentPath_append (ss ts : List (List Char)) :
    segmentPath (ss ++ ts) = segmentPath ss ++ segmentPath ts :=
  List.flatMap_append

theorem ne_of_isUnreserved {c : Char} (h : isUnreserved c = true) :
    c ≠ '/' ∧ c ≠ '?' ∧ c ≠ '#' ∧ c ≠ '&' ∧ c ≠ '=' := by
  refine ⟨?_, ?_, ?_, ?_, ?_⟩ <;> rintro rfl <;> exact absurd h (by decide)

theorem toNat_lt_of_isUnreserved {c : Char} (h : isUnreserved c = true) : c.toNat < 128 := by
  simp only [isUnreserved, Bool.or_eq_true, List.contains_iff_mem, List.mem_cons,
    List.not_mem_nil, or_false] at h
  rcases h with h | rfl | rfl | rfl | rfl
  · unfold Char.isAlphanum Char.isAlpha Char.isUpper Char.isLower Char.isDigit at h
    simp only [Bool.or_eq_true, Bool.and_eq_true, decide_eq_true_eq, UInt32.le_iff_toNat_le] at h
    have hz : 'Z'.val.toNat < 128 ∧ 'z'.val.toNat < 128 ∧ '9'.val.toNat < 128 := by decide
    show c.val.toNat < 128
    omega
  all_goals decide

theorem inPath_of_isUnreserved {c : Char} (h : isUnreserved c = true) : inPath c = true := by
  have hall : ∀ n < 128, isUnreserved (Char.ofNat n) = true → inPath (Char.ofNat n) = true := by
    decide +kernel
  have hc := hall c.toNat (toNat_lt_of_isUnreserved h)
  rw [Char.ofNat_toNat] at hc
  exact hc h

theorem inPath_of_mem_segmentPath {segments : List (List Char)} (h : ∀ s ∈ segments, IsSegment s)
    {c : Char} (hc : c ∈ segmentPath segments) : inPath c = true := by
  obtain ⟨s, hs, hc⟩ := List.mem_flatMap.mp hc
  rcases List.mem_cons.mp hc with rfl | hc
  · decide
  · exact inPath_of_isUnreserved ((h s hs).unreserved c hc)

theorem splitAtEach_self {sep : Char} {cs : List Char} (h : sep ∉ cs) :
    splitAtEach sep cs = [cs] := by
  induction cs with
  | nil => rfl
  | cons c cs ih =>
    have hc : c ≠ sep := fun e => h (e ▸ List.mem_cons_self ..)
    exact splitAtEach_cons hc (ih fun hm => h (List.mem_cons_of_mem _ hm))

/-- Cutting a path at its slashes gives its segments, behind an empty one. -/
theorem splitAtEach_segmentPath {segments : List (List Char)} (h : ∀ s ∈ segments, '/' ∉ s) :
    splitAtEach '/' (segmentPath segments) = [] :: segments := by
  have hbehind : ∀ (ss : List (List Char)) (s : List Char), '/' ∉ s → (∀ t ∈ ss, '/' ∉ t) →
      splitAtEach '/' (s ++ segmentPath ss) = s :: ss := by
    intro ss
    induction ss with
    | nil => intro s hs _; rw [segmentPath, List.flatMap_nil, List.append_nil, splitAtEach_self hs]
    | cons t ss ih =>
      intro s hs hss
      have hcut : segmentPath (t :: ss) = '/' :: (t ++ segmentPath ss) := List.flatMap_cons ..
      rw [hcut, splitAtEach_append _ _ _ hs, ih t (hss t (List.mem_cons_self ..))
        fun u hu => hss u (List.mem_cons_of_mem _ hu)]
  exact hbehind segments [] List.not_mem_nil h

theorem foldl_stepSegment_plain {parts : List (List Char)}
    (h : ∀ p ∈ parts, p ≠ ['.'] ∧ p ≠ ['.', '.']) (out : List (List Char)) :
    parts.foldl stepSegment out = out ++ parts := by
  induction parts generalizing out with
  | nil => exact (List.append_nil out).symm
  | cons part parts ih =>
    obtain ⟨hdot, hdots⟩ := h part (List.mem_cons_self ..)
    have hstep : stepSegment out part = out ++ [part] := by
      unfold stepSegment
      rw [if_neg hdot, if_neg hdots]
    rw [List.foldl_cons, hstep, ih fun p hp => h p (List.mem_cons_of_mem _ hp), List.append_assoc]
    rfl

theorem withoutDotSegments_segmentPath {segments : List (List Char)}
    (h : ∀ s ∈ segments, IsSegment s) :
    withoutDotSegments (segmentPath segments) = segmentPath segments := by
  have hcut := splitAtEach_segmentPath fun s hs hslash =>
    (ne_of_isUnreserved ((h s hs).unreserved _ hslash)).1 rfl
  have hplain : ∀ p ∈ [] :: segments, p ≠ ['.'] ∧ p ≠ ['.', '.'] := by
    intro p hp
    rcases List.mem_cons.mp hp with rfl | hp
    · exact ⟨by simp, by simp⟩
    · exact ⟨(h p hp).notDot, (h p hp).notDots⟩
  rw [withoutDotSegments_eq, hcut, foldl_stepSegment_plain hplain, List.nil_append,
    flatten_intersperse_cons]
  rfl

theorem escapedPath_segmentPath {segments : List (List Char)} (h : ∀ s ∈ segments, IsSegment s) :
    escapedPath (segmentPath segments) = segmentPath segments :=
  escapedPath_eq_self fun _ hc => inPath_of_mem_segmentPath h hc

end PullReview.Url
