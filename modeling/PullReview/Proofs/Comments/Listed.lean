import PullReview.Comments.Comment
import PullReview.Proofs.Json.Members

/-!
# Reading listed comments back

What the code host lists has a shape: fields may be missing or emptied, but a
text is never a number. On comments of that shape nothing that reads them fails,
and the places of this program's own comments are found exactly
(`mem_ownLocations`).

A place is a path with the line that a comment has, or with the one it was made
at when it has lost its line (`Comment.place`). A line zero, which no code host
gives, is read like a missing one.
-/

namespace PullReview.Comment

/-! ## The shape of what is listed -/

/-- A line comment as the code host lists it. -/
structure IsReview (c : Json) : Prop where
  isObject : ∃ members, c = .obj members
  body : c.getD "body" = .null ∨ ∃ text, c.getD "body" = .str text
  user : c.getD "user" = .null ∨ ∃ members, c.getD "user" = .obj members
  path : ∃ p, c.getD "path" = .str p
  line : c.getD "line" = .null ∨ ∃ n, c.getD "line" = .int n
  originalLine : c.getD "original_line" = .null ∨ ∃ n, c.getD "original_line" = .int n

/-- A comment with the marker in its body. -/
def Marked (c : Json) : Prop := ∃ text, c.getD "body" = .str text ∧ marker.toList <:+: text.toList

/-- A comment with the marker, or one that a bot wrote. -/
def Own (c : Json) : Prop := Marked c ∨ (c.getD "user").getD "type" = .str "Bot"

/-- The path of a comment with its line, or with the line it was made at when its
line is missing or zero. -/
def place (c : Json) : Json × Json :=
  (c.getD "path",
    match c.getD "line" with
    | .null => c.getD "original_line"
    | .int n => if n = 0 then c.getD "original_line" else .int n
    | line => line)

/-- A comment with a line that is not zero stands on it. -/
theorem place_eq_line {c : Json} {n : Int} (hline : c.getD "line" = .int n) (hn : n ≠ 0) :
    place c = (c.getD "path", .int n) := by
  unfold place
  rw [hline]
  exact congrArg _ (if_neg hn)

/-! ## The marker -/

theorem occursIn_iff {part : List Char} :
    ∀ cs : List Char, occursIn part cs = true ↔ part <:+: cs := by
  intro cs
  induction cs with
  | nil => rw [occursIn, List.isEmpty_iff, List.infix_nil]
  | cons c cs ih =>
    rw [occursIn, Bool.or_eq_true, List.isPrefixOf_iff_prefix, ih, List.infix_cons_iff]

/-- Nothing fails on a body that is a text or missing. -/
theorem holdsMarker_eq {body : Json} (hbody : body = .null ∨ ∃ text, body = .str text) :
    ∃ b, holdsMarker body = .ok b ∧
      (b = true ↔ ∃ text, body = .str text ∧ marker.toList <:+: text.toList) := by
  rcases hbody with rfl | ⟨text, rfl⟩
  · exact ⟨false, rfl, by simp⟩
  · by_cases hempty : text = ""
    · refine ⟨false, by rw [hempty]; rfl, ?_⟩
      rw [hempty]
      simp [marker]
    · refine ⟨occursIn marker.toList text.toList, ?_, ?_⟩
      · simp [holdsMarker, Json.isTruthy, hempty]
      · rw [occursIn_iff]
        simp

theorem member_eq {c : Json} (hobject : ∃ members, c = .obj members) (name : String) :
    c.member name = .ok (c.getD name) := by
  obtain ⟨members, rfl⟩ := hobject
  rfl

/-- Whether a comment is marked is found without fail. -/
theorem isMarked_eq {c : Json} (hobject : ∃ members, c = .obj members)
    (hbody : c.getD "body" = .null ∨ ∃ text, c.getD "body" = .str text) :
    ∃ b, isMarked c = .ok b ∧ (b = true ↔ Marked c) := by
  obtain ⟨b, hb, hiff⟩ := holdsMarker_eq hbody
  refine ⟨b, ?_, hiff⟩
  unfold isMarked
  rw [member_eq hobject]
  exact hb

/-! ## Own comments and their places -/

theorem isByBot_eq {user : Json} (huser : user = .null ∨ ∃ members, user = .obj members) :
    ∃ b, isByBot user = .ok b ∧ (b = true ↔ user.getD "type" = .str "Bot") := by
  rcases huser with rfl | ⟨members, rfl⟩
  · exact ⟨false, rfl, by simp [Json.getD, Json.get?]⟩
  · cases members with
    | nil => exact ⟨false, rfl, by simp [Json.getD, Json.get?]⟩
    | cons m ms =>
      refine ⟨decide (((Json.obj (m :: ms)).getD "type").str? = some "Bot"), rfl, ?_⟩
      rw [decide_eq_true_iff]
      cases (Json.obj (m :: ms)).getD "type" with
      | str kind => simp [Json.str?]
      | null | bool | int | float | arr | obj => simp [Json.str?]

/-- Whether a comment is one's own is found without fail. -/
theorem isOwn_eq {c : Json} (h : IsReview c) : ∃ b, isOwn c = .ok b ∧ (b = true ↔ Own c) := by
  obtain ⟨marked, hmarked, hmarkedIff⟩ := holdsMarker_eq h.body
  obtain ⟨bot, hbot, hbotIff⟩ := isByBot_eq h.user
  refine ⟨marked || bot, ?_, ?_⟩
  · unfold isOwn
    rw [member_eq h.isObject, member_eq h.isObject]
    simp only [bind, Except.bind, hmarked]
    -- behind a marker the author is not looked at
    cases marked with
    | true => rfl
    | false => exact hbot
  · rw [Bool.or_eq_true, hmarkedIff, hbotIff]
    rfl

/-- The program finds a comment at its place. -/
theorem place_eq {c : Json} (h : IsReview c) : place c = (c.getD "path", lineOf c) := by
  unfold place lineOf
  rcases h.line with hline | ⟨n, hline⟩
  · rw [hline]
    rfl
  · rw [hline]
    by_cases hn : n = 0
    · rw [hn]
      rfl
    · have htruthy : (Json.int n).isTruthy = true := bne_iff_ne.mpr hn
      dsimp only
      rw [if_neg hn, if_pos htruthy]

theorem lineOf_shape {c : Json} (h : IsReview c) : lineOf c = .null ∨ ∃ n, lineOf c = .int n := by
  unfold lineOf
  dsimp only
  split
  · exact h.line
  · exact h.originalLine

/-- The place of a comment is found without fail. -/
theorem location?_eq {c : Json} (h : IsReview c) :
    ∃ found, location? c = .ok found ∧
      ∀ path line, found = some (.str path, line) ↔
        path ≠ "" ∧ place c = (.str path, .int line) := by
  obtain ⟨p, hp⟩ := h.path
  rw [place_eq h, hp]
  by_cases hempty : p = ""
  · -- an empty path reads as none
    refine ⟨none, by simp [location?, hp, hempty, Json.isTruthy], fun path line => ?_⟩
    refine ⟨fun hfound => absurd hfound (by simp), fun ⟨hpath, hplace⟩ => ?_⟩
    have hsame : p = path := Json.str.inj (Prod.mk.inj hplace).1
    exact absurd (hsame.symm.trans hempty) hpath
  have htruthy : (Json.str p).isTruthy = true := bne_iff_ne.mpr hempty
  rcases lineOf_shape h with hline | ⟨n, hline⟩
  · refine ⟨none, by simp [location?, hp, htruthy, hline], fun path line => ?_⟩
    simp [hline]
  · refine ⟨some (.str p, n), by simp [location?, hp, htruthy, hline], fun path line => ?_⟩
    rw [hline]
    constructor
    · intro hfound
      obtain ⟨hpath, rfl⟩ := Prod.mk.inj (Option.some.inj hfound)
      exact ⟨Json.str.inj hpath ▸ hempty, Prod.ext hpath rfl⟩
    · rintro ⟨_, hplace⟩
      obtain ⟨hpath, hint⟩ := Prod.mk.inj hplace
      rw [hpath, Json.int.inj hint]

/-- **The places of one's own comments are found without fail, and no others.** -/
theorem mem_ownLocations :
    ∀ cs : List Json, (∀ c ∈ cs, IsReview c) →
      ∃ places, ownLocations cs = .ok places ∧
        ∀ path line, (.str path, line) ∈ places ↔
          path ≠ "" ∧ ∃ c ∈ cs, Own c ∧ place c = (.str path, .int line) := by
  intro cs
  induction cs with
  | nil => intro _; exact ⟨[], rfl, by simp⟩
  | cons c cs ih =>
    intro h
    have hc : IsReview c := h c (List.mem_cons_self ..)
    obtain ⟨more, hmore, hmoreIff⟩ := ih fun d hd => h d (List.mem_cons_of_mem _ hd)
    obtain ⟨own, hown, hownIff⟩ := isOwn_eq hc
    obtain ⟨found, hfound, hfoundIff⟩ := location?_eq hc
    refine ⟨(if own then found else none).toList ++ more, ?_, fun path line => ?_⟩
    · unfold ownLocations
      rw [hown, hmore]
      cases own with
      | true => simp only [bind, Except.bind, hfound]; rfl
      | false => rfl
    · have hhere : (.str path, line) ∈ (if own then found else none).toList ↔
          path ≠ "" ∧ Own c ∧ place c = (.str path, .int line) := by
        cases own with
        | true =>
          rw [if_pos rfl, Option.mem_toList, hfoundIff]
          exact and_congr_right fun _ => (and_iff_right (hownIff.mp rfl)).symm
        | false =>
          have hnot : ¬ Own c := fun h => absurd (hownIff.mpr h) Bool.false_ne_true
          simp [hnot]
      rw [List.mem_append, hhere, hmoreIff]
      simp only [List.mem_cons, exists_eq_or_imp]
      exact and_or_left.symm

end PullReview.Comment
