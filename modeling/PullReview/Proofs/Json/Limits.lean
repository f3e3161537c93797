import PullReview.Json.Reader
import PullReview.Json.Writer
import PullReview.Proofs.Except
import PullReview.Proofs.Json.Members
import PullReview.Proofs.Number.Numerals

/-!
# Reading keeps the limits of writing

The reader refuses numbers of too many digits, and lists and objects that are nested too deep.
These are just the flaws that keep a value from being written, so a value that was read can
be written again, at the same depth (`flaw?_of_read`).
-/

namespace PullReview.Json

/-! ## Values without a flaw -/

theorem flawAmong?_eq_none {depth : Nat} {items : List Json} :
    flawAmong? depth items = none ↔ ∀ x ∈ items, x.flaw? depth = none := by
  induction items with
  | nil => simp [flawAmong?]
  | cons x xs ih => rw [flawAmong?, Option.or_eq_none_iff, ih, List.forall_mem_cons]

theorem flawInside?_eq_none {depth : Nat} {members : List (String × Json)} :
    flawInside? depth members = none ↔ ∀ m ∈ members, m.2.flaw? depth = none := by
  induction members with
  | nil => simp [flawInside?]
  | cons m ms ih => rw [flawInside?, Option.or_eq_none_iff, ih, List.forall_mem_cons]

theorem flaw?_arr {depth : Nat} {items : List Json} (h : (Json.arr items).flaw? depth = none) :
    ∃ d, depth = d + 1 ∧ ∀ x ∈ items, x.flaw? d = none := by
  cases depth with
  | zero => exact absurd h (by simp [flaw?])
  | succ d => exact ⟨d, rfl, flawAmong?_eq_none.mp h⟩

/-- A member of an object without a flaw has none. -/
theorem flaw?_getD {depth : Nat} {v : Json} (h : v.flaw? depth = none) (name : String) :
    (v.getD name).flaw? (depth - 1) = none := by
  have hnull : ∀ d, Json.null.flaw? d = none := fun d => by cases d <;> rfl
  unfold getD get?
  cases v with
  | obj members =>
    cases depth with
    | zero => exact absurd h (by simp [flaw?])
    | succ d =>
      have hmembers := flawInside?_eq_none.mp h
      dsimp only
      cases hfound : members.find? (·.1 = name) with
      | none => exact hnull _
      | some m => exact hmembers m (List.mem_of_find?_eq_some hfound)
  | null | bool | int | float | str | arr => exact hnull _

/-- A whole number without a flaw can be written. -/
theorem isShort_of_flaw? {depth : Nat} {n : Int} (h : (Json.int n).flaw? depth = none) :
    Numeral.isShort n = true := by
  by_contra hlong
  cases depth <;> exact absurd h (by simp [flaw?, hlong])

/-- Values that can be written: whole numbers are not too long, and lists and objects are
nested no deeper than there is room for. -/
inductive Fits : Nat → Json → Prop
  | null (depth : Nat) : Fits depth .null
  | bool (depth : Nat) (b : Bool) : Fits depth (.bool b)
  | int (depth : Nat) {n : Int} (h : n.natAbs < Numeral.firstBeyond Numeral.maxDigits) :
      Fits depth (.int n)
  | float (depth : Nat) (x : Double) : Fits depth (.float x)
  | str (depth : Nat) (s : String) : Fits depth (.str s)
  | arr {depth : Nat} {items : List Json} (h : ∀ x ∈ items, Fits depth x) :
      Fits (depth + 1) (.arr items)
  | obj {depth : Nat} {members : List (String × Json)} (h : ∀ m ∈ members, Fits depth m.2) :
      Fits (depth + 1) (.obj members)

theorem flaw?_int_eq_none {depth : Nat} {n : Int} :
    (Json.int n).flaw? depth = none ↔ (Json.int n).Fits depth := by
  refine ⟨fun h => .int depth (of_decide_eq_true (isShort_of_flaw? h)), fun h => ?_⟩
  cases h with
  | int _ h => exact flaw?_short depth (decide_eq_true h)

/-- **Just the values that fit have no flaw.** -/
theorem flaw?_eq_none_iff {depth : Nat} {v : Json} : v.flaw? depth = none ↔ v.Fits depth := by
  induction depth generalizing v with
  | zero =>
    cases v with
    | int n => exact flaw?_int_eq_none
    | arr | obj =>
      refine iff_of_false (by simp [flaw?]) fun h => ?_
      cases h
    | null | bool | float | str => exact iff_of_true rfl (by constructor)
  | succ depth ih =>
    cases v with
    | int n => exact flaw?_int_eq_none
    | arr items =>
      rw [flaw?, flawAmong?_eq_none]
      refine ⟨fun h => .arr fun x hx => ih.mp (h x hx), fun h => ?_⟩
      cases h with
      | arr h => exact fun x hx => ih.mpr (h x hx)
    | obj members =>
      rw [flaw?, flawInside?_eq_none]
      refine ⟨fun h => .obj fun m hm => ih.mp (h m hm), fun h => ?_⟩
      cases h with
      | obj h => exact fun m hm => ih.mpr (h m hm)
    | null | bool | float | str => exact iff_of_true rfl (by constructor)

/-- Setting a member without a flaw brings none in. -/
theorem mem_setMember {members : List (String × Json)} {name : String} {value : Json}
    {m : String × Json} (h : m ∈ setMember members name value) : m ∈ members ∨ m.2 = value := by
  unfold setMember at h
  split at h
  · obtain ⟨old, hold, rfl⟩ := List.mem_map.mp h
    split
    · exact Or.inr rfl
    · exact Or.inl hold
  · rcases List.mem_append.mp h with h | h
    · exact Or.inl h
    · exact Or.inr (List.mem_singleton.mp h ▸ rfl)

/-! ## What is read -/

theorem flaw?_of_readNumber {cs rest : List Char} {v : Json} (h : readNumber cs = .ok (v, rest))
    (depth : Nat) : v.flaw? depth = none := by
  have hfloat : ∀ x, (Json.float x).flaw? depth = none := fun x => by cases depth <;> rfl
  unfold readNumber at h
  split at h
  next negative body _ =>
  extract_lets whole rest at h
  split at h
  · exact absurd h (by simp)
  split at h
  next fraction rest _ =>
  split at h
  next power rest _ =>
  split at h
  · split at h
    · next n hn =>
      have hn := Numeral.isShort_natOf Numeral.digitValues_lt hn
      obtain ⟨rfl, -⟩ := Prod.mk.inj (Except.ok.inj h)
      refine flaw?_short depth ?_
      split
      · exact (Numeral.isShort_neg _).trans hn
      · exact hn
    · exact absurd h (by simp)
    · exact absurd h (by simp)
  · obtain ⟨rfl, -⟩ := Prod.mk.inj (Except.ok.inj h)
    exact hfloat _

/-- What the readers give with so much fuel has no flaw. The members or items in front, which
were read before, have none either. -/
structure ReadsFlawless (fuel : Nat) : Prop where
  value : ∀ depth cs v rest, readValue fuel depth cs = .ok (v, rest) → v.flaw? depth = none
  members : ∀ depth cs done v rest, (∀ m ∈ done, m.2.flaw? depth = none) →
    readMembers fuel depth cs done = .ok (v, rest) → v.flaw? (depth + 1) = none
  items : ∀ depth cs done v rest, (∀ x ∈ done, x.flaw? depth = none) →
    readItems fuel depth cs done = .ok (v, rest) → v.flaw? (depth + 1) = none

theorem readsFlawless_zero : ReadsFlawless 0 where
  value := fun _ _ _ _ h => absurd h (by simp [readValue])
  members := fun _ _ _ _ _ _ h => absurd h (by simp [readMembers])
  items := fun _ _ _ _ _ _ h => absurd h (by simp [readItems])

section Step

variable {fuel : Nat} (ih : ReadsFlawless fuel)
include ih

theorem ReadsFlawless.items_succ {depth : Nat} {cs : List Char} {done : List Json} {v : Json}
    {rest : List Char} (hdone : ∀ x ∈ done, x.flaw? depth = none)
    (h : readItems (fuel + 1) depth cs done = .ok (v, rest)) : v.flaw? (depth + 1) = none := by
  unfold readItems at h
  obtain ⟨⟨x, behind⟩, hx, h⟩ := exists_of_bind_eq_ok h
  have hmore : ∀ y ∈ x :: done, y.flaw? depth = none :=
    List.forall_mem_cons.mpr ⟨ih.value depth cs x behind hx, hdone⟩
  dsimp only at h
  split at h
  · obtain ⟨rfl, -⟩ := Prod.mk.inj (Except.ok.inj h)
    exact flawAmong?_eq_none.mpr fun y hy => hmore y (List.mem_reverse.mp hy)
  · exact ih.items depth _ _ v rest hmore h
  · exact absurd h (by simp [throw, throwThe, MonadExceptOf.throw])

theorem ReadsFlawless.members_succ {depth : Nat} {cs : List Char} {done : List (String × Json)}
    {v : Json} {rest : List Char} (hdone : ∀ m ∈ done, m.2.flaw? depth = none)
    (h : readMembers (fuel + 1) depth cs done = .ok (v, rest)) : v.flaw? (depth + 1) = none := by
  unfold readMembers at h
  split at h
  · obtain ⟨⟨name, behind⟩, -, h⟩ := exists_of_bind_eq_ok h
    dsimp only at h
    split at h
    · obtain ⟨⟨x, behind⟩, hx, h⟩ := exists_of_bind_eq_ok h
      have hx := ih.value depth _ x behind hx
      have hmore : ∀ m ∈ setMember done (String.ofList name) x, m.2.flaw? depth = none :=
        fun m hm => (mem_setMember hm).elim (hdone m) fun hm => hm ▸ hx
      dsimp only at h
      split at h
      · obtain ⟨rfl, -⟩ := Prod.mk.inj (Except.ok.inj h)
        exact flawInside?_eq_none.mpr hmore
      · exact ih.members depth _ _ v rest hmore h
      · exact absurd h (by simp [throw, throwThe, MonadExceptOf.throw])
    · exact absurd h (by simp [throw, throwThe, MonadExceptOf.throw])
  · exact absurd h (by simp)

theorem ReadsFlawless.value_succ {depth : Nat} {cs : List Char} {v : Json} {rest : List Char}
    (h : readValue (fuel + 1) depth cs = .ok (v, rest)) : v.flaw? depth = none := by
  unfold readValue at h
  split at h
  · obtain ⟨⟨s, behind⟩, -, h⟩ := exists_of_bind_eq_ok h
    obtain ⟨rfl, -⟩ := Prod.mk.inj (Except.ok.inj h)
    exact flaw?_str depth _
  · cases depth with
    | zero => exact absurd h (by simp)
    | succ d =>
      split at h
      · exact absurd h (by simp)
      · obtain ⟨rfl, -⟩ := Prod.mk.inj (Except.ok.inj h)
        rfl
      · next hdepth _ =>
        obtain rfl := Nat.succ.inj hdepth
        exact ih.members _ _ _ v rest (fun m hm => absurd hm List.not_mem_nil) h
  · cases depth with
    | zero => exact absurd h (by simp)
    | succ d =>
      split at h
      · exact absurd h (by simp)
      · obtain ⟨rfl, -⟩ := Prod.mk.inj (Except.ok.inj h)
        rfl
      · next hdepth _ =>
        obtain rfl := Nat.succ.inj hdepth
        exact ih.items _ _ _ v rest (fun x hx => absurd hx List.not_mem_nil) h
  case h_10 => exact flaw?_of_readNumber h depth
  -- what is left are the values that are read by their names
  all_goals
    obtain ⟨rfl, -⟩ := Prod.mk.inj (Except.ok.inj h)
    cases depth <;> rfl

end Step

theorem readsFlawless : ∀ fuel, ReadsFlawless fuel
  | 0 => readsFlawless_zero
  | fuel + 1 => {
      value := fun _ _ _ _ h => (readsFlawless fuel).value_succ h
      members := fun _ _ _ _ _ hdone h => (readsFlawless fuel).members_succ hdone h
      items := fun _ _ _ _ _ hdone h => (readsFlawless fuel).items_succ hdone h }

theorem flaw?_of_readChars {depth : Nat} {cs : List Char} {v : Json}
    (h : readChars depth cs = .ok v) : v.flaw? (depth + 1) = none := by
  unfold readChars at h
  split at h
  · exact absurd h (by simp)
  · exact absurd h (by simp)
  · exact absurd h (by simp)
  · next x rest hread =>
    split at h
    · obtain rfl := Except.ok.inj h
      exact (readsFlawless _).value _ _ _ _ hread
    · exact absurd h (by simp)

/-- **What is read can be written**, at the same depth. -/
theorem flaw?_of_read {depth : Nat} {s : String} {v : Json} (h : read depth s = .ok v) :
    v.flaw? (depth + 1) = none := by
  unfold read at h
  split at h
  · exact absurd h (by simp)
  · exact flaw?_of_readChars h

end PullReview.Json
