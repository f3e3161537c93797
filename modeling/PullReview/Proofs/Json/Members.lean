import PullReview.Json.Basic
import PullReview.Proofs.Named

/-!
# Members of objects

Looking up a member after it, or another one, has been set, and when a lookup by
a text or a whole number finds an equal value.
-/

namespace PullReview.Json

/-! ## Lookup -/

theorem getD_of_get? {v : Json} {name : String} {x : Json} (h : v.get? name = some x) :
    v.getD name = x := by
  rw [getD, h]
  rfl

/-- A member that is not `null` is there. -/
theorem get?_of_getD {v : Json} {name : String} {x : Json} (h : v.getD name = x)
    (hx : x ≠ .null) : v.get? name = some x := by
  unfold getD at h
  cases hget : v.get? name with
  | none => rw [hget] at h; exact absurd h.symm hx
  | some y => rw [hget] at h; exact congrArg some h

/-! ## After setting a member -/

/-- Setting a member is seen under its name and nowhere else. -/
theorem get?_setMember (members : List (String × Json)) (name : String) (value : Json)
    (k : String) :
    (obj (setMember members name value)).get? k
      = if name = k then some value else (obj members).get? k :=
  Named.get?_set members name value k

theorem getD_setMember_self (members : List (String × Json)) (name : String) (value : Json) :
    (obj (setMember members name value)).getD name = value := by
  rw [getD, get?_setMember, if_pos rfl]
  rfl

theorem getD_setMember_of_ne (members : List (String × Json)) {name k : String} (h : name ≠ k)
    (value : Json) :
    (obj (setMember members name value)).getD k = (obj members).getD k := by
  rw [getD, get?_setMember, if_neg h]
  rfl

/-- Setting a member to the same value again changes nothing. -/
theorem setMember_setMember (members : List (String × Json)) (name : String) (value : Json) :
    setMember (setMember members name value) name value = setMember members name value :=
  Named.set_set members name value value

/-! ## Equality -/

theorem beq_str_iff {s : String} {v : Json} : (Json.str s == v) = true ↔ Json.str s = v := by
  show beq (.str s) v = true ↔ _
  cases v with
  | str t => rw [beq, beq_iff_eq, Json.str.injEq]
  | null | bool | int | float | arr | obj =>
    exact ⟨fun h => absurd h (by simp [beq]), fun h => absurd h (by simp)⟩

theorem beq_int_iff {v : Json} {n : Int} : (v == Json.int n) = true ↔ v = Json.int n := by
  show beq v (.int n) = true ↔ _
  cases v with
  | int m => rw [beq, beq_iff_eq, Json.int.injEq]
  | null | bool | str | float | arr | obj =>
    exact ⟨fun h => absurd h (by simp [beq]), fun h => absurd h (by simp)⟩

end PullReview.Json
