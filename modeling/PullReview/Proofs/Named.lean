import Mathlib.Data.List.Basic

/-!
# Named values

Members of an object and entries of a directory are both lists of named values, where a value
is set in the place of the ones with its name, or else at the end. Here is what setting one
means for looking values up.
-/

namespace PullReview.Named

variable {β : Type}

/-- The first value of a name. -/
def get? (values : List (String × β)) (name : String) : Option β :=
  (values.find? (·.1 = name)).map (·.2)

/-- The values with the ones of a name replaced, or with a new one behind them. -/
def set (values : List (String × β)) (name : String) (value : β) : List (String × β) :=
  if values.any (·.1 = name) then values.map fun v => if v.1 = name then (name, value) else v
  else values ++ [(name, value)]

theorem get?_cons (first : String × β) (values : List (String × β)) (name : String) :
    get? (first :: values) name = if first.1 = name then some first.2 else get? values name := by
  unfold get?
  rw [List.find?_cons]
  by_cases h : first.1 = name
  · rw [decide_eq_true h, if_pos h]
    rfl
  · rw [decide_eq_false h, if_neg h]

/-- Values of that name are replaced where they stand. -/
theorem get?_replaced (name : String) (value : β) (k : String) (values : List (String × β)) :
    get? (values.map fun v => if v.1 = name then (name, value) else v) k
      = if name = k then (get? values k).map fun _ => value else get? values k := by
  induction values with
  | nil => split <;> rfl
  | cons first rest ih =>
    rw [List.map_cons, get?_cons first]
    by_cases hfirst : first.1 = name
    · rw [if_pos hfirst, get?_cons, ih, hfirst]
      by_cases hk : name = k
      · rw [if_pos hk, if_pos hk, if_pos hk, Option.map_some]
      · rw [if_neg hk, if_neg hk, if_neg hk, if_neg hk]
    · rw [if_neg hfirst, get?_cons, ih]
      by_cases hk : name = k
      · have hne : first.1 ≠ k := fun h => hfirst (h.trans hk.symm)
        rw [if_neg hne, if_pos hk, if_pos hk, if_neg hne]
      · rw [if_neg hk, if_neg hk]

theorem get?_append (values more : List (String × β)) (k : String) :
    get? (values ++ more) k = (get? values k).or (get? more k) := by
  unfold get?
  rw [List.find?_append, Option.map_or]

theorem any_name_eq (values : List (String × β)) (name : String) :
    values.any (·.1 = name) = (get? values name).isSome := by
  unfold get?
  rw [Option.isSome_map, List.isSome_find?]

/-- Setting a value is seen under its name and nowhere else. -/
theorem get?_set (values : List (String × β)) (name : String) (value : β) (k : String) :
    get? (set values name value) k = if name = k then some value else get? values k := by
  unfold set
  rw [any_name_eq]
  cases hget : get? values name with
  | some old =>
    rw [Option.isSome_some, if_pos rfl, get?_replaced]
    by_cases hk : name = k
    · rw [if_pos hk, if_pos hk, ← hk, hget, Option.map_some]
    · rw [if_neg hk, if_neg hk]
  | none =>
    rw [Option.isSome_none, if_neg Bool.false_ne_true, get?_append, get?_cons]
    by_cases hk : name = k
    · rw [if_pos hk, if_pos hk, ← hk, hget, Option.none_or]
    · rw [if_neg hk, if_neg hk]
      exact Option.or_none

/-- A value that is set twice has the second value. -/
theorem set_set (values : List (String × β)) (name : String) (old new : β) :
    set (set values name old) name new = set values name new := by
  have hreplace : ∀ v : String × β,
      (if (if v.1 = name then (name, old) else v).1 = name then (name, new)
        else if v.1 = name then (name, old) else v) = if v.1 = name then (name, new) else v := by
    intro v
    by_cases h : v.1 = name
    · rw [if_pos h, if_pos rfl, if_pos h]
    · rw [if_neg h]
  have hthere : (set values name old).any (·.1 = name) = true := by
    rw [any_name_eq, get?_set, if_pos rfl]
    rfl
  show (if (set values name old).any (·.1 = name) = true then _ else _) = _
  rw [if_pos hthere]
  unfold set
  by_cases hold : values.any (·.1 = name) = true
  · rw [if_pos hold, if_pos hold, List.map_map]
    exact List.map_congr_left fun v _ => hreplace v
  · rw [if_neg hold, if_neg hold, List.map_append]
    have hnone : values.map (fun v => if v.1 = name then (name, new) else v) = values := by
      refine (List.map_congr_left fun v hv => ?_).trans (List.map_id _)
      exact if_neg fun h => hold (List.any_eq_true.mpr ⟨v, hv, decide_eq_true h⟩)
    rw [hnone, List.map_singleton, if_pos rfl]

/-- Setting what is there already changes nothing. -/
theorem set_eq_self {values : List (String × β)} {name : String} {value : β}
    (hthere : values.any (·.1 = name) = true)
    (honly : ∀ v ∈ values, v.1 = name → v = (name, value)) : set values name value = values := by
  unfold set
  rw [if_pos hthere]
  refine (List.map_congr_left fun v hv => ?_).trans (List.map_id _)
  by_cases hname : v.1 = name
  · rw [if_pos hname, honly v hv hname]
    rfl
  · rw [if_neg hname]
    rfl

end PullReview.Named
