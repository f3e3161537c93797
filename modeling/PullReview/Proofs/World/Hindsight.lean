import PullReview.Proofs.World.Twin

/-!
# Two runs in hindsight

Whether two runs were treated alike shows only in what they leave behind. `JointIf H` says of
two actions what `Joint` says, provided that `H` holds of the outsides that they leave. What
holds in the end has held all along when the outsides only ever grow (`HeldBefore`). Actions
under which they do (`Hindsight`) can therefore be put together like any others
(`Hindsight.bind`).
-/

namespace PullReview.Act

variable {σ α β γ δ : Type}

/-- Started in worlds related by `S` the actions end jointly, if `H` holds of what they leave. -/
def JointIf (H : σ → σ → Prop) (S : World σ → World σ → Prop) (R : σ → σ → Prop)
    (V : α → β → Prop) (x : Act σ α) (y : Act σ β) : Prop :=
  ∀ w v, S w v → H (x.runOn w).2.outside (y.runOn v).2.outside →
    R (x.runOn w).2.outside (y.runOn v).2.outside ∧
      Agree V (· = ·) (x.runOn w).1 (y.runOn v).1

/-- The action leads to an outside that `G` allows, be it with a value or a fault. -/
abbrev Moves (G : σ → σ → Prop) (x : Act σ α) : Prop := ∀ s, Keeps x (G s)

/-- What holds of two outsides has held of those that they have grown from. -/
structure HeldBefore (G H : σ → σ → Prop) : Prop where
  refl : ∀ s, G s s
  held : ∀ s s' t t', G s s' → G t t' → H s' t' → H s t

/-- Under both actions the outside grows, and started with related outsides they end jointly,
if `H` holds of what they leave. -/
structure Hindsight (G H R : σ → σ → Prop) (V : α → β → Prop) (x : Act σ α) (y : Act σ β) :
    Prop where
  moves : Moves G x
  moves' : Moves G y
  ends : JointIf H (fun w v => R w.outside v.outside) R V x y

variable {G H R : σ → σ → Prop} {S : World σ → World σ → Prop} {V : α → β → Prop}
  {W : γ → δ → Prop} {x : Act σ α} {y : Act σ β}

theorem Joint.jointIf (h : Joint S R V x y) : JointIf H S R V x y := fun w v hw _ => h w v hw

/-! ## What comes before -/

/-- What ends jointly in any case may come before. -/
theorem Joint.bind_if {f : α → Act σ γ} {g : β → Act σ δ} (h : Joint S R V x y)
    (hnext : ∀ a b, V a b → JointIf H (fun w v => R w.outside v.outside) R W (f a) (g b)) :
    JointIf H S R W (x >>= f) (y >>= g) := by
  intro w v hw hend
  obtain ⟨hleft, hagree⟩ := h w v hw
  cases hx : x.runOn w with
  | mk r w' =>
    cases hy : y.runOn v with
    | mk q v' =>
      rw [hx, hy] at hleft hagree
      cases r with
      | error e =>
        cases q with
        | ok b => exact hagree.elim
        | error e' => rw [runOn_bind_error hx, runOn_bind_error hy]; exact ⟨hleft, hagree⟩
      | ok a =>
        cases q with
        | error e' => exact hagree.elim
        | ok b =>
          rw [runOn_bind_ok hx, runOn_bind_ok hy] at hend ⊢
          exact hnext a b hagree w' v' hleft hend

/-- What comes before both is one run. -/
theorem JointIf.bind_same (hR : ∀ s, R s s) (x : Act σ α) {f : α → Act σ γ} {g : α → Act σ δ}
    (h : ∀ a, JointIf H (· = ·) R W (f a) (g a)) : JointIf H (· = ·) R W (x >>= f) (x >>= g) := by
  rintro w _ rfl hend
  cases hrun : x.runOn w with
  | mk r v =>
    cases r with
    | ok a =>
      rw [runOn_bind_ok hrun, runOn_bind_ok hrun] at hend ⊢
      exact h a v v rfl hend
    | error e =>
      rw [runOn_bind_error hrun, runOn_bind_error hrun]
      exact ⟨hR v.outside, rfl⟩

/-! ## Actions under which the outside grows -/

theorem Together.hindsight (h : Together R V x y) (hx : Moves G x) (hy : Moves G y) :
    Hindsight G H R V x y := ⟨hx, hy, h.jointIf⟩

theorem hindsight_pure {a : α} {b : β} (h : V a b) :
    Hindsight G H R V (pure a : Act σ α) (pure b : Act σ β) :=
  (together_pure h).hindsight (fun _ => keeps_pure a) fun _ => keeps_pure b

theorem hindsight_throw (e : Fault) :
    Hindsight G H R V (throw e : Act σ α) (throw e : Act σ β) :=
  (together_throw e).hindsight (fun _ => keeps_throw e) fun _ => keeps_throw e

theorem hindsight_liftM (r : Except Fault α) :
    Hindsight G H R (· = ·) (liftM r : Act σ α) (liftM r : Act σ α) :=
  (together_liftM r).hindsight (fun _ => keeps_liftM r) fun _ => keeps_liftM r

theorem hindsight_write (log log' : Logger) (level level' : Level) (message message' : String) :
    Hindsight G H R (· = ·) (log.write level message : Act σ Unit)
      (log'.write level' message' : Act σ Unit) where
  moves := fun _ => keeps_write _ _ _
  moves' := fun _ => keeps_write _ _ _
  ends := fun _ _ hR _ => ⟨hR, rfl⟩

theorem Hindsight.attempt {y : Act σ α} (h : Hindsight G H R (· = ·) x y) :
    Hindsight G H R (· = ·) (attempt x) (attempt y) where
  moves := fun s => (h.moves s).attempt
  moves' := fun s => (h.moves' s).attempt
  ends := fun w v hw hend => ⟨(h.ends w v hw hend).1, (h.ends w v hw hend).2.eq⟩

/-- The outside has grown from the one behind the first part. -/
theorem moves_rest (hG : ∀ s, G s s) {f : α → Act σ γ} (hf : ∀ a, Moves G (f a)) (w : World σ) :
    G (x.runOn w).2.outside ((x >>= f).runOn w).2.outside := by
  cases hx : x.runOn w with
  | mk r w' =>
    cases r with
    | error e => rw [runOn_bind_error hx]; exact hG w'.outside
    | ok a => rw [runOn_bind_ok hx]; exact hf a w'.outside w' (hG w'.outside)

/-- What holds in the end held behind the first parts, which therefore ended jointly. Values
are related to themselves, so the outside grows whatever value is given. -/
theorem Hindsight.bind (hH : HeldBefore G H) {V : α → α → Prop} (hV : ∀ a, V a a) {y : Act σ α}
    (h : Hindsight G H R V x y) {f : α → Act σ γ} {g : α → Act σ δ}
    (hnext : ∀ a b, V a b → Hindsight G H R W (f a) (g b)) :
    Hindsight G H R W (x >>= f) (y >>= g) where
  moves := fun s => (h.moves s).bind fun a => (hnext a a (hV a)).moves s
  moves' := fun s => (h.moves' s).bind fun a => (hnext a a (hV a)).moves' s
  ends := by
    intro w v hw hend
    -- the outsides only grow behind the first parts, so `H` held there already
    have hmiddle := hH.held _ _ _ _
      (moves_rest (x := x) hH.refl (fun a => (hnext a a (hV a)).moves) w)
      (moves_rest (x := y) hH.refl (fun a => (hnext a a (hV a)).moves') v) hend
    -- from these two worlds, then, the first parts end jointly without a condition
    have hjoint : Joint (fun w' v' => w' = w ∧ v' = v) R V x y := by
      rintro _ _ ⟨rfl, rfl⟩
      exact h.ends _ _ hw hmiddle
    exact (hjoint.bind_if fun a b hab => (hnext a b hab).ends) w v ⟨rfl, rfl⟩ hend

/-! ## Measuring the time -/

section Timed

variable {clock : Act σ Double} (hH : HeldBefore G H)
  (hclock : Hindsight G H R (fun _ _ => True) clock clock) {log log' : Logger}
  {operation : String}
include hH hclock

theorem hindsight_told {start start' : Double} (r : Except Fault α) :
    Hindsight G H R (· = ·) (log.told clock operation start r)
      (log'.told clock operation start' r) := by
  cases r with
  | error e =>
    dsimp only [Logger.told]
    split
    · exact hclock.bind hH (fun _ => trivial) fun _ _ _ =>
        (hindsight_write _ _ _ _ _ _).bind hH (fun _ => rfl) fun _ _ _ => hindsight_throw e
    · exact hindsight_throw e
  | ok a =>
    exact hclock.bind hH (fun _ => trivial) fun _ _ _ =>
      (hindsight_write _ _ _ _ _ _).bind hH (fun _ => rfl) fun _ _ _ => hindsight_pure rfl

/-- Measuring the time of actions leaves how they end. -/
theorem Hindsight.timed {more : Context} {body body' : Logger → Act σ α}
    (h : ∀ l, Hindsight G H R (· = ·) (body l) (body' l)) :
    Hindsight G H R (· = ·) (log.timed clock operation more body)
      (log.timed clock operation more body') := by
  rw [Logger.timed_eq, Logger.timed_eq]
  refine hclock.bind hH (fun _ => trivial) fun _ _ _ => ?_
  refine (hindsight_write _ _ _ _ _ _).bind hH (fun _ => rfl) fun _ _ _ => ?_
  refine (h _).attempt.bind hH (fun _ => rfl) ?_
  rintro r _ rfl
  exact hindsight_told hH hclock r

end Timed

end PullReview.Act
