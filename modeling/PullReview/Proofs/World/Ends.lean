import PullReview.Proofs.World.Run

/-!
# How actions end

`Ends act I P E` says all of a run of `act` at once: started where `I` holds of the
outside, it leaves `I` behind; a value it gives has the property `P`, and a fault it
fails with has the property `E`. An action that `Succeeds` never fails.

`SameResult I x y` is about two actions: started in the same world, where `I` holds,
they give the same value or fail with the same fault. They may leave different worlds
behind, so it can be carried over what comes before them and not over what follows.
-/

namespace PullReview.Act

variable {σ α β : Type} {I : σ → Prop}

/-! ## One action -/

/-- A value with one property, or a fault with another. -/
def Allowed (P : α → Prop) (E : Fault → Prop) : Except Fault α → Prop
  | .ok a => P a
  | .error e => E e

/-- Started where `I` holds the action leaves `I`, and it ends with a value or fault
that has its property. -/
def Ends (act : Act σ α) (I : σ → Prop) (P : α → Prop) (E : Fault → Prop) : Prop :=
  ∀ w, I w.outside → I (act.runOn w).2.outside ∧ Allowed P E (act.runOn w).1

/-- Started where `I` holds the action leaves `I` and gives a value with its property. -/
abbrev Succeeds (act : Act σ α) (I : σ → Prop) (P : α → Prop) : Prop :=
  Ends act I P fun _ => False

variable {P P' : α → Prop} {Q : β → Prop} {E E' : Fault → Prop}

theorem Allowed.bind {x : Except Fault α} (hx : Allowed P E x) {f : α → Except Fault β}
    (hf : ∀ a, P a → Allowed Q E (f a)) : Allowed Q E (x >>= f) := by
  cases x with
  | ok a => exact hf a hx
  | error e => exact hx

/-- A list is gone through item by item, up to the first fault. -/
theorem allowed_mapM {f : α → Except Fault β} :
    ∀ xs : List α, (∀ x ∈ xs, Allowed Q E (f x)) →
      Allowed (fun ys => ∀ y ∈ ys, Q y) E (xs.mapM f) := by
  intro xs
  induction xs with
  | nil => intro _ y hy; exact absurd hy List.not_mem_nil
  | cons x xs ih =>
    intro h
    obtain ⟨hx, hxs⟩ := List.forall_mem_cons.mp h
    rw [List.mapM_cons]
    exact hx.bind fun y hy => (ih hxs).bind fun ys hys => List.forall_mem_cons.mpr ⟨hy, hys⟩

theorem ends_pure {a : α} (h : P a) : Ends (pure a : Act σ α) I P E := fun _ hw => ⟨hw, h⟩

theorem ends_throw {e : Fault} (h : E e) : Ends (throw e : Act σ α) I P E := fun _ hw => ⟨hw, h⟩

theorem ends_liftM {x : Except Fault α} (h : Allowed P E x) :
    Ends (liftM x : Act σ α) I P E := fun _ hw => ⟨hw, h⟩

theorem ends_write (log : Logger) (level : Level) (message : String) :
    Ends (log.write level message : Act σ Unit) I (fun _ => True) E := fun _ hw => ⟨hw, trivial⟩

theorem Ends.mono {x : Act σ α} (h : Ends x I P E) (hP : ∀ a, P a → P' a)
    (hE : ∀ e, E e → E' e) : Ends x I P' E' := by
  intro w hw
  obtain ⟨hleft, houtcome⟩ := h w hw
  refine ⟨hleft, ?_⟩
  cases hrun : (x.runOn w).1 with
  | ok a => rw [hrun] at houtcome; exact hP a houtcome
  | error e => rw [hrun] at houtcome; exact hE e houtcome

/-- What two statements say of one action holds at once. -/
theorem Ends.and {x : Act σ α} (h : Ends x I P E) (h' : Ends x I P' E') :
    Ends x I (fun a => P a ∧ P' a) fun e => E e ∧ E' e := by
  intro w hw
  obtain ⟨hleft, houtcome⟩ := h w hw
  have houtcome' := (h' w hw).2
  refine ⟨hleft, ?_⟩
  cases hrun : (x.runOn w).1 with
  | ok a => rw [hrun] at houtcome houtcome'; exact ⟨houtcome, houtcome'⟩
  | error e => rw [hrun] at houtcome houtcome'; exact ⟨houtcome, houtcome'⟩

theorem Ends.bind {x : Act σ α} {f : α → Act σ β} (hx : Ends x I P E)
    (hf : ∀ a, P a → Ends (f a) I Q E) : Ends (x >>= f) I Q E := by
  intro w hw
  obtain ⟨hleft, houtcome⟩ := hx w hw
  cases hrun : x.runOn w with
  | mk r v =>
    rw [hrun] at hleft houtcome
    cases r with
    | ok a => rw [runOn_bind_ok hrun]; exact hf a houtcome v hleft
    | error e => rw [runOn_bind_error hrun]; exact ⟨hleft, houtcome⟩

/-- A value that is there already. -/
theorem Ends.bind_ok {x : Except Fault α} {a : α} (hx : x = .ok a) {f : α → Act σ β}
    (h : Ends (f a) I Q E) : Ends (liftM x >>= f) I Q E := by
  rw [hx]
  exact h

/-- Behind a fault nothing follows. -/
theorem ends_throw_bind {e : Fault} (he : E e) {f : α → Act σ β} :
    Ends (throw e >>= f) I Q E :=
  (ends_throw he : Ends (throw e) I (fun _ => False) E).bind fun _ h => h.elim

theorem Succeeds.ends {x : Act σ α} (h : Succeeds x I P) : Ends x I P E :=
  h.mono (fun _ ha => ha) fun _ he => he.elim

/-- An attempt never fails. -/
theorem Ends.attempt {x : Act σ α} (hx : Ends x I P E) :
    Ends (Act.attempt x) I (Allowed P E) E' := fun w hw => hx w hw

theorem Ends.keeps {x : Act σ α} (hx : Ends x I P E) : Keeps x I := fun w hw => (hx w hw).1

/-- Measuring the time of an action leaves how it ends. -/
theorem Ends.timed {clock : Act σ Double} (hclock : Succeeds clock I fun _ => True)
    {log : Logger} {operation : String} {more : Context} {body : Logger → Act σ α}
    (h : ∀ l, Ends (body l) I P E) : Ends (log.timed clock operation more body) I P E := by
  have hnow : Ends clock I (fun _ => True) E := hclock.mono (fun _ h => h) fun _ h => h.elim
  unfold Logger.timed
  refine hnow.bind fun start _ => (ends_write _ _ _).bind fun _ _ => ?_
  refine (h _).attempt.bind fun r hr => ?_
  cases r with
  | ok a => exact hnow.bind fun _ _ => (ends_write _ _ _).bind fun _ _ => ends_pure hr
  | error e =>
    dsimp only
    split
    · exact hnow.bind fun _ _ => (ends_write _ _ _).bind fun _ _ => ends_throw hr
    · exact ends_throw hr

/-! ## Two actions -/

/-- Started in the same world the actions give the same value or fault. -/
def SameResult (I : σ → Prop) (x y : Act σ α) : Prop :=
  ∀ w, I w.outside → (x.runOn w).1 = (y.runOn w).1

theorem SameResult.refl (x : Act σ α) : SameResult I x x := fun _ _ => rfl

/-- What comes before both keeps what they need. -/
theorem SameResult.bind {x : Act σ α} {f g : α → Act σ β} (hx : Keeps x I)
    (h : ∀ a, SameResult I (f a) (g a)) : SameResult I (x >>= f) (x >>= g) := by
  intro w hw
  have hleft := hx w hw
  cases hrun : x.runOn w with
  | mk r v =>
    rw [hrun] at hleft
    cases r with
    | ok a => rw [runOn_bind_ok hrun, runOn_bind_ok hrun]; exact h a v hleft
    | error e => rw [runOn_bind_error hrun, runOn_bind_error hrun]

/-- A value that is there already. -/
theorem SameResult.bind_ok {a : α} {f g : α → Act σ β} (h : SameResult I (f a) (g a)) :
    SameResult I (liftM (.ok a : Except Fault α) >>= f) (liftM (.ok a : Except Fault α) >>= g) := h

/-- Actions that give one and the same value and never fail. -/
theorem SameResult.of_succeeds {x y : Act σ α} {a : α} (hx : Succeeds x I (· = a))
    (hy : Succeeds y I (· = a)) : SameResult I x y := by
  have hvalue : ∀ {z : Act σ α}, Succeeds z I (· = a) → ∀ w, I w.outside →
      (z.runOn w).1 = .ok a := by
    intro z hz w hw
    have houtcome := (hz w hw).2
    cases hrun : (z.runOn w).1 with
    | ok b => rw [hrun] at houtcome; exact congrArg Except.ok houtcome
    | error e => rw [hrun] at houtcome; exact houtcome.elim
  intro w hw
  rw [hvalue hx w hw, hvalue hy w hw]

end PullReview.Act
