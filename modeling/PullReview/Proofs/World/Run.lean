import PullReview.World

/-!
# Running actions

What an action does is known from `Act.runOn`: the value or fault, and the world
after it. The first section says how runs of composed actions are made of the
runs of their parts. The second one is about values alone: `Returns act P` says
that whatever `act` gives, in whatever world, has the property `P`; a fault gives
nothing. Two continuations that agree on such values make one and the same action
(`bind_congr`). The last section is about the outside: `Keeps act I` says that
runs of `act` keep an invariant `I`.
-/

namespace PullReview.Act

variable {σ α β : Type}

/-! ## Runs of composed actions -/

theorem runOn_pure (a : α) (w : World σ) : (pure a : Act σ α).runOn w = (.ok a, w) := rfl

theorem runOn_throw (e : Fault) (w : World σ) : (throw e : Act σ α).runOn w = (.error e, w) := rfl

theorem runOn_attempt (x : Act σ α) (w : World σ) :
    (attempt x).runOn w = (.ok (x.runOn w).1, (x.runOn w).2) := rfl

/-- What needs no world runs without touching it. -/
theorem runOn_liftM (x : Except Fault α) (w : World σ) :
    (liftM x : Act σ α).runOn w = (x, w) := rfl

/-- After a value the continuation runs in the world left behind. -/
theorem runOn_bind_ok {x : Act σ α} {f : α → Act σ β} {w w' : World σ} {a : α}
    (h : x.runOn w = (.ok a, w')) : (x >>= f).runOn w = (f a).runOn w' := by
  have hx : x w = (.ok a, w') := h
  unfold runOn ExceptT.run StateT.run
  simp only [bind, ExceptT.bind, ExceptT.mk, StateT.bind, hx]
  rfl

/-- After a fault nothing more happens. -/
theorem runOn_bind_error {x : Act σ α} {f : α → Act σ β} {w w' : World σ} {e : Fault}
    (h : x.runOn w = (.error e, w')) : (x >>= f).runOn w = (.error e, w') := by
  have hx : x w = (.error e, w') := h
  unfold runOn ExceptT.run StateT.run
  simp only [bind, ExceptT.bind, ExceptT.mk, StateT.bind, hx]
  rfl

/-- Writing to the journal shows nowhere else. -/
theorem runOn_write_bind (log : Logger) (level : Level) (message : String) (x : Act σ α)
    (w : World σ) :
    ∃ v : World σ, v.outside = w.outside ∧
      (log.write level message >>= fun _ => x).runOn w = x.runOn v :=
  ⟨{ w with journal := w.journal.record ⟨level, message, log.context⟩ }, rfl, runOn_bind_ok rfl⟩

/-- A composed action gives a value only through values of its parts. -/
theorem runOn_bind_eq_ok {x : Act σ α} {f : α → Act σ β} {w w' : World σ} {b : β} :
    (x >>= f).runOn w = (.ok b, w') ↔
      ∃ a v, x.runOn w = (.ok a, v) ∧ (f a).runOn v = (.ok b, w') := by
  cases hx : x.runOn w with
  | mk r v =>
    cases r with
    | error e =>
      rw [runOn_bind_error hx]
      constructor
      · intro h; exact absurd (Prod.mk.inj h).1 (by simp)
      · rintro ⟨a, v', h, _⟩; exact absurd (Prod.mk.inj h).1 (by simp)
    | ok a =>
      rw [runOn_bind_ok hx]
      constructor
      · intro h; exact ⟨a, v, rfl, h⟩
      · rintro ⟨a', v', h, h'⟩
        obtain ⟨ha, rfl⟩ := Prod.mk.inj h
        obtain rfl := Except.ok.inj ha
        exact h'

/-- Actions with the same runs are the same. -/
theorem ext {x y : Act σ α} (h : ∀ w, x.runOn w = y.runOn w) : x = y := funext h

/-! ## Properties of returned values -/

/-- Whatever the action gives, in whatever world, has the property. -/
def Returns (act : Act σ α) (P : α → Prop) : Prop :=
  ∀ w a w', act.runOn w = (.ok a, w') → P a

variable {P : α → Prop} {Q : β → Prop}

theorem returns_pure {a : α} (h : P a) : Returns (pure a : Act σ α) P := by
  intro w b w' hrun
  rw [runOn_pure] at hrun
  obtain rfl := Except.ok.inj (Prod.mk.inj hrun).1
  exact h

theorem returns_throw (e : Fault) : Returns (throw e : Act σ α) P := by
  intro w b w' hrun
  rw [runOn_throw] at hrun
  exact absurd (Prod.mk.inj hrun).1 (by simp)

theorem returns_liftM {x : Except Fault α} (h : ∀ a, x = .ok a → P a) :
    Returns (liftM x : Act σ α) P := by
  intro w a w' hrun
  exact h a (Prod.mk.inj hrun).1

theorem Returns.bind {x : Act σ α} {f : α → Act σ β} (hx : Returns x P)
    (hf : ∀ a, P a → Returns (f a) Q) : Returns (x >>= f) Q := by
  intro w b w' hrun
  obtain ⟨a, v, ha, hb⟩ := runOn_bind_eq_ok.mp hrun
  exact hf a (hx w a v ha) v b w' hb

/-- What comes first does not matter when the rest has the property anyway. -/
theorem returns_bind {x : Act σ α} {f : α → Act σ β} (hf : ∀ a, Returns (f a) Q) :
    Returns (x >>= f) Q := by
  intro w b w' hrun
  obtain ⟨a, v, _, hb⟩ := runOn_bind_eq_ok.mp hrun
  exact hf a v b w' hb

theorem Returns.attempt {x : Act σ α} (hx : Returns x P) :
    Returns (attempt x) fun r => ∀ a, r = .ok a → P a := by
  intro w r w' hrun a hr
  rw [runOn_attempt] at hrun
  obtain ⟨hfirst, _⟩ := Prod.mk.inj hrun
  exact hx w a (x.runOn w).2 (Prod.ext ((Except.ok.inj hfirst).trans hr) rfl)

/-- Measuring the time of an action leaves its value. -/
theorem Returns.timed {clock : Act σ Double} {log : Logger} {operation : String} {more : Context}
    {body : Logger → Act σ α} (h : ∀ l, Returns (body l) P) :
    Returns (log.timed clock operation more body) P := by
  unfold Logger.timed
  refine returns_bind fun start => returns_bind fun _ => ?_
  refine Returns.bind (h _).attempt fun r hr => ?_
  cases r with
  | ok a => exact returns_bind fun _ => returns_bind fun _ => returns_pure (hr a rfl)
  | error e =>
    dsimp only
    split
    · exact returns_bind fun _ => returns_bind fun _ => returns_throw e
    · exact returns_throw e

/-- Continuations that agree on what is returned make the same action. -/
theorem Returns.bind_congr {x : Act σ α} {f g : α → Act σ β} (hx : Returns x P)
    (h : ∀ a, P a → f a = g a) : (x >>= f) = (x >>= g) := by
  refine ext fun w => ?_
  -- behind a fault neither continuation runs
  cases hrun : x.runOn w with
  | mk r v =>
    cases r with
    | ok a => rw [runOn_bind_ok hrun, runOn_bind_ok hrun, h a (hx w a v hrun)]
    | error e => rw [runOn_bind_error hrun, runOn_bind_error hrun]

/-! ## Properties of the outside that runs keep -/

/-- A property of the outside still holds behind every run that it held before,
whether the run gives a value or fails. -/
def Keeps (act : Act σ α) (I : σ → Prop) : Prop :=
  ∀ w, I w.outside → I (act.runOn w).2.outside

variable {I : σ → Prop}

theorem keeps_pure (a : α) : Keeps (pure a : Act σ α) I := fun _ h => h

theorem keeps_throw (e : Fault) : Keeps (throw e : Act σ α) I := fun _ h => h

theorem keeps_liftM (x : Except Fault α) : Keeps (liftM x : Act σ α) I := fun _ h => h

theorem keeps_write (log : Logger) (level : Level) (message : String) :
    Keeps (log.write level message : Act σ Unit) I := fun _ h => h

theorem Keeps.attempt {x : Act σ α} (hx : Keeps x I) : Keeps (attempt x) I := fun w h => hx w h

theorem Keeps.bind {x : Act σ α} {f : α → Act σ β} (hx : Keeps x I) (hf : ∀ a, Keeps (f a) I) :
    Keeps (x >>= f) I := by
  intro w h
  have hmiddle : I (x.runOn w).2.outside := hx w h
  cases hrun : x.runOn w with
  | mk r v =>
    rw [hrun] at hmiddle
    cases r with
    | error e => rw [runOn_bind_error hrun]; exact hmiddle
    | ok a => rw [runOn_bind_ok hrun]; exact hf a v hmiddle

end PullReview.Act
