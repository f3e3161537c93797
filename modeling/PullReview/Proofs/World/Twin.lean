import PullReview.Proofs.World.Alike
import PullReview.Proofs.World.Ends

/-!
# Two runs from one world

What does a run owe to a part of it? The run is set beside the run without that part,
and both start in the same world. Up to the part they are one run (`Twin.bind_same`);
from there on their worlds differ, though not in what `R` says of the outside, and they
go on together (`Joint.bind`). Both notions say the same of the ends: the runs leave
related worlds and end with related values or with the same fault. They differ in the
worlds that they ask for at the start, so they are cases of one notion, `Joint`.

`GivesAlike` says less: if both runs give values at all, these are related. Of an action that
comes last it is known by what each run of it returns (`GivesAlike.of_returns`).
-/

namespace PullReview.Act

variable {σ α β γ δ : Type}

/-- Started in worlds related by `S` the actions leave outsides related by `R`, and they
end with values related by `V` or with the same fault. -/
def Joint (S : World σ → World σ → Prop) (R : σ → σ → Prop) (V : α → β → Prop)
    (x : Act σ α) (y : Act σ β) : Prop :=
  ∀ w v, S w v → R (x.runOn w).2.outside (y.runOn v).2.outside ∧
    Agree V (· = ·) (x.runOn w).1 (y.runOn v).1

/-- Started with related outsides the actions end jointly. -/
abbrev Together (R : σ → σ → Prop) (V : α → β → Prop) (x : Act σ α) (y : Act σ β) : Prop :=
  Joint (fun w v => R w.outside v.outside) R V x y

/-- Started in one world the actions end jointly. -/
abbrev Twin (R : σ → σ → Prop) (V : α → β → Prop) (x : Act σ α) (y : Act σ β) : Prop :=
  Joint (· = ·) R V x y

variable {S : World σ → World σ → Prop} {R : σ → σ → Prop} {V : α → β → Prop}
  {W : γ → δ → Prop} {x : Act σ α} {y : Act σ β} {f : α → Act σ γ} {g : β → Act σ δ}

/-- The same value, or the same fault. -/
theorem Agree.eq {r q : Except Fault α} (h : Agree (· = ·) (· = ·) r q) : r = q := by
  cases r with
  | ok a =>
    cases q with
    | ok b => exact congrArg Except.ok h
    | error e => exact h.elim
  | error e =>
    cases q with
    | ok b => exact h.elim
    | error e' => exact congrArg Except.error h

theorem Agree.refl (r : Except Fault α) : Agree (· = ·) (· = ·) r r := by
  cases r with
  | ok a => exact rfl
  | error e => exact rfl

theorem together_pure {a : α} {b : β} (h : V a b) :
    Together R V (pure a : Act σ α) (pure b : Act σ β) := fun _ _ hR => ⟨hR, h⟩

theorem together_throw (e : Fault) :
    Together R V (throw e : Act σ α) (throw e : Act σ β) := fun _ _ hR => ⟨hR, rfl⟩

theorem together_liftM (r : Except Fault α) :
    Together R (· = ·) (liftM r : Act σ α) (liftM r : Act σ α) := fun _ _ hR => ⟨hR, .refl r⟩

theorem together_write (log log' : Logger) (level level' : Level) (message message' : String) :
    Together R (fun _ _ => True) (log.write level message : Act σ Unit)
      (log'.write level' message' : Act σ Unit) := fun _ _ hR => ⟨hR, trivial⟩

theorem Together.twin (hR : ∀ s, R s s) (h : Together R V x y) : Twin R V x y := by
  rintro w _ rfl
  exact h w w (hR w.outside)

/-- Once they are related the actions go on together. -/
theorem Joint.bind (h : Joint S R V x y) (hnext : ∀ a b, V a b → Together R W (f a) (g b)) :
    Joint S R W (x >>= f) (y >>= g) := by
  intro w v hw
  obtain ⟨hleft, hagree⟩ := h w v hw
  cases hx : x.runOn w with
  | mk r w' =>
    cases hy : y.runOn v with
    | mk q v' =>
      rw [hx, hy] at hleft hagree
      cases r with
      | error e =>
        cases q with
        | ok b => exact hagree.elim
        | error f => rw [runOn_bind_error hx, runOn_bind_error hy]; exact ⟨hleft, hagree⟩
      | ok a =>
        cases q with
        | error f => exact hagree.elim
        | ok b => rw [runOn_bind_ok hx, runOn_bind_ok hy]; exact hnext a b hagree w' v' hleft

/-- What comes before both is one run. -/
theorem Twin.bind_same (hR : ∀ s, R s s) (x : Act σ α) {f : α → Act σ γ} {g : α → Act σ δ}
    (h : ∀ a, Twin R W (f a) (g a)) : Twin R W (x >>= f) (x >>= g) := by
  rintro w _ rfl
  cases hrun : x.runOn w with
  | mk r v =>
    cases r with
    | ok a => rw [runOn_bind_ok hrun, runOn_bind_ok hrun]; exact h a v v rfl
    | error e => rw [runOn_bind_error hrun, runOn_bind_error hrun]; exact ⟨hR v.outside, rfl⟩

/-- One of the runs may do something of its own that `R` does not see. -/
theorem Together.bind_left {P : α → Prop} (hx : ∀ t, Succeeds x (R · t) P) {z : Act σ δ}
    (h : ∀ a, P a → Together R W (f a) z) : Together R W (x >>= f) z := by
  intro w v hw
  obtain ⟨hleft, hvalue⟩ := hx v.outside w hw
  cases hrun : x.runOn w with
  | mk r w' =>
    rw [hrun] at hleft hvalue
    cases r with
    | error e => exact hvalue.elim
    | ok a => rw [runOn_bind_ok hrun]; exact h a hvalue w' v hleft

theorem Joint.attempt (h : Joint S R V x y) :
    Joint S R (Agree V (· = ·)) (attempt x) (attempt y) := fun w v hw => h w v hw

/-! ## Values alone -/

/-- Started in related worlds the actions give related values, if both give one. -/
def GivesAlike (S : World σ → World σ → Prop) (V : α → β → Prop) (x : Act σ α) (y : Act σ β) :
    Prop :=
  ∀ w v, S w v → ∀ a w' b v', x.runOn w = (.ok a, w') → y.runOn v = (.ok b, v') → V a b

theorem GivesAlike.of_returns {P : α → Prop} {Q : β → Prop} (hx : Returns x P) (hy : Returns y Q)
    (h : ∀ a b, P a → Q b → V a b) : GivesAlike S V x y :=
  fun w v _ a w' b v' ha hb => h a b (hx w a w' ha) (hy v b v' hb)

/-- What ends jointly comes before. -/
theorem Joint.bind_gives (h : Joint S R V x y)
    (hnext : ∀ a b, V a b → GivesAlike (fun w v => R w.outside v.outside) W (f a) (g b)) :
    GivesAlike S W (x >>= f) (y >>= g) := by
  intro w v hw c w' d v' hc hd
  obtain ⟨hleft, hagree⟩ := h w v hw
  obtain ⟨a, w₁, hx, hf⟩ := runOn_bind_eq_ok.mp hc
  obtain ⟨b, v₁, hy, hg⟩ := runOn_bind_eq_ok.mp hd
  rw [hx, hy] at hleft hagree
  exact hnext a b hagree w₁ v₁ hleft c w' d v' hf hg

/-- What comes before both is one run. -/
theorem GivesAlike.bind_same (x : Act σ α) {f : α → Act σ γ} {g : α → Act σ δ}
    (h : ∀ a, GivesAlike (· = ·) W (f a) (g a)) : GivesAlike (· = ·) W (x >>= f) (x >>= g) := by
  rintro w _ rfl c w' d v' hc hd
  obtain ⟨a, w₁, hx, hf⟩ := runOn_bind_eq_ok.mp hc
  obtain ⟨b, v₁, hy, hg⟩ := runOn_bind_eq_ok.mp hd
  obtain ⟨hab, rfl⟩ := Prod.mk.inj (hx.symm.trans hy)
  obtain rfl := Except.ok.inj hab
  exact h a w₁ w₁ rfl c w' d v' hf hg

end PullReview.Act

/-! ## Measuring the time -/

namespace PullReview.Logger

variable {σ α : Type}

/-- The end of an action whose time is measured, by what an attempt at it gave. -/
def told (log : Logger) (clock : Act σ Double) (operation : String) (start : Double) :
    Except Fault α → Act σ α
  | .ok a => do
    let duration := (← clock).sub start
    log.debug s!"Completed {operation} in {duration.fixed 3}s"
    return a
  | .error fault => do
    if fault.isOrdinary then
      let duration := (← clock).sub start
      log.error s!"Failed {operation} after {duration.fixed 3}s: {fault.message}"
    throw fault

theorem timed_eq (log : Logger) (clock : Act σ Double) (operation : String)
    (more : Context) (body : Logger → Act σ α) :
    log.timed clock operation more body = (do
      let start ← clock
      (log.bind more).debug s!"Starting {operation}"
      (log.bind more).told clock operation start (← Act.attempt (body (log.bind more)))) := by
  unfold Logger.timed
  refine bind_congr fun start => bind_congr fun _ => bind_congr fun r => ?_
  cases r with
  | ok a => rfl
  | error fault => rfl

end PullReview.Logger

namespace PullReview.Act

variable {σ α β : Type} {R : σ → σ → Prop} {V : α → β → Prop}

section Timed

variable {clock : Act σ Double} (hclock : Together R (fun _ _ => True) clock clock)
  {log : Logger} {operation : String} {more : Context} {body : Logger → Act σ α}
  {body' : Logger → Act σ β}
include hclock

/-- What is written behind an attempt does not part the runs. -/
theorem together_told {log log' : Logger} {start start' : Double} {r : Except Fault α}
    {q : Except Fault β} (h : Agree V (· = ·) r q) :
    Together R V (log.told clock operation start r) (log'.told clock operation start' q) := by
  cases r with
  | error e =>
    cases q with
    | ok b => exact h.elim
    | error e' =>
      obtain rfl : e = e' := h
      dsimp only [Logger.told]
      split
      · exact hclock.bind fun _ _ _ => (together_write _ _ _ _ _ _).bind fun _ _ _ =>
          together_throw e
      · exact together_throw e
  | ok a =>
    cases q with
    | error e => exact h.elim
    | ok b =>
      exact hclock.bind fun _ _ _ => (together_write _ _ _ _ _ _).bind fun _ _ _ =>
        together_pure h

theorem Twin.timed (hR : ∀ s, R s s) (h : ∀ l, Twin R V (body l) (body' l)) :
    Twin R V (log.timed clock operation more body) (log.timed clock operation more body') := by
  rw [Logger.timed_eq, Logger.timed_eq]
  refine Twin.bind_same hR _ fun _ => Twin.bind_same hR _ fun _ => ?_
  exact (h _).attempt.bind fun _ _ hends => together_told hclock hends

end Timed

end PullReview.Act
