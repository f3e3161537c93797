import PullReview.Proofs.World.Run

/-!
# Two worlds in step

An action on one kind of world can stand for an action on another kind.
`Alike R R' V E x y` says so: started in worlds whose outsides are related by `R`, the
actions leave outsides related by `R'`, and they end alike, with values related by `V`
or with faults related by `E`. Actions that are `InStep` never fail. What is in step is
put together with `InStep.bind`; a part that may fail alike is put under `attempt`
first (`Alike.attempt`). Actions are also alike if each leads, on its own, to what is related
(`alike_of_leads`).
-/

namespace PullReview.Act

variable {σ τ α β γ δ : Type}

/-- Two values that are related, or two faults that are. -/
def Agree (V : α → β → Prop) (E : Fault → Fault → Prop) : Except Fault α → Except Fault β → Prop
  | .ok a, .ok b => V a b
  | .error e, .error f => E e f
  | _, _ => False

/-- Started in related worlds the actions leave related worlds and end alike. -/
def Alike (R R' : σ → τ → Prop) (V : α → β → Prop) (E : Fault → Fault → Prop) (x : Act σ α)
    (y : Act τ β) : Prop :=
  ∀ w v, R w.outside v.outside →
    R' (x.runOn w).2.outside (y.runOn v).2.outside ∧ Agree V E (x.runOn w).1 (y.runOn v).1

/-- Started in related worlds the actions leave related worlds and give related values. -/
abbrev InStep (R R' : σ → τ → Prop) (V : α → β → Prop) (x : Act σ α) (y : Act τ β) : Prop :=
  Alike R R' V (fun _ _ => False) x y

variable {R R' R'' : σ → τ → Prop} {V V' : α → β → Prop} {W : γ → δ → Prop}
  {E : Fault → Fault → Prop}

theorem inStep_pure {a : α} {b : β} (h : V a b) :
    InStep R R V (pure a : Act σ α) (pure b : Act τ β) := fun _ _ hR => ⟨hR, h⟩

theorem inStep_write (log log' : Logger) (level level' : Level) (message message' : String) :
    InStep R R (fun _ _ => True) (log.write level message : Act σ Unit)
      (log'.write level' message' : Act τ Unit) := fun _ _ hR => ⟨hR, trivial⟩

theorem Alike.mono {x : Act σ α} {y : Act τ β} (h : Alike R R' V E x y)
    (hR : ∀ s t, R' s t → R'' s t) (hV : ∀ a b, V a b → V' a b) : Alike R R'' V' E x y := by
  intro w v hw
  obtain ⟨hleft, hagree⟩ := h w v hw
  refine ⟨hR _ _ hleft, ?_⟩
  cases hx : (x.runOn w).1 <;> cases hy : (y.runOn v).1
  all_goals rw [hx, hy] at hagree
  · exact hagree
  · exact hagree.elim
  · exact hagree.elim
  · exact hV _ _ hagree

/-- Actions in step go on in step. -/
theorem InStep.bind {x : Act σ α} {y : Act τ β} (h : InStep R R' V x y) {f : α → Act σ γ}
    {g : β → Act τ δ} (hnext : ∀ a b, V a b → Alike R' R'' W E (f a) (g b)) :
    Alike R R'' W E (x >>= f) (y >>= g) := by
  intro w v hw
  obtain ⟨hleft, hagree⟩ := h w v hw
  cases hx : x.runOn w with
  | mk r w' =>
    cases hy : y.runOn v with
    | mk q v' =>
      rw [hx, hy] at hleft hagree
      cases r with
      | error e => cases q <;> exact hagree.elim
      | ok a =>
        cases q with
        | error f => exact hagree.elim
        | ok b =>
          rw [runOn_bind_ok hx, runOn_bind_ok hy]
          exact hnext a b hagree w' v' hleft

/-- Values that are there already. -/
theorem alike_bind_ok {x : Except Fault α} {y : Except Fault β} {a : α} {b : β} (hx : x = .ok a)
    (hy : y = .ok b) {f : α → Act σ γ} {g : β → Act τ δ} (h : Alike R R' W E (f a) (g b)) :
    Alike R R' W E (liftM x >>= f) (liftM y >>= g) := by
  rw [hx, hy]
  exact h

/-- Attempts at actions that end alike are in step. -/
theorem Alike.attempt {x : Act σ α} {y : Act τ β} (h : Alike R R' V E x y) :
    InStep R R' (Agree V E) (attempt x) (attempt y) := fun w v hw => h w v hw

/-- Actions in step give one value, and leave related worlds. -/
theorem InStep.gives {x : Act σ α} {y : Act τ α} (h : InStep R R' (· = ·) x y) {w : World σ}
    {v : World τ} (hw : R w.outside v.outside) :
    ∃ a, (x.runOn w).1 = .ok a ∧ (y.runOn v).1 = .ok a ∧
      R' (x.runOn w).2.outside (y.runOn v).2.outside := by
  obtain ⟨hleft, hagree⟩ := h w v hw
  cases hx : (x.runOn w).1 with
  | error e => cases hy : (y.runOn v).1 <;> rw [hx, hy] at hagree <;> exact hagree.elim
  | ok a =>
    cases hy : (y.runOn v).1 with
    | error e => rw [hx, hy] at hagree; exact hagree.elim
    | ok b =>
      rw [hx, hy] at hagree
      obtain rfl : a = b := hagree
      exact ⟨a, rfl, rfl, hleft⟩

/-!
## Where actions lead

`Leads act s r t` says all of `act` that shows outside: started where `s` is outside,
whatever the tree and the journal are, it ends with `r` and leaves `t` outside. Actions
on two kinds of world that are known so well are compared by what they lead to
(`alike_of_leads`).
-/

/-- Started with `s` outside the action ends with `r` and leaves `t` outside. -/
def Leads (act : Act σ α) (s : σ) (r : Except Fault α) (t : σ) : Prop :=
  ∀ w, w.outside = s → ∃ v, act.runOn w = (r, v) ∧ v.outside = t

variable {s t u : σ}

theorem leads_pure (a : α) : Leads (pure a) s (.ok a) s := fun w hw => ⟨w, rfl, hw⟩

theorem leads_throw (e : Fault) : Leads (throw e : Act σ α) s (.error e) s :=
  fun w hw => ⟨w, rfl, hw⟩

theorem leads_liftM (x : Except Fault α) : Leads (liftM x : Act σ α) s x s :=
  fun w hw => ⟨w, rfl, hw⟩

theorem leads_write (log : Logger) (level : Level) (message : String) :
    Leads (log.write level message) s (.ok ()) s :=
  fun w hw => ⟨{ w with journal := w.journal.record ⟨level, message, log.context⟩ }, rfl, hw⟩

theorem leads_step (p : Part σ τ) (f : τ → Except Fault α × τ) :
    Leads (p.step f) s (f (p.get s)).1 (p.set s (f (p.get s)).2) := by
  rintro w rfl
  exact ⟨{ w with outside := p.set w.outside (f (p.get w.outside)).2 }, rfl, rfl⟩

theorem Leads.bind {x : Act σ α} {a : α} (hx : Leads x s (.ok a) t) {f : α → Act σ β}
    {r : Except Fault β} (hf : Leads (f a) t r u) : Leads (x >>= f) s r u := by
  intro w hw
  obtain ⟨v, hrun, hv⟩ := hx w hw
  rw [runOn_bind_ok hrun]
  exact hf v hv

theorem Leads.bind_error {x : Act σ α} {e : Fault} (hx : Leads x s (.error e) t)
    (f : α → Act σ β) : Leads (x >>= f) s (.error e) t := by
  intro w hw
  obtain ⟨v, hrun, hv⟩ := hx w hw
  exact ⟨v, runOn_bind_error hrun, hv⟩

/-- A value that is there already. -/
theorem leads_bind_ok {x : Except Fault α} {a : α} (hx : x = .ok a) {f : α → Act σ β}
    {r : Except Fault β} (hf : Leads (f a) s r t) : Leads (liftM x >>= f) s r t := by
  rw [hx]
  exact hf

/-- A fault that is there already. -/
theorem leads_bind_error {x : Except Fault α} {e : Fault} (hx : x = .error e)
    (f : α → Act σ β) : Leads (liftM x >>= f) s (.error e) s := by
  rw [hx]
  exact (leads_liftM _).bind_error f

theorem Leads.map {x : Act σ α} {a : α} (hx : Leads x s (.ok a) t) (f : α → β) :
    Leads (f <$> x) s (.ok (f a)) t := by
  rw [map_eq_pure_bind]
  exact hx.bind (leads_pure (f a))

/-- An attempt ends with what its action ends with, as a value. -/
theorem Leads.attempt {x : Act σ α} {r : Except Fault α} (hx : Leads x s r t) :
    Leads (Act.attempt x) s (.ok r) t := by
  intro w hw
  obtain ⟨v, hrun, hv⟩ := hx w hw
  refine ⟨v, ?_, hv⟩
  rw [runOn_attempt, hrun]

/-- Actions are alike that lead from related outsides to related ones, and to the like. -/
theorem alike_of_leads {x : Act σ α} {y : Act τ β}
    (h : ∀ s t, R s t → ∃ r s' q t', Leads x s r s' ∧ Leads y t q t' ∧ R' s' t' ∧ Agree V E r q) :
    Alike R R' V E x y := by
  intro w v hw
  obtain ⟨r, s', q, t', hx, hy, hleft, hagree⟩ := h w.outside v.outside hw
  obtain ⟨w', hrun, rfl⟩ := hx w rfl
  obtain ⟨v', hrun', rfl⟩ := hy v rfl
  rw [hrun, hrun']
  exact ⟨hleft, hagree⟩

end PullReview.Act
