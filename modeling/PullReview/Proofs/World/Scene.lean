import PullReview.Proofs.World.Run

/-!
# Worlds but for their journals

What stands in the journal is no part of what an action does. Two worlds are `SameScene` if
they differ in their journals at most, and `Settles act w r v` says all of `act` but for what
it writes there: started in `w` it ends with `r` and leaves `v`.
-/

namespace PullReview

/-- Worlds that differ in their journals at most. -/
structure World.SameScene {σ : Type} (w v : World σ) : Prop where
  outside : w.outside = v.outside
  tree : w.tree = v.tree

namespace Act

variable {σ α β : Type}

/-- Started in `w` the action ends with `r` and leaves `v`, whatever is in the journal. -/
def Settles (act : Act σ α) (w : World σ) (r : Except Fault α) (v : World σ) : Prop :=
  ∀ w' : World σ, w'.SameScene w → ∃ v', act.runOn w' = (r, v') ∧ v'.SameScene v

variable {w v u : World σ}

theorem settles_pure (a : α) : Settles (pure a) w (.ok a) w := fun w' h => ⟨w', rfl, h⟩

theorem settles_throw (e : Fault) : Settles (throw e : Act σ α) w (.error e) w :=
  fun w' h => ⟨w', rfl, h⟩

theorem settles_liftM (x : Except Fault α) : Settles (liftM x) w x w := fun w' h => ⟨w', rfl, h⟩

theorem settles_write (log : Logger) (level : Level) (message : String) :
    Settles (log.write level message) w (.ok ()) w :=
  fun _ h => ⟨_, rfl, h.outside, h.tree⟩

theorem settles_tree : Settles tree w (.ok w.tree) w := fun w' h => ⟨w', by rw [← h.tree]; rfl, h⟩

theorem settles_setTree (t : Tree) : Settles (setTree t) w (.ok ()) { w with tree := t } :=
  fun _ h => ⟨_, rfl, h.outside, rfl⟩

/-- A step of the outside by itself. -/
theorem settles_onOutside (step : σ → Except Fault α × σ) :
    Settles (onOutside step) w (step w.outside).1 { w with outside := (step w.outside).2 } := by
  intro w' h
  refine ⟨{ w' with outside := (step w.outside).2 }, ?_, rfl, h.tree⟩
  rw [← h.outside]
  rfl

theorem Settles.bind {x : Act σ α} {a : α} (hx : Settles x w (.ok a) v) {f : α → Act σ β}
    {r : Except Fault β} (hf : Settles (f a) v r u) : Settles (x >>= f) w r u := by
  intro w' h
  obtain ⟨v', hrun, hv⟩ := hx w' h
  rw [runOn_bind_ok hrun]
  exact hf v' hv

/-- Behind a fault nothing follows. -/
theorem Settles.bind_error {x : Act σ α} {e : Fault} (hx : Settles x w (.error e) v)
    (f : α → Act σ β) : Settles (x >>= f) w (.error e) v := by
  intro w' h
  obtain ⟨v', hrun, hv⟩ := hx w' h
  exact ⟨v', runOn_bind_error hrun, hv⟩

/-- What is made of a value without the world. -/
theorem Settles.bind_liftM {x : Act σ α} {r : Except Fault α} (hx : Settles x w r v)
    (f : α → Except Fault β) : Settles (x >>= fun a => liftM (f a)) w (r.bind f) v := by
  cases r with
  | ok a => exact hx.bind (settles_liftM (f a))
  | error e => exact hx.bind_error _

/-- An attempt ends with what its action ends with, as a value. -/
theorem Settles.attempt {x : Act σ α} {r : Except Fault α} (hx : Settles x w r v) :
    Settles (Act.attempt x) w (.ok r) v := by
  intro w' h
  obtain ⟨v', hrun, hv⟩ := hx w' h
  refine ⟨v', ?_, hv⟩
  rw [runOn_attempt, hrun]

/-- An attempt may as well be made of the value that something is made of. -/
theorem attempt_bind_liftM (x : Act σ α) (f : α → Except Fault β) :
    Act.attempt (x >>= fun a => liftM (f a)) = Act.attempt x >>= fun r => pure (r.bind f) := by
  refine Act.ext fun w => ?_
  rw [runOn_bind_ok (runOn_attempt x w), runOn_attempt, runOn_pure]
  cases hrun : x.runOn w with
  | mk r v =>
    cases r with
    | ok a => rw [runOn_bind_ok hrun, runOn_liftM]; rfl
    | error e => rw [runOn_bind_error hrun]; rfl

theorem settles_changeTree {change : Tree → Except FileFault Tree} {t : Tree}
    (h : change w.tree = .ok t) : Settles (changeTree change) w (.ok ()) { w with tree := t } := by
  unfold changeTree
  refine settles_tree.bind ?_
  rw [h]
  exact settles_setTree t

theorem settles_changeTree_error {change : Tree → Except FileFault Tree} {cause : FileFault}
    (h : change w.tree = .error cause) :
    Settles (changeTree change) w (.error (.file cause)) w := by
  unfold changeTree
  refine settles_tree.bind ?_
  rw [h]
  exact settles_throw _

theorem settles_probe (p : Path) :
    Settles (probeFile p) w ((w.tree.probeFile p).mapError .file) w :=
  settles_tree.bind (settles_liftM _)

theorem settles_probeFile {p : Path} {found : Bool} (h : w.tree.probeFile p = .ok found) :
    Settles (probeFile p) w (.ok found) w := by
  have hprobe := settles_probe (w := w) p
  rw [h] at hprobe
  exact hprobe

/-- Measuring the time of an action shows in the journal only. -/
theorem Settles.timed {clock : Act σ Double} {time : Double}
    (hclock : ∀ w, Settles clock w (.ok time) w) {log : Logger} {operation : String}
    {more : Context} {body : Logger → Act σ α} {r : Except Fault α}
    (hbody : ∀ l, Settles (body l) w r v) :
    Settles (log.timed clock operation more body) w r v := by
  unfold Logger.timed
  refine (hclock w).bind ((settles_write _ _ _).bind ((hbody _).attempt.bind ?_))
  cases r with
  | ok a => exact (hclock v).bind ((settles_write _ _ _).bind (settles_pure a))
  | error fault =>
    dsimp only
    split
    · exact (hclock v).bind ((settles_write _ _ _).bind (settles_throw fault))
    · exact settles_throw fault

/-- What the run gives in the world itself. -/
theorem Settles.runOn {x : Act σ α} {r : Except Fault α} (hx : Settles x w r v) :
    (x.runOn w).1 = r := by
  obtain ⟨v', hrun, _⟩ := hx w ⟨rfl, rfl⟩
  rw [hrun]

end Act

end PullReview
