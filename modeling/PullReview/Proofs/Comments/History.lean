import PullReview.Proofs.Comments.Reconciling

/-!
# Line comments over whole histories

A history of a pull request is any sequence of runs of `reconcile`, each with its
own result and its own refusals, and of line comments that become outdated in
between. `History.created` records, for every comment that a run makes, the
comments that were listed at that moment.

* `reach_sound`: over any history, no two comments are made at one place, none is
  made at a place where an own comment stands at that moment, and a run that ends
  with a report leaves an own comment at the place of every blocking finding with
  a line, unless the comment for it was refused in that run.

The invariant (`History.Sound`) is that every comment ever made still stands at
its place, marked as one's own: a run only puts comments behind the others, and
an outdated comment is found at the line it was made at.

A comment on line zero counts at the line it was made at, as a comment without a
line does. Taken at its word it would stand nowhere near the finding that a run
skips for its sake (`reach_passesLineZero`).
-/

namespace PullReview.Rehearsal

open Act Reconcile Comment

/-! ## Histories -/

/-- A comment that has become outdated: its line is the one it was made at. -/
def outdated (c : Json) : Json :=
  match c, c.getD "line" with
  | .obj members, .int line =>
    .obj (Json.setMember (Json.setMember members "line" .null) "original_line" (.int line))
  | c, _ => c

/-- What happens to a pull request. -/
inductive Event
  | run (gap : Int) (result : ReviewResult) (pr : PullRequest) (refusals : Refusals)
  | outdate (position : Nat)

/-- A comment that was made, and those that were listed when it was. -/
structure Creation where
  comment : Json
  before : List Json

/-- Comments made one after another behind those in `before`. -/
def creations (before : List Json) : List Json → List Creation
  | [] => []
  | c :: cs => ⟨c, before⟩ :: creations (before ++ [c]) cs

/-- The world of a pull request, and the comments made in it so far. -/
structure History where
  world : World Ledger
  created : List Creation

namespace History

def comments (h : History) : List Json := h.world.outside.reviewComments

/-- The history after one more event. Of the comments behind a run, those that
were not listed before it are the ones it made. -/
def step (h : History) : Event → History
  | .run gap result pr refusals =>
    let w := (published gap result pr refusals h.world).2
    { world := w
      created := h.created ++
        creations h.comments (w.outside.reviewComments.drop h.comments.length) }
  | .outdate position =>
    { h with
      world := withLedger h.world
        { h.world.outside with reviewComments := h.comments.modify position outdated } }

/-- The history after some events. -/
def reach (w : World Ledger) (events : List Event) : History := events.foldl step ⟨w, []⟩

end History

/-- The findings of a run are placeable. -/
def Event.Fit : Event → Prop
  | .run _ result _ _ => ∀ f ∈ result.blocking, Placeable f
  | .outdate _ => True

/-! ## Outdated comments -/

theorem outdated_cases (c : Json) :
    outdated c = c ∨ ∃ members line, c = .obj members ∧ c.getD "line" = .int line ∧
      outdated c = .obj
        (Json.setMember (Json.setMember members "line" .null) "original_line" (.int line)) := by
  unfold outdated
  split
  · next members line hline => exact Or.inr ⟨members, line, rfl, hline, rfl⟩
  · exact Or.inl rfl

/-- Other members than the lines stay. -/
theorem getD_outdated {k : String} (hline : "line" ≠ k) (horiginal : "original_line" ≠ k)
    (c : Json) : (outdated c).getD k = c.getD k := by
  rcases outdated_cases c with hsame | ⟨members, line, rfl, _, hnew⟩
  · rw [hsame]
  · rw [hnew, Json.getD_setMember_of_ne _ horiginal, Json.getD_setMember_of_ne _ hline]

/-- A comment on a line stays at its place when it becomes outdated. -/
theorem place_outdated {c : Json} (h : c.getD "line" ≠ .int 0) :
    place (outdated c) = place c ∧ (outdated c).getD "line" ≠ .int 0 := by
  rcases outdated_cases c with hsame | ⟨members, line, rfl, hline, hnew⟩
  · rw [hsame]
    exact ⟨rfl, h⟩
  · have hzero : line ≠ 0 := fun hzero => h (hline.trans (congrArg Json.int hzero))
    have hnone : (outdated (.obj members)).getD "line" = .null := by
      rw [hnew, Json.getD_setMember_of_ne _ (by decide), Json.getD_setMember_self]
    refine ⟨?_, by simp [hnone]⟩
    rw [place_eq_line hline hzero]
    unfold place
    rw [hnone, getD_outdated (by decide) (by decide), hnew, Json.getD_setMember_self]

theorem own_outdated {c : Json} (h : Own c) : Own (outdated c) := by
  unfold Own Marked at h ⊢
  rw [getD_outdated (by decide) (by decide), getD_outdated (by decide) (by decide)]
  exact h

theorem isReview_outdated {c : Json} (h : IsReview c) : IsReview (outdated c) := by
  rcases outdated_cases c with hsame | ⟨members, line, rfl, hline, hnew⟩
  · rw [hsame]
    exact h
  · refine ⟨⟨_, hnew⟩, ?_, ?_, ?_, ?_, ?_⟩
    · rw [getD_outdated (by decide) (by decide)]; exact h.body
    · rw [getD_outdated (by decide) (by decide)]; exact h.user
    · rw [getD_outdated (by decide) (by decide)]; exact h.path
    · rw [hnew, Json.getD_setMember_of_ne _ (by decide), Json.getD_setMember_self]
      exact Or.inl rfl
    · rw [hnew, Json.getD_setMember_self]
      exact Or.inr ⟨line, rfl⟩

theorem mem_modify {cs : List Json} {i : Nat} {c : Json} (h : c ∈ cs.modify i outdated) :
    ∃ d ∈ cs, c = d ∨ c = outdated d := by
  obtain ⟨j, hj⟩ := List.mem_iff_getElem?.mp h
  rw [List.getElem?_modify] at hj
  obtain ⟨d, hd, hc⟩ := Option.map_eq_some_iff.mp hj
  refine ⟨d, List.mem_iff_getElem?.mpr ⟨j, hd⟩, ?_⟩
  by_cases hij : i = j
  · rw [if_pos hij] at hc
    exact Or.inr hc.symm
  · rw [if_neg hij] at hc
    exact Or.inl hc.symm

theorem exists_mem_modify {cs : List Json} (i : Nat) {d : Json} (h : d ∈ cs) :
    ∃ c ∈ cs.modify i outdated, c = d ∨ c = outdated d := by
  obtain ⟨j, hj⟩ := List.mem_iff_getElem?.mp h
  have hmodified : (cs.modify i outdated)[j]? = some (if i = j then outdated d else d) := by
    rw [List.getElem?_modify, hj]
    rfl
  refine ⟨_, List.mem_iff_getElem?.mpr ⟨j, hmodified⟩, ?_⟩
  by_cases hij : i = j
  · rw [if_pos hij]
    exact Or.inr rfl
  · rw [if_neg hij]
    exact Or.inl rfl

/-! ## Comments one after another -/

theorem map_comment_creations :
    ∀ (cs before : List Json), (creations before cs).map Creation.comment = cs := by
  intro cs
  induction cs with
  | nil => intro before; rfl
  | cons c cs ih => intro before; rw [creations, List.map_cons, ih]

/-- What was listed when a comment was made: what was there, and those made
before it. -/
theorem mem_creations {x : Creation} :
    ∀ {cs before : List Json}, x ∈ creations before cs →
      ∃ first rest, cs = first ++ x.comment :: rest ∧ x.before = before ++ first := by
  intro cs
  induction cs with
  | nil => intro before h; exact absurd h List.not_mem_nil
  | cons c cs ih =>
    intro before h
    rcases List.mem_cons.mp h with rfl | hrest
    · exact ⟨[], cs, rfl, (List.append_nil _).symm⟩
    · obtain ⟨first, rest, hcs, hbefore⟩ := ih hrest
      refine ⟨c :: first, rest, by rw [hcs]; rfl, ?_⟩
      rw [hbefore, List.append_assoc]
      rfl

theorem map_place_numbered :
    ∀ (cs : List LineComment) (next : Int), (∀ c ∈ cs, c.line ≠ 0) →
      (numbered next cs).map place = cs.map fun c => (.str c.path, .int c.line) := by
  intro cs
  induction cs with
  | nil => intro next _; rfl
  | cons c cs ih =>
    intro next hlines
    have hrest := ih (next + 1) fun d hd => hlines d (List.mem_cons_of_mem _ hd)
    rw [numbered, List.map_cons, List.map_cons, hrest,
      place_listed next c (hlines c (List.mem_cons_self ..))]

/-- Comments made at places of their own are listed at places of their own. -/
theorem pairwise_place_numbered {cs : List LineComment} (next : Int)
    (hlines : ∀ c ∈ cs, c.line ≠ 0)
    (h : cs.Pairwise fun a b => (a.path, a.line) ≠ (b.path, b.line)) :
    (numbered next cs).Pairwise fun a b => place a ≠ place b := by
  rw [← List.pairwise_map (f := place), map_place_numbered cs next hlines, List.pairwise_map]
  refine h.imp fun hne hsame => hne ?_
  obtain ⟨hpath, hline⟩ := Prod.mk.inj hsame
  exact Prod.ext (Json.str.inj hpath) (Json.int.inj hline)

/-- What was made is among the comments put. -/
theorem mem_of_mem_creations {x : Creation} {cs before : List Json} (h : x ∈ creations before cs) :
    x.comment ∈ cs := by
  have hin := List.mem_map_of_mem (f := Creation.comment) h
  rwa [map_comment_creations] at hin

/-! ## The invariant -/

namespace History

/-- Every comment made so far was made at a place of its own where no own comment
stood, and one's own comment stands there now, which has not lost its line or did
so by becoming outdated. -/
structure Sound (h : History) : Prop where
  shape : ∀ c ∈ h.comments, IsReview c
  standing : ∀ x ∈ h.created, ∃ c ∈ h.comments, Own c ∧ c.getD "line" ≠ .int 0 ∧
    place c = place x.comment
  apart : h.created.Pairwise fun x y => place x.comment ≠ place y.comment
  clear : ∀ x ∈ h.created, ∀ c ∈ x.before, Own c → place c ≠ place x.comment

theorem Sound.outdate {h : History} (hs : h.Sound) (position : Nat) :
    (h.step (.outdate position)).Sound where
  shape := by
    intro c hc
    obtain ⟨d, hd, rfl | rfl⟩ := mem_modify hc
    · exact hs.shape c hd
    · exact isReview_outdated (hs.shape d hd)
  standing := by
    intro x hx
    obtain ⟨d, hd, hown, hline, hplace⟩ := hs.standing x hx
    obtain ⟨c, hc, rfl | rfl⟩ := exists_mem_modify position hd
    · exact ⟨c, hc, hown, hline, hplace⟩
    · obtain ⟨hstays, hkept⟩ := place_outdated hline
      exact ⟨_, hc, own_outdated hown, hkept, hstays.trans hplace⟩
  apart := hs.apart
  clear := hs.clear

/-- What a run puts behind the comments of a history, and what is known of it when
the run ends with a report. -/
theorem linesPut_step (h : History) (hreviews : ∀ c ∈ h.comments, IsReview c) (gap : Int)
    (result : ReviewResult) (pr : PullRequest) (refusals : Refusals) {seen : List Location}
    (hseen : ownLocations h.comments = .ok seen) :
    ∃ next cs,
      LinesPut result.blocking seen h.world.outside
        (h.step (.run gap result pr refusals)).world.outside next cs ∧
      (h.step (.run gap result pr refusals)).comments = h.comments ++ numbered next cs ∧
      (h.step (.run gap result pr refusals)).created
        = h.created ++ creations h.comments (numbered next cs) := by
  obtain ⟨next, cs, hput, _⟩ := reconcile_lines gap result pr
    (withLedger h.world { h.world.outside with refusals := refusals }) hreviews hseen
  have hcomments : (h.step (.run gap result pr refusals)).comments
      = h.comments ++ numbered next cs := hput.reviews
  refine ⟨next, cs, ⟨hcomments, hput.source, hput.fresh, hput.distinct⟩, hcomments, ?_⟩
  have hcreated : (h.step (.run gap result pr refusals)).created = h.created ++
      creations h.comments
        ((h.step (.run gap result pr refusals)).comments.drop h.comments.length) := rfl
  rw [hcreated, hcomments, List.drop_left]

/-- A run puts comments at places of their own where no own comment stands. -/
theorem Sound.run {h : History} (hs : h.Sound) (gap : Int) {result : ReviewResult}
    (pr : PullRequest) (refusals : Refusals) (hfit : ∀ f ∈ result.blocking, Placeable f) :
    (h.step (.run gap result pr refusals)).Sound := by
  obtain ⟨seen, hseen, _⟩ := mem_ownLocations h.comments hs.shape
  obtain ⟨next, cs, hput, hcomments, hcreated⟩ :=
    linesPut_step h hs.shape gap result pr refusals hseen
  have hlines := hput.line_ne hfit
  have hclear : ∀ c ∈ h.comments, Own c → ∀ d ∈ numbered next cs, place c ≠ place d := by
    intro c hc hown d hd
    obtain ⟨id, e, he, rfl⟩ := mem_numbered hd
    rw [place_listed id e (hlines e he)]
    exact hput.place_ne hfit hs.shape hseen hc hown he
  have happart := pairwise_place_numbered next hlines hput.distinct
  refine ⟨?_, ?_, ?_, ?_⟩
  · rw [hcomments]
    exact isReview_behind hs.shape next cs
  · intro x hx
    rw [hcomments]
    rw [hcreated] at hx
    rcases List.mem_append.mp hx with hold | hnew
    · obtain ⟨c, hc, hstands⟩ := hs.standing x hold
      exact ⟨c, List.mem_append_left _ hc, hstands⟩
    · have hin := mem_of_mem_creations hnew
      obtain ⟨hown, hline⟩ := hput.own_listed hfit hin
      exact ⟨x.comment, List.mem_append_right _ hin, hown, hline, rfl⟩
  · rw [hcreated]
    refine List.pairwise_append.mpr ⟨hs.apart, ?_, ?_⟩
    · rw [← List.pairwise_map (f := Creation.comment) (R := fun a b => place a ≠ place b),
        map_comment_creations]
      exact happart
    · -- what was made in an earlier run still stands there and is one's own
      intro x hx y hy
      obtain ⟨c, hc, hown, _, hplace⟩ := hs.standing x hx
      rw [← hplace]
      exact hclear c hc hown _ (mem_of_mem_creations hy)
  · intro x hx c hc hown
    rw [hcreated] at hx
    rcases List.mem_append.mp hx with hold | hnew
    · exact hs.clear x hold c hc hown
    · -- it was made behind those from before the run and the ones the run made first
      obtain ⟨first, rest, hcs, hbefore⟩ := mem_creations hnew
      rw [hbefore] at hc
      rcases List.mem_append.mp hc with hthere | hjust
      · exact hclear c hthere hown _ (mem_of_mem_creations hnew)
      · rw [hcs] at happart
        exact (List.pairwise_append.mp happart).2.2 c hjust _ (List.mem_cons_self ..)

/-- **Over any history the invariant holds.** -/
theorem sound_reach (w : World Ledger) (hreviews : ∀ c ∈ w.outside.reviewComments, IsReview c)
    (events : List Event) (hevents : ∀ e ∈ events, e.Fit) : (reach w events).Sound := by
  -- the induction is over histories that go on from any sound one
  have hfold : ∀ (events : List Event) (h : History), h.Sound → (∀ e ∈ events, e.Fit) →
      (events.foldl step h).Sound := by
    intro events
    induction events with
    | nil => intro h hs _; exact hs
    | cons e events ih =>
      intro h hs hfit
      have he : e.Fit := hfit e (List.mem_cons_self ..)
      refine ih (h.step e) ?_ fun e' he' => hfit e' (List.mem_cons_of_mem _ he')
      cases e with
      | run gap result pr refusals => exact hs.run gap pr refusals he
      | outdate position => exact hs.outdate position
  refine hfold events ⟨w, []⟩ ⟨hreviews, ?_, List.Pairwise.nil, ?_⟩ hevents
  · exact fun x hx => absurd hx List.not_mem_nil
  · exact fun x hx => absurd hx List.not_mem_nil

/-- A run that ends with a report leaves no finding with a line aside. -/
theorem Sound.covers {h : History} (hs : h.Sound) {gap : Int} {result : ReviewResult}
    {pr : PullRequest} {refusals : Refusals} {told : ReconcileReport}
    (hfit : ∀ f ∈ result.blocking, Placeable f)
    (htold : (published gap result pr refusals h.world).1 = .ok told) :
    ∀ f ∈ result.blocking, ∀ line, f.line = some line →
      (∃ c ∈ (h.step (.run gap result pr refusals)).comments, Own c ∧
        place c = (.str f.file, .int line)) ∨
        Refused pr.head { h.world.outside with refusals := refusals }
          (h.step (.run gap result pr refusals)).world.outside (lineComment f line) := by
  intro f hf line hline
  obtain ⟨seen, hseen, hiff⟩ := mem_ownLocations h.comments hs.shape
  obtain ⟨next, cs, hput, hcovers⟩ := reconcile_lines gap result pr
    (withLedger h.world { h.world.outside with refusals := refusals }) hs.shape hseen
  have hcomments : (h.step (.run gap result pr refusals)).comments
      = h.comments ++ numbered next cs := hput.reviews
  rw [hcomments]
  -- a place that was seen has its comment from before; the others get theirs now
  rcases hcovers told htold f hf line hline with hin | ⟨d, hd, hpath, hat⟩ | hrefused
  · obtain ⟨_, c, hc, hown, hplace⟩ := (hiff f.file line).mp hin
    exact Or.inl ⟨c, List.mem_append_left _ hc, hown, hplace⟩
  · obtain ⟨id, hlisted⟩ := exists_mem_numbered next hd
    refine Or.inl ⟨_, List.mem_append_right _ hlisted, (hput.own_listed hfit hlisted).1, ?_⟩
    rw [← hpath, ← hat]
    exact place_listed id d (hput.line_ne hfit d hd)
  · exact Or.inr hrefused

/-- **Line comments are never repeated and never forgotten.** Over any history no
two comments are made at one place, and none at a place where an own comment
stands at that moment. A run behind it that ends with a report leaves an own
comment at the place of every blocking finding with a line, unless the comment
for it was refused in that run. -/
theorem reach_sound (w : World Ledger) (hreviews : ∀ c ∈ w.outside.reviewComments, IsReview c)
    (events : List Event) (hevents : ∀ e ∈ events, e.Fit) :
    ((reach w events).created.Pairwise fun x y => place x.comment ≠ place y.comment) ∧
    (∀ x ∈ (reach w events).created, ∀ c ∈ x.before, Own c → place c ≠ place x.comment) ∧
    ∀ gap result pr refusals told, (∀ f ∈ result.blocking, Placeable f) →
      (published gap result pr refusals (reach w events).world).1 = .ok told →
      ∀ f ∈ result.blocking, ∀ line, f.line = some line →
        (∃ c ∈ ((reach w events).step (.run gap result pr refusals)).comments, Own c ∧
          place c = (.str f.file, .int line)) ∨
          Refused pr.head { (reach w events).world.outside with refusals := refusals }
            ((reach w events).step (.run gap result pr refusals)).world.outside
            (lineComment f line) := by
  have hs := sound_reach w hreviews events hevents
  exact ⟨hs.apart, hs.clear, fun _ _ _ _ _ hfit htold => hs.covers hfit htold⟩

/-- A run, and one of the two comments that it makes becomes outdated. -/
def runThenOutdated : List Event := [.run 2 fourPlaces default {}, .outdate 1]

theorem reach_sound_runThenOutdated :
    (reach talkedOver runThenOutdated).created.length = 2 ∧
      ((reach talkedOver runThenOutdated).created.Pairwise fun x y =>
        place x.comment ≠ place y.comment) ∧
      (∀ x ∈ (reach talkedOver runThenOutdated).created, ∀ c ∈ x.before,
        Own c → place c ≠ place x.comment) ∧
      ∀ f ∈ fourPlaces.blocking, ∀ line, f.line = some line →
        (∃ c ∈ ((reach talkedOver []).step (.run 2 fourPlaces default {})).comments, Own c ∧
          place c = (.str f.file, .int line)) ∨
          Refused .null { (reach talkedOver []).world.outside with refusals := {} }
            ((reach talkedOver []).step (.run 2 fourPlaces default {})).world.outside
            (lineComment f line) := by
  have hfit : ∀ e ∈ runThenOutdated, e.Fit := by
    simp only [runThenOutdated, List.forall_mem_cons]
    exact ⟨placeable_fourPlaces, trivial, fun _ h => absurd h List.not_mem_nil⟩
  obtain ⟨hapart, hclear, _⟩ := reach_sound talkedOver isReview_talkedOver
    runThenOutdated hfit
  obtain ⟨_, _, hcovers⟩ := reach_sound talkedOver isReview_talkedOver [] (by simp)
  exact ⟨rfl, hapart, hclear, hcovers 2 fourPlaces default {} _ placeable_fourPlaces rfl⟩

/-- The path of a comment with its line, be it zero, or with the line it was made
at when it has none. -/
def statedPlace (c : Json) : Json × Json :=
  (c.getD "path",
    match c.getD "line" with
    | .null => c.getD "original_line"
    | line => line)

/-- A comment of a bot on line zero. -/
def lineZero : Json :=
  .obj [("user", .obj [("type", .str "Bot")]), ("path", .str "b.ts"), ("line", .int 0),
    ("original_line", .int 2)]

def talkedOverLineZero : World Ledger :=
  { talkedOver with outside := { reviewComments := [lineZero] } }

theorem isReview_lineZero : ∀ c ∈ [lineZero], IsReview c := by
  intro c hc
  rw [List.mem_singleton.mp hc]
  exact ⟨⟨_, rfl⟩, Or.inl rfl, Or.inr ⟨_, rfl⟩, ⟨_, rfl⟩, Or.inr ⟨0, rfl⟩, Or.inr ⟨2, rfl⟩⟩

/-- The finding on line two is skipped for a comment that is stated to stand on
line zero, and behind the run none is stated to stand on line two. -/
theorem reach_passesLineZero :
    let run : Event := .run 2 fourPlaces default {}
    let after := (reach talkedOverLineZero []).step run
    (∀ c ∈ talkedOverLineZero.outside.reviewComments, IsReview c) ∧ run.Fit ∧
      (published 2 fourPlaces default {} talkedOverLineZero).1
        = .ok { summary := .created, created := 2, skipped := 1 } ∧
      blockingAt "b.ts" (some 2) ∈ fourPlaces.blocking ∧
      (∀ c ∈ after.comments, statedPlace c ≠ (.str "b.ts", .int 2)) ∧
      ¬ Refused .null talkedOverLineZero.outside after.world.outside
        (lineComment (blockingAt "b.ts" (some 2)) 2) := by
  intro run after
  have hplaces : after.comments.map statedPlace =
      [(.str "b.ts", .int 0), (.str "a.ts", .int 1), (.str "d.ts", .int 4)] := rfl
  refine ⟨isReview_lineZero, placeable_fourPlaces, rfl, by simp [fourPlaces], ?_, ?_⟩
  · intro c hc hplace
    have hin := List.mem_map_of_mem (f := statedPlace) hc
    rw [hplaces, hplace] at hin
    simp at hin
  · rintro ⟨i, cause, _, _, hrefused⟩
    exact absurd hrefused (by simp [Refusals.of, Refusals.ofKind, talkedOverLineZero])

end History

end PullReview.Rehearsal
