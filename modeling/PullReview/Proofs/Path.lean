import PullReview.Diagnostic
import PullReview.Proofs.Text.Lines

/-!
# One path for each place

A tool may spell a path as it likes: from the root or from the workspace, with slashes repeated
and with dots in it. The change map knows one path for each place, the way to it from the
workspace.

> `relativeTo_canonical`: two spellings have the same path just if they lead to the same place.
> The path of a path is itself, and so is that of a file below the workspace, written plainly.

The way from one place to another leads back to where the two part and then down; gone along, it
ends at the place (`foldl_step_between`). Its text is read as the same way
(`ofString_text`), so nothing is lost between the two.
-/

namespace PullReview

namespace Path

open Text

/-- What stands between slashes and counts: something, and not a dot alone. -/
def IsComponent (part : String) : Prop := part ≠ "" ∧ part ≠ "." ∧ '/' ∉ part.toList

/-- A component that leads down. -/
def IsName (part : String) : Prop := IsComponent part ∧ part ≠ ".."

instance : DecidablePred IsComponent := fun _ => inferInstanceAs (Decidable (_ ∧ _ ∧ _))

instance : DecidablePred IsName := fun _ => inferInstanceAs (Decidable (_ ∧ _))

theorem isComponent_up : IsComponent ".." := by decide +kernel

/-- A text that names a place by itself. -/
def StartsAtRoot (text : String) : Prop := text.toList.head? = some '/'

instance : DecidablePred StartsAtRoot := fun _ => inferInstanceAs (Decidable (_ = _))

/-- The text of a path, joined to the workspace unless it starts at the root. -/
def joinedTo (workspace : List String) (text : String) : String :=
  if StartsAtRoot text then text else (absolute workspace).text ++ "/" ++ text

/-- The place that a text leads to from the workspace: its components, without those that a
`..` takes back. -/
def placeFrom (workspace : List String) (text : String) : List String :=
  walk (components (joinedTo workspace text))

/-! ## Components -/

theorem isComponent_of_mem {text part : String} (h : part ∈ components text) :
    IsComponent part := by
  obtain ⟨hpiece, hplain⟩ := List.mem_filter.mp h
  obtain ⟨piece, hmem, rfl⟩ := List.mem_map.mp hpiece
  rw [Bool.and_eq_true, decide_eq_true_eq, decide_eq_true_eq] at hplain
  refine ⟨hplain.1, hplain.2, ?_⟩
  rw [String.toList_ofList]
  exact not_mem_of_mem_splitAtEach hmem

/-- A slash between two texts parts their components. -/
theorem components_append (front back : String) :
    components (front ++ "/" ++ back) = components front ++ components back := by
  have hpieces : pieces (front ++ "/" ++ back) = pieces front ++ pieces back := by
    unfold pieces
    rw [String.toList_append, String.toList_append, List.append_assoc]
    show (splitAtEach '/' (front.toList ++ '/' :: back.toList)).map _ = _
    rw [splitAtEach_join, List.map_append]
  unfold components
  rw [hpieces, List.filter_append]

theorem components_component {part : String} (h : IsComponent part) : components part = [part] := by
  have hpieces : pieces part = [part] := by
    unfold pieces
    rw [splitAtEach_eq_self h.2.2, List.map_singleton, String.ofList_toList]
  unfold components
  rw [hpieces, List.filter_cons_of_pos, List.filter_nil]
  rw [Bool.and_eq_true, decide_eq_true_eq, decide_eq_true_eq]
  exact ⟨h.1, h.2.1⟩

/-- Components with slashes between them are read as those components. -/
theorem components_join (parts : List String) (h : ∀ part ∈ parts, IsComponent part) :
    components (join "/" parts) = parts := by
  induction parts with
  | nil => decide +kernel
  | cons part rest ih =>
    obtain ⟨hpart, hrest⟩ := List.forall_mem_cons.mp h
    cases rest with
    | nil => exact components_component hpart
    | cons next rest =>
      show components ("/".intercalate (part :: next :: rest)) = _
      rw [String.intercalate_cons_cons, components_append, components_component hpart]
      exact congrArg (part :: ·) (ih hrest)

/-- The pieces of a text with slashes between them are the text. -/
theorem join_pieces (text : String) : join "/" (pieces text) = text := by
  have hback : (pieces text).map String.toList = splitAtEach '/' text.toList := by
    unfold pieces
    rw [List.map_map]
    exact List.map_id'' (fun piece => String.toList_ofList) _
  rw [← String.toList_inj]
  show ("/".intercalate (pieces text)).toList = _
  rw [String.toList_intercalate, hback]
  exact splitAtEach_flatten '/' text.toList

/-! ## Texts of paths -/

theorem anchorOf_eq_here_iff {text : String} : anchorOf text = .here ↔ ¬ StartsAtRoot text := by
  unfold StartsAtRoot anchorOf
  cases text.toList with
  | nil => simp
  | cons c cs =>
    by_cases hc : c = '/'
    · subst hc
      split
      · simp
      · simp
      · simp
      · next hnone => exact absurd rfl (hnone cs)
    · split <;> simp_all

theorem isAbsolute_ofString (text : String) :
    (ofString text).isAbsolute = true ↔ StartsAtRoot text := by
  show decide (anchorOf text ≠ .here) = true ↔ _
  rw [decide_eq_true_eq, ne_eq, anchorOf_eq_here_iff, Decidable.not_not]

/-- Components do not start at the root. -/
theorem not_startsAtRoot_join {parts : List String} (h : ∀ part ∈ parts, IsComponent part) :
    ¬ StartsAtRoot (join "/" parts) := by
  cases parts with
  | nil => decide +kernel
  | cons part rest =>
    obtain ⟨hne, -, hslash⟩ := h part (List.mem_cons_self ..)
    have hfront : ∃ back, join "/" (part :: rest) = part ++ back := by
      cases rest with
      | nil => exact ⟨"", (String.append_empty).symm⟩
      | cons next rest =>
        refine ⟨"/" ++ "/".intercalate (next :: rest), ?_⟩
        show "/".intercalate (part :: next :: rest) = _
        rw [String.intercalate_cons_cons, String.append_assoc]
    obtain ⟨back, hback⟩ := hfront
    obtain ⟨c, cs, hpart⟩ := List.exists_cons_of_ne_nil fun h => hne (String.toList_inj.mp h)
    unfold StartsAtRoot
    rw [hback, String.toList_append, hpart, List.cons_append, List.head?_cons, Option.some.injEq]
    rintro rfl
    exact hslash (hpart ▸ List.mem_cons_self ..)

/-- A way in components, written and read again, is the same way. -/
theorem ofString_text {parts : List String} (h : ∀ part ∈ parts, IsComponent part) :
    ofString (text ⟨.here, parts⟩) = ⟨.here, parts⟩ := by
  cases parts with
  | nil => decide +kernel
  | cons part rest =>
    show Path.mk (anchorOf (join "/" (part :: rest))) (components (join "/" (part :: rest))) = _
    rw [anchorOf_eq_here_iff.mpr (not_startsAtRoot_join h), components_join _ h]

/-! ## Walks -/

/-- Names are gone along one by one. -/
theorem foldl_step_names {parts : List String} (h : ∀ name ∈ parts, name ≠ "..")
    (start : List String) : parts.foldl step start = start ++ parts := by
  induction parts generalizing start with
  | nil => rw [List.foldl_nil, List.append_nil]
  | cons name rest ih =>
    obtain ⟨hname, hrest⟩ := List.forall_mem_cons.mp h
    rw [List.foldl_cons, ih hrest, step, if_neg hname, List.append_assoc, List.singleton_append]

theorem walk_names {place : List String} (h : ∀ name ∈ place, IsName name) : walk place = place :=
  foldl_step_names (fun name hname => (h name hname).2) []

/-- Each step back leaves the last component. -/
theorem foldl_step_back (count : Nat) (place : List String) :
    (List.replicate count "..").foldl step place = place.take (place.length - count) := by
  induction count generalizing place with
  | zero => rw [List.replicate_zero, List.foldl_nil, Nat.sub_zero, List.take_length]
  | succ count ih =>
    rw [List.replicate_succ, List.foldl_cons, ih, step, if_pos rfl, List.dropLast_eq_take,
      List.take_take, List.length_take]
    congr 1
    omega

/-- Walking along components ends at a place of names. -/
theorem names_foldl_step {parts place : List String} (hparts : ∀ part ∈ parts, IsComponent part)
    (hplace : ∀ name ∈ place, IsName name) : ∀ name ∈ parts.foldl step place, IsName name := by
  induction parts generalizing place with
  | nil => exact hplace
  | cons part rest ih =>
    obtain ⟨hpart, hrest⟩ := List.forall_mem_cons.mp hparts
    refine ih hrest ?_
    unfold step
    split
    · exact fun name hname => hplace name (List.dropLast_subset place hname)
    · next hup =>
      intro name hname
      rcases List.mem_append.mp hname with hname | hname
      · exact hplace name hname
      · obtain rfl := List.mem_singleton.mp hname
        exact ⟨hpart, hup⟩

theorem names_placeFrom (workspace : List String) (text : String) :
    ∀ name ∈ placeFrom workspace text, IsName name :=
  names_foldl_step (fun _ h => isComponent_of_mem h) fun _ h => absurd h List.not_mem_nil

/-! ## The way between two places -/

theorem take_sharedDepth (start target : List String) :
    start.take (sharedDepth start target) = target.take (sharedDepth start target) := by
  fun_induction sharedDepth start target with
  | case1 a as bs ih => rw [List.take_succ_cons, List.take_succ_cons, ih]
  | case2 => rfl
  | case3 => rw [List.take_zero, List.take_zero]

theorem sharedDepth_le (start target : List String) :
    sharedDepth start target ≤ start.length := by
  fun_induction sharedDepth start target with
  | case1 a as bs ih => exact Nat.succ_le_succ ih
  | case2 => exact Nat.zero_le _
  | case3 => exact Nat.zero_le _

/-- **The way from a place to another leads there.** -/
theorem foldl_step_between (start : List String) {target : List String}
    (h : ∀ name ∈ target, IsName name) : (between start target).foldl step start = target := by
  have hdown : ∀ name ∈ target.drop (sharedDepth start target), name ≠ ".." :=
    fun name hname => (h name (List.mem_of_mem_drop hname)).2
  have hdepth : start.length - (start.length - sharedDepth start target)
      = sharedDepth start target := by
    have := sharedDepth_le start target
    omega
  unfold between
  rw [List.foldl_append, foldl_step_back, foldl_step_names hdown, hdepth, take_sharedDepth,
    List.take_append_drop]

/-- The way to a place below is what is below. -/
theorem between_below (start below : List String) : between start (start ++ below) = below := by
  have hshared : sharedDepth start (start ++ below) = start.length := by
    induction start with
    | nil => cases below <;> rfl
    | cons name start ih =>
      show (if name = name then _ else _) = _
      rw [if_pos rfl]
      exact congrArg (· + 1) ih
  show List.replicate (_ - _) ".." ++ List.drop (sharedDepth start (start ++ below)) _ = _
  rw [hshared, Nat.sub_self, List.replicate_zero, List.nil_append, List.drop_left]

theorem components_between (start : List String) {target : List String}
    (h : ∀ name ∈ target, IsName name) :
    ∀ part ∈ between start target, IsComponent part := by
  intro part hpart
  rcases List.mem_append.mp hpart with hup | hdown
  · rw [List.eq_of_mem_replicate hup]
    exact isComponent_up
  · exact (h part (List.mem_of_mem_drop hdown)).1

/-! ## Paths from the workspace -/

section Workspace

variable {workspace : List String} (hworkspace : ∀ name ∈ workspace, IsName name)
include hworkspace

/-- The text of the workspace has its components. -/
theorem components_workspace : components (absolute workspace).text = workspace := by
  show components ("" ++ "/" ++ join "/" workspace) = _
  rw [components_append, components_join _ fun name hname => (hworkspace name hname).1]
  rfl

/-- The path of a text is the way from the workspace to the place that it leads to. -/
theorem relativeTo_eq (text : String) :
    (ofString text).relativeTo workspace
      = (Path.mk .here (between workspace (placeFrom workspace text))).text := by
  have hplace : walk (if (ofString text).isAbsolute then components text
      else workspace ++ components text) = placeFrom workspace text := by
    unfold placeFrom joinedTo
    by_cases hroot : StartsAtRoot text
    · rw [if_pos ((isAbsolute_ofString text).mpr hroot), if_pos hroot]
    · rw [if_neg fun h => hroot ((isAbsolute_ofString text).mp h), if_neg hroot, components_append,
        components_workspace hworkspace]
  show (Path.mk .here (between (walk workspace) (walk _))).text = _
  rw [walk_names hworkspace]
  exact congrArg (fun place => (Path.mk .here (between workspace place)).text) hplace

/-- The path leads to the place again. -/
theorem placeFrom_relativeTo (text : String) :
    placeFrom workspace ((ofString text).relativeTo workspace) = placeFrom workspace text := by
  have hplace := names_placeFrom workspace text
  have hread := ofString_text (components_between workspace hplace)
  rw [← relativeTo_eq hworkspace] at hread
  have hroot : ¬ StartsAtRoot ((ofString text).relativeTo workspace) := by
    rw [← isAbsolute_ofString, hread]
    exact Bool.false_ne_true
  have hparts : components ((ofString text).relativeTo workspace)
      = between workspace (placeFrom workspace text) := congrArg Path.parts hread
  calc placeFrom workspace ((ofString text).relativeTo workspace)
      = walk (workspace ++ between workspace (placeFrom workspace text)) := by
        rw [placeFrom, joinedTo, if_neg hroot, components_append,
          components_workspace hworkspace, hparts]
    _ = (between workspace (placeFrom workspace text)).foldl step workspace := by
        rw [walk, List.foldl_append]
        exact congrArg (List.foldl step · _) (walk_names hworkspace)
    _ = placeFrom workspace text := foldl_step_between workspace hplace

/-- **Two spellings have one path just if they lead to one place.** -/
theorem relativeTo_eq_iff {x y : String} :
    (ofString x).relativeTo workspace = (ofString y).relativeTo workspace ↔
      placeFrom workspace x = placeFrom workspace y := by
  constructor
  · intro h
    rw [← placeFrom_relativeTo hworkspace x, h, placeFrom_relativeTo hworkspace y]
  · intro h
    rw [relativeTo_eq hworkspace, relativeTo_eq hworkspace, h]

/-- A plain path below the workspace is its own path. -/
theorem relativeTo_plain {text : String} (h : ∀ piece ∈ pieces text, IsName piece) :
    (ofString text).relativeTo workspace = text := by
  have hparts : components text = pieces text := by
    refine List.filter_eq_self.mpr fun piece hpiece => ?_
    rw [Bool.and_eq_true, decide_eq_true_eq, decide_eq_true_eq]
    exact ⟨(h piece hpiece).1.1, (h piece hpiece).1.2.1⟩
  have hroot : ¬ StartsAtRoot text := by
    rw [← join_pieces text]
    exact not_startsAtRoot_join fun piece hpiece => (h piece hpiece).1
  have hplace : placeFrom workspace text = workspace ++ pieces text := by
    rw [placeFrom, joinedTo, if_neg hroot, components_append, components_workspace hworkspace,
      hparts]
    refine walk_names fun name hname => ?_
    rcases List.mem_append.mp hname with hname | hname
    · exact hworkspace name hname
    · exact h name hname
  have hne : pieces text ≠ [] :=
    fun hnil => splitAtEach_ne_nil '/' text.toList (List.map_eq_nil_iff.mp hnil)
  rw [relativeTo_eq hworkspace, hplace, between_below]
  show (if (pieces text).isEmpty then "." else join "/" (pieces text)) = text
  rw [if_neg fun hempty => hne (List.isEmpty_iff.mp hempty), join_pieces]

end Workspace

/-- **One path for each place.** Two texts have the same path just if they lead to the same
place. The path of a path is itself. A text that does not start at the root has the path that
it has behind the workspace and a slash; and what is made of names alone is its own path. -/
theorem relativeTo_canonical (workspace : List String)
    (hworkspace : ∀ name ∈ workspace, IsName name) :
    (∀ x y, (ofString x).relativeTo workspace = (ofString y).relativeTo workspace ↔
      placeFrom workspace x = placeFrom workspace y) ∧
    (∀ x, (ofString ((ofString x).relativeTo workspace)).relativeTo workspace
      = (ofString x).relativeTo workspace) ∧
    (∀ x, ¬ StartsAtRoot x → (ofString x).relativeTo workspace
      = (ofString ((absolute workspace).text ++ "/" ++ x)).relativeTo workspace) ∧
    (∀ x, x ≠ "" → (∀ piece ∈ pieces x, piece ≠ "" ∧ piece ≠ "." ∧ piece ≠ "..") →
      (ofString x).relativeTo workspace = x) := by
  refine ⟨fun x y => relativeTo_eq_iff hworkspace, fun x => ?_, fun x hx => ?_, fun x _ hx => ?_⟩
  · exact (relativeTo_eq_iff hworkspace).mpr (placeFrom_relativeTo hworkspace x)
  · have hrooted : StartsAtRoot ((absolute workspace).text ++ "/" ++ x) := by
      unfold StartsAtRoot
      show ("/" ++ join "/" workspace ++ "/" ++ x).toList.head? = _
      rw [String.append_assoc, String.append_assoc, String.toList_append]
      rfl
    rw [relativeTo_eq_iff hworkspace, placeFrom, placeFrom, joinedTo, joinedTo, if_neg hx,
      if_pos hrooted]
  · refine relativeTo_plain hworkspace fun piece hpiece => ?_
    obtain ⟨hne, hdot, hup⟩ := hx piece hpiece
    obtain ⟨chars, hchars, rfl⟩ := List.mem_map.mp hpiece
    refine ⟨⟨hne, hdot, ?_⟩, hup⟩
    rw [String.toList_ofList]
    exact not_mem_of_mem_splitAtEach hchars

theorem relativeTo_canonical_detours :
    (∀ name ∈ ["srv", "repo"], IsName name) ∧
    (ofString "/srv/lib/..//repo/./src/a.ts").relativeTo ["srv", "repo"]
      = (ofString "src/b/../a.ts").relativeTo ["srv", "repo"] ∧
    (ofString "src/a.ts").relativeTo ["srv", "repo"] = "src/a.ts" := by
  have hworkspace : ∀ name ∈ ["srv", "repo"], IsName name := by decide +kernel
  obtain ⟨hsame, -, -, hplain⟩ := relativeTo_canonical ["srv", "repo"] hworkspace
  exact ⟨hworkspace, (hsame _ _).mpr (by decide +kernel),
    hplain "src/a.ts" (by decide) (by decide +kernel)⟩

end Path

/-- A tool may spell the path of a file as it likes: the finding is the same. -/
theorem Diagnostic.finding?_spelling {workspace : List String}
    (hworkspace : ∀ name ∈ workspace, Path.IsName name) (d : Diagnostic) {file : String}
    (hfile : Path.placeFrom workspace file = Path.placeFrom workspace d.file) (tool : String)
    (changes : ChangeMap) (fixed : Option Severity) :
    { d with file := file }.finding? workspace tool changes fixed
      = d.finding? workspace tool changes fixed := by
  unfold finding?
  rw [(Path.relativeTo_eq_iff hworkspace).mpr hfile]

end PullReview
