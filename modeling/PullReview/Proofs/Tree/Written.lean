import PullReview.Proofs.Tree.Walks
import PullReview.Tree.Change

/-!
# Files written and removed again

A path is free if nothing is at its end (`IsFree`). Writing a file to it, if that succeeds, adds
this one file to the tree and touches nothing else (`AddsFile`), and removing it then gives back
the very tree there was.

> `addsFile_write`, `remove_write`: what is written to a free path is one more file, and with
> its removal it leaves no trace.

A walk to a free place does not see what is put there until its last step (`walkFrom_written`);
so the removal finds the place that was written.
-/

namespace PullReview

namespace Node

/-! ## Entries set -/

theorem child?_setEntry (entries : List (String × Node)) (name : String) (node : Node)
    (other : String) :
    (Node.dir (setEntry entries name node)).child? other
      = if name = other then some node else (Node.dir entries).child? other :=
  Named.get?_set entries name node other

theorem setEntry_setEntry (entries : List (String × Node)) (name : String) (old new : Node) :
    setEntry (setEntry entries name old) name new = setEntry entries name new :=
  Named.set_set entries name old new

/-- An entry that is set to what it is stays. -/
theorem setEntry_eq_self {entries : List (String × Node)} {name : String} {node : Node}
    (h : (entries.map (·.1)).Nodup) (hchild : (Node.dir entries).child? name = some node) :
    setEntry entries name node = entries := by
  have hmem := mem_of_child? hchild
  refine Named.set_eq_self (List.any_eq_true.mpr ⟨_, hmem, decide_eq_true rfl⟩) ?_
  rintro ⟨_, other⟩ hother rfl
  rw [(child?_eq_some_iff h).mpr hother] at hchild
  rw [Option.some.inj hchild]

/-- A fresh entry stands behind the others. -/
theorem setEntry_fresh {entries : List (String × Node)} {name : String}
    (hfree : (Node.dir entries).child? name = none) (node : Node) :
    setEntry entries name node = entries ++ [(name, node)] := by
  refine if_neg fun h => ?_
  obtain ⟨e, he, hname⟩ := List.any_eq_true.mp h
  exact child?_eq_none_iff.mp hfree e he (of_decide_eq_true hname)

/-! ## Places set and erased -/

theorem erase_cons {entries : List (String × Node)} {name : String} {below : Node}
    {rest : List String} (hrest : rest ≠ [])
    (hchild : (Node.dir entries).child? name = some below) :
    (Node.dir entries).erase (name :: rest) = .dir (setEntry entries name (below.erase rest)) := by
  cases rest with
  | nil => exact absurd rfl hrest
  | cons next rest =>
    rw [erase]
    · rw [hchild]
    · simp

theorem at?_set_self (root : Node) (place : List String) (node : Node) :
    (root.set place node).at? place = some node := by
  induction place generalizing root with
  | nil => rfl
  | cons name rest ih =>
    unfold set
    rw [at?_cons, child?_setEntry, if_pos rfl]
    exact ih _

section Fresh

variable {front : List String} {name : String} {entries : List (String × Node)}

/-- A file in a fresh place changes nothing at any other place. -/
theorem kindAt_set (hfree : (Node.dir entries).child? name = none) (content : ByteArray)
    {place : List String} (hplace : place ≠ front ++ [name]) :
    ∀ {root : Node}, root.at? front = some (.dir entries) →
      (root.set (front ++ [name]) (.file content)).kindAt place = root.kindAt place := by
  unfold kindAt
  induction front generalizing place with
  | nil =>
    intro root hdir
    obtain rfl : root = .dir entries := Option.some.inj hdir
    cases place with
    | nil => rfl
    | cons other below =>
      show (((Node.dir (setEntry entries name (.file content))).child? other).bind
        (·.at? below)).map kind = _
      rw [child?_setEntry, at?_cons]
      by_cases hother : name = other
      · -- nothing is below a file
        subst hother
        have hbelow : below ≠ [] := fun h => hplace (by rw [h]; rfl)
        obtain ⟨next, rest, rfl⟩ := List.exists_cons_of_ne_nil hbelow
        rw [if_pos rfl, hfree]
        rfl
      · rw [if_neg hother]
  | cons first front ih =>
    intro root hdir
    rw [at?_cons] at hdir
    obtain ⟨below, hchild, hbelow⟩ := Option.bind_eq_some_iff.mp hdir
    cases root with
    | file | link => exact absurd hchild (by simp [child?])
    | dir outer =>
      cases place with
      | nil => rfl
      | cons other rest =>
        show (((Node.dir (setEntry outer first
          ((((Node.dir outer).child? first).getD (.dir [])).set (front ++ [name])
            (.file content)))).child? other).bind (·.at? rest)).map kind = _
        rw [child?_setEntry, at?_cons, hchild, Option.getD_some]
        by_cases hother : first = other
        · subst hother
          have hrest : rest ≠ front ++ [name] := fun h => hplace (by rw [h]; rfl)
          rw [if_pos rfl, hchild]
          exact ih hrest hbelow
        · rw [if_neg hother]

/-- What is set in a fresh place and erased leaves no trace. -/
theorem erase_set (hfree : (Node.dir entries).child? name = none) (node : Node) :
    ∀ {root : Node}, root.HasDistinctNames → root.at? front = some (.dir entries) →
      (root.set (front ++ [name]) node).erase (front ++ [name]) = root := by
  induction front with
  | nil =>
    intro root _ hdir
    obtain rfl : root = .dir entries := Option.some.inj hdir
    show Node.dir ((setEntry entries name node).filter (·.1 ≠ name)) = _
    have hrest : entries.filter (·.1 ≠ name) = entries :=
      List.filter_eq_self.mpr fun e he => decide_eq_true (child?_eq_none_iff.mp hfree e he)
    rw [setEntry_fresh hfree, List.filter_append, hrest, List.filter_cons_of_neg (by simp),
      List.filter_nil, List.append_nil]
  | cons first front ih =>
    intro root hdistinct hdir
    rw [at?_cons] at hdir
    obtain ⟨below, hchild, hbelow⟩ := Option.bind_eq_some_iff.mp hdir
    cases root with
    | file | link => exact absurd hchild (by simp [child?])
    | dir outer =>
      have hset : (Node.dir outer).set (first :: front ++ [name]) node
          = .dir (setEntry outer first (below.set (front ++ [name]) node)) := by
        show Node.dir (setEntry outer first
          ((((Node.dir outer).child? first).getD (.dir [])).set (front ++ [name]) node)) = _
        rw [hchild, Option.getD_some]
      have hrest : front ++ [name] ≠ [] := by simp
      have hset' := (child?_setEntry outer first (below.set (front ++ [name]) node) first).trans
        (if_pos rfl)
      rw [hset, List.cons_append, erase_cons hrest hset', setEntry_setEntry,
        ih (hdistinct.of_mem (mem_of_child? hchild)) hbelow,
        setEntry_eq_self hdistinct.nodup hchild]

end Fresh

end Node

namespace Tree

/-- Nothing is at the end of the path. -/
def IsFree (t : Tree) (p : Path) : Prop := ∀ spot, t.walk p false = .ok spot → spot.node = none

/-- The second tree is the first one with one more file, to which the path leads. -/
structure AddsFile (t t' : Tree) (p : Path) (content : ByteArray) : Prop where
  here : t'.here = t.here
  isOneMore : ∃ place, t.root.at? place = none ∧
    t'.walk p true = .ok ⟨place, some (.file content)⟩ ∧
    ∀ other, other ≠ place → t'.root.kindAt other = t.root.kindAt other

variable {t t' : Tree} {p : Path} {content : ByteArray}

/-- Links followed at its end or not, a free path leads to the same place. -/
theorem IsFree.walk_toLast (hfree : t.IsFree p) {spot : Spot} (h : t.walk p true = .ok spot) :
    spot.node = none ∧ t.walk p false = .ok spot := by
  obtain ⟨hshort, hwalk⟩ := walk_eq_ok_iff.mp h
  rcases hwalk.toLast with hlast | ⟨place, target, hlink⟩
  · have hlast' := walk_eq_ok_iff.mpr ⟨hshort, hlast⟩
    exact ⟨hfree _ hlast', hlast'⟩
  · exact absurd (hfree _ (walk_eq_ok_iff.mpr ⟨hshort, hlink⟩)) (by simp)

/-- A free path that can be written leads to a fresh place of a directory. -/
theorem exists_of_write (hfree : t.IsFree p) (hwrite : t.write p content = .ok t') :
    ∃ front name entries, t.root.at? front = some (.dir entries) ∧
      (Node.dir entries).child? name = none ∧
      (∀ toTheEnd, t.walk p toTheEnd = .ok ⟨front ++ [name], none⟩) ∧
      t' = { t with root := t.root.set (front ++ [name]) (.file content) } := by
  unfold write writable at hwrite
  cases hwalk : t.walk p true with
  | error obstacle =>
    rw [hwalk] at hwrite
    exact absurd hwrite (by simp [bind, Except.bind])
  | ok spot =>
    obtain ⟨place, node⟩ := spot
    obtain ⟨hnone, hlast⟩ := hfree.walk_toLast hwalk
    obtain rfl : node = none := hnone
    obtain ⟨hshort, harrives⟩ := walk_eq_ok_iff.mp hwalk
    obtain ⟨front, name, entries, hplace, hdir, hchild⟩ :=
      harrives.free_below rfl (Option.some_ne_none t.root)
    obtain rfl : place = front ++ [name] := hplace
    rw [hwalk] at hwrite
    refine ⟨front, name, entries, hdir, hchild, ?_, (Except.ok.inj hwrite).symm⟩
    intro toTheEnd
    cases toTheEnd with
    | true => exact hwalk
    | false => exact hlast

/-- **A file written to a free path is one more file.** -/
theorem addsFile_write (hfree : t.IsFree p) (hwrite : t.write p content = .ok t') :
    t.AddsFile t' p content := by
  obtain ⟨front, name, entries, hdir, hchild, hwalk, rfl⟩ := exists_of_write hfree hwrite
  obtain ⟨hshort, harrives⟩ := walk_eq_ok_iff.mp (hwalk true)
  have hkept : ∀ other, other ≠ front ++ [name] →
      (t.root.set (front ++ [name]) (.file content)).kindAt other = t.root.kindAt other :=
    fun other hother => Node.kindAt_set hchild content hother hdir
  have hthere := Node.at?_set_self t.root (front ++ [name]) (.file content)
  refine ⟨rfl, front ++ [name], ?_, ?_, hkept⟩
  · rw [Node.at?_concat, hdir]
    exact hchild
  · have hnew := harrives.of_new rfl hkept (by simp [hthere])
    dsimp only at hnew
    rw [hthere] at hnew
    exact walk_eq_ok_iff.mpr ⟨hshort, hnew⟩

/-- **Its removal leaves no trace.** -/
theorem remove_write (hdistinct : t.root.HasDistinctNames) (hfree : t.IsFree p)
    (hwrite : t.write p content = .ok t') : t'.remove p = t := by
  obtain ⟨front, name, entries, hdir, hchild, hwalk, rfl⟩ := exists_of_write hfree hwrite
  obtain ⟨hshort, harrives⟩ := walk_eq_ok_iff.mp (hwalk false)
  have hkept : ∀ other, other ≠ front ++ [name] →
      (t.root.set (front ++ [name]) (.file content)).kindAt other = t.root.kindAt other :=
    fun other hother => Node.kindAt_set hchild content hother hdir
  have hthere := Node.at?_set_self t.root (front ++ [name]) (.file content)
  have hnew := harrives.of_new rfl hkept (by simp [hthere])
  have hwalk' :=
    walk_eq_ok_iff (t := { t with root := t.root.set (front ++ [name]) (.file content) })
      |>.mpr ⟨hshort, hnew⟩
  unfold remove
  rw [hwalk']
  show Tree.mk ((t.root.set (front ++ [name]) (.file content)).erase (front ++ [name])) t.here = t
  rw [Node.erase_set hchild _ hdistinct hdir]

/-!
## Files at the top of a tree

A path of one name leads to an entry of the root (`walk_top`). So a file with a fresh name is
written behind the other entries.
-/

/-- A name that an entry below the root may have. -/
structure IsName (name : String) : Prop where
  proper : name ≠ ".."
  short : name.utf8ByteSize ≤ maxName
  path : ((Path.absolute []).child name).text.utf8ByteSize ≤ maxPath

variable {entries : List (String × Node)} {name : String} (hname : IsName name)
include hname

theorem walk_top (hentry : ∀ target, (Node.dir entries).child? name ≠ some (.link target))
    (toTheEnd : Bool) :
    (Tree.mk (.dir entries) []).walk ((Path.absolute []).child name) toTheEnd
      = .ok ⟨[name], (Node.dir entries).child? name⟩ := by
  have hplace : (Node.dir entries).at? ([] ++ [name]) = (Node.dir entries).child? name :=
    Node.at?_concat (.dir entries) [] name
  have hstep : CanStep (.dir entries) [] name := ⟨⟨entries, rfl⟩, hname.proper, hname.short⟩
  refine walk_eq_ok_iff.mpr ⟨hname.path, ?_⟩
  show Walks (.dir entries) toTheEnd maxLinks [] [name] _
  cases hchild : (Node.dir entries).child? name with
  | none => exact .free hstep (hplace.trans hchild)
  | some node =>
    have hthere : Walks (.dir entries) toTheEnd maxLinks [name] []
        ⟨[name], (Node.dir entries).at? [name]⟩ := .here maxLinks [name]
    rw [← hchild, ← hplace]
    refine .enter hstep (hplace.trans hchild) (fun target h => ?_) hthere
    rw [h] at hchild
    exact hentry target hchild

theorem probeFile_top {content : ByteArray}
    (h : (Node.dir entries).child? name = some (.file content)) :
    (Tree.mk (.dir entries) []).probeFile ((Path.absolute []).child name) = .ok true := by
  have hwalk := walk_top hname (fun target => by rw [h]; simp) true
  unfold probeFile
  rw [hwalk, h]

section Fresh

variable (hfresh : (Node.dir entries).child? name = none)
include hfresh

theorem isFree_top : (Tree.mk (.dir entries) []).IsFree ((Path.absolute []).child name) := by
  intro spot hspot
  rw [walk_top hname (fun target => by rw [hfresh]; simp) false] at hspot
  rw [← Except.ok.inj hspot]
  exact hfresh

/-- A file with a fresh name is written behind the other entries. -/
theorem write_top (content : ByteArray) :
    (Tree.mk (.dir entries) []).write ((Path.absolute []).child name) content
      = .ok ⟨.dir (entries ++ [(name, .file content)]), []⟩ := by
  have hwalk := walk_top hname (fun target => by rw [hfresh]; simp) true
  unfold write writable
  rw [hwalk, hfresh]
  show Except.ok (Tree.mk (.dir (Node.setEntry entries name (.file content))) []) = _
  rw [Node.setEntry_fresh hfresh]

end Fresh

end Tree

end PullReview
