import Mathlib.Data.List.Basic
import PullReview.Lint.FlatConfig
import PullReview.Proofs.Json.Limits
import PullReview.Proofs.Json.Written
import PullReview.Proofs.Text.Lines

/-!
# What a written configuration says

A rule set is written as a module, in a language that is read elsewhere. Whatever characters
its strings hold, they stay between their quotes and on their lines.

> `render_faithful`: a rule set has a module just if its values fit. The module has a line for
> each plugin and seven more, nine if there is a parser. Read as a module, it binds every plugin
> to the module that was meant, but for one named `__proto__`. Two rule sets have one text just
> if they say the same.

Names and modules are read back from the text itself (`listed?_render`). For the
rest it is enough that each value tells where it ends, since what stands around it is fixed
(`enclosed_inj`).
-/

namespace PullReview

open Text Json

/-! ## Reading a module -/

namespace FlatModule

def isWordChar (c : Char) : Bool := c.isAlphanum

/-- What stands behind a given beginning. -/
def behind? (front : String) (cs : List Char) : Option (List Char) :=
  if front.toList.isPrefixOf cs then some (cs.drop front.toList.length) else none

/-- A name, and what stands behind it. -/
def word (cs : List Char) : String × List Char :=
  (String.ofList (cs.takeWhile isWordChar), cs.dropWhile isWordChar)

/-- A string, and what stands behind it. -/
def string? (cs : List Char) : Option (String × List Char) :=
  match cs with
  | '"' :: rest => match readString 0 cs.length rest [] with
    | .ok (text, behind) => some (String.ofList text, behind)
    | .error _ => none
  | _ => none

/-- The name that a line binds, and the module that it stands for. -/
def imported? (line : List Char) : Option (String × String) := do
  let rest ← behind? "import " line
  let (name, rest) := word rest
  let rest ← behind? " from " rest
  let (source, rest) ← string? rest
  if rest = [';'] then some (name, source) else none

/-- Keys with the names that they are bound to, up to the end of the object. -/
def entries? : Nat → List Char → Option (List (String × String))
  | 0, _ => none
  | fuel + 1, cs => do
    let (key, rest) ← string? cs
    let rest ← behind? ": " rest
    let (name, rest) := word rest
    if rest = " \x7d,".toList then some [(key, name)]
    else do
      let rest ← behind? ", " rest
      let entries ← entries? fuel rest
      some ((key, name) :: entries)

/-- The keys of the line that lists the plugins, with the names that they are bound to. -/
def pluginLine? (line : List Char) : Option (List (String × String)) := do
  let rest ← behind? "    plugins: \x7b " line
  if rest = " \x7d,".toList then some [] else entries? rest.length rest

/-- The plugins that a module lists: each key with the module that its name is imported from.
A module that imports two things under one name is not read. -/
def listed? (text : String) : Option (List (String × String)) := do
  let lines := unixLines text.toList
  let imports := lines.filterMap imported?
  let entries ← lines.findSome? pluginLine?
  if (imports.map Prod.fst).Nodup then
    entries.mapM fun e => (imports.lookup e.2).map (Prod.mk e.1)
  else none

/-- What stands in an object under this key is taken for its prototype, and is no member. -/
def prototypeKey : String := "__proto__"

/-- The plugins that a module binds. -/
def plugins? (text : String) : Option (List (String × String)) :=
  (listed? text).map (List.filter (·.1 ≠ prototypeKey))

theorem behind?_append (front : String) (rest : List Char) :
    behind? front (front.toList ++ rest) = some rest := by
  unfold behind?
  rw [List.isPrefixOf_iff_prefix.mpr (List.prefix_append ..), List.drop_left]
  rfl

/-- A line that begins otherwise has nothing behind the beginning. -/
theorem behind?_of_head? {front : String} {line : List Char}
    (hfront : front.toList ≠ []) (h : line.head? ≠ front.toList.head?) :
    behind? front line = none := by
  unfold behind?
  rw [if_neg]
  rw [List.isPrefixOf_iff_prefix]
  rintro ⟨rest, rfl⟩
  rw [List.head?_append, List.head?_eq_some_head hfront] at h
  exact h rfl

theorem string?_written (s : String) (rest : List Char) :
    string? ((writeString s).toList ++ rest) = some (s, rest) := by
  have hlength := length_le_written s.toList
  have hread := readString_written 0 rest s.toList
    ('"' :: (s.toList.flatMap writeChar ++ '"' :: rest)).length []
    (by rw [List.length_cons, List.length_append]; omega)
  rw [toList_writeString]
  show (match readString 0 _ _ [] with
    | .ok (text, behind) => some (String.ofList text, behind)
    | .error _ => none) = _
  rw [hread]
  show some (String.ofList s.toList, rest) = _
  rw [String.ofList_toList]

theorem word_append {name : String} (hname : ∀ c ∈ name.toList, isWordChar c = true) {c : Char}
    (hc : isWordChar c = false) (rest : List Char) :
    word (name.toList ++ c :: rest) = (name, c :: rest) := by
  unfold word
  rw [List.takeWhile_append_of_pos hname, List.dropWhile_append_of_pos hname,
    List.takeWhile_cons, List.dropWhile_cons, hc]
  simp

/-- A text begins as what stands in front does. -/
theorem head?_text {front : String} {c : Char} (h : front.toList.head? = some c) (back : String) :
    (front ++ back).toList.head? = some c := by
  rw [String.toList_append, List.head?_append, h]
  rfl

/-- An import as it is written. -/
def importText (i : String × String) : String := s!"import {i.1} from {writeString i.2};"

theorem imported?_importText {i : String × String} (h : ∀ c ∈ i.1.toList, isWordChar c = true) :
    imported? (importText i).toList = some i := by
  have htext : (importText i).toList = "import ".toList ++ (i.1.toList ++ (" from ".toList ++
      ((writeString i.2).toList ++ [';']))) := by
    unfold importText
    simp only [toString, String.toList_append, List.append_assoc]
    rfl
  have hword : word (i.1.toList ++ (" from ".toList ++ ((writeString i.2).toList ++ [';'])))
      = (i.1, " from ".toList ++ ((writeString i.2).toList ++ [';'])) := word_append h rfl _
  unfold imported?
  rw [htext, behind?_append]
  simp only [Option.bind_eq_bind, Option.bind_some, hword]
  rw [behind?_append]
  simp only [Option.bind_some, string?_written]
  rfl

theorem imported?_of_head? {line : List Char} (h : line.head? ≠ some 'i') :
    imported? line = none := by
  unfold imported?
  rw [behind?_of_head? (by decide) h]
  rfl

theorem pluginLine?_of_head? {line : List Char} (h : line.head? ≠ some ' ') :
    pluginLine? line = none := by
  unfold pluginLine?
  rw [behind?_of_head? (by decide) h]
  rfl

/-- An entry as it is written. -/
def entryText (e : String × String) : String := s!"{writeString e.1}: {e.2}"

theorem toList_entryText (e : String × String) (rest : List Char) :
    (entryText e).toList ++ rest
      = (writeString e.1).toList ++ (": ".toList ++ (e.2.toList ++ rest)) := by
  unfold entryText
  simp only [toString, String.toList_append, List.append_assoc]

theorem join_entries (e next : String × String) (es : List (String × String)) (rest : List Char) :
    (join ", " ((e :: next :: es).map entryText)).toList ++ rest
      = (entryText e).toList ++ (", ".toList ++
          ((join ", " ((next :: es).map entryText)).toList ++ rest)) := by
  unfold join
  rw [List.map_cons, List.map_cons, String.intercalate_cons_cons, String.toList_append,
    String.toList_append, List.append_assoc, List.append_assoc]

theorem join_entry (e : String × String) : join ", " ([e].map entryText) = entryText e := by
  unfold join
  exact String.intercalate_singleton

/-- Entries begin with a quote, and each of them has a character at least. -/
theorem exists_joined (rest : List Char) :
    ∀ (es : List (String × String)) (e : String × String), ∃ cs,
      (join ", " ((e :: es).map entryText)).toList ++ rest = '"' :: cs ∧ es.length ≤ cs.length := by
  intro es
  induction es with
  | nil =>
    intro e
    rw [join_entry, toList_entryText, toList_writeString]
    exact ⟨_, rfl, Nat.zero_le _⟩
  | cons next es ih =>
    intro e
    obtain ⟨cs, hcs, hlength⟩ := ih next
    rw [join_entries, hcs, toList_entryText, toList_writeString]
    refine ⟨_, rfl, ?_⟩
    simp only [List.length_append, List.length_cons]
    omega

/-- Entries are read one by one, up to the brace. -/
theorem entries?_joined :
    ∀ (es : List (String × String)) (fuel : Nat), es ≠ [] → es.length ≤ fuel →
      (∀ e ∈ es, ∀ c ∈ e.2.toList, isWordChar c = true) →
      entries? fuel ((join ", " (es.map entryText)).toList ++ " \x7d,".toList) = some es := by
  intro es
  induction es with
  | nil => intro _ h; exact absurd rfl h
  | cons e es ih =>
    intro fuel _ hfuel h
    obtain ⟨fuel, rfl⟩ : ∃ f, fuel = f + 1 := ⟨fuel - 1, by rw [List.length_cons] at hfuel; omega⟩
    obtain ⟨he, hes⟩ := List.forall_mem_cons.mp h
    cases es with
    | nil =>
      have hword : word (e.2.toList ++ " \x7d,".toList) = (e.2, " \x7d,".toList) :=
        word_append he rfl _
      rw [join_entry, toList_entryText, entries?, string?_written]
      simp only [Option.bind_eq_bind, Option.bind_some, behind?_append, hword]
      rfl
    | cons next es =>
      have hrest := ih fuel (List.cons_ne_nil _ _) (Nat.le_of_succ_le_succ hfuel) hes
      rw [join_entries]
      generalize (join ", " ((next :: es).map entryText)).toList ++ " \x7d,".toList = rest at *
      have hword : word (e.2.toList ++ (", ".toList ++ rest)) = (e.2, ", ".toList ++ rest) :=
        word_append he rfl _
      have hbrace : ", ".toList ++ rest ≠ " \x7d,".toList := fun hsame =>
        absurd (List.cons.inj hsame).1 (by decide)
      rw [toList_entryText, entries?, string?_written]
      simp only [Option.bind_eq_bind, Option.bind_some, behind?_append, hword]
      rw [if_neg hbrace, hrest]
      rfl

end FlatModule

namespace RuleSet

open FlatModule

/-! ## Bindings -/

theorem toList_binding (i : Nat) : (binding i).toList = "plugin".toList ++ Nat.toDigits 10 i := by
  unfold binding
  rw [String.toList_append, toList_natText]
  rfl

theorem binding_injective {i j : Nat} (h : binding i = binding j) : i = j := by
  have hchars := congrArg String.toList h
  rw [toList_binding, toList_binding] at hchars
  exact toDigits_injective (List.append_cancel_left hchars)

theorem isWordChar_binding (i : Nat) : ∀ c ∈ (binding i).toList, isWordChar c = true := by
  have hfront : "plugin".toList.all isWordChar = true := by decide
  rw [toList_binding]
  refine List.forall_mem_append.mpr ⟨List.all_eq_true.mp hfront, fun c hc => ?_⟩
  have hdigit : c.isDigit = true := Nat.isDigit_of_mem_toDigits (by decide) (by decide) hc
  unfold isWordChar Char.isAlphanum
  rw [hdigit, Bool.or_true]

/-- What is bound to a numbered plugin, and what is imported under its name. -/
def entryOf (p : (String × String) × Nat) : String × String := (p.1.1, binding p.2)

def importOf (p : (String × String) × Nat) : String × String := (binding p.2, p.1.2)

/-- **Each key meets the module of its own plugin**, as no two plugins share a number. -/
theorem mapM_entryOf (back : List (String × String)) :
    ∀ (plugins : List (String × String)) (k : Nat) (front : List (String × String)),
      (∀ i, k ≤ i → front.lookup (binding i) = none) →
      ((plugins.zipIdx k).map entryOf).mapM (fun e =>
        ((front ++ (plugins.zipIdx k).map importOf ++ back).lookup e.2).map (Prod.mk e.1))
        = some plugins := by
  intro plugins
  -- those that are done have moved to the front, and none of them has a later number
  induction plugins with
  | nil => intro k front _; rfl
  | cons p plugins ih =>
    intro k front hfront
    have hlookup : (front ++ importOf (p, k) :: (plugins.zipIdx (k + 1)).map importOf
        ++ back).lookup (binding k) = some p.2 := by
      rw [List.append_assoc, List.lookup_append, hfront k (Nat.le_refl k), List.cons_append,
        Option.none_or, List.lookup_cons]
      unfold importOf
      rw [beq_self_eq_true]
    have hnext : ∀ i, k + 1 ≤ i → (front ++ [importOf (p, k)]).lookup (binding i) = none := by
      intro i hi
      have hother : (binding i == binding k) = false := by
        rw [beq_eq_false_iff_ne]
        intro hsame
        have hik := binding_injective hsame
        omega
      rw [List.lookup_append, hfront i (by omega), Option.none_or, List.lookup_cons]
      unfold importOf
      rw [hother]
      rfl
    have hrest := ih (k + 1) (front ++ [importOf (p, k)]) hnext
    rw [List.append_assoc front, List.singleton_append] at hrest
    rw [List.zipIdx_cons, List.map_cons, List.map_cons, List.mapM_cons, hrest]
    show ((List.lookup (binding k) _).map _ >>= _) = _
    rw [hlookup]
    rfl

/-! ## Lines -/

/-- Rules and options without doubles. -/
structure IsExact (r : RuleSet) : Prop where
  rules : ∀ m ∈ r.rules, m.2.IsExact
  options : ∀ options ∈ r.parserOptions, ∀ m ∈ options, m.2.IsExact

variable {r s : RuleSet}

theorem IsExact.obj_rules (hr : r.IsExact) : (Json.obj r.rules).IsExact := .obj hr.rules

theorem IsExact.obj_options (hr : r.IsExact) :
    (Json.obj (r.parserOptions.getD [])).IsExact := by
  refine .obj fun m hm => ?_
  cases hoptions : r.parserOptions with
  | none => rw [hoptions] at hm; exact absurd hm List.not_mem_nil
  | some options => rw [hoptions] at hm; exact hr.options options hoptions m hm

theorem parser?_eq (r : RuleSet) :
    r.parser? = if r.parser.getD "" = "" then none else some (r.parser.getD "") := by
  unfold parser?
  cases r.parser with
  | none => rfl
  | some name =>
    by_cases hname : name = ""
    · rw [hname]
      rfl
    · rw [Option.filter_some_pos (by simpa using hname), Option.getD_some, if_neg hname]

/-- The lines that import something, and what they import. -/
def imports (r : RuleSet) : List (String × String) :=
  r.plugins.zipIdx.map importOf ++ r.parser?.toList.map (Prod.mk "parser")

/-- What holds of the names of plugins and parser. -/
theorem forall_mem_imports {P : String → Prop} (hbinding : ∀ i, P (binding i))
    (hparser : P "parser") : ∀ i ∈ r.imports, P i.1 := by
  intro i hi
  rcases List.mem_append.mp hi with hi | hi
  · obtain ⟨p, -, rfl⟩ := List.mem_map.mp hi
    exact hbinding p.2
  · obtain ⟨source, -, rfl⟩ := List.mem_map.mp hi
    exact hparser

/-- No name is imported twice. -/
theorem nodup_imports (r : RuleSet) : (r.imports.map Prod.fst).Nodup := by
  have hbindings : (r.plugins.zipIdx.map importOf).map Prod.fst
      = (List.range' 0 r.plugins.length).map binding := by
    rw [← List.zipIdx_map_snd, List.map_map, List.map_map]
    rfl
  have hnumbers : ((List.range' 0 r.plugins.length).map binding).Nodup :=
    List.Pairwise.map binding (fun _ _ hne hsame => hne (binding_injective hsame))
      (List.nodup_range' 1)
  have hother : ∀ i, binding i ≠ "parser" := by
    intro i hsame
    have hchars := congrArg String.toList hsame
    rw [toList_binding] at hchars
    exact absurd (List.cons.inj (List.cons.inj hchars).2).1 (by decide)
  unfold imports
  rw [List.map_append, hbindings, List.nodup_append]
  refine ⟨hnumbers, ?_, fun name hname other hparser => ?_⟩
  · cases r.parser? with
    | none => exact List.nodup_nil
    | some source => exact List.pairwise_singleton _ _
  · obtain ⟨i, -, rfl⟩ := List.mem_map.mp hname
    rw [List.map_map] at hparser
    obtain ⟨source, -, rfl⟩ := List.mem_map.mp hparser
    exact hother i

theorem importLines_eq (r : RuleSet) : r.importLines = r.imports.map importText := by
  unfold importLines imports
  rw [List.map_append, List.map_map]
  cases r.parser? with
  | none => rfl
  | some source => rfl

def pluginsText (r : RuleSet) : String :=
  let entries := join ", " ((r.plugins.zipIdx.map entryOf).map entryText)
  s!"    plugins: \x7b {entries} \x7d,"

def optionsText (r : RuleSet) : String :=
  let options := write (.obj (r.parserOptions.getD []))
  s!"    languageOptions: \x7b parser, parserOptions: {options} \x7d,"

def rulesText (r : RuleSet) : String :=
  let rules := write (.obj r.rules)
  s!"    rules: {rules},"

/-- The lines behind the imports; the options are there for a parser alone. -/
def frame (r : RuleSet) : List String :=
  ["", "export default [", "  \x7b", r.pluginsText] ++
    ((r.parser?.toList.map fun _ => r.optionsText) ++ [r.rulesText, "  \x7d,", "];"])

theorem lines_eq (r : RuleSet) : r.lines = r.imports.map importText ++ r.frame := by
  unfold lines entryLines frame pluginsText
  rw [importLines_eq, List.map_map]
  cases r.parser? with
  | none =>
    simp only [List.append_assoc, List.cons_append, List.nil_append, Option.toList_none,
      List.map_nil]
    rfl
  | some source =>
    simp only [List.append_assoc, List.cons_append, List.nil_append, Option.toList_some,
      List.map_cons, List.map_nil]
    rfl

/-- What holds of the fixed lines, and of those for plugins, options and rules. -/
theorem forall_mem_frame {P : String → Prop}
    (hfixed : ∀ line ∈ ["", "export default [", "  \x7b", "  \x7d,", "];"], P line)
    (hplugins : P r.pluginsText) (hoptions : P r.optionsText) (hrules : P r.rulesText) :
    ∀ line ∈ r.frame, P line := by
  intro line hline
  rcases List.mem_append.mp hline with hline | hline
  · simp only [List.mem_cons, List.not_mem_nil, or_false] at hline
    rcases hline with rfl | rfl | rfl | rfl
    · exact hfixed _ (by simp)
    · exact hfixed _ (by simp)
    · exact hfixed _ (by simp)
    · exact hplugins
  · rcases List.mem_append.mp hline with hline | hline
    · obtain ⟨-, -, rfl⟩ := List.mem_map.mp hline
      exact hoptions
    · simp only [List.mem_cons, List.not_mem_nil, or_false] at hline
      rcases hline with rfl | rfl | rfl
      · exact hrules
      · exact hfixed _ (by simp)
      · exact hfixed _ (by simp)

theorem length_lines (r : RuleSet) :
    r.lines.length = r.plugins.length + if r.parser.getD "" = "" then 7 else 9 := by
  rw [lines_eq]
  unfold imports frame
  rw [parser?_eq]
  split <;> simp

theorem isPlain_binding (i : Nat) : IsPlain (binding i) :=
  IsPlain.append (by decide) (isPlain_natText i)

theorem isPlain_importText {i : String × String} (h : IsPlain i.1) : IsPlain (importText i) :=
  (((IsPlain.append (by decide) h).append (by decide)).append (isPlain_writeString i.2)).append
    (by decide)

theorem isPlain_entryText {e : String × String} (h : IsPlain e.2) : IsPlain (entryText e) :=
  ((isPlain_writeString e.1).append (by decide)).append h

theorem isPlain_pluginsText (r : RuleSet) : IsPlain r.pluginsText := by
  have hentries : IsPlain (join ", " ((r.plugins.zipIdx.map entryOf).map entryText)) := by
    refine isPlain_join (by decide) fun part hpart => ?_
    rw [List.map_map] at hpart
    obtain ⟨p, -, rfl⟩ := List.mem_map.mp hpart
    exact isPlain_entryText (isPlain_binding p.2)
  exact (IsPlain.append (by decide) hentries).append (by decide)

/-- **No line is broken**, whatever the strings hold. -/
theorem isPlain_lines (hr : r.IsExact) : ∀ line ∈ r.lines, IsPlain line := by
  have hoptions : IsPlain r.optionsText :=
    (IsPlain.append (by decide) (isPlain_write hr.obj_options)).append (by decide)
  have hrules : IsPlain r.rulesText :=
    (IsPlain.append (by decide) (isPlain_write hr.obj_rules)).append (by decide)
  rw [lines_eq]
  refine List.forall_mem_append.mpr ⟨fun line hline => ?_, ?_⟩
  · obtain ⟨i, hi, rfl⟩ := List.mem_map.mp hline
    exact isPlain_importText (forall_mem_imports isPlain_binding (by decide) i hi)
  · exact forall_mem_frame (by decide) (isPlain_pluginsText r) hoptions hrules

theorem toList_render (r : RuleSet) :
    r.render.toList = printed .lf (r.lines.map String.toList) := by
  refine toList_joined r.lines ?_
  rw [lines_eq]
  exact List.append_ne_nil_of_right_ne_nil _ (List.cons_ne_nil _ _)

/-- Reading the text gives the lines back. -/
theorem unixLines_render (hr : r.IsExact) :
    unixLines r.render.toList = r.lines.map String.toList ++ [[]] := by
  have hplain := isPlain_lines hr
  have hfeed : ∀ l ∈ r.lines.map String.toList, '\n' ∉ l := by
    intro l hl hmem
    obtain ⟨line, hline, rfl⟩ := List.mem_map.mp hl
    exact absurd (hplain line hline _ hmem) (by decide)
  have hreceived : (r.lines.map String.toList).map LineEnd.lf.received
      = r.lines.map String.toList := by
    refine (List.map_congr_left fun l hl => ?_).trans (List.map_id _)
    obtain ⟨line, hline, rfl⟩ := List.mem_map.mp hl
    exact dropReturn_eq_self fun hmem => absurd (hplain line hline _ hmem) (by decide)
  rw [toList_render, unixLines_printed .lf _ hfeed, hreceived]

/-! ## Reading the plugins back -/

theorem filterMap_imported? (r : RuleSet) :
    (r.lines.map String.toList ++ [[]]).filterMap imported? = r.imports := by
  have himports :
      ((r.imports.map importText).map String.toList).filterMap imported? = r.imports := by
    rw [List.map_map, List.filterMap_map]
    have hparser : ∀ c ∈ "parser".toList, isWordChar c = true :=
      List.all_eq_true.mp (by decide)
    exact (List.filterMap_congr fun i hi => imported?_importText
      (forall_mem_imports (P := fun name => ∀ c ∈ name.toList, isWordChar c = true)
        isWordChar_binding hparser i hi)).trans List.filterMap_some
  have hplugins : r.pluginsText.toList.head? = some ' ' := head?_text (head?_text rfl _) _
  have hoptions : r.optionsText.toList.head? = some ' ' := head?_text (head?_text rfl _) _
  have hrules : r.rulesText.toList.head? = some ' ' := head?_text (head?_text rfl _) _
  have hframe : (r.frame.map String.toList).filterMap imported? = [] := by
    refine List.filterMap_eq_nil_iff.mpr fun line hline => ?_
    obtain ⟨line, hmem, rfl⟩ := List.mem_map.mp hline
    refine imported?_of_head? (forall_mem_frame (P := fun l => l.toList.head? ≠ some 'i')
      (by decide) ?_ ?_ ?_ line hmem)
    · rw [hplugins]; decide
    · rw [hoptions]; decide
    · rw [hrules]; decide
  rw [lines_eq, List.map_append, List.filterMap_append, List.filterMap_append, himports, hframe,
    List.append_nil]
  exact List.append_nil _

theorem pluginLine?_pluginsText (r : RuleSet) :
    pluginLine? r.pluginsText.toList = some (r.plugins.zipIdx.map entryOf) := by
  have htext : r.pluginsText.toList = "    plugins: \x7b ".toList ++
      ((join ", " ((r.plugins.zipIdx.map entryOf).map entryText)).toList ++ " \x7d,".toList) := by
    unfold pluginsText
    simp only [toString, String.toList_append, List.append_assoc]
  have hwords : ∀ e ∈ r.plugins.zipIdx.map entryOf, ∀ c ∈ e.2.toList, isWordChar c = true := by
    intro e he
    obtain ⟨p, -, rfl⟩ := List.mem_map.mp he
    exact isWordChar_binding p.2
  unfold pluginLine?
  rw [htext, behind?_append]
  show (if _ then some [] else entries? _ _) = _
  generalize r.plugins.zipIdx.map entryOf = es at *
  cases es with
  | nil => rfl
  | cons e es =>
    obtain ⟨cs, hcs, hlength⟩ := exists_joined " \x7d,".toList es e
    have hmore : (join ", " ((e :: es).map entryText)).toList ++ " \x7d,".toList
        ≠ " \x7d,".toList := by
      rw [hcs]
      exact fun hsame => absurd (List.cons.inj hsame).1 (by decide)
    rw [if_neg hmore]
    refine entries?_joined (e :: es) _ (List.cons_ne_nil _ _) ?_ hwords
    rw [hcs]
    exact Nat.succ_le_succ hlength

theorem findSome?_pluginLine? (r : RuleSet) :
    (r.lines.map String.toList ++ [[]]).findSome? pluginLine?
      = some (r.plugins.zipIdx.map entryOf) := by
  have himports : ((r.imports.map importText).map String.toList).findSome? pluginLine? = none := by
    refine List.findSome?_eq_none_iff.mpr fun line hline => ?_
    rw [List.map_map] at hline
    obtain ⟨i, -, rfl⟩ := List.mem_map.mp hline
    have hhead : (importText i).toList.head? = some 'i' :=
      head?_text (head?_text (head?_text (head?_text rfl _) _) _) _
    exact pluginLine?_of_head? (by rw [Function.comp, hhead]; decide)
  rw [lines_eq, List.map_append, List.append_assoc, List.findSome?_append, himports,
    Option.none_or]
  unfold frame
  rw [List.map_append, List.append_assoc, List.findSome?_append]
  have hfirst : (["", "export default [", "  \x7b", r.pluginsText].map String.toList).findSome?
      pluginLine? = some (r.plugins.zipIdx.map entryOf) := by
    have hblank : pluginLine? "".toList = none := rfl
    have hexport : pluginLine? "export default [".toList = none := rfl
    have hopen : pluginLine? "  \x7b".toList = none := rfl
    simp only [List.map_cons, List.map_nil, List.findSome?_cons, hblank, hexport, hopen,
      pluginLine?_pluginsText]
  rw [hfirst]
  rfl

/-- **Every plugin is listed with the module that was meant.** -/
theorem listed?_render (hr : r.IsExact) : listed? r.render = some r.plugins := by
  have hmap := mapM_entryOf (r.parser?.toList.map (Prod.mk "parser")) r.plugins 0 []
    (fun _ _ => rfl)
  unfold listed?
  rw [unixLines_render hr]
  simp only [findSome?_pluginLine?, filterMap_imported?, Option.bind_eq_bind, Option.bind_some]
  rw [if_pos (nodup_imports r)]
  exact hmap

/-! ## What the text tells of a rule set -/

/-- Rule sets that say the same. A parser without a name is none, and options are nothing
without a parser. -/
structure Alike (r s : RuleSet) : Prop where
  plugins : r.plugins = s.plugins
  rules : r.rules = s.rules
  parser : r.parser.getD "" = s.parser.getD ""
  options : r.parser.getD "" ≠ "" → r.parserOptions.getD [] = s.parserOptions.getD []

theorem getD_parser? (r : RuleSet) : r.parser?.getD "" = r.parser.getD "" := by
  rw [parser?_eq]
  split
  · next hempty => exact hempty.symm
  · rfl

/-- A value between fixed texts can be told from any other. -/
theorem enclosed_inj {front back : String} {v w : Json} (hv : v.IsExact) (hw : w.IsExact)
    (hback : EndsNumber back.toList)
    (h : front ++ write v ++ back = front ++ write w ++ back) : v = w := by
  have hchars := congrArg String.toList h
  rw [String.append_assoc, String.append_assoc, String.toList_append, String.toList_append,
    String.toList_append, String.toList_append] at hchars
  exact (write_append_inj hv w hw _ _ hback hback (List.append_cancel_left hchars)).1

theorem rules_eq_of_text (hr : r.IsExact) (hs : s.IsExact) (h : r.rulesText = s.rulesText) :
    r.rules = s.rules := by
  have hback : EndsNumber ",".toList := endsNumber_cons rfl []
  exact Json.obj.inj (enclosed_inj hr.obj_rules hs.obj_rules hback h)

theorem options_eq_of_text (hr : r.IsExact) (hs : s.IsExact)
    (h : r.optionsText = s.optionsText) :
    r.parserOptions.getD [] = s.parserOptions.getD [] := by
  have hback : EndsNumber " \x7d,".toList := endsNumber_cons rfl ['\x7d', ',']
  exact Json.obj.inj (enclosed_inj hr.obj_options hs.obj_options hback h)

theorem lines_eq_of_render (hr : r.IsExact) (hs : s.IsExact) (h : r.render = s.render) :
    r.lines = s.lines := by
  have hlines : r.lines.map String.toList ++ [[]] = s.lines.map String.toList ++ [[]] := by
    rw [← unixLines_render hr, h, unixLines_render hs]
  exact (List.map_inj_right fun _ _ => String.toList_inj.mp).mp (List.append_cancel_right hlines)

/-- **Rule sets with one text say the same.** -/
theorem alike_of_render (hr : r.IsExact) (hs : s.IsExact) (h : r.render = s.render) :
    r.Alike s := by
  have hlines := lines_eq_of_render hr hs h
  have hplugins : r.plugins = s.plugins := by
    rw [← Option.some.injEq, ← listed?_render hr, h, listed?_render hs]
  have himports : r.imports = s.imports := by
    rw [← filterMap_imported? r, hlines, filterMap_imported?]
  have hparser : r.parser? = s.parser? := by
    unfold imports at himports
    rw [hplugins] at himports
    have hnames : r.parser?.toList = s.parser?.toList :=
      (List.map_inj_right fun _ _ hsame => (Prod.mk.inj hsame).2).mp
        (List.append_cancel_left himports)
    rw [← Option.head?_toList (o := r.parser?), hnames, Option.head?_toList]
  have hname : r.parser.getD "" = s.parser.getD "" := by
    rw [← getD_parser?, hparser, getD_parser?]
  rw [lines_eq, lines_eq, himports] at hlines
  have hframe := List.append_cancel_left hlines
  unfold frame at hframe
  rw [hparser] at hframe
  have hbehind := (List.append_inj hframe rfl).2
  cases hsource : s.parser? with
  | none =>
    rw [hsource] at hbehind
    have hempty : s.parser.getD "" = "" := by rw [← getD_parser?, hsource]; rfl
    exact ⟨hplugins, rules_eq_of_text hr hs (List.cons.inj hbehind).1, hname,
      fun hsome => absurd (hname.trans hempty) hsome⟩
  | some source =>
    rw [hsource] at hbehind
    obtain ⟨hoptions, hrest⟩ := List.cons.inj hbehind
    exact ⟨hplugins, rules_eq_of_text hr hs (List.cons.inj hrest).1, hname,
      fun _ => options_eq_of_text hr hs hoptions⟩

theorem Alike.render_eq (h : r.Alike s) : r.render = s.render := by
  have hparser : r.parser? = s.parser? := by rw [parser?_eq, parser?_eq, h.parser]
  have himports : r.imports = s.imports := by
    unfold imports
    rw [h.plugins, hparser]
  have hplugins : r.pluginsText = s.pluginsText := by
    unfold pluginsText
    rw [h.plugins]
  have hrules : r.rulesText = s.rulesText := by
    unfold rulesText
    rw [h.rules]
  have hoptions : (r.parser?.toList.map fun _ => r.optionsText)
      = s.parser?.toList.map fun _ => s.optionsText := by
    rw [parser?_eq, ← hparser, parser?_eq]
    split
    · rfl
    · next hsome =>
      unfold optionsText
      rw [h.options hsome]
  unfold render
  rw [lines_eq, lines_eq, himports]
  unfold frame
  rw [hplugins, hrules, hoptions]

/-! ## Rule sets that are written -/

/-- Rule sets whose values can be written. Options are not written without a parser. -/
structure Fits (depth : Nat) (r : RuleSet) : Prop where
  rules : (Json.obj r.rules).Fits (depth + 1)
  options : r.parser.getD "" ≠ "" → (Json.obj (r.parserOptions.getD [])).Fits (depth + 1)

theorem flaw?_eq_none_iff {depth : Nat} : r.flaw? depth = none ↔ r.Fits depth := by
  unfold flaw?
  rw [Option.or_eq_none_iff, Json.flaw?_eq_none_iff, parser?_eq]
  by_cases hempty : r.parser.getD "" = ""
  · rw [if_pos hempty]
    exact ⟨fun h => ⟨h.2, fun hsome => absurd hempty hsome⟩, fun h => ⟨rfl, h.rules⟩⟩
  · rw [if_neg hempty, Option.bind_some, Json.flaw?_eq_none_iff]
    exact ⟨fun h => ⟨h.2, fun _ => h.1⟩, fun h => ⟨h.options hempty, h.rules⟩⟩

/-- A rule set that fits is written, and no other. -/
theorem renderWithin_eq_ok_iff {depth : Nat} {text : String} :
    r.renderWithin depth = .ok text ↔ r.Fits depth ∧ r.render = text := by
  rw [← flaw?_eq_none_iff]
  unfold renderWithin
  cases r.flaw? depth <;> simp

/-- **A written configuration is faithful.** A rule set is written just if its values fit. The
text then has a line for each plugin and seven more, or nine with a parser, whatever the strings
hold; each plugin is bound to the module that was meant, but for one that is named as prototypes
are; and its text tells what the rule set says. -/
theorem render_faithful (depth : Nat) (r : RuleSet) (hr : r.IsExact) :
    ((∃ text, r.renderWithin depth = .ok text) ↔ r.Fits depth) ∧
    ∀ text, r.renderWithin depth = .ok text →
      (∃ lines : List String, text.toList = printed .lf (lines.map String.toList) ∧
        lines.length = r.plugins.length + (if r.parser.getD "" = "" then 7 else 9) ∧
        ∀ line ∈ lines, IsPlain line) ∧
      plugins? text = some (r.plugins.filter (·.1 ≠ prototypeKey)) ∧
      ∀ (s : RuleSet) (depth' : Nat), s.IsExact →
        (s.renderWithin depth' = .ok text ↔ s.Fits depth' ∧ r.Alike s) := by
  constructor
  · simp only [renderWithin_eq_ok_iff, exists_and_left, exists_eq', and_true]
  · intro text hwritten
    obtain ⟨-, rfl⟩ := renderWithin_eq_ok_iff.mp hwritten
    refine ⟨⟨r.lines, toList_render r, length_lines r, isPlain_lines hr⟩, ?_, fun s depth' hs => ?_⟩
    · unfold plugins?
      rw [listed?_render hr]
      rfl
    · rw [renderWithin_eq_ok_iff]
      exact and_congr_right fun _ =>
        ⟨fun hsame => alike_of_render hr hs hsame.symm, fun halike => halike.render_eq.symm⟩

/-- A rule set whose names hold quotes, line ends, and what could end a list or an entry. -/
def oddRules : RuleSet where
  label := "odd rules"
  plugins := [("a\": plugin1 \x7d,\n", "\\m\u2028"), ("𝄞", "\";\r\n")]
  rules := [("no-undef", .str "error")]
  parser := some "parser\t"
  parserOptions := some [("depth", .arr [.int (-3), .null, .bool true])]

theorem render_faithful_odd :
    oddRules.IsExact ∧ ∃ text, oddRules.renderWithin usualDepth = .ok text ∧
      (∃ lines : List String, text.toList = printed .lf (lines.map String.toList) ∧
        lines.length = 11) ∧
      plugins? text = some oddRules.plugins ∧
      { oddRules with parserOptions := none }.renderWithin usualDepth ≠ .ok text := by
  have hrules : ∀ m ∈ oddRules.rules, m.2.IsExact := List.forall_mem_singleton.mpr (.str _)
  have hexact : oddRules.IsExact := by
    refine ⟨hrules, fun options hoptions => ?_⟩
    obtain rfl := Option.some.inj hoptions
    refine List.forall_mem_singleton.mpr (.arr ?_)
    simp only [List.forall_mem_cons]
    exact ⟨.int _, .null, .bool _, by simp⟩
  have hwithout : { oddRules with parserOptions := none }.IsExact :=
    ⟨hrules, fun _ hoptions => absurd hoptions (Option.some_ne_none _).symm⟩
  have hfits : oddRules.Fits usualDepth := flaw?_eq_none_iff.mp (by decide +kernel)
  obtain ⟨hiff, hfaithful⟩ := render_faithful usualDepth oddRules hexact
  obtain ⟨text, hwritten⟩ := hiff.mpr hfits
  obtain ⟨⟨lines, htext, hlength, -⟩, hplugins, htold⟩ := hfaithful text hwritten
  have hnone : oddRules.plugins.filter (·.1 ≠ prototypeKey) = oddRules.plugins := by
    decide +kernel
  refine ⟨hexact, text, hwritten, ⟨lines, htext, hlength⟩, hnone ▸ hplugins, fun hsame => ?_⟩
  have hoptions := ((htold _ _ hwithout).mp hsame).2.options (by decide)
  exact absurd (congrArg List.length hoptions) (by decide)

/-- A rule set with a number that is too long, and a plugin with the name of prototypes. -/
def overlongRules : RuleSet where
  label := "overlong rules"
  plugins := [(prototypeKey, "m")]
  rules := []
  parser := some "p"
  parserOptions := some [("ecmaVersion", .int (Numeral.firstBeyond Numeral.maxDigits))]

/-- There is no text for the number, and without it the plugin is not bound. -/
theorem render_overlong :
    overlongRules.IsExact ∧
      overlongRules.renderWithin usualDepth = .error .tooManyDigits ∧
      ∃ text, { overlongRules with parserOptions := none }.renderWithin usualDepth = .ok text ∧
        plugins? text = some [] := by
  have hrules : ∀ m ∈ overlongRules.rules, m.2.IsExact := fun _ hm => absurd hm List.not_mem_nil
  have hexact : overlongRules.IsExact := by
    refine ⟨hrules, fun options hoptions => ?_⟩
    obtain rfl := Option.some.inj hoptions
    exact List.forall_mem_singleton.mpr (.int _)
  have hwithout : { overlongRules with parserOptions := none }.IsExact :=
    ⟨hrules, fun _ hoptions => absurd hoptions (Option.some_ne_none _).symm⟩
  have hflaw : overlongRules.flaw? usualDepth = some .tooManyDigits := by decide +kernel
  have hfits : { overlongRules with parserOptions := none }.flaw? usualDepth = none := by
    decide +kernel
  refine ⟨hexact, ?_, _, renderWithin_eq_ok_iff.mpr ⟨flaw?_eq_none_iff.mp hfits, rfl⟩, ?_⟩
  · unfold renderWithin
    rw [hflaw]
  · unfold plugins?
    rw [listed?_render hwithout]
    rfl

end RuleSet

end PullReview
