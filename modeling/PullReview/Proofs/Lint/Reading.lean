import Mathlib.Data.List.Basic
import PullReview.Lint.Engine
import PullReview.Proofs.Number.Numerals
import PullReview.Proofs.World.Run

/-!
# What is read of a linter's output

A call of the linter that ends gives an exit code and a text. Most of what can be wrong with
them is one kind of fault, or is passed over. Two things are not: a text nested too deep,
and an entry that is not `IsLegible`, which has a number in place of its messages, or a text
of digits that is no number in place of one.

> `lint_ends`: a call gives a report or fails in the linter just if its output is legible.
> A report has one file for each entry that names one, in order.

Reading goes down from the report to the numbers. At each level it is known what is read and
as what, and that all else is refused (`ReadsJust`); levels are put together by `ReadsJust.bind`
and `ReadsJust.mapM`.
-/

namespace PullReview

open Text Act

/-! ## Readings -/

/-- A reading that gives `b` of what is legible, and otherwise refuses it with a fault of a
kind. -/
structure ReadsJust {β : Type} (legible : Prop) (r : Except Fault β) (b : β)
    (E : Fault → Prop) : Prop where
  reads : legible → r = .ok b
  refuses : ¬ legible → ∃ fault, r = .error fault ∧ E fault

section ReadsJust

variable {α β γ : Type} {p q : Prop} {r : Except Fault β} {b : β} {E : Fault → Prop}

theorem readsJust_ok (b : β) : ReadsJust True (.ok b) b E :=
  ⟨fun _ => rfl, fun h => absurd trivial h⟩

theorem ReadsJust.of_iff (h : ReadsJust p r b E) (hpq : p ↔ q) : ReadsJust q r b E :=
  ⟨fun hq => h.reads (hpq.mpr hq), fun hq => h.refuses fun hp => hq (hpq.mp hp)⟩

/-- What is read first is there for what follows. -/
theorem ReadsJust.bind (h : ReadsJust p r b E) {f : β → Except Fault γ} {c : γ}
    (hf : ReadsJust q (f b) c E) : ReadsJust (p ∧ q) (r >>= f) c E := by
  refine ⟨fun hboth => ?_, fun hnot => ?_⟩
  · rw [h.reads hboth.1]
    exact hf.reads hboth.2
  · by_cases hp : p
    · rw [h.reads hp]
      exact hf.refuses fun hq => hnot ⟨hp, hq⟩
    · obtain ⟨fault, hfault, hE⟩ := h.refuses hp
      rw [hfault]
      exact ⟨fault, rfl, hE⟩

/-- A list is read item by item. -/
theorem readsJust_mapM {legible : α → Prop} {f : α → Except Fault β} {g : α → β}
    (h : ∀ a, ReadsJust (legible a) (f a) (g a) E) :
    ∀ as : List α, ReadsJust (∀ a ∈ as, legible a) (as.mapM f) (as.map g) E := by
  intro as
  induction as with
  | nil => exact (readsJust_ok []).of_iff (by simp)
  | cons a as ih =>
    rw [List.mapM_cons, List.map_cons]
    refine ReadsJust.of_iff ((h a).bind (ih.bind (readsJust_ok _))) ?_
    rw [and_true, List.forall_mem_cons]

end ReadsJust

/-- Faults of a value of a wrong kind, which nobody expects of a linter's output. -/
inductive Fault.IsStray : Fault → Prop
  | data (cause : DataFault) : IsStray (.data cause)
  | misuse (cause : Misuse) : IsStray (.misuse cause)

/-! ## Messages -/

namespace LintMessage

/-- The whole number that a value stands for. -/
def numberOf : Json → Option Int
  | .int n => some n
  | .str s => if allDigitKind (trim s.toList) then some (Numeral.valueOf s) else none
  | _ => none

/-- A text of digits is a number. -/
def HasNumber (v : Json) : Prop :=
  ∀ s, v = .str s → allDigitKind (trim s.toList) = true → Numeral.IsPlain s

theorem hasNumber_null : HasNumber .null := fun _ h => Json.noConfusion h

theorem hasNumber_int (n : Int) : HasNumber (.int n) := fun _ h => Json.noConfusion h

theorem wholeNumber_readsJust (v : Json) :
    ReadsJust (HasNumber v) (wholeNumber v) (numberOf v) Fault.IsStray := by
  refine ⟨fun h => ?_, fun h => ?_⟩
  · cases v with
    | str s =>
      unfold wholeNumber numberOf
      dsimp only
      split
      · next hdigits => rw [Numeral.readInt_plain hdigits (h s rfl hdigits)]
      · rfl
    | null | bool | int | float | arr | obj => rfl
  · simp only [HasNumber, not_forall] at h
    obtain ⟨s, rfl, hdigits, hstrange⟩ := h
    obtain ⟨fault, hfault⟩ := Numeral.readInt_strange hdigits hstrange
    unfold wholeNumber
    dsimp only
    rw [if_pos hdigits, hfault]
    refine ⟨_, rfl, ?_⟩
    cases fault with
    | malformed => exact .data _
    | tooLong => exact .data _

/-- A message as it is read. -/
def shownBy (v : Json) : LintMessage where
  rule := (v.getD "ruleId").str?
  severity := (numberOf (v.getD "severity")).getD warningLevel
  message := messageText (v.getD "message")
  line := numberOf (v.getD "line")
  column := numberOf (v.getD "column")
  fatal := (v.getD "fatal").isTruthy

/-- Where a message has a text of digits for a number, it is one. -/
structure IsLegible (v : Json) : Prop where
  severity : HasNumber (v.getD "severity")
  line : HasNumber (v.getD "line")
  column : HasNumber (v.getD "column")

theorem ofJson_readsJust (v : Json) :
    ReadsJust (IsLegible v) (ofJson v) (shownBy v) Fault.IsStray := by
  unfold ofJson
  refine ReadsJust.of_iff ((wholeNumber_readsJust _).bind ((wholeNumber_readsJust _).bind
    ((wholeNumber_readsJust _).bind (readsJust_ok _)))) ?_
  exact ⟨fun h => ⟨h.1, h.2.1, h.2.2.1⟩, fun h => ⟨h.severity, h.line, h.column, trivial⟩⟩

end LintMessage

/-! ## Files -/

namespace LintFile

/-- The objects in a list; other values have none. -/
def objectsOf : Json → List Json
  | .arr items => items.filter fun m => match m with | .obj _ => true | _ => false
  | _ => []

/-- A value that can be gone through: no number and no truth value, unless it counts as empty. -/
def IsIterable (v : Json) : Prop :=
  v.isTruthy = true → (∀ b, v ≠ .bool b) ∧ (∀ n, v ≠ .int n) ∧ ∀ x, v ≠ .float x

theorem isIterable_arr (items : List Json) : IsIterable (.arr items) := fun _ =>
  ⟨fun _ h => Json.noConfusion h, fun _ h => Json.noConfusion h, fun _ h => Json.noConfusion h⟩

theorem messageObjects_readsJust (v : Json) :
    ReadsJust (IsIterable v) (messageObjects v) (objectsOf v) Fault.IsStray := by
  refine ⟨fun h => ?_, fun h => ?_⟩
  · unfold messageObjects
    split
    · next hempty =>
      cases v with
      | arr items =>
        cases items with
        | nil => rfl
        | cons => exact absurd hempty (by simp [Json.isTruthy])
      | null | bool | int | float | str | obj => rfl
    · next htruthy =>
      rw [Bool.not_eq_true', Bool.not_eq_false] at htruthy
      obtain ⟨hbool, hint, hfloat⟩ := h htruthy
      cases v with
      | bool b => exact absurd rfl (hbool b)
      | int n => exact absurd rfl (hint n)
      | float x => exact absurd rfl (hfloat x)
      | null | str | arr | obj => rfl
  · unfold IsIterable at h
    obtain ⟨htruthy, hkind⟩ := Classical.not_imp.mp h
    unfold messageObjects
    rw [htruthy, Bool.not_true, if_neg Bool.false_ne_true]
    cases v with
    | bool | int | float => exact ⟨_, rfl, .misuse _⟩
    | null | str | arr | obj => exact absurd (by simp) hkind

/-- A file as it is read from an entry that names one. -/
def shownBy (v : Json) : Option LintFile :=
  (v.getD "filePath").str?.map fun path =>
    ⟨path, (objectsOf (v.getD "messages")).map LintMessage.shownBy⟩

/-- The messages of an entry that names a file can be gone through and read. -/
def IsLegible (v : Json) : Prop :=
  ∀ path, v.getD "filePath" = .str path → IsIterable (v.getD "messages") ∧
    ∀ m ∈ objectsOf (v.getD "messages"), LintMessage.IsLegible m

theorem ofJson?_readsJust (v : Json) :
    ReadsJust (IsLegible v) (ofJson? v) (shownBy v) Fault.IsStray := by
  unfold ofJson? shownBy IsLegible
  cases hpath : v.getD "filePath" with
  | str path =>
    refine ReadsJust.of_iff ((messageObjects_readsJust _).bind
      ((readsJust_mapM LintMessage.ofJson_readsJust _).bind (readsJust_ok _)))
      ⟨fun h _ _ => ⟨h.1, h.2.1⟩, fun h => ?_⟩
    exact ⟨(h path rfl).1, (h path rfl).2, trivial⟩
  | null | bool | int | float | arr | obj =>
    exact (readsJust_ok none).of_iff (by simp)

theorem ofReport_readsJust (entries : List Json) :
    ReadsJust (∀ e ∈ entries, IsLegible e) (ofReport (.arr entries)) (entries.filterMap shownBy)
      Fault.IsStray := by
  have hfiles : entries.filterMap shownBy = (entries.map shownBy).filterMap id := by
    rw [List.filterMap_map]
    rfl
  rw [hfiles]
  exact ReadsJust.of_iff ((readsJust_mapM ofJson?_readsJust entries).bind (readsJust_ok _))
    (by rw [and_true])

end LintFile

/-! ## Calls -/

namespace CommandResult

/-- The linter ends with these codes if it has anything to report. -/
def HasReport (r : CommandResult) : Prop := r.code = 0 ∨ r.code = 1

/-- What the linter printed as a value, nested `depth` deep at most; nothing at all is an
empty report. -/
def reported (r : CommandResult) (depth : Nat) : Except Json.ReadFault Json :=
  Json.read depth (if r.stdout = "" then "[]" else r.stdout)

/-- The output is not nested too deep, and if it is a list, its entries can be read. -/
structure IsLegible (r : CommandResult) (depth : Nat) : Prop where
  shallow : ∀ inObject, r.reported depth ≠ .error (.tooDeep inObject)
  entries : ∀ entries, r.reported depth = .ok (.arr entries) → ∀ e ∈ entries, LintFile.IsLegible e

end CommandResult

namespace Linter

/-- Answers that callers of the linter expect: a report, or a fault of the linter. -/
def IsExpected : Except Fault (List LintFile) → Prop
  | .ok _ | .error (.lint _) => True
  | .error _ => False

theorem not_isExpected_of_isStray {fault : Fault} (h : fault.IsStray) :
    ¬ IsExpected (.error fault) := by
  cases h with
  | data => exact id
  | misuse => exact id

section ReadResult

variable {l : Linter} {r : CommandResult}

theorem readResult_crashed (h : ¬ r.HasReport) :
    l.readResult r = .error (.lint (.crashed r.code r.stderr)) := by
  unfold readResult
  rw [if_pos]
  exact not_or.mp h

variable (h : r.HasReport)
include h

theorem readResult_malformed {fault : Json.ReadFault} (hfault : r.reported l.depth = .error fault)
    (hmalformed : fault.isMalformed = true) :
    l.readResult r = .error (.lint (.notJson r.code r.stderr)) := by
  unfold CommandResult.reported at hfault
  unfold readResult
  rw [if_neg fun hcode => not_or.mpr hcode h, hfault]
  exact if_pos hmalformed

theorem readResult_tooDeep {inObject : Bool}
    (hdeep : r.reported l.depth = .error (.tooDeep inObject)) :
    l.readResult r = .error (.json (.tooDeep inObject)) := by
  unfold CommandResult.reported at hdeep
  unfold readResult
  rw [if_neg fun hcode => not_or.mpr hcode h, hdeep]
  rfl

theorem readResult_ok {v : Json} (hv : r.reported l.depth = .ok v) :
    l.readResult r = LintFile.ofReport v := by
  unfold CommandResult.reported at hv
  unfold readResult
  rw [if_neg fun hcode => not_or.mpr hcode h, hv]

theorem readResult_notAList {v : Json} (hv : r.reported l.depth = .ok v)
    (hlist : ∀ entries, v ≠ .arr entries) : l.readResult r = .error (.lint .notAList) := by
  rw [readResult_ok h hv]
  cases v with
  | arr entries => exact absurd rfl (hlist entries)
  | null | bool | int | float | str | obj => rfl

/-- **What is expected comes of what is legible**, and of nothing else. -/
theorem isExpected_readResult : IsExpected (l.readResult r) ↔ r.IsLegible l.depth := by
  cases hread : r.reported l.depth with
  | error fault =>
    by_cases hmalformed : fault.isMalformed = true
    · rw [readResult_malformed h hread hmalformed]
      refine ⟨fun _ => ⟨fun inObject hdeep => ?_, fun entries hlist => ?_⟩, fun _ => trivial⟩
      · rw [hread] at hdeep
        rw [Except.error.inj hdeep] at hmalformed
        exact absurd hmalformed Bool.false_ne_true
      · exact absurd (hread.symm.trans hlist) (by simp)
    · cases fault with
      | tooDeep inObject =>
        rw [readResult_tooDeep h hread]
        exact ⟨False.elim, fun hlegible => hlegible.shallow inObject hread⟩
      | syntaxAt | tooManyDigits => exact absurd rfl hmalformed
  | ok v =>
    have hdepth : ∀ inObject, r.reported l.depth ≠ .error (.tooDeep inObject) :=
      fun inObject hdeep => absurd (hread.symm.trans hdeep) (by simp)
    cases v with
    | arr entries =>
      have hreads := LintFile.ofReport_readsJust entries
      rw [readResult_ok h hread]
      constructor
      · intro hexpected
        -- an entry that cannot be read would end the call with a stray fault
        refine ⟨hdepth, fun entries' hlist => ?_⟩
        obtain rfl := Json.arr.inj (Except.ok.inj (hread.symm.trans hlist))
        by_contra hillegible
        obtain ⟨fault, hfault, hstray⟩ := hreads.refuses hillegible
        rw [hfault] at hexpected
        exact not_isExpected_of_isStray hstray hexpected
      · intro hlegible
        rw [hreads.reads (hlegible.entries entries hread)]
        trivial
    | null | bool | int | float | str | obj =>
      rw [readResult_notAList h hread (by simp)]
      refine ⟨fun _ => ⟨hdepth, fun entries hlist => ?_⟩, fun _ => trivial⟩
      exact absurd (hread.symm.trans hlist) (by simp)

end ReadResult

variable {σ : Type}

/-- The command by which files are linted. -/
def call (l : Linter) (files : List String) (config : Option String)
    (more : List (String × String)) : Command where
  argv := l.words files config
  directory := some l.workspace
  environment := layOver l.environment more

/-- To lint files is to call the linter and to read what it printed. -/
theorem lint_eq (l : Linter) (shell : Shell σ) {files : List String} (hfiles : files ≠ [])
    (config : Option String) (more : List (String × String)) :
    l.lint shell files config more
      = shell (l.call files config more) >>= fun result => liftM (l.readResult result) := by
  have hsome : files.isEmpty = false := List.isEmpty_eq_false_iff.mpr hfiles
  unfold lint
  rw [hsome, if_neg Bool.false_ne_true]
  refine bind_congr fun result => ?_
  cases l.readResult result with
  | ok report => rfl
  | error fault => rfl

/-- A call that ends is answered by what is read of its output. -/
theorem runOn_lint (l : Linter) {shell : Shell σ} {files : List String} (hfiles : files ≠ [])
    {config : Option String} {more : List (String × String)} {result : CommandResult}
    {w w' : World σ}
    (hcall : (shell (l.call files config more)).runOn w = (.ok result, w')) :
    (l.lint shell files config more).runOn w = (l.readResult result, w') := by
  rw [lint_eq l shell hfiles, runOn_bind_ok hcall]
  rfl

/-- **What a call of the linter gives.** Let the command end with any code and output. The
answer is a report or a fault of the linter just if the output is legible, or there is none
to expect by the code. Other codes than 0 and 1 are a crash; a text that is no value and a
value that is no list are faults of the linter; and a list of legible entries is read as one
file for each entry that names one, in order. -/
theorem lint_ends (l : Linter) {shell : Shell σ} {files : List String} (hfiles : files ≠ [])
    (config : Option String) (more : List (String × String)) {result : CommandResult}
    {w w' : World σ} (hcall : (shell (l.call files config more)).runOn w = (.ok result, w')) :
    ∃ answer, (l.lint shell files config more).runOn w = (answer, w') ∧
      (IsExpected answer ↔ (result.HasReport → result.IsLegible l.depth)) ∧
      (¬ result.HasReport → answer = .error (.lint (.crashed result.code result.stderr))) ∧
      (result.HasReport →
        (∀ fault, result.reported l.depth = .error fault → fault.isMalformed = true →
          answer = .error (.lint (.notJson result.code result.stderr))) ∧
        (∀ v, result.reported l.depth = .ok v → (∀ entries, v ≠ .arr entries) →
          answer = .error (.lint .notAList)) ∧
        ∀ entries, result.reported l.depth = .ok (.arr entries) →
          (∀ e ∈ entries, LintFile.IsLegible e) →
          answer = .ok (entries.filterMap LintFile.shownBy)) := by
  refine ⟨l.readResult result, l.runOn_lint hfiles hcall, ?_, readResult_crashed, fun h => ?_⟩
  · by_cases h : result.HasReport
    · rw [isExpected_readResult h]
      exact ⟨fun hlegible _ => hlegible, fun hlegible => hlegible h⟩
    · rw [readResult_crashed h]
      exact ⟨fun _ hreport => absurd hreport h, fun _ => trivial⟩
  · refine ⟨fun fault => readResult_malformed h, fun v => readResult_notAList h,
      fun entries hlist hlegible => ?_⟩
    rw [readResult_ok h hlist]
    exact (LintFile.ofReport_readsJust entries).reads hlegible

/-! A report with a line told in digits and with something that is no file, and a report with a
number in place of the messages. -/

def plainLinter : Linter where
  workspace := .absolute []
  command := ["eslint"]
  environment := []

/-- Every call is answered alike. -/
def answering (result : CommandResult) : Shell Unit := fun _ => return result

def stillWorld : World Unit := ⟨(), .empty, {}⟩

def digitsReport : CommandResult where
  code := 1
  stdout := "[\x7b\"filePath\": \"a.js\", \"messages\": [\x7b\"line\": \" 4\"\x7d]\x7d, 7]"
  stderr := ""

def digitsEntries : List Json :=
  [.obj [("filePath", .str "a.js"), ("messages", .arr [.obj [("line", .str " 4")]])], .int 7]

theorem reported_digits :
    digitsReport.reported plainLinter.depth = .ok (.arr digitsEntries) := by
  cbv

theorem lint_ends_digits :
    ["a.js"] ≠ [] ∧
      (answering digitsReport (plainLinter.call ["a.js"] none [])).runOn stillWorld
        = (.ok digitsReport, stillWorld) ∧
      (plainLinter.lint (answering digitsReport) ["a.js"] none []).runOn stillWorld
        = (.ok [⟨"a.js", [⟨none, 1, "", some 4, none, false⟩]⟩], stillWorld) := by
  have hsome : ["a.js"] ≠ [] := List.cons_ne_nil _ _
  have hcall : (answering digitsReport (plainLinter.call ["a.js"] none [])).runOn stillWorld
      = (.ok digitsReport, stillWorld) := rfl
  obtain ⟨answer, hrun, _, _, hreport⟩ := lint_ends plainLinter hsome none [] hcall
  have hlegible : ∀ e ∈ digitsEntries, LintFile.IsLegible e := by
    refine List.forall_mem_cons.mpr ⟨fun path _ => ⟨LintFile.isIterable_arr _, ?_⟩,
      List.forall_mem_singleton.mpr fun _ h => Json.noConfusion h⟩
    refine List.forall_mem_singleton.mpr
      ⟨LintMessage.hasNumber_null, fun s hs _ => ?_, LintMessage.hasNumber_null⟩
    obtain rfl : " 4" = s := Json.str.inj hs
    have hchars : " 4".toList = [' ', '4'] := rfl
    have htrim : trim " 4".toList = ['4'] := rfl
    exact ⟨htrim ▸ List.forall_mem_singleton.mpr rfl, by decide,
      hchars ▸ List.forall_mem_cons.mpr ⟨fun _ => rfl, List.forall_mem_singleton.mpr (by decide)⟩⟩
  have hanswer := (hreport (Or.inr rfl)).2.2 digitsEntries reported_digits hlegible
  rw [hrun, hanswer]
  exact ⟨hsome, hcall, rfl⟩

def countedMessages : CommandResult where
  code := 0
  stdout := "[\x7b\"filePath\": \"a.js\", \"messages\": 5\x7d]"
  stderr := ""

def countedEntries : List Json := [.obj [("filePath", .str "a.js"), ("messages", .int 5)]]

theorem reported_counted :
    countedMessages.reported plainLinter.depth = .ok (.arr countedEntries) := by
  cbv

/-- A list may be answered by a fault that is not expected. -/
theorem lint_countedMessages :
    countedMessages.HasReport ∧
      countedMessages.reported plainLinter.depth = .ok (.arr countedEntries) ∧
      (plainLinter.lint (answering countedMessages) ["a.js"] none []).runOn stillWorld
        = (.error (.misuse (.notIterable "int")), stillWorld) ∧
      ¬ IsExpected (.error (.misuse (.notIterable "int"))) := by
  have hreport : countedMessages.HasReport := Or.inl rfl
  refine ⟨hreport, reported_counted, ?_, id⟩
  rw [plainLinter.runOn_lint (List.cons_ne_nil _ _) rfl, readResult_ok hreport reported_counted]
  rfl

end Linter

end PullReview
