import PullReview.Proofs.Json.Members
import PullReview.Proofs.Tree.Written
import PullReview.Proofs.World.Run
import PullReview.RunContext

/-!
# Which source decides what a run is about

Base, head, number and repository are each looked for in three places, and the first one that
gives something decides. What stands behind it is not looked at, be it right or wrong.

> `resolve_identity`: a run is about what the deciding sources say, and its pull request has the
> repository for its full name. It is refused just if something is given nowhere, the deciding
> number cannot be read, or the repository has no slash.

The four deciding values are all that the answer depends on (`ofPayload_eq`).
-/

namespace PullReview

namespace PullRequest

/-- A name with a slash is cut at the first one, and put together again. -/
theorem ofFullName_eq_ok {name : String} (h : '/' ∈ name.toList) (number : Int) (head : Json) :
    ∃ pr, ofFullName name number head = .ok pr ∧ pr.fullName = name ∧ '/' ∉ pr.owner.toList ∧
      pr.number = number ∧ pr.head = head := by
  obtain ⟨owner, repo, hname, howner⟩ := List.eq_append_cons_of_mem h
  have hstop : ∀ c ∈ owner, decide (c ≠ '/') = true := fun c hc =>
    decide_eq_true fun e => howner (e ▸ hc)
  have hsplit : splitName name.toList = some (owner, repo) := by
    unfold splitName
    rw [hname, List.dropWhile_append_of_pos hstop, List.takeWhile_append_of_pos hstop]
    simp
  refine ⟨⟨String.ofList owner, String.ofList repo, number, head⟩, ?_, ?_, ?_, rfl, rfl⟩
  · unfold ofFullName
    rw [hsplit]
  · show String.ofList owner ++ "/" ++ String.ofList repo = name
    rw [← String.toList_inj, String.toList_append, String.toList_append, String.toList_ofList,
      String.toList_ofList, String.toList_ofList, hname, List.append_assoc]
    rfl
  · rw [String.toList_ofList]
    exact howner

end PullRequest

/-! ## Kinds of values -/

namespace Json

def IsObject (v : Json) : Prop := ∃ members, v = .obj members

/-- An object, or nothing. -/
def IsObjectOrNull (v : Json) : Prop := v = .null ∨ v.IsObject

/-- A text, or nothing. -/
def IsTextOrNull (v : Json) : Prop := v = .null ∨ ∃ s, v = .str s

/-- A whole number, a text, or nothing. -/
def IsNumeralOrNull (v : Json) : Prop := v = .null ∨ (∃ n, v = .int n) ∨ ∃ s, v = .str s

/-- Neither nothing nor an empty text. -/
def isGiven : Json → Bool
  | .null => false
  | .str s => s ≠ ""
  | _ => true

/-- The value of a variable, or nothing. -/
def ofVariable (value : Option String) : Json := (value.map .str).getD .null

theorem IsTextOrNull.isTruthy_eq {v : Json} (h : v.IsTextOrNull) : v.isTruthy = v.isGiven := by
  rcases h with rfl | ⟨s, rfl⟩
  · rfl
  · show (s != "") = decide (s ≠ "")
    rw [Bool.eq_iff_iff, bne_iff_ne, decide_eq_true_eq]

theorem isTextOrNull_ofVariable (value : Option String) : (ofVariable value).IsTextOrNull := by
  cases value with
  | none => exact Or.inl rfl
  | some s => exact Or.inr ⟨s, rfl⟩

theorem IsTextOrNull.isNumeralOrNull {v : Json} (h : v.IsTextOrNull) : v.IsNumeralOrNull :=
  h.imp_right Or.inr

theorem IsObject.member_eq {v : Json} (h : v.IsObject) (name : String) :
    v.member name = .ok (v.getD name) := by
  obtain ⟨members, rfl⟩ := h
  rfl

end Json

namespace RunContext

open Json

/-! ## Sources -/

/-- What the deciding source gives: the first one that gives something. -/
def deciding (sources : List Json) : Option Json := sources.find? isGiven

/-- The places where each of the four is looked for, in their order. -/
structure Sources where
  base : List Json
  head : List Json
  number : List Json
  repository : List Json

/-- The sources of a run: the arguments, the payload of the event, and the environment or the
settings. -/
def Sources.of (setting : Option String) (env : Environment) (request : RunRequest)
    (event : Json) : Sources where
  base := [request.base, ((event.getD "pull_request").getD "base").getD "sha",
    ofVariable (env.value? "BASE_SHA")]
  head := [request.head, ((event.getD "pull_request").getD "head").getD "sha",
    ofVariable (env.value? "HEAD_SHA")]
  number := [request.number, (event.getD "pull_request").getD "number",
    ofVariable (env.value? "PR_NUMBER")]
  repository := [request.repository, ofVariable setting,
    (event.getD "repository").getD "full_name"]

/-- A whole number, or a text that is read as it. -/
def Tells (v : Json) (n : Int) : Prop :=
  v = .int n ∨ ∃ text, v = .str text ∧ Numeral.readInt text = .ok n

/-- The deciding sources tell what the run is about. -/
structure Sources.Identify (s : Sources) (c : RunContext) : Prop where
  base : deciding s.base = some c.base
  head : deciding s.head = some c.head
  number : ∃ v, deciding s.number = some v ∧ Tells v c.number
  repository : ∃ name, deciding s.repository = some (.str name) ∧ '/' ∈ name.toList ∧
    c.repository = .str name

/-- Something is given nowhere, or the source that decides cannot be used. -/
inductive Sources.Lack (s : Sources) : Prop
  | base (h : deciding s.base = none)
  | head (h : deciding s.head = none)
  | number (h : deciding s.number = none)
  | numeral {text : String} {fault : NumeralFault} (h : deciding s.number = some (.str text))
      (hread : Numeral.readInt text = .error fault)
  | repository (h : deciding s.repository = none)
  | slash {name : String} (h : deciding s.repository = some (.str name))
      (hslash : '/' ∉ name.toList)

/-- Sources that are the same, but for what stands behind one that gives something. -/
inductive SameToGiven : List Json → List Json → Prop
  | same (sources : List Json) : SameToGiven sources sources
  | behind {v : Json} (hv : isGiven v = true) (front back other : List Json) :
      SameToGiven (front ++ v :: back) (front ++ v :: other)

structure Sources.SameToGiven (s t : Sources) : Prop where
  base : RunContext.SameToGiven s.base t.base
  head : RunContext.SameToGiven s.head t.head
  number : RunContext.SameToGiven s.number t.number
  repository : RunContext.SameToGiven s.repository t.repository

/-- Payloads whose members are of the kinds that events have. -/
structure IsEvent (event : Json) : Prop where
  pullRequest : IsObjectOrNull (event.getD "pull_request")
  base : IsObjectOrNull ((event.getD "pull_request").getD "base")
  head : IsObjectOrNull ((event.getD "pull_request").getD "head")
  baseSha : IsTextOrNull (((event.getD "pull_request").getD "base").getD "sha")
  headSha : IsTextOrNull (((event.getD "pull_request").getD "head").getD "sha")
  number : IsNumeralOrNull ((event.getD "pull_request").getD "number")
  repository : IsObjectOrNull (event.getD "repository")
  fullName : IsTextOrNull ((event.getD "repository").getD "full_name")

/-- Arguments of the kinds that callers give. -/
structure IsRequest (request : RunRequest) : Prop where
  base : IsTextOrNull request.base
  head : IsTextOrNull request.head
  number : IsNumeralOrNull request.number
  repository : IsTextOrNull request.repository

theorem SameToGiven.deciding_eq {sources others : List Json} (h : SameToGiven sources others) :
    deciding sources = deciding others := by
  cases h with
  | same => rfl
  | behind hv front back other =>
    unfold deciding
    rw [List.find?_append, List.find?_append, List.find?_cons_of_pos hv, List.find?_cons_of_pos hv]

/-- A text that decides is not empty, and is one of the sources. -/
theorem exists_of_deciding {sources : List Json} (h : ∀ v ∈ sources, IsTextOrNull v) {v : Json}
    (hv : deciding sources = some v) : ∃ s, v = .str s ∧ s ≠ "" := by
  have hgiven := List.find?_some hv
  rcases h v (List.mem_of_find?_eq_some hv) with rfl | ⟨s, rfl⟩
  · exact absurd hgiven Bool.false_ne_true
  · exact ⟨s, rfl, of_decide_eq_true hgiven⟩

/-! ## Asking the sources in turn -/

/-- The value is what the deciding source gives, or nothing where none does. -/
def Stands (v : Json) : Option Json → Prop
  | some given => v = given ∧ v.isTruthy = true
  | none => v.isTruthy = false

theorem stands_cons {v next : Json} {rest : List Json} (hv : v.IsTextOrNull)
    (hnext : Stands next (deciding rest)) :
    Stands (if v.isTruthy then v else next) (deciding (v :: rest)) := by
  unfold deciding
  rw [List.find?_cons, ← hv.isTruthy_eq]
  cases htruthy : v.isTruthy with
  | true => exact ⟨rfl, htruthy⟩
  | false => exact hnext

theorem stands_last {v : Json} (hv : v.IsTextOrNull) : Stands v (deciding [v]) := by
  unfold deciding
  rw [List.find?_cons, ← hv.isTruthy_eq]
  cases htruthy : v.isTruthy with
  | true => exact ⟨rfl, htruthy⟩
  | false => exact htruthy

/-- A part that is missing has no members, as an empty one. -/
theorem part_eq {v : Json} (hv : v.IsObject) {name : String} (h : IsObjectOrNull (v.getD name)) :
    ∃ p, part v name = .ok p ∧ p.IsObject ∧ ∀ key, p.getD key = (v.getD name).getD key := by
  unfold part
  rw [hv.member_eq]
  show ∃ p, Except.ok (if (v.getD name).isTruthy then v.getD name else .obj []) = .ok p ∧ _
  rcases h with hnull | hobj
  · rw [hnull]
    exact ⟨.obj [], rfl, ⟨[], rfl⟩, fun _ => rfl⟩
  · split
    · exact ⟨_, rfl, hobj, fun _ => rfl⟩
    · next hempty =>
      obtain ⟨members, hmembers⟩ := hobj
      rw [hmembers] at hempty ⊢
      cases members with
      | nil => exact ⟨.obj [], rfl, ⟨[], rfl⟩, fun _ => rfl⟩
      | cons m members => exact absurd rfl hempty

theorem revision_eq (side : String) {argument pr sha : Json} (hargument : argument.IsTextOrNull)
    (hpr : pr.IsObject) (hside : IsObjectOrNull (pr.getD side))
    (hsha : (pr.getD side).getD "sha" = sha) (htext : sha.IsTextOrNull)
    (variableValue : Option String) :
    ∃ v, revision argument pr side variableValue = .ok v ∧
      Stands v (deciding [argument, sha, ofVariable variableValue]) := by
  obtain ⟨p, hp, hobj, hmembers⟩ := part_eq hpr hside
  have hvalue : revision argument pr side variableValue = .ok (if argument.isTruthy then argument
      else if sha.isTruthy then sha else ofVariable variableValue) := by
    unfold revision
    split
    · rfl
    · rw [hp]
      show (p.member "sha" >>= _) = _
      rw [hobj.member_eq, hmembers, hsha]
      show (if sha.isTruthy = true then _ else _) = _
      split <;> rfl
  exact ⟨_, hvalue, stands_cons hargument
    (stands_cons htext (stands_last (isTextOrNull_ofVariable variableValue)))⟩

/-- The number that a given value tells, or the fault of reading it. -/
def numberIn (v : Json) : Except Fault Int :=
  match v with
  | .int n => .ok n
  | .str text => (Numeral.readInt text).mapError fun _ => .runContext (.badNumber v)
  | _ => .error (.runContext (.badNumber v))

theorem numberOf_given {v : Json} (hv : v.IsNumeralOrNull) (hgiven : v.isGiven = true) :
    numberOf v = (numberIn v).map some := by
  rcases hv with rfl | ⟨n, rfl⟩ | ⟨s, rfl⟩
  · exact absurd hgiven Bool.false_ne_true
  · rfl
  · show (if s = "" then _ else _)
      = ((Numeral.readInt s).mapError fun _ => Fault.runContext (.badNumber (.str s))).map some
    rw [if_neg (of_decide_eq_true hgiven)]
    cases Numeral.readInt s <;> rfl

theorem numberOf_missing {v : Json} (hv : v.IsNumeralOrNull) (hgiven : v.isGiven = false) :
    numberOf v = .ok none := by
  rcases hv with rfl | ⟨n, rfl⟩ | ⟨s, rfl⟩
  · rfl
  · exact Bool.noConfusion hgiven
  · have hempty : s = "" := Decidable.not_not.mp (of_decide_eq_false hgiven)
    rw [hempty]
    rfl

/-- The number that the deciding value tells. -/
def decidedNumber : Option Json → Except Fault Int
  | some v => numberIn v
  | none => .error (.runContext .noNumber)

/-- The first number is the one of the deciding source; those behind it are not read. -/
theorem firstNumber_eq {sources : List Json} (h : ∀ v ∈ sources, IsNumeralOrNull v) :
    firstNumber (sources.map .ok) = decidedNumber (deciding sources) := by
  induction sources with
  | nil => rfl
  | cons v rest ih =>
    obtain ⟨hv, hrest⟩ := List.forall_mem_cons.mp h
    unfold deciding at ih ⊢
    rw [List.map_cons, firstNumber, List.find?_cons]
    show (numberOf v >>= _) = _
    cases hgiven : v.isGiven with
    | true =>
      rw [numberOf_given hv hgiven]
      show _ = numberIn v
      cases numberIn v <;> rfl
    | false =>
      rw [numberOf_missing hv hgiven]
      exact ih hrest

theorem repositoryOf_eq {argument event : Json} (hargument : argument.IsTextOrNull)
    (hevent : event.IsObject) (hrepository : IsObjectOrNull (event.getD "repository"))
    (hname : IsTextOrNull ((event.getD "repository").getD "full_name")) (setting : Option String) :
    ∃ v, repositoryOf argument setting event = .ok v ∧
      Stands v (deciding [argument, ofVariable setting,
        (event.getD "repository").getD "full_name"]) := by
  obtain ⟨p, hp, hobj, hmembers⟩ := part_eq hevent hrepository
  have hvalue : repositoryOf argument setting event = .ok (if argument.isTruthy then argument
      else if (ofVariable setting).isTruthy then ofVariable setting
      else (event.getD "repository").getD "full_name") := by
    have hmember : (part event "repository" >>= fun p => p.member "full_name")
        = .ok ((event.getD "repository").getD "full_name") := by
      rw [hp]
      exact (hobj.member_eq _).trans (congrArg Except.ok (hmembers _))
    unfold repositoryOf
    split
    · rfl
    · cases setting with
      | none => exact hmember
      | some name =>
        by_cases hempty : name = ""
        · subst hempty
          exact hmember
        · have hkept : (some name).filter (fun s => decide (s ≠ "")) = some name := by
            simp [hempty]
          rw [hkept]
          have htruthy : (ofVariable (some name)).isTruthy = true :=
            (isTextOrNull_ofVariable _).isTruthy_eq.trans (decide_eq_true hempty)
          rw [if_pos htruthy]
          rfl
  exact ⟨_, hvalue, stands_cons hargument
    (stands_cons (isTextOrNull_ofVariable setting) (stands_last hname))⟩

/-! ## The deciding values -/

/-- What the deciding repository makes of a run: its name has to have a slash. -/
def decidedRun (base head : Json) (number : Int) : Option Json → Except Fault RunContext
  | some (.str name) =>
    if '/' ∈ name.toList then .ok ⟨.str name, base, head, number⟩
    else .error (.runContext .noRepository)
  | _ => .error (.runContext .noRepository)

/-- What the four deciding values make of a run. -/
def decided : Option Json → Option Json → Option Json → Option Json → Except Fault RunContext
  | some base, some head, number, repository =>
    decidedNumber number >>= fun n => decidedRun base head n repository
  | _, _, _, _ => .error (.runContext .noRevisions)

/-- A repository is taken if its name, a text, has a slash. -/
theorem named_eq {sources : List Json} (htexts : ∀ v ∈ sources, IsTextOrNull v) {repository : Json}
    (hrepository : Stands repository (deciding sources)) (base head : Json) (n : Int) :
    (do
      if !repository.isTruthy then throw (.runContext .noRepository)
      if !(← hasSlash repository) then throw (.runContext .noRepository)
      return ⟨repository, base, head, n⟩ : Except Fault RunContext)
      = decidedRun base head n (deciding sources) := by
  cases hv : deciding sources with
  | none =>
    rw [hv] at hrepository
    rw [show repository.isTruthy = false from hrepository]
    rfl
  | some v =>
    obtain ⟨name, rfl, -⟩ := exists_of_deciding htexts hv
    rw [hv] at hrepository
    obtain ⟨rfl, htruthy⟩ := hrepository
    rw [htruthy]
    show (if (!name.toList.contains '/') = true then _ else _) = if '/' ∈ name.toList then _ else _
    by_cases hslash : '/' ∈ name.toList
    · rw [List.contains_iff_mem.mpr hslash, if_pos hslash]
      rfl
    · rw [Bool.eq_false_iff.mpr fun h => hslash (List.contains_iff_mem.mp h), if_neg hslash]
      rfl

section Payload

variable {event : Json} {request : RunRequest} (hkinds : IsEvent event)
  (hrequest : IsRequest request) (setting : Option String) (env : Environment)
include hkinds hrequest

/-- Repositories are chosen from texts. -/
theorem texts_repository :
    ∀ v ∈ (Sources.of setting env request event).repository, IsTextOrNull v :=
  List.forall_mem_cons.mpr ⟨hrequest.repository, List.forall_mem_cons.mpr
    ⟨isTextOrNull_ofVariable setting, List.forall_mem_singleton.mpr hkinds.fullName⟩⟩

theorem numerals_number :
    ∀ v ∈ (Sources.of setting env request event).number, IsNumeralOrNull v :=
  List.forall_mem_cons.mpr ⟨hrequest.number, List.forall_mem_cons.mpr ⟨hkinds.number,
    List.forall_mem_singleton.mpr (isTextOrNull_ofVariable _).isNumeralOrNull⟩⟩

/-- Each of the four is found out on its own. -/
theorem ofPayload_parts (hevent : event.IsObject) :
    ∃ base head repository, ofPayload event setting env request = (do
        if !base.isTruthy || !head.isTruthy then throw (.runContext .noRevisions)
        let number ← firstNumber ((Sources.of setting env request event).number.map .ok)
        if !repository.isTruthy then throw (.runContext .noRepository)
        if !(← hasSlash repository) then throw (.runContext .noRepository)
        return ⟨repository, base, head, number⟩) ∧
      Stands base (deciding (Sources.of setting env request event).base) ∧
      Stands head (deciding (Sources.of setting env request event).head) ∧
      Stands repository (deciding (Sources.of setting env request event).repository) := by
  obtain ⟨pr, hpr, hprObject, hmembers⟩ := part_eq hevent hkinds.pullRequest
  obtain ⟨base, hbase, hbaseStands⟩ := revision_eq "base" hrequest.base hprObject
    (by rw [hmembers]; exact hkinds.base) (by rw [hmembers]) hkinds.baseSha (env.value? "BASE_SHA")
  obtain ⟨head, hhead, hheadStands⟩ := revision_eq "head" hrequest.head hprObject
    (by rw [hmembers]; exact hkinds.head) (by rw [hmembers]) hkinds.headSha (env.value? "HEAD_SHA")
  obtain ⟨repository, hrepository, hstands⟩ := repositoryOf_eq hrequest.repository hevent
    hkinds.repository hkinds.fullName setting
  refine ⟨base, head, repository, ?_, hbaseStands, hheadStands, hstands⟩
  have hnumber : pr.member "number" = .ok ((event.getD "pull_request").getD "number") :=
    (hprObject.member_eq "number").trans (congrArg Except.ok (hmembers "number"))
  unfold ofPayload
  rw [hpr]
  show (revision request.base pr "base" _ >>= _) = _
  rw [hbase]
  show (revision request.head pr "head" _ >>= _) = _
  rw [hhead]
  show (if _ then _ else (firstNumber [_, pr.member "number", _] >>= _)) = _
  rw [hnumber, hrepository]
  rfl

/-- **The answer depends on the deciding values alone.** -/
theorem ofPayload_eq (hevent : event.IsObject) :
    ofPayload event setting env request
      = decided (deciding (Sources.of setting env request event).base)
          (deciding (Sources.of setting env request event).head)
          (deciding (Sources.of setting env request event).number)
          (deciding (Sources.of setting env request event).repository) := by
  obtain ⟨base, head, repository, hall, hbase, hhead, hrepository⟩ :=
    ofPayload_parts hkinds hrequest setting env hevent
  have htexts := texts_repository hkinds hrequest setting env
  rw [hall, firstNumber_eq (numerals_number hkinds hrequest setting env)]
  generalize (Sources.of setting env request event) = sources at *
  cases hb : deciding sources.base with
  | none =>
    rw [hb] at hbase
    rw [show base.isTruthy = false from hbase]
    rfl
  | some b =>
    rw [hb] at hbase
    obtain ⟨rfl, hbase⟩ := hbase
    cases hh : deciding sources.head with
    | none =>
      rw [hh] at hhead
      rw [hbase, show head.isTruthy = false from hhead]
      rfl
    | some h =>
      rw [hh] at hhead
      obtain ⟨rfl, hhead⟩ := hhead
      rw [hbase, hhead]
      show (decidedNumber (deciding sources.number) >>= _) = decidedNumber _ >>= _
      cases decidedNumber (deciding sources.number) with
      | error fault => rfl
      | ok n => exact named_eq htexts hrepository base head n

end Payload

/-! ## What is identified, and what is refused -/

namespace Sources

variable {s : Sources}

theorem Identify.not_lack {c : RunContext} (h : s.Identify c) : ¬ s.Lack := by
  obtain ⟨v, hv, hnumber⟩ := h.number
  obtain ⟨name, hname, hslash, -⟩ := h.repository
  rintro (hnone | hnone | hnone | ⟨htext, hread⟩ | hnone | ⟨hother, hno⟩)
  · exact absurd (h.base.symm.trans hnone) (Option.some_ne_none _)
  · exact absurd (h.head.symm.trans hnone) (Option.some_ne_none _)
  · exact absurd (hv.symm.trans hnone) (Option.some_ne_none _)
  · obtain rfl := Option.some.inj (hv.symm.trans htext)
    rcases hnumber with hint | ⟨text, htext, hok⟩
    · exact Json.noConfusion hint
    · obtain rfl := Json.str.inj htext
      exact absurd (hread.symm.trans hok) (by simp)
  · exact absurd (hname.symm.trans hnone) (Option.some_ne_none _)
  · obtain rfl := Json.str.inj (Option.some.inj (hname.symm.trans hother))
    exact hno hslash

/-- The deciding number can be read, or something is lacking. -/
theorem number_cases (h : ∀ v ∈ s.number, IsNumeralOrNull v) :
    (∃ v n, deciding s.number = some v ∧ Tells v n ∧ decidedNumber (deciding s.number) = .ok n) ∨
      s.Lack ∧ ∃ cause, decidedNumber (deciding s.number) = .error (.runContext cause) := by
  cases hv : deciding s.number with
  | none => exact Or.inr ⟨.number hv, _, rfl⟩
  | some v =>
    rcases h v (List.mem_of_find?_eq_some hv) with rfl | ⟨n, rfl⟩ | ⟨text, rfl⟩
    · exact absurd (List.find?_some hv) Bool.false_ne_true
    · exact Or.inl ⟨_, n, rfl, Or.inl rfl, rfl⟩
    · have hnumber : decidedNumber (some (.str text))
          = (Numeral.readInt text).mapError fun _ => .runContext (.badNumber (.str text)) := rfl
      rw [hnumber]
      cases hread : Numeral.readInt text with
      | ok n => exact Or.inl ⟨_, n, rfl, Or.inr ⟨text, rfl, hread⟩, rfl⟩
      | error fault => exact Or.inr ⟨.numeral hv hread, _, rfl⟩

/-- The deciding repository has a slash, or something is lacking. -/
theorem repository_cases (h : ∀ v ∈ s.repository, IsTextOrNull v) :
    (∃ name, deciding s.repository = some (.str name) ∧ '/' ∈ name.toList) ∨
      s.Lack ∧ ∀ base head n, decidedRun base head n (deciding s.repository)
        = .error (.runContext .noRepository) := by
  cases hv : deciding s.repository with
  | none => exact Or.inr ⟨.repository hv, fun _ _ _ => rfl⟩
  | some v =>
    obtain ⟨name, rfl, -⟩ := exists_of_deciding h hv
    by_cases hslash : '/' ∈ name.toList
    · exact Or.inl ⟨name, rfl, hslash⟩
    · exact Or.inr ⟨.slash hv hslash, fun _ _ _ => if_neg hslash⟩

/-- **The sources identify a run, or they lack something** and it is refused. -/
theorem decided_cases (hnumber : ∀ v ∈ s.number, IsNumeralOrNull v)
    (hrepository : ∀ v ∈ s.repository, IsTextOrNull v) :
    (∃ c, decided (deciding s.base) (deciding s.head) (deciding s.number) (deciding s.repository)
        = .ok c ∧ s.Identify c) ∨
      s.Lack ∧ ∃ cause, decided (deciding s.base) (deciding s.head) (deciding s.number)
        (deciding s.repository) = .error (.runContext cause) := by
  cases hb : deciding s.base with
  | none => exact Or.inr ⟨.base hb, _, rfl⟩
  | some base =>
    cases hh : deciding s.head with
    | none => exact Or.inr ⟨.head hh, _, rfl⟩
    | some head =>
      show (∃ c, (decidedNumber _ >>= fun n => decidedRun base head n _) = .ok c ∧ _) ∨
        _ ∧ ∃ cause, (decidedNumber _ >>= fun n => decidedRun base head n _) = _
      rcases number_cases hnumber with ⟨v, n, hv, htells, hn⟩ | ⟨hlack, cause, hcause⟩
      · rw [hn]
        rcases repository_cases hrepository with ⟨name, hname, hslash⟩ | ⟨hlack, hnone⟩
        · refine Or.inl ⟨⟨.str name, base, head, n⟩, ?_, hb, hh, ⟨v, hv, htells⟩, name, hname,
            hslash, rfl⟩
          rw [hname]
          exact if_pos hslash
        · exact Or.inr ⟨hlack, _, hnone base head n⟩
      · rw [hcause]
        exact Or.inr ⟨hlack, cause, rfl⟩

end Sources

/-- The pull request of a run that is identified. -/
theorem pullRequest_of_slash {c : RunContext} {name : String} (hname : c.repository = .str name)
    (hslash : '/' ∈ name.toList) :
    ∃ pr, c.pullRequest = .ok pr ∧ pr.fullName = name ∧ '/' ∉ pr.owner.toList ∧
      pr.number = c.number ∧ pr.head = c.head := by
  unfold pullRequest
  rw [hname]
  exact PullRequest.ofFullName_eq_ok hslash c.number c.head

/-- What is read of an event is an object, an empty one if there is none. -/
theorem returns_eventPayload {σ : Type} (depth : Nat) (path : Option Path) :
    Act.Returns (eventPayload depth path : Act σ Json) Json.IsObject := by
  have hnone : Act.Returns (pure (.obj []) : Act σ Json) Json.IsObject :=
    Act.returns_pure ⟨[], rfl⟩
  unfold eventPayload
  cases path with
  | none => exact hnone
  | some path =>
    have hunreadable : Act.Returns
        (Logger.warning {} s!"Could not read event payload at {path}" >>= fun _ =>
          (pure (.obj []) : Act σ Json)) Json.IsObject := Act.returns_bind fun _ => hnone
    refine Act.returns_bind fun found => ?_
    split
    · exact hnone
    refine Act.returns_bind fun tree => ?_
    dsimp only
    split
    · exact Act.returns_pure ⟨_, rfl⟩
    · exact hnone
    · split
      · exact hunreadable
      · exact Act.returns_throw _
    · exact hunreadable

/-- An event whose file is there is what its text says. -/
theorem runOn_eventPayload {σ : Type} {depth : Nat} {path : Path} {w : World σ}
    {place : List String} {text : String} {members : List (String × Json)}
    (hwalk : w.tree.walk path true = .ok ⟨place, some (.file text.toByteArray)⟩)
    (hread : Json.read depth text = .ok (.obj members)) :
    (eventPayload depth (some path)).runOn w = (.ok (.obj members), w) := by
  have hfound : w.tree.probeFile path = .ok true := by
    unfold Tree.probeFile
    rw [hwalk]
  have hprobe : (Act.probeFile path : Act σ Bool).runOn w = (.ok true, w) := by
    show ((w.tree.probeFile path).mapError Fault.file, w) = _
    rw [hfound]
    rfl
  have hcontent : w.tree.content? path = some text.toByteArray := by
    unfold Tree.content? Tree.find?
    rw [hwalk]
  have htext : String.fromUTF8? text.toByteArray = some text := dif_pos text.isValidUTF8
  have htree : (Act.tree : Act σ Tree).runOn w = (.ok w.tree, w) := rfl
  unfold eventPayload
  dsimp only
  rw [Act.runOn_bind_ok hprobe]
  show ((Act.tree >>= fun tree => _) : Act σ Json).runOn w = _
  rw [Act.runOn_bind_ok htree, hcontent, Option.bind_some, htext, Option.map_some, hread]
  rfl

/-- Once the payload is there, the run is about what the deciding values make of it. -/
theorem runOn_resolve {σ : Type} (depth : Nat) (path : Option Path) (setting : Option String)
    (env : Environment) (request : RunRequest) {w w' : World σ} {event : Json}
    (hevent : (eventPayload depth path).runOn w = (.ok event, w')) (hkinds : IsEvent event)
    (hrequest : IsRequest request) :
    (resolve depth path setting env request).runOn w
      = (decided (deciding (Sources.of setting env request event).base)
          (deciding (Sources.of setting env request event).head)
          (deciding (Sources.of setting env request event).number)
          (deciding (Sources.of setting env request event).repository), w') := by
  have hobject : event.IsObject := returns_eventPayload depth path w event w' hevent
  unfold resolve
  rw [Act.runOn_bind_ok hevent, Act.runOn_liftM,
    ofPayload_eq hkinds hrequest setting env hobject]

/-- **The first source that gives something decides.** A run is about what the deciding sources
say, and its pull request has the repository for its full name. It is refused just if a deciding
source lacks something, and what stands behind a deciding source does not count. -/
theorem resolve_identity {σ : Type} (depth : Nat) (path : Option Path) (setting : Option String)
    (env : Environment) (request : RunRequest) {w w' : World σ} {event : Json}
    (hevent : (eventPayload depth path).runOn w = (.ok event, w')) (hkinds : IsEvent event)
    (hrequest : IsRequest request) :
    (∀ c, (resolve depth path setting env request).runOn w = (.ok c, w') →
      (Sources.of setting env request event).Identify c ∧
        ∃ pr name, c.pullRequest = .ok pr ∧ c.repository = .str name ∧ pr.fullName = name ∧
          '/' ∉ pr.owner.toList ∧ pr.number = c.number ∧ pr.head = c.head) ∧
    ((∃ c, (resolve depth path setting env request).runOn w = (.ok c, w')) ∨
      ∃ cause, (resolve depth path setting env request).runOn w
        = (.error (.runContext cause), w')) ∧
    ((∃ cause, (resolve depth path setting env request).runOn w
        = (.error (.runContext cause), w')) ↔
      (Sources.of setting env request event).Lack) ∧
    (∀ (depth₂ : Nat) (path₂ : Option Path) (setting₂ : Option String) (env₂ : Environment)
      (request₂ : RunRequest) (w₂ w₂' : World σ) (event₂ : Json),
      (eventPayload depth₂ path₂).runOn w₂ = (.ok event₂, w₂') →
      IsEvent event₂ → IsRequest request₂ →
      (Sources.of setting env request event).SameToGiven
        (Sources.of setting₂ env₂ request₂ event₂) →
      ((resolve depth₂ path₂ setting₂ env₂ request₂).runOn w₂).1
        = ((resolve depth path setting env request).runOn w).1) := by
  have hrun := runOn_resolve depth path setting env request hevent hkinds hrequest
  have hstable : ∀ (depth₂ : Nat) (path₂ : Option Path) (setting₂ : Option String)
      (env₂ : Environment) (request₂ : RunRequest) (w₂ w₂' : World σ) (event₂ : Json),
      (eventPayload depth₂ path₂).runOn w₂ = (.ok event₂, w₂') →
      IsEvent event₂ → IsRequest request₂ →
      (Sources.of setting env request event).SameToGiven
        (Sources.of setting₂ env₂ request₂ event₂) →
      ((resolve depth₂ path₂ setting₂ env₂ request₂).runOn w₂).1
        = ((resolve depth path setting env request).runOn w).1 := by
    intro depth₂ path₂ setting₂ env₂ request₂ w₂ w₂' event₂ hevent₂ hkinds₂ hrequest₂ hsame
    rw [hrun, runOn_resolve depth₂ path₂ setting₂ env₂ request₂ hevent₂ hkinds₂ hrequest₂,
      hsame.base.deciding_eq, hsame.head.deciding_eq, hsame.number.deciding_eq,
      hsame.repository.deciding_eq]
  rcases Sources.decided_cases (numerals_number hkinds hrequest setting env)
    (texts_repository hkinds hrequest setting env) with ⟨c, hc, hidentify⟩ | ⟨hlack, cause, hcause⟩
  · -- everything is given: the one context there is comes from the deciding sources
    rw [hc] at hrun
    refine ⟨fun c' hc' => ?_, Or.inl ⟨c, hrun⟩, ⟨?_, fun hlack => ?_⟩, hstable⟩
    · obtain rfl := Except.ok.inj (Prod.mk.inj (hrun.symm.trans hc')).1
      obtain ⟨name, -, hslash, hname⟩ := hidentify.repository
      obtain ⟨pr, hpr, hfull, howner, hnumber, hhead⟩ := pullRequest_of_slash hname hslash
      exact ⟨hidentify, pr, name, hpr, hname, hfull, howner, hnumber, hhead⟩
    · rintro ⟨cause, herror⟩
      exact absurd (Prod.mk.inj (hrun.symm.trans herror)).1 (by simp)
    · exact absurd hlack hidentify.not_lack
  · -- something is lacking: no context comes out
    rw [hcause] at hrun
    refine ⟨fun c hc => ?_, Or.inr ⟨cause, hrun⟩, ⟨fun _ => hlack, fun _ => ⟨cause, hrun⟩⟩, hstable⟩
    exact absurd (Prod.mk.inj (hrun.symm.trans hc)).1 (by simp)

def eventText : String := "\x7b\"pull_request\": \x7b\"number\": 7\x7d\x7d"

/-- The only file of this tree tells of pull request 7. -/
def eventWorld : World Unit := ⟨(), ⟨.dir [("event.json", .file eventText.toByteArray)], []⟩, {}⟩

def eventPath : Path := (Path.absolute []).child "event.json"

def eventRead : Json := .obj [("pull_request", .obj [("number", .int 7)])]

/-- Variables that stand behind what is given; the number could not be read. -/
def hiddenVariables : Environment := [("BASE_SHA", "old"), ("PR_NUMBER", "seven")]

def revisionsRequest : RunRequest := ⟨.str "b", .str "h", .null, .null⟩

theorem resolve_identity_event :
    (eventPayload Json.usualDepth (some eventPath)).runOn eventWorld = (.ok eventRead, eventWorld) ∧
    IsEvent eventRead ∧ IsRequest revisionsRequest ∧
    (Sources.of (some "o/r") hiddenVariables revisionsRequest eventRead).Identify
      ⟨.str "o/r", .str "b", .str "h", 7⟩ ∧
    ((resolve Json.usualDepth (some eventPath) (some "o/r") [] revisionsRequest).runOn eventWorld).1
      = .ok ⟨.str "o/r", .str "b", .str "h", 7⟩ := by
  have hname : Tree.IsName "event.json" := ⟨by decide, by decide, by decide⟩
  have hchild : (Node.dir [("event.json", .file eventText.toByteArray)]).child? "event.json"
      = some (.file eventText.toByteArray) := rfl
  have hwalk : eventWorld.tree.walk eventPath true
      = .ok ⟨["event.json"], some (.file eventText.toByteArray)⟩ :=
    Tree.walk_top hname (fun target => by rw [hchild]; simp) true
  have hread : Json.read Json.usualDepth eventText = .ok eventRead := by cbv
  have hevent : (eventPayload Json.usualDepth (some eventPath)).runOn eventWorld
      = (.ok eventRead, eventWorld) := runOn_eventPayload hwalk hread
  have hkinds : IsEvent eventRead :=
    ⟨Or.inr ⟨_, rfl⟩, Or.inl rfl, Or.inl rfl, Or.inl rfl, Or.inl rfl, Or.inr (Or.inl ⟨7, rfl⟩),
      Or.inl rfl, Or.inl rfl⟩
  have hrequest : IsRequest revisionsRequest :=
    ⟨Or.inr ⟨"b", rfl⟩, Or.inr ⟨"h", rfl⟩, Or.inl rfl, Or.inl rfl⟩
  obtain ⟨hidentify, -, -, hstable⟩ := resolve_identity Json.usualDepth (some eventPath)
    (some "o/r") hiddenVariables revisionsRequest hevent hkinds hrequest
  have hrun : (resolve Json.usualDepth (some eventPath) (some "o/r") hiddenVariables
      revisionsRequest).runOn eventWorld = (.ok ⟨.str "o/r", .str "b", .str "h", 7⟩, eventWorld) :=
    runOn_resolve _ _ _ _ _ hevent hkinds hrequest
  have hsame : (Sources.of (some "o/r") hiddenVariables revisionsRequest eventRead).SameToGiven
      (Sources.of (some "o/r") [] revisionsRequest eventRead) :=
    ⟨.behind (v := .str "b") rfl [] _ _, .same _,
      .behind (v := .int 7) rfl [.null] _ _, .same _⟩
  refine ⟨hevent, hkinds, hrequest, (hidentify _ hrun).1, ?_⟩
  rw [hstable _ _ _ _ _ _ _ _ hevent hkinds hrequest hsame, hrun]

end RunContext

end PullReview
