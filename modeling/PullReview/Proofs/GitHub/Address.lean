import Mathlib.Data.List.TakeWhile
import PullReview.GitHub.Client
import PullReview.Proofs.Number.Digits
import PullReview.Proofs.Url.Path

/-!
# Addresses below a base address

A base address in normal form (`Base.IsSite`) stays in front of every request:
scheme, user, host and port of a request are its own, whatever the request is
for, as long as that is printable and not too long (`address_ok`). A request for
plain segments goes to just these, behind the segments of the base
(`address_segmentPath`).
-/

namespace PullReview.GitHub

open Text Url

/-! ## Parts of a reference -/

/-- Path and query are read apart from the rest, which needs a scheme for it. -/
theorem ofParts_eq_map {scheme authority path : List Char} (hscheme : scheme ≠ [])
    (hpath : path = [] ∨ path.head? = some '/') (query : Option (List Char)) :
    Reference.ofParts scheme authority path query
      = (Reference.ofParts scheme authority ['/'] none).map fun r =>
          { r with
            path := String.ofList (escapedPath (withoutDotSegments path))
            query := query.map fun q => String.ofList (escapedQuery q) } := by
  have hguard : ∀ hasHost : Bool,
      (hasHost && !path.isEmpty && decide (path.head? ≠ some '/')) = false := by
    intro hasHost
    rcases hpath with rfl | hhead
    · simp
    · simp [hhead]
  have hnamed : scheme.isEmpty = false := by simp [hscheme]
  unfold Reference.ofParts
  dsimp only
  generalize cutAtLast '@' authority = cut
  simp only [hguard, hnamed, Bool.and_false, Bool.not_false, Bool.or_true, if_true,
    Bool.false_eq_true, if_false, bind, Except.bind]
  -- whether a host was found no longer shows
  split
  · rfl
  · split
    · rfl
    · simp [Except.map, pure, Except.pure]

/-- What stands in front of query and fragment. -/
def pathPart (cs : List Char) : List Char := cs.takeWhile fun c => c ≠ '?' && c ≠ '#'

/-- What stands between the question mark and the fragment. -/
def queryPart (cs : List Char) : Option (List Char) :=
  match cs.drop (pathPart cs).length with
  | '?' :: more => some (more.takeWhile (· ≠ '#'))
  | _ => none

theorem pathPart_isPrefix (cs : List Char) : pathPart cs <+: cs := List.takeWhile_prefix _

theorem head?_pathPart {cs : List Char} {first : Char} (h : cs.head? ≠ some first) :
    (pathPart cs).head? ≠ some first := by
  intro hfirst
  obtain ⟨rest, hrest⟩ := pathPart_isPrefix cs
  rw [← hrest, List.head?_append, hfirst] at h
  exact h rfl

theorem length_queryPart_le {cs q : List Char} (h : queryPart cs = some q) :
    q.length ≤ cs.length := by
  unfold queryPart at h
  split at h
  · next more hmore =>
    obtain rfl := Option.some.inj h
    have hdrop := congrArg List.length hmore
    have htake : (more.takeWhile (· ≠ '#')).length ≤ more.length :=
      (List.takeWhile_prefix _).length_le
    rw [List.length_drop, List.length_cons] at hdrop
    omega
  · exact absurd h (by simp)

/-- Characters that are not for control. -/
def isPrintable (c : Char) : Bool := !(c.toNat < 0x20 || c.toNat = 0x7f)

theorem isPrintable_of_inPath {c : Char} (h : inPath c = true) : isPrintable c = true := by
  simp only [inPath, visibleBut, Bool.and_eq_true, decide_eq_true_eq] at h
  simp only [isPrintable, Bool.not_eq_true', Bool.or_eq_false_iff, decide_eq_false_iff_not]
  omega

/-- A printable path from the root on, not too long. -/
def IsRooted (url : String) : Prop :=
  ∃ cs, url.toList = '/' :: cs ∧ cs.head? ≠ some '/' ∧ (∀ c ∈ cs, isPrintable c = true) ∧
    cs.length ≤ 5000

/-- A printable text of at most some length. -/
def IsShort (n : Nat) (s : String) : Prop :=
  (∀ c ∈ s.toList, isPrintable c = true) ∧ s.toList.length ≤ n

theorem isShort_of_all {n : Nat} {s : String} (h : s.toList.all isPrintable = true)
    (hlength : s.toList.length ≤ n) : IsShort n s := ⟨List.all_eq_true.mp h, hlength⟩

theorem IsShort.append {s t : String} {m n : Nat} (hs : IsShort m s) (ht : IsShort n t) :
    IsShort (m + n) (s ++ t) := by
  refine ⟨fun c hc => ?_, ?_⟩
  · rw [String.toList_append] at hc
    exact (List.mem_append.mp hc).elim (hs.1 c) (ht.1 c)
  · rw [String.toList_append, List.length_append]
    exact Nat.add_le_add hs.2 ht.2

theorem isShort_number {n : Int} {k : Nat} (h : (toString n).toList.length ≤ k) :
    IsShort k (toString n) := by
  refine ⟨fun c hc => ?_, h⟩
  rcases mem_intText hc with rfl | hdigit
  · decide
  · refine isPrintable_of_inPath (inPath_of_isUnreserved ?_)
    simp [isUnreserved, Char.isAlphanum, hdigit]

/-- A short text with a slash in front, and one only. -/
theorem isRooted_append {front rest : String} {c : Char} {cs : List Char} {m n : Nat}
    (hcons : front.toList = '/' :: c :: cs) (hc : c ≠ '/') (hfront : IsShort m front)
    (hrest : IsShort n rest) (hlength : m + n ≤ 5000) : IsRooted (front ++ rest) := by
  obtain ⟨hprintable, hshort⟩ := hfront.append hrest
  have hlist : (front ++ rest).toList = '/' :: (c :: cs ++ rest.toList) := by
    rw [String.toList_append, hcons]
    rfl
  refine ⟨c :: cs ++ rest.toList, hlist, by simpa using hc, fun d hd => ?_, ?_⟩
  · exact hprintable d (hlist ▸ List.mem_cons_of_mem _ hd)
  · have htotal := congrArg List.length hlist
    rw [List.length_cons] at htotal
    omega

/-- A path from the root on has neither scheme nor host. -/
theorem ofParts_rooted {cs : List Char} (hslash : cs.head? ≠ some '/')
    (query : Option (List Char)) :
    Reference.ofParts [] [] ('/' :: cs) query = .ok {
      path := String.ofList (escapedPath ('/' :: cs))
      query := query.map fun q => String.ofList (escapedQuery q) } := by
  have htwo : ('/' :: cs).take 2 ≠ ['/', '/'] := by
    cases cs with
    | nil => simp
    | cons c cs => simpa using hslash
  have hcut : cutAtLast '@' [] = (none, []) := rfl
  have huser : String.ofList (escapedUser []) = "" := rfl
  have hhost : hostOf [] = .ok "" := rfl
  have hport : portOf (String.ofList []) [] = .ok none := rfl
  unfold Reference.ofParts
  simp only [hcut]
  simp [huser, hhost, hport, htwo, bind, Except.bind, pure, Except.pure, -List.take_succ_cons]

theorem ofString_rooted {url : String} {cs : List Char} (hurl : url.toList = '/' :: cs)
    (hslash : cs.head? ≠ some '/') (hprintable : ∀ c ∈ cs, isPrintable c = true)
    (hlength : url.toList.length ≤ maxLength) :
    Reference.ofString url = .ok {
      path := String.ofList (escapedPath ('/' :: pathPart cs))
      query := (queryPart cs).map fun q => String.ofList (escapedQuery q) } := by
  have hcontrol : url.toList.find? (fun c => decide (c.toNat < 0x20) || decide (c.toNat = 0x7f))
      = none := by
    rw [List.find?_eq_none, hurl]
    intro c hc
    rcases List.mem_cons.mp hc with rfl | hc
    · decide
    · have := hprintable c hc
      simpa [isPrintable] using this
  have hscheme : cutScheme url.toList = ([], '/' :: cs) := by
    rw [hurl]
    simp [cutScheme]
  unfold Reference.ofString
  simp only [hcontrol, hscheme, if_neg (Nat.not_lt.mpr hlength)]
  split
  · next rest heq => exact absurd (by rw [(List.cons.inj heq).2]; rfl) hslash
  · exact ofParts_rooted (head?_pathPart hslash) _

/-! ## Below a base address -/

/-- A base address in normal form: user, host and port are written as they are read
again, and plain segments come in front. -/
structure Base.IsSite (b : Base) (front : List (List Char)) : Prop where
  scheme : b.root.scheme ≠ "" ∧ '/' ∉ b.root.scheme.toList ∧ ':' ∉ b.root.scheme.toList
  parts : Reference.ofParts b.root.scheme.toList b.root.authority.toList ['/'] none
    = .ok { b.root with path := "/", query := none }
  place : headerFault? b.root.place = none
  path : b.root.path.toList = segmentPath front ++ ['/']
  front : ∀ s ∈ front, IsSegment s
  query : b.root.query = none
  short : b.root.authority.toList.length ≤ 4096 ∧ b.root.path.toList.length ≤ 4096

/-- A path behind that of a base address, without dot segments. -/
def Base.below (b : Base) (path : List Char) : List Char :=
  withoutDotSegments (b.root.path.toList ++ path)

/-- A query behind its question mark. -/
def queryChars (query : Option String) : List Char :=
  match query with
  | some q => '?' :: q.toList
  | none => []

/-- The target of a path from the root on, less the slash in front. -/
theorem target_rooted {cs : List Char} (hslash : cs.head? ≠ some '/') (query : Option String) :
    (Reference.target {
        path := String.ofList (escapedPath ('/' :: cs))
        query := query }).toList.dropWhile (· = '/')
      = escapedPath cs ++ queryChars query := by
  have hfirst : escapedPath ('/' :: cs) = '/' :: escapedPath cs := rfl
  have hpath : String.ofList (escapedPath ('/' :: cs)) ≠ "" := by
    rw [hfirst]
    intro h
    have hnil := congrArg String.toList h
    rw [String.toList_ofList] at hnil
    exact absurd hnil (by simp)
  have hquery : (Reference.queryText {
      path := String.ofList (escapedPath ('/' :: cs)), query := query }).toList
        = queryChars query := by
    unfold Reference.queryText queryChars
    cases query with
    | none => rfl
    | some q => simp [String.toList_append]
  have hhead : (escapedPath cs ++ queryChars query).head? ≠ some '/' := by
    cases hcs : escapedPath cs with
    | nil => cases query <;> simp [queryChars]
    | cons c rest =>
      have hc : (escapedPath cs).head? ≠ some '/' := head?_escape (by decide) hslash
      rw [hcs] at hc
      simpa using hc
  unfold Reference.target
  rw [if_neg hpath, String.toList_append, String.toList_ofList, hquery, hfirst]
  rw [List.cons_append, List.dropWhile_cons_of_pos (by simp)]
  cases hrest : escapedPath cs ++ queryChars query with
  | nil => rfl
  | cons c rest =>
    rw [hrest] at hhead
    exact List.dropWhile_cons_of_neg (by simpa using hhead)

/-- The query that parameters make. -/
def queryOf (params : List (String × String)) : String :=
  Text.join "&" (params.map fun (k, v) => k ++ "=" ++ v)

/-- What a request for a page asks for. -/
def pageParams (page : Nat) : List (String × String) :=
  [("per_page", toString pageSize), ("page", toString page)]

/-- The query of a page. -/
theorem queryOf_page (page : Nat) :
    queryOf (pageParams page) = "per_page=100&page=" ++ toString page := by
  have hsize : toString pageSize = "100" := by decide
  have hfront : "per_page" ++ "=" ++ "100" ++ "&" ++ "page" ++ "=" = "per_page=100&page=" := by
    decide
  unfold pageParams
  rw [hsize, ← hfront]
  simp only [queryOf, Text.join, List.map_cons, List.map_nil, String.intercalate_cons_cons,
    String.intercalate_singleton, String.append_assoc]

theorem length_queryOf_page (page : Nat) (hpage : (toString page).toList.length ≤ 60000) :
    (queryOf (pageParams page)).toList.length ≤ maxLength := by
  rw [queryOf_page, String.toList_append, List.length_append]
  have hfront : "per_page=100&page=".toList.length = 18 := by decide
  unfold maxLength
  omega

theorem escapedQuery_page (page : Nat) :
    escapedQuery (queryOf (pageParams page)).toList = (queryOf (pageParams page)).toList := by
  have hfront : "per_page=100&page=".toList.all inPath = true := by decide
  refine escapedQuery_eq_self fun c hc => ?_
  rw [queryOf_page, String.toList_append] at hc
  rcases List.mem_append.mp hc with hc | hc
  · exact List.all_eq_true.mp hfront c hc
  · refine inPath_of_isUnreserved ?_
    simp [isUnreserved, Char.isAlphanum, mem_natText hc]

/-- Parameters whose query is sent as it is. -/
structure AreSendable (params : List (String × String)) : Prop where
  length : (queryOf params).toList.length ≤ maxLength
  plain : escapedQuery (queryOf params).toList = (queryOf params).toList

theorem areSendable_nil : AreSendable [] := ⟨by decide, rfl⟩

theorem areSendable_page {page : Nat} (hpage : (toString page).toList.length ≤ 60000) :
    AreSendable (pageParams page) :=
  ⟨length_queryOf_page page hpage, escapedQuery_page page⟩

section Site

variable {b : Base} {front : List (List Char)} (h : b.IsSite front)
include h

theorem ofParts_site {path : List Char} (hpath : path = [] ∨ path.head? = some '/')
    (query : Option (List Char)) :
    Reference.ofParts b.root.scheme.toList b.root.authority.toList path query
      = .ok { b.root with
          path := String.ofList (escapedPath (withoutDotSegments path))
          query := query.map fun q => String.ofList (escapedQuery q) } := by
  have hscheme : b.root.scheme.toList ≠ [] := fun e => h.scheme.1 (String.toList_eq_nil_iff.mp e)
  rw [ofParts_eq_map hscheme hpath, h.parts]
  rfl

theorem withPath_site (old : String) (oldQuery : Option String) {path : List Char}
    (hpath : path = [] ∨ path.head? = some '/') (query : Option (List Char))
    (hlength : path.length ≤ maxLength) (hquery : (query.getD []).length ≤ maxLength) :
    Reference.withPath { b.root with path := old, query := oldQuery } path query
      = .ok { b.root with
          path := String.ofList (escapedPath (withoutDotSegments path))
          query := query.map fun q => String.ofList (escapedQuery q) } := by
  have hauthority : Reference.authority { b.root with path := old, query := oldQuery }
      = b.root.authority := rfl
  have hshort : b.root.authority.toList.length ≤ maxLength :=
    Nat.le_trans h.short.1 (Nat.le_of_ble_eq_true rfl)
  unfold Reference.withPath
  simp only [hauthority, if_neg (Nat.not_lt.mpr hshort), if_neg (Nat.not_lt.mpr hlength),
    if_neg (Nat.not_lt.mpr hquery)]
  exact ofParts_site h hpath query

theorem inPath_site {c : Char} (hc : c ∈ b.root.path.toList) : inPath c = true := by
  rw [h.path] at hc
  rcases List.mem_append.mp hc with hc | hc
  · exact inPath_of_mem_segmentPath h.front hc
  · rw [List.mem_singleton.mp hc]
    decide

theorem path_site : ∃ rest, b.root.path.toList = '/' :: rest := by
  rw [h.path]
  cases front with
  | nil => exact ⟨[], rfl⟩
  | cons s front => exact ⟨s ++ segmentPath front ++ ['/'], rfl⟩

theorem target_site : b.root.target.toList = b.root.path.toList := by
  obtain ⟨rest, hrest⟩ := path_site h
  have hne : b.root.path ≠ "" := fun e => by rw [e] at hrest; exact absurd hrest (by simp)
  unfold Reference.target Reference.queryText
  rw [if_neg hne, h.query, String.toList_append]
  exact List.append_nil _

section Below

variable {path : List Char}

theorem inPath_below (hpath : ∀ c ∈ path, inPath c = true) {c : Char} (hc : c ∈ b.below path) :
    inPath c = true := by
  rcases List.mem_append.mp ((withoutDotSegments_sublist _).subset hc) with hc | hc
  · exact inPath_site h hc
  · exact hpath c hc

theorem below_slash : b.below path = [] ∨ (b.below path).head? = some '/' := by
  obtain ⟨rest, hrest⟩ := path_site h
  unfold Base.below
  rw [hrest]
  exact withoutDotSegments_slash _

theorem length_below_le (hlength : path.length ≤ 60000) : (b.below path).length ≤ maxLength := by
  have hsub := (withoutDotSegments_sublist (b.root.path.toList ++ path)).length_le
  have hfront := h.short.2
  rw [List.length_append] at hsub
  unfold Base.below maxLength
  omega

end Below

/-- The request for a path goes below the base. -/
theorem withTarget_site {path : List Char} (query : Option String)
    (hpath : ∀ c ∈ path, inPath c = true)
    (hlength : path.length ≤ 60000) (hquery : (queryChars query).length ≤ maxLength) :
    b.root.withTarget (b.root.path.toList ++ path ++ queryChars query)
      = .ok { b.root with
          path := String.ofList (b.below path)
          query := query.map fun q => String.ofList (escapedQuery q.toList) } := by
  have hmark : ∀ c ∈ b.root.path.toList ++ path, decide (c ≠ '?') = true := by
    intro c hc
    rcases List.mem_append.mp hc with hc | hc
    · exact decide_eq_true (ne_of_inPath (inPath_site h hc)).1
    · exact decide_eq_true (ne_of_inPath (hpath c hc)).1
  have hcut : (b.root.path.toList ++ path ++ queryChars query).takeWhile (· ≠ '?')
      = b.root.path.toList ++ path := by
    rw [List.takeWhile_append_of_pos hmark]
    cases query with
    | none => simp [queryChars]
    | some q => simp [queryChars]
  have hslash : (b.root.path.toList ++ path).head? = some '/' := by
    obtain ⟨rest, hrest⟩ := path_site h
    rw [hrest]
    rfl
  have hshort : (b.root.path.toList ++ path).length ≤ maxLength := by
    have hfront := h.short.2
    rw [List.length_append]
    unfold maxLength
    omega
  unfold Reference.withTarget
  dsimp only
  rw [hcut, List.drop_left]
  have hroot := withPath_site h b.root.path b.root.query (Or.inr hslash)
  have hclean : escapedPath (withoutDotSegments (b.root.path.toList ++ path)) = b.below path :=
    escapedPath_eq_self fun c hc => inPath_below h hpath hc
  rw [hclean] at hroot
  cases query with
  | none => exact hroot none hshort (Nat.zero_le _)
  | some q =>
    refine hroot (some q.toList) hshort (Nat.le_trans ?_ hquery)
    exact Nat.le_succ _

/-- Where a request goes: below the base, and the parameters take the place of the
query. -/
theorem address_eq {url : String} {cs : List Char} (hurl : url.toList = '/' :: cs)
    (hslash : cs.head? ≠ some '/') (hprintable : ∀ c ∈ cs, isPrintable c = true)
    (hlength : cs.length < maxLength) (hescaped : (escapedPath (pathPart cs)).length ≤ 60000)
    (hquery : ∀ q, queryPart cs = some q → q.length ≤ 5000) (params : List (String × String))
    (hparams : (queryOf params).toList.length ≤ maxLength) :
    b.address url params = .ok (
      if params.isEmpty then
        { b.root with
          path := String.ofList (b.below (escapedPath (pathPart cs)))
          query := (queryPart cs).map fun q => String.ofList (escapedQuery (escapedQuery q)) }
      else
        { b.root with
          path := String.ofList
            (escapedPath (withoutDotSegments (b.below (escapedPath (pathPart cs)))))
          query := some (String.ofList (escapedQuery (queryOf params).toList)) }) := by
  have hshort : (queryChars ((queryPart cs).map fun q => String.ofList (escapedQuery q))).length
      ≤ maxLength := by
    cases hq : queryPart cs with
    | none => exact Nat.zero_le _
    | some q =>
      have hlong := length_escape_le (visibleBut "\"#<>".toList) q
      have hpartial := hquery q hq
      rw [Option.map_some, queryChars, String.toList_ofList, List.length_cons]
      unfold escapedQuery maxLength
      omega
  -- what the request is for, on its own
  have hbelow := ofString_rooted hurl hslash hprintable (by
    rw [hurl, List.length_cons]
    exact hlength)
  have htarget := target_rooted (head?_pathPart hslash)
    ((queryPart cs).map fun q => String.ofList (escapedQuery q))
  -- the base in front of it
  have hwhole := withTarget_site h _ (fun _ => inPath_of_mem_escapedPath) hescaped hshort
  have hlast := withPath_site h (String.ofList (b.below (escapedPath (pathPart cs))))
    (((queryPart cs).map fun q => String.ofList (escapedQuery q)).map fun q =>
      String.ofList (escapedQuery q.toList)) (below_slash h) (some (queryOf params).toList)
    (length_below_le h hescaped) hparams
  rw [List.append_assoc] at hwhole
  unfold Base.address
  rw [hbelow]
  simp only [Except.mapError, bind, Except.bind]
  rw [htarget, target_site h, hwhole]
  dsimp only
  split
  · simp [pure, Except.pure, Option.map_map, Function.comp_def]
  · rw [String.toList_ofList]
    unfold queryOf at hlast
    rw [hlast]
    rfl

/-- A request for plain segments goes to these, behind those of the base. -/
theorem address_segmentPath {first : List Char} {rest : List (List Char)} (hfirst : first ≠ [])
    (hsegments : ∀ s ∈ first :: rest, IsSegment s)
    (hlength : (segmentPath (first :: rest)).length ≤ 60000)
    {params : List (String × String)} (hparams : AreSendable params) :
    b.address (String.ofList (segmentPath (first :: rest))) params = .ok { b.root with
      path := String.ofList (segmentPath (front ++ first :: rest))
      query := if params.isEmpty then none else some (queryOf params) } := by
  have hcons : segmentPath (first :: rest) = '/' :: (first ++ segmentPath rest) :=
    List.flatMap_cons ..
  have hin : ∀ c ∈ first ++ segmentPath rest, inPath c = true := fun c hc =>
    inPath_of_mem_segmentPath hsegments (hcons ▸ List.mem_cons_of_mem _ hc)
  have hprintable : ∀ c ∈ first ++ segmentPath rest, isPrintable c = true := fun c hc =>
    isPrintable_of_inPath (hin c hc)
  have hslash : (first ++ segmentPath rest).head? ≠ some '/' := by
    obtain ⟨c, cs, hc⟩ := List.exists_cons_of_ne_nil hfirst
    have hunreserved := (hsegments first (List.mem_cons_self ..)).unreserved c (by simp [hc])
    rw [hc]
    simpa using (ne_of_isUnreserved hunreserved).1
  have hpart : pathPart (first ++ segmentPath rest) = first ++ segmentPath rest := by
    refine List.takeWhile_eq_self_iff.mpr fun c hc => ?_
    obtain ⟨hmark, hfragment⟩ := ne_of_inPath (hin c hc)
    simp [hmark, hfragment]
  have hnone : queryPart (first ++ segmentPath rest) = none := by
    unfold queryPart
    rw [hpart, List.drop_length]
  have hbelow : b.below (first ++ segmentPath rest) = segmentPath (front ++ first :: rest) := by
    unfold Base.below
    rw [h.path, List.append_assoc, List.singleton_append, ← hcons, ← segmentPath_append]
    exact withoutDotSegments_segmentPath fun s hs => (List.mem_append.mp hs).elim (h.front s)
      (hsegments s)
  have hplain : ∀ s ∈ front ++ first :: rest, IsSegment s := fun s hs =>
    (List.mem_append.mp hs).elim (h.front s) (hsegments s)
  have hlong : (first ++ segmentPath rest).length ≤ 60000 :=
    Nat.le_trans (Nat.le_succ _) (by rwa [hcons] at hlength)
  have hescaped : (escapedPath (pathPart (first ++ segmentPath rest))).length ≤ 60000 := by
    rwa [hpart, escapedPath_eq_self hin]
  rw [address_eq h (by rw [String.toList_ofList, hcons]) hslash hprintable
    (Nat.lt_of_le_of_lt hlong (by unfold maxLength; omega)) hescaped
    (fun q hq => absurd (hnone.symm.trans hq) (by simp)) params hparams.length, hpart, hnone,
    escapedPath_eq_self hin, hbelow, withoutDotSegments_segmentPath hplain,
    escapedPath_segmentPath hplain, hparams.plain, String.ofList_toList]
  split <;> rfl

/-- A request below a base address with a scheme is for an address with a type. -/
theorem hasType_site (path : String) (query : Option String) :
    Reference.hasType { b.root with path := path, query := query } = true := by
  obtain ⟨hne, hslash, hcolon⟩ := h.scheme
  have htext : ∃ rest, (Reference.text { b.root with path := path, query := query }).toList
      = b.root.scheme.toList ++ ':' :: rest := by
    unfold Reference.text
    rw [if_neg hne]
    simp only [String.toList_append, List.append_assoc]
    exact ⟨_, rfl⟩
  obtain ⟨rest, hrest⟩ := htext
  have hfront : (b.root.scheme.toList ++ ':' :: rest).takeWhile (fun c => c ≠ '/' && c ≠ ':')
      = b.root.scheme.toList := by
    rw [List.takeWhile_append_of_pos]
    · simp
    · intro c hc
      have hs : c ≠ '/' := fun e => hslash (e ▸ hc)
      have hd : c ≠ ':' := fun e => hcolon (e ▸ hc)
      simp [hs, hd]
  have hchars : b.root.scheme.toList ≠ [] := fun e => hne (String.toList_eq_nil_iff.mp e)
  unfold Reference.hasType
  dsimp only
  rw [hrest, hfront, List.drop_left]
  simp [hchars]

/-- Whatever a request is for, its address has a type and a server that can be named, and
parameters are its whole query. -/
theorem address_ok {url : String} (hurl : IsRooted url) (params : List (String × String))
    (hparams : (queryOf params).toList.length ≤ maxLength) :
    ∃ a, b.address url params = .ok a ∧ headerFault? a.place = none ∧ a.hasType = true ∧
      (params ≠ [] → a.query = some (String.ofList (escapedQuery (queryOf params).toList))) := by
  obtain ⟨cs, hurl, hslash, hprintable, hlength⟩ := hurl
  have hplace : ∀ path query,
      headerFault? (Reference.place { b.root with path := path, query := query }) = none := by
    intro path query
    have hsame : Reference.place { b.root with path := path, query := query } = b.root.place := rfl
    rw [hsame]
    exact h.place
  have hpart : (pathPart cs).length ≤ cs.length := (pathPart_isPrefix cs).length_le
  have hescaped : (escapedPath (pathPart cs)).length ≤ 60000 :=
    Nat.le_trans (length_escape_le _ _) (by omega)
  have hquery : ∀ q, queryPart cs = some q → q.length ≤ 5000 := fun q hq =>
    Nat.le_trans (length_queryPart_le hq) hlength
  have hlong : cs.length < maxLength := by
    unfold maxLength
    omega
  rw [address_eq h hurl hslash hprintable hlong hescaped hquery params hparams]
  split
  · next hempty =>
    exact ⟨_, rfl, hplace _ _, hasType_site h _ _,
      fun hne => absurd (List.isEmpty_iff.mp hempty) hne⟩
  · exact ⟨_, rfl, hplace _ _, hasType_site h _ _, fun _ => rfl⟩

end Site

end PullReview.GitHub
