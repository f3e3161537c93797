import PullReview.Proofs.GitHub.CodeHost
import PullReview.Proofs.GitHub.Tries

/-!
# Page after page

A listing is read page by page, and the first page that is not full is the last one. That is
page `pageCount` of the comments: behind full pages alone an empty one is read.

Over any session, a page does one of three things to the reading: it goes on
(`Session.pages_full`), it ends (`Session.pages_short`), or it fails because the page is no
list (`Session.pages_odd`). By induction over the pages all comments are read
(`Session.pages_leads`), or else the reading fails at the first page that is no list
(`Session.pages_fails`).
-/

namespace PullReview.GitHub

open Act

/-- How many pages are read of a listing of comments. -/
def pageCount (comments : List Json) : Nat := comments.length / pageSize + 1

/-- Of the pages that are read the last one alone is not full. -/
theorem length_pageOf_lt_iff {comments : List Json} {k : Nat} (hk : k < pageCount comments) :
    (pageOf pageSize (k + 1) comments).length < pageSize ↔ k + 1 = pageCount comments := by
  rw [length_pageOf]
  unfold pageCount pageSize at *
  omega

/-- The last page holds all that is left. -/
theorem pageOf_last {comments : List Json} {k : Nat} (hk : k + 1 = pageCount comments) :
    pageOf pageSize (k + 1) comments = comments.drop (pageSize * k) := by
  refine List.take_of_length_le ?_
  rw [List.length_drop, Nat.add_sub_cancel]
  unfold pageCount pageSize at *
  omega

namespace Session

variable {σ : Type} {s : Session σ} {url : String}

/-! ## Single pages -/

section Page

variable {x y z : σ} {page : Nat} {r : HttpResponse} {batch : List Json}
  (hrequest : Leads (s.request .get url (pageParams page) none) x (.ok r) y) (fuel : Nat)
include hrequest

theorem pages_short (hread : r.json s.client.reading.depth = .ok (.arr batch))
    (hshort : batch.length < pageSize) :
    Leads (s.pages url (fuel + 1) page) x (.ok batch) y := by
  unfold Session.pages
  refine hrequest.bind (leads_bind_ok hread ?_)
  dsimp only
  rw [if_pos hshort]
  exact leads_pure batch

theorem pages_full (hread : r.json s.client.reading.depth = .ok (.arr batch))
    (hfull : ¬ batch.length < pageSize) {result : Except Fault (List Json)}
    (hmore : Leads (s.pages url fuel (page + 1)) y result z) :
    Leads (s.pages url (fuel + 1) page) x ((batch ++ ·) <$> result) z := by
  unfold Session.pages
  refine hrequest.bind (leads_bind_ok hread ?_)
  dsimp only
  rw [if_neg hfull]
  cases result with
  | ok rest => exact hmore.bind (leads_pure _)
  | error fault => exact hmore.bind_error _

/-- A page that is no list ends the reading with what it is instead. -/
theorem pages_odd {v : Json} (hread : r.json s.client.reading.depth = .ok v)
    (hodd : ∀ items, v ≠ .arr items) :
    Leads (s.pages url (fuel + 1) page) x
      (.error (.api ⟨s!"Unexpected response while listing {url}.", r.status, v⟩)) y := by
  unfold Session.pages
  refine hrequest.bind (leads_bind_ok hread ?_)
  cases v with
  | arr items => exact absurd rfl (hodd items)
  | _ => exact leads_throw _

omit hrequest in
/-- A page that is not answered ends the reading. -/
theorem pages_unanswered {fault : Fault}
    (hrequest : Leads (s.request .get url (pageParams page) none) x (.error fault) y) :
    Leads (s.pages url (fuel + 1) page) x (.error fault) y := by
  unfold Session.pages
  exact hrequest.bind_error _

end Page

/-! ## Whole listings -/

section Listing

variable {comments : List Json} {before : Nat → σ}

/-- Page `k + 1` is asked for behind `k` pages, and holds its comments. -/
def GivesPage (s : Session σ) (url : String) (comments : List Json) (before : Nat → σ) (k : Nat) :
    Prop :=
  ∃ r, Leads (s.request .get url (pageParams (k + 1)) none) (before k) (.ok r) (before (k + 1)) ∧
    r.json s.client.reading.depth = .ok (.arr (pageOf pageSize (k + 1) comments))

/-- **All comments are read**, page after page, if each page is given. -/
theorem pages_leads (hpages : ∀ k < pageCount comments, s.GivesPage url comments before k) :
    ∀ fuel k : Nat, k < pageCount comments → pageCount comments ≤ k + fuel →
      Leads (s.pages url fuel (k + 1)) (before k) (.ok (comments.drop (pageSize * k)))
        (before (pageCount comments)) := by
  intro fuel
  -- on the fuel, of which as much is left as there are pages to come
  induction fuel with
  | zero => intro k hk hto; omega
  | succ fuel ih =>
    intro k hk hto
    obtain ⟨r, hrequest, hread⟩ := hpages k hk
    by_cases hlast : k + 1 = pageCount comments
    · rw [← hlast, ← pageOf_last hlast]
      exact pages_short hrequest fuel hread ((length_pageOf_lt_iff hk).mpr hlast)
    · have hmore := ih (k + 1) (by omega) (by omega)
      rw [← pageOf_append pageSize k comments]
      exact pages_full hrequest fuel hread (mt (length_pageOf_lt_iff hk).mp hlast) hmore

/-- **The first page that is no list ends the reading**, and no later one is asked for. -/
theorem pages_fails {j : Nat} (hj : j < pageCount comments)
    (hpages : ∀ k < j, s.GivesPage url comments before k) {r : HttpResponse} {v : Json}
    (hrequest : Leads (s.request .get url (pageParams (j + 1)) none) (before j) (.ok r)
      (before (j + 1))) (hread : r.json s.client.reading.depth = .ok v)
    (hodd : ∀ items, v ≠ .arr items) :
    ∀ fuel k : Nat, k ≤ j → j < k + fuel →
      Leads (s.pages url fuel (k + 1)) (before k)
        (.error (.api ⟨s!"Unexpected response while listing {url}.", r.status, v⟩))
        (before (j + 1)) := by
  intro fuel
  induction fuel with
  | zero => intro k hk hto; omega
  | succ fuel ih =>
    intro k hk hto
    rcases Nat.eq_or_lt_of_le hk with rfl | hless
    · exact pages_odd hrequest fuel hread hodd
    · obtain ⟨q, hgood, hpage⟩ := hpages k hless
      -- page `j` is still one of those to be read, so this one is not the last
      have hfull : k + 1 ≠ pageCount comments := by omega
      have hmore := ih (k + 1) hless (by omega)
      exact pages_full hgood fuel hpage (mt (length_pageOf_lt_iff (by omega)).mp hfull) hmore

end Listing

end Session

end PullReview.GitHub
