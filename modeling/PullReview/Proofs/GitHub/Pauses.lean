import PullReview.GitHub.Client
import PullReview.Proofs.Number.Digits
import PullReview.Proofs.Number.Doubles

/-!
# Pauses

Behind a try that failed a client waits: as long as the response asks for in digits, or else
as long as the set pause, doubled from try to try. As long as the header holds ASCII alone
the pause can be told, and it is that one (`pauseAfter_eq`). A pause that is not finite has
no end (`rest`).
-/

namespace PullReview.GitHub

open Text

/-- A pause of so many seconds. -/
def rest {σ : Type} (seconds : Double) : Act σ Unit :=
  if seconds.isFinite then return () else throw .endless

@[simp]
theorem rest_finite {σ : Type} {seconds : Double} (h : seconds.isFinite = true) :
    (rest seconds : Act σ Unit) = pure () := if_pos h

/-- The number that a response asks to wait for, if it asks in usual digits alone. -/
def askedPause? (r : HttpResponse) : Option Nat :=
  (r.header? "Retry-After").bind fun wanted =>
    if !wanted.toList.isEmpty && wanted.toList.all Char.isDigit then
      some (Nat.ofDigitChars 10 wanted.toList 0)
    else none

/-- A header that asks for a pause holds ASCII alone. -/
def AsksInAscii (r : HttpResponse) : Prop :=
  ∀ wanted, r.header? "Retry-After" = some wanted → ∀ c ∈ wanted.toList, c.toNat < 0x80

/-- The set pause, doubled `i` times. -/
def Backoff.doubled : Backoff → Nat → Double
  | .whole seconds, i =>
    .ofRatio (seconds * Nat.pow 2 i < 0) (seconds * Nat.pow 2 i).natAbs 1
  | .fractional seconds, i => seconds.mul (.ofRatio false (Nat.pow 2 i) 1)

/-- Whole seconds can be doubled so often within the range of doubles. -/
def Backoff.Fits (b : Backoff) (retries : Nat) : Prop :=
  ∀ seconds, b = .whole seconds →
    ∀ i < retries, ∃ x, Double.ofInt? (seconds * Nat.pow 2 i) = some x

/-- The pause behind the `i`-th try: the one that a response asks for, or the doubled one. -/
def pauseBehind (b : Backoff) (i : Nat) : Except Fault HttpResponse → Double
  | .ok r =>
    match askedPause? r with
    | some n => .ofDecimal false n 0
    | none => b.doubled i
  | .error _ => b.doubled i

theorem pauseBehind_asked {b : Backoff} {i n : Nat} {r : HttpResponse}
    (h : askedPause? r = some n) : pauseBehind b i (.ok r) = .ofDecimal false n 0 := by
  dsimp only [pauseBehind]
  rw [h]

theorem backoffAfter_eq {c : Client} {retries : Nat} (hfits : c.backoff.Fits retries) {i : Nat}
    (hi : i < retries) (hlimit : retries ≤ 1024) :
    Session.backoffAfter c i = .ok (c.backoff.doubled i) := by
  unfold Session.backoffAfter
  cases hbackoff : c.backoff with
  | whole seconds =>
    obtain ⟨x, hx⟩ := hfits seconds hbackoff i hi
    dsimp only
    rw [hx, Double.ofInt?_eq hx]
    rfl
  | fractional seconds =>
    obtain ⟨factor, hfactor⟩ := Double.ofInt?_twoPow (k := i) (by omega)
    dsimp only
    rw [hfactor, Double.ofInt?_eq hfactor]
    have hpos : ¬ ((Nat.pow 2 i : Nat) : Int) < 0 := by omega
    rw [decide_eq_false hpos, Int.natAbs_natCast]
    rfl

/-- **The pause is the one that the response asks for in digits**, or else the doubled one. -/
theorem pauseAfter_eq {c : Client} {retries : Nat} (hfits : c.backoff.Fits retries) {i : Nat}
    (hi : i < retries) (hlimit : retries ≤ 1024) {outcome : Except Fault HttpResponse}
    (hascii : ∀ r, outcome = .ok r → AsksInAscii r) :
    Session.pauseAfter c i outcome.toOption = .ok (pauseBehind c.backoff i outcome) := by
  have hdoubled := backoffAfter_eq hfits hi hlimit
  unfold Session.pauseAfter
  cases outcome with
  | error fault => exact hdoubled
  | ok r =>
    have hheader : (Except.ok r : Except Fault HttpResponse).toOption.bind
        (·.header? "Retry-After") = r.header? "Retry-After" := rfl
    rw [hheader]
    dsimp only [pauseBehind, askedPause?]
    cases hwanted : r.header? "Retry-After" with
    | none => exact hdoubled
    | some wanted =>
      dsimp only [Option.bind_some]
      rw [allDigitKind_ascii (hascii r rfl wanted hwanted)]
      split
      · next h =>
        rw [Bool.and_eq_true, Bool.not_eq_true', List.all_eq_true] at h
        rw [ofDigits?_of_isDigit h.1 h.2]
      · exact hdoubled

end PullReview.GitHub
