import PullReview.Number.Double

/-!
# Doubles near whole numbers

A whole number has a double near it as long as it has no more than 1023 binary digits
(`ofRatio_ne_infinite`), and so has the power of two behind these (`ofInt?_twoPow`).
-/

namespace PullReview.Double

/-- A whole number of at most 1023 binary digits has a double near it. -/
theorem ofRatio_ne_infinite {num : Nat} (h : num.log2 ≤ 1022) (negative sign : Bool) :
    ofRatio negative num 1 ≠ .infinite sign := by
  have hone : Nat.log2 1 = 0 := by decide
  unfold ofRatio
  rw [hone]
  split
  · exact fun h => Double.noConfusion h
  · extract_lets guess fits e₁ e₂
    have he : e₂ ≤ 970 := by
      have hguess : guess ≤ 970 := by omega
      have he₁ : e₁ ≤ guess := by
        dsimp only [e₁]
        split <;> omega
      omega
    generalize e₂ = e at he
    obtain ⟨n, d⟩ := scaled num 1 e
    dsimp only
    -- rounding up adds at most one to the exponent
    by_cases hup : roundedQuotient n d = Nat.pow 2 53
    · rw [if_pos hup]
      dsimp only
      rw [if_neg (by omega)]
      split <;> exact fun h => Double.noConfusion h
    · rw [if_neg hup]
      dsimp only
      rw [if_neg (by omega)]
      split <;> exact fun h => Double.noConfusion h

/-- The double of a whole number is the one near its quotient by one. -/
theorem ofInt?_eq {n : Int} {x : Double} (h : ofInt? n = some x) :
    x = ofRatio (n < 0) n.natAbs 1 := by
  unfold ofInt? at h
  split at h
  · exact absurd h (by simp)
  · exact (Option.some.inj h).symm

/-- The powers of two that have a double. -/
theorem ofInt?_twoPow {k : Nat} (h : k < 1024) : ∃ x, ofInt? (Nat.pow 2 k : Nat) = some x := by
  have hlast : ∀ k, k = 1023 → ∃ x, ofInt? (Nat.pow 2 k : Nat) = some x := by
    rintro k rfl
    exact Option.isSome_iff_exists.mp (by decide +kernel)
  have hk : k ≤ 1022 ∨ k = 1023 := by omega
  rcases hk with hk | hk
  · have hlog : (Nat.pow 2 k).log2 ≤ 1022 := by
      rw [Nat.pow_eq, Nat.log2_two_pow]
      exact hk
    unfold ofInt?
    split
    · next hinf => exact absurd hinf (ofRatio_ne_infinite hlog _ _)
    · exact ⟨_, rfl⟩
  · exact hlast k hk

end PullReview.Double
