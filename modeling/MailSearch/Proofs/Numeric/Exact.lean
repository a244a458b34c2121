import MailSearch.Proofs.Numeric.Range

/-!
# Ratios that are floating-point numbers

A natural of at most 53 bits times a power of two takes a whole number of the gaps at its magnitude.
So a ratio of this value is not rounded, and what is computed from it is computed from the ratio.
-/

namespace MailSearch

section RoundEven

variable {num den k : Nat}

/-- A multiple is divided exactly. -/
theorem roundEven_mul_self (hden : 0 < den) (k : Nat) : roundEven (k * den) den = k := by
  have hquotient : k * den / den = k := Nat.mul_div_cancel k hden
  have hrest : k * den % den = 0 := Nat.mul_mod_left k den
  unfold roundEven
  dsimp only
  rw [hquotient, hrest, if_pos (by omega)]

/-- A common factor does not change how a quotient is rounded. -/
theorem roundEven_mul_mul (hk : 0 < k) (num den : Nat) :
    roundEven (num * k) (den * k) = roundEven num den := by
  have hquotient : num * k / (den * k) = num / den := Nat.mul_div_mul_right num den hk
  have hrest : num * k % (den * k) = num % den * k := Nat.mul_mod_mul_right k num den
  have hdown : 2 * (num % den * k) < den * k ↔ 2 * (num % den) < den := by
    rw [← Nat.mul_assoc, Nat.mul_lt_mul_right hk]
  have hup : den * k < 2 * (num % den * k) ↔ den < 2 * (num % den) := by
    rw [← Nat.mul_assoc, Nat.mul_lt_mul_right hk]
  unfold roundEven
  dsimp only
  simp only [hquotient, hrest, hdown, hup]

end RoundEven

namespace Binary64

variable {num : Int} {den significand exponent : Nat}

/-- A natural of at most 53 bits times a power of two takes a whole number of gaps. -/
theorem gapAt_dvd (hbits : significand < powerOfTwo 53) (exponent : Nat) :
    gapAt (significand * powerOfTwo exponent) ∣ significand * powerOfTwo exponent := by
  by_cases hzero : significand * powerOfTwo exponent = 0
  · rw [hzero]
    exact Nat.dvd_zero _
  · have hlt : significand * powerOfTwo exponent < powerOfTwo (53 + exponent) := by
      rw [powerOfTwo_add]
      exact Nat.mul_lt_mul_of_pos_right hbits (powerOfTwo_pos exponent)
    have hlog : (significand * powerOfTwo exponent).log2 < 53 + exponent :=
      (Nat.log2_lt hzero).mpr hlt
    have hgap : gapAt (significand * powerOfTwo exponent) ∣ powerOfTwo exponent :=
      Nat.pow_dvd_pow 2 (by omega)
    exact Nat.dvd_trans hgap (Nat.dvd_mul_left _ _)

/-- A quotient that takes a whole number of gaps is not rounded. -/
theorem roundSteps_of_gapAt_dvd {steps : Nat} (hden : 0 < den) (h : gapAt steps ∣ steps) :
    roundSteps (steps * den) den = steps := by
  obtain ⟨gaps, hgaps⟩ := h
  have hgap : 0 < gapAt steps := powerOfTwo_pos _
  have hproduct : steps * den = gaps * (den * gapAt steps) := by
    rw [Nat.mul_left_comm, Nat.mul_comm gaps, ← hgaps, Nat.mul_comm]
  unfold roundSteps
  dsimp only
  rw [Nat.mul_div_cancel steps hden, hproduct, roundEven_mul_self (Nat.mul_pos hden hgap),
    Nat.mul_comm, ← hgaps]

/-- A quotient in steps is a number as it stands if it has at most 53 bits and is not too large. -/
theorem ofSteps_eq_finite (negative : Bool) (hden : 0 < den) (hbits : significand < powerOfTwo 53)
    (hexponent : exponent ≤ 2045) :
    ofSteps negative (significand * powerOfTwo exponent * den) den =
      finite negative (significand * powerOfTwo exponent) := by
  have hrange : significand * powerOfTwo exponent ≤ maxSteps :=
    Nat.mul_le_mul (by omega) (powerOfTwo_mono hexponent)
  unfold ofSteps
  dsimp only
  rw [roundSteps_of_gapAt_dvd hden (gapAt_dvd hbits exponent), if_pos hrange]

/-- A ratio is rounded to itself if it has at most 53 bits and is not too large. -/
theorem ofRatio_eq_finite (hden : 0 < den) (hbits : significand < powerOfTwo 53)
    (hexponent : exponent ≤ 2045)
    (hnum : num.natAbs * stepsPerUnit = significand * powerOfTwo exponent * den) :
    ofRatio num den = finite (decide (num < 0)) (significand * powerOfTwo exponent) := by
  rw [ofRatio, hnum, ofSteps_eq_finite _ hden hbits hexponent]

/-- A ratio is a number as it stands if it has at most 53 bits and is not too large. -/
theorem quotient?_eq_finite (hden : 0 < den) (hbits : significand < powerOfTwo 53)
    (hexponent : exponent ≤ 2045)
    (hnum : num.natAbs * stepsPerUnit = significand * powerOfTwo exponent * den) :
    quotient? num den =
      some (finite (decide (num < 0)) (significand * powerOfTwo exponent)) := by
  rw [quotient?, ofRatio_eq_finite hden hbits hexponent hnum]
  rfl

/-- An integer of at most 53 bits is a number. -/
theorem ofInt_eq_finite {n : Int} (hbits : n.natAbs < powerOfTwo 53) :
    ofInt n = finite (decide (n < 0)) (n.natAbs * stepsPerUnit) :=
  ofRatio_eq_finite Nat.one_pos hbits (by decide) (Nat.mul_one _).symm

/-- An integer is its magnitude with its sign. -/
theorem ite_neg_natAbs (n : Int) : (if n < 0 then -(n.natAbs : Int) else n.natAbs) = n := by
  split <;> omega

/-- A whole number of units is made whole without loss. -/
theorem truncate?_whole (n : Int) :
    (finite (decide (n < 0)) (n.natAbs * stepsPerUnit)).truncate? = some n := by
  have hunit : 0 < stepsPerUnit := powerOfTwo_pos 1074
  rw [truncate?, Nat.mul_div_cancel _ hunit]
  simp only [decide_eq_true_eq, ite_neg_natAbs]

/-- The product of two integers is a number if it has at most 53 bits. -/
theorem mul_eq_finite {negative negative' : Bool} {m n : Nat} (hbits : m * n < powerOfTwo 53) :
    (finite negative (m * stepsPerUnit)).mul (finite negative' (n * stepsPerUnit)) =
      finite (negative != negative') (m * n * stepsPerUnit) := by
  have hsteps : m * stepsPerUnit * (n * stepsPerUnit) = m * n * stepsPerUnit * stepsPerUnit := by
    rw [Nat.mul_right_comm m, ← Nat.mul_assoc, Nat.mul_right_comm]
  rw [mul, hsteps]
  exact ofSteps_eq_finite _ (powerOfTwo_pos 1074) hbits (by decide)

end Binary64
end MailSearch
