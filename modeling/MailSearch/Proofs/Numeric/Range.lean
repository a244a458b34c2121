import MailSearch.Proofs.Numeric.Order

/-!
# Rounding keeps the order, up to the range of floating-point numbers

A greater ratio is never rounded to a smaller number, also where the gap between neighbouring
numbers grows. A ratio is too large for a floating-point number from the midpoint on between the
greatest finite number and the power of two above it: that midpoint is a tie, and the greatest
number is odd.
-/

namespace MailSearch

section RoundEven

variable {num den k : Nat}

/-- A quotient of at least a natural is rounded to at least the natural. -/
theorem le_roundEven (hden : 0 < den) (h : k * den ≤ num) : k ≤ roundEven num den := by
  have hquotient : k ≤ num / den := (Nat.le_div_iff_mul_le hden).mpr h
  unfold roundEven
  dsimp only
  split
  · exact hquotient
  · split
    · omega
    · split <;> omega

/-- A quotient below a natural is rounded to at most the natural. -/
theorem roundEven_le (hden : 0 < den) (h : num < k * den) : roundEven num den ≤ k := by
  have hquotient : num / den < k := (Nat.div_lt_iff_lt_mul hden).mpr h
  unfold roundEven
  dsimp only
  split
  · omega
  · split
    · omega
    · split <;> omega

/-- A greater quotient is not rounded to less. -/
theorem roundEven_mono {num' : Nat} (hden : 0 < den) (h : num ≤ num') :
    roundEven num den ≤ roundEven num' den := by
  have hquotient : num / den ≤ num' / den := Nat.div_le_div_right h
  rcases Nat.lt_or_eq_of_le hquotient with hlt | heq
  · have hnum : num < (num / den + 1) * den := (Nat.div_lt_iff_lt_mul hden).mp (Nat.lt_succ_self _)
    have hnum' : num' / den * den ≤ num' := Nat.div_mul_le_self num' den
    have hdown := roundEven_le hden hnum
    have hup := le_roundEven hden hnum'
    omega
  · -- with the same quotient the rests decide
    have hrest : num % den ≤ num' % den := by
      have hsum := Nat.div_add_mod num den
      have hsum' := Nat.div_add_mod num' den
      rw [heq] at hsum
      omega
    unfold roundEven
    dsimp only
    rw [heq]
    repeat' split
    all_goals omega

/-- A quotient is rounded to at most an odd natural if it lies below the midpoint above it. -/
theorem roundEven_le_iff_of_odd (hden : 0 < den) (hk : k % 2 = 1) :
    roundEven num den ≤ k ↔ 2 * num < (2 * k + 1) * den := by
  have hsum : den * (num / den) + num % den = num := Nat.div_add_mod num den
  have hrest : num % den < den := Nat.mod_lt num hden
  rcases Nat.lt_trichotomy (num / den) k with hlt | heq | hgt
  · have hbelow : num < k * den := (Nat.div_lt_iff_lt_mul hden).mp hlt
    have hmid : 2 * (k * den) ≤ (2 * k + 1) * den := by
      rw [← Nat.mul_assoc]
      exact Nat.mul_le_mul_right den (Nat.le_succ _)
    exact iff_of_true (roundEven_le hden hbelow) (by omega)
  · -- the quotient is the odd natural and a rest, which decides
    have hmid : (2 * k + 1) * den = 2 * (den * k) + den := by
      rw [Nat.succ_mul, Nat.mul_assoc, Nat.mul_comm k den]
    unfold roundEven
    dsimp only
    rw [hmid, heq]
    rw [heq] at hsum
    split
    · omega
    · split
      · omega
      · rw [if_neg (by omega)]
        omega
  · have habove : (k + 1) * den ≤ num := (Nat.le_div_iff_mul_le hden).mp hgt
    have hup := le_roundEven hden habove
    have hmid : (2 * k + 1) * den ≤ 2 * ((k + 1) * den) := by
      rw [← Nat.mul_assoc]
      exact Nat.mul_le_mul_right den (by omega)
    exact iff_of_false (by omega) (by omega)

end RoundEven

namespace Binary64

/-- The least count of steps that is too large for a finite number. -/
def overflowSteps : Nat := (powerOfTwo 54 - 1) * powerOfTwo 2044

/-- The least magnitude that is too large for a finite number. -/
def overflowBound : Nat := (powerOfTwo 54 - 1) * powerOfTwo 970

/-- The power of two of a sum is a product. -/
theorem powerOfTwo_add (m n : Nat) : powerOfTwo (m + n) = powerOfTwo m * powerOfTwo n :=
  Nat.pow_add 2 m n

/-- A greater exponent gives no smaller power of two. -/
theorem powerOfTwo_mono {m n : Nat} (h : m ≤ n) : powerOfTwo m ≤ powerOfTwo n :=
  Nat.pow_le_pow_right (by decide) h

/-- Powers of two are positive. -/
theorem powerOfTwo_pos (n : Nat) : 0 < powerOfTwo n := Nat.two_pow_pos n

private theorem log2_mono {m n : Nat} (h : m ≤ n) : m.log2 ≤ n.log2 := by
  by_cases hm : m = 0
  · rw [hm, Nat.log2_zero]
    exact Nat.zero_le _
  · exact (Nat.le_log2 (by omega)).mpr (Nat.le_trans (Nat.log2_self_le hm) h)

section RoundSteps

variable {num den : Nat}

/-- A quotient is below twice the power of two of its logarithm, which are `2 ^ 53` gaps, or
fewer if the gap is one. -/
private theorem lt_gaps (hden : 0 < den) :
    num < powerOfTwo 53 * (den * gapAt (num / den)) := by
  have hlog : num / den < powerOfTwo ((num / den).log2 + 1) := Nat.lt_log2_self
  have hgaps : powerOfTwo ((num / den).log2 + 1) ≤ powerOfTwo 53 * gapAt (num / den) := by
    rw [gapAt, ← powerOfTwo_add]
    exact powerOfTwo_mono (by omega)
  calc
    num < powerOfTwo ((num / den).log2 + 1) * den := (Nat.div_lt_iff_lt_mul hden).mp hlog
    _ ≤ powerOfTwo 53 * gapAt (num / den) * den := Nat.mul_le_mul_right den hgaps
    _ = powerOfTwo 53 * (den * gapAt (num / den)) := by
      rw [Nat.mul_assoc, Nat.mul_comm (gapAt _) den]

/-- A quotient with a logarithm of at least 52 is at least `2 ^ 52` gaps. -/
private theorem gaps_le (hden : 0 < den) (hlog : 52 ≤ (num / den).log2) :
    powerOfTwo 52 * (den * gapAt (num / den)) ≤ num := by
  have hpos : num / den ≠ 0 := by
    intro hzero
    rw [hzero, Nat.log2_zero] at hlog
    omega
  have hgaps : powerOfTwo 52 * gapAt (num / den) = powerOfTwo (num / den).log2 := by
    rw [gapAt, ← powerOfTwo_add, Nat.add_sub_cancel' hlog]
  calc
    powerOfTwo 52 * (den * gapAt (num / den)) = powerOfTwo (num / den).log2 * den := by
      rw [Nat.mul_comm den, ← Nat.mul_assoc, hgaps]
    _ ≤ num := (Nat.le_div_iff_mul_le hden).mp (Nat.log2_self_le hpos)

/-- A rounded quotient is at most `2 ^ 53` gaps. -/
private theorem roundSteps_le (hden : 0 < den) :
    roundSteps num den ≤ powerOfTwo 53 * gapAt (num / den) := by
  have hgap : 0 < den * gapAt (num / den) := Nat.mul_pos hden (powerOfTwo_pos _)
  exact Nat.mul_le_mul_right _ (roundEven_le hgap (lt_gaps hden))

/-- A rounded quotient with a logarithm of at least 52 is at least `2 ^ 52` gaps. -/
private theorem le_roundSteps (hden : 0 < den) (hlog : 52 ≤ (num / den).log2) :
    powerOfTwo 52 * gapAt (num / den) ≤ roundSteps num den := by
  have hgap : 0 < den * gapAt (num / den) := Nat.mul_pos hden (powerOfTwo_pos _)
  exact Nat.mul_le_mul_right _ (le_roundEven hgap (gaps_le hden hlog))

/-- A greater quotient in steps is not rounded to less. -/
private theorem roundSteps_mono {num' : Nat} (hden : 0 < den) (h : num ≤ num') :
    roundSteps num den ≤ roundSteps num' den := by
  have hlog : (num / den).log2 ≤ (num' / den).log2 := log2_mono (Nat.div_le_div_right h)
  by_cases hgap : gapAt (num / den) = gapAt (num' / den)
  · have hstep : 0 < den * gapAt (num' / den) := Nat.mul_pos hden (powerOfTwo_pos _)
    unfold roundSteps
    dsimp only
    rw [hgap]
    exact Nat.mul_le_mul_right _ (roundEven_mono hstep h)
  · -- a greater gap is at least twice as large, and begins where the smaller one ends
    have hlarge : (num / den).log2 - 52 + 1 ≤ (num' / den).log2 - 52 := by
      have hne : (num / den).log2 - 52 ≠ (num' / den).log2 - 52 :=
        fun heq ↦ hgap (congrArg powerOfTwo heq)
      omega
    have hgaps : powerOfTwo 53 * gapAt (num / den) ≤ powerOfTwo 52 * gapAt (num' / den) := by
      rw [gapAt, gapAt, ← powerOfTwo_add, ← powerOfTwo_add]
      exact powerOfTwo_mono (by omega)
    calc
      roundSteps num den ≤ powerOfTwo 53 * gapAt (num / den) := roundSteps_le hden
      _ ≤ powerOfTwo 52 * gapAt (num' / den) := hgaps
      _ ≤ roundSteps num' den := le_roundSteps hden (by omega)

/-- At the greatest gap of finite numbers the midpoint behind the greatest of them decides,
which counts an odd number of gaps. -/
private theorem roundSteps_le_maxSteps_iff_of_log2 (hden : 0 < den)
    (hlog : (num / den).log2 = 2097) :
    roundSteps num den ≤ maxSteps ↔ num < overflowSteps * den := by
  have hgapAt : gapAt (num / den) = powerOfTwo 2045 := by rw [gapAt, hlog]
  have hgap : 0 < den * powerOfTwo 2045 := Nat.mul_pos hden (powerOfTwo_pos _)
  have hodd : (powerOfTwo 53 - 1) % 2 = 1 := by decide +kernel
  have hcoefficient : (2 * (powerOfTwo 53 - 1) + 1) * powerOfTwo 2045 = 2 * overflowSteps := by
    decide +kernel
  have hmid : (2 * (powerOfTwo 53 - 1) + 1) * (den * powerOfTwo 2045) =
      2 * (overflowSteps * den) := by
    rw [Nat.mul_comm den, ← Nat.mul_assoc, hcoefficient, Nat.mul_assoc]
  unfold roundSteps
  dsimp only
  rw [hgapAt, maxSteps, Nat.mul_le_mul_right_iff (powerOfTwo_pos 2045),
    roundEven_le_iff_of_odd hgap hodd, hmid]
  omega

/-- A quotient is rounded to a finite number exactly if it lies below the least count of steps
that is too large. -/
theorem roundSteps_le_maxSteps_iff (hden : 0 < den) :
    roundSteps num den ≤ maxSteps ↔ num < overflowSteps * den := by
  rcases Nat.lt_trichotomy (num / den).log2 2097 with hlt | heq | hgt
  · have hquotient : num / den < powerOfTwo 2097 :=
      Nat.lt_of_lt_of_le Nat.lt_log2_self (powerOfTwo_mono hlt)
    have hgaps : powerOfTwo 53 * gapAt (num / den) ≤ powerOfTwo 2097 := by
      rw [gapAt, ← powerOfTwo_add]
      exact powerOfTwo_mono (by omega)
    have hmax : powerOfTwo 2097 ≤ maxSteps := by decide +kernel
    have hoverflow : powerOfTwo 2097 ≤ overflowSteps := by decide +kernel
    apply iff_of_true
    · exact Nat.le_trans (roundSteps_le hden) (Nat.le_trans hgaps hmax)
    · exact (Nat.div_lt_iff_lt_mul hden).mp (Nat.lt_of_lt_of_le hquotient hoverflow)
  · exact roundSteps_le_maxSteps_iff_of_log2 hden heq
  · have hpos : num / den ≠ 0 := by
      intro hzero
      rw [hzero, Nat.log2_zero] at hgt
      omega
    have hquotient : powerOfTwo 2098 ≤ num / den :=
      Nat.le_trans (powerOfTwo_mono hgt) (Nat.log2_self_le hpos)
    have hgaps : powerOfTwo 2098 ≤ powerOfTwo 52 * gapAt (num / den) := by
      rw [gapAt, ← powerOfTwo_add]
      exact powerOfTwo_mono (by omega)
    have hmax : maxSteps < powerOfTwo 2098 := by decide +kernel
    have hoverflow : overflowSteps ≤ powerOfTwo 2098 := by decide +kernel
    apply iff_of_false
    · have hsteps := Nat.le_trans hgaps (le_roundSteps hden (by omega))
      omega
    · have hnum : overflowSteps ≤ num / den := Nat.le_trans hoverflow hquotient
      exact Nat.not_lt.mpr ((Nat.le_div_iff_mul_le hden).mp hnum)

end RoundSteps

/-- The place of a rounded quotient that is not negative: its count of steps, cut off behind the
greatest finite number. -/
private theorem position?_ofSteps (num den : Nat) :
    (ofSteps false num den).position? =
      some ((min (roundSteps num den) (maxSteps + 1) : Nat) : Int) := by
  unfold ofSteps
  dsimp only
  split
  · next hle =>
    rw [Nat.min_eq_left (Nat.le_succ_of_le hle)]
    rfl
  · next hgt =>
    rw [Nat.min_eq_right (Nat.gt_of_not_le hgt), position?, if_neg Bool.false_ne_true,
      Int.natCast_succ]

/-- A greater ratio is not rounded to a smaller number. -/
theorem ofRatio_mono {m n den : Nat} (hden : 0 < den) (h : m ≤ n) :
    (ofRatio m den).le (ofRatio n den) := by
  have hsteps : roundSteps (m * stepsPerUnit) den ≤ roundSteps (n * stepsPerUnit) den :=
    roundSteps_mono hden (Nat.mul_le_mul_right _ h)
  have hratio (k : Nat) : ofRatio k den = ofSteps false (k * stepsPerUnit) den := by
    have hnonneg : ¬(k : Int) < 0 := by omega
    rw [ofRatio, decide_eq_false hnonneg, Int.natAbs_natCast]
  rw [hratio, hratio]
  apply le_iff.mpr
  refine ⟨_, _, position?_ofSteps _ _, position?_ofSteps _ _, Int.ofNat_le.mpr ?_⟩
  exact Nat.le_min_of_le_of_le (Nat.le_trans (Nat.min_le_left _ _) hsteps) (Nat.min_le_right _ _)

private theorem isFinite_ofSteps_iff (negative : Bool) (num den : Nat) :
    (ofSteps negative num den).isFinite ↔ roundSteps num den ≤ maxSteps := by
  unfold ofSteps
  dsimp only
  split
  · next hle => exact iff_of_true rfl hle
  · next hgt => exact iff_of_false nofun hgt

/-- A ratio is a number exactly if its magnitude is not too large. -/
theorem isSome_quotient?_iff (num : Int) {den : Nat} (hden : 0 < den) :
    (quotient? num den).isSome ↔ num.natAbs < overflowBound * den := by
  have hfinite : (quotient? num den).isSome ↔ (ofRatio num den).isFinite := by
    unfold quotient?
    dsimp only
    split
    · next hfinite => exact iff_of_true rfl hfinite
    · next hinfinite => exact iff_of_false nofun hinfinite
  have hunit : 0 < stepsPerUnit := powerOfTwo_pos 1074
  have hsteps : overflowSteps = overflowBound * stepsPerUnit := by decide +kernel
  rw [hfinite, ofRatio, isFinite_ofSteps_iff, roundSteps_le_maxSteps_iff hden, hsteps,
    Nat.mul_right_comm, Nat.mul_lt_mul_right hunit]

end Binary64
end MailSearch
