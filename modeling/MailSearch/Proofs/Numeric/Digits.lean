import MailSearch.Numeric.Literal

/-!
# Decimal digits

The digits of a natural are read back as the natural. They do not begin with a zero unless
they are a single one, and a number of `k` digits lies below the `k`-th power of ten, so the
limit on the digits of an integer is a limit on the integer itself. With zeros in front a natural
keeps its value and takes a set number of digits.
-/

namespace MailSearch

/-- The digits of a natural stand for the natural. -/
theorem value_digitsOf (n : Nat) : Literal.value (digitsOf n) = n :=
  Nat.ofDigitChars_ten_toDigits

/-- A natural has digits. -/
theorem digitsOf_ne_nil (n : Nat) : digitsOf n ≠ [] := Nat.toDigits_ne_nil

/-- The digits of a natural are digits. -/
theorem isDigit_of_mem_digitsOf {n : Nat} {c : Char} (h : c ∈ digitsOf n) : Literal.isDigit c := by
  have hdigit : c.isDigit = true := Nat.isDigit_of_mem_toDigits (by decide) (by decide) h
  simpa [Literal.isDigit, Char.isDigit, Char.le_def] using hdigit

/-- What is no digit is not among the digits of a natural. -/
theorem not_mem_digitsOf {c : Char} (hc : Literal.isDigit c = false) (n : Nat) :
    c ∉ digitsOf n := by
  intro h
  rw [isDigit_of_mem_digitsOf h] at hc
  exact Bool.noConfusion hc

/-- A natural of several digits has those of its tenth and its last one. -/
theorem digitsOf_of_ten_le {n : Nat} (h : 10 ≤ n) :
    digitsOf n = digitsOf (n / 10) ++ [(n % 10).digitChar] :=
  Nat.toDigits_of_base_le (by decide) h

/-- A natural below ten has one digit. -/
theorem digitsOf_of_lt_ten {n : Nat} (h : n < 10) : digitsOf n = [n.digitChar] :=
  Nat.toDigits_of_lt_base h

/-- Naturals with the same digits are the same. -/
theorem digitsOf_injective {m n : Nat} (h : digitsOf m = digitsOf n) : m = n := by
  rw [← value_digitsOf m, h, value_digitsOf]

/-- Integers with the same text are the same. -/
theorem integerText_injective : Function.Injective integerText := by
  intro m n h
  have hsign (k : Nat) (cs : List Char) : digitsOf k ≠ '-' :: cs := by
    intro hdigits
    have hminus : Literal.isDigit '-' := isDigit_of_mem_digitsOf (hdigits ▸ List.mem_cons_self)
    exact absurd hminus (by decide)
  have htexts := String.ofList_injective h
  split at htexts <;> split at htexts
  · have habs := digitsOf_injective (List.cons.inj htexts).2
    omega
  · exact absurd htexts.symm (hsign _ _)
  · exact absurd htexts (hsign _ _)
  · have habs := digitsOf_injective htexts
    omega

/-- A natural below a power of ten has at most as many digits. -/
theorem length_digitsOf_le {n k : Nat} (hk : 0 < k) (h : n < powerOfTen k) :
    (digitsOf n).length ≤ k :=
  (Nat.length_toDigits_le_iff (by decide) hk).mpr h

/-- Only zero has digits that begin with a zero. -/
theorem eq_zero_of_digitsOf_eq_cons {n : Nat} {cs : List Char} (h : digitsOf n = '0' :: cs) :
    n = 0 := by
  induction n using Nat.strongRecOn generalizing cs with
  | ind n ih =>
    rcases Nat.lt_or_ge n 10 with hn | hn
    · rw [digitsOf_of_lt_ten hn] at h
      exact Nat.digitChar_eq_zero.mp (List.cons.inj h).1
    · -- the first digit of a longer numeral is the first digit of its tenth
      rw [digitsOf_of_ten_le hn] at h
      have htenth : digitsOf (n / 10) ≠ [] := digitsOf_ne_nil _
      cases hdigits : digitsOf (n / 10) with
      | nil => exact absurd hdigits htenth
      | cons c more =>
        have hc : c = '0' := by
          rw [hdigits, List.cons_append] at h
          exact (List.cons.inj h).1
        have hzero := ih (n / 10) (by omega) (hc ▸ hdigits)
        omega

namespace Literal

/-- The code points of the digits. -/
theorem toNat_of_isDigit {c : Char} (h : isDigit c) : 0x30 ≤ c.toNat ∧ c.toNat ≤ 0x39 := by
  simp only [isDigit, Bool.and_eq_true, decide_eq_true_eq, Char.le_def] at h
  exact h

/-- What some digits stand for lies below the power of ten of their number. -/
theorem value_lt_powerOfTen {digits : List Char} (h : ∀ c ∈ digits, isDigit c) :
    value digits < powerOfTen digits.length := by
  change Nat.ofDigitChars 10 digits 0 < 10 ^ digits.length
  induction digits with
  | nil => simp
  | cons c cs ih =>
    have hcs := ih fun other hother ↦ h other (List.mem_cons_of_mem c hother)
    have hc : c.toNat - '0'.toNat ≤ 9 := by
      have hle := (toNat_of_isDigit (h c List.mem_cons_self)).2
      change c.toNat - 48 ≤ 9
      omega
    rw [Nat.ofDigitChars_cons, Nat.ofDigitChars_eq_ofDigitChars_zero, List.length_cons,
      Nat.pow_succ]
    calc
      10 ^ cs.length * (10 * 0 + (c.toNat - '0'.toNat)) + Nat.ofDigitChars 10 cs 0
          ≤ 10 ^ cs.length * 9 + Nat.ofDigitChars 10 cs 0 :=
        Nat.add_le_add_right (Nat.mul_le_mul_left _ (by omega)) _
      _ < 10 ^ cs.length * 9 + 10 ^ cs.length := Nat.add_lt_add_left hcs _
      _ = 10 ^ cs.length * 10 := by omega

end Literal

section Padding

variable {n width : Nat}

/-- The characters of a natural with zeros in front. -/
theorem toList_zeroPadded (width n : Nat) :
    (zeroPadded width n).toList =
      List.replicate (width - (digitsOf n).length) '0' ++ digitsOf n := by
  simp [zeroPadded, padLeft]

/-- A natural with zeros in front is made of digits. -/
theorem isDigit_of_mem_zeroPadded {c : Char} (h : c ∈ (zeroPadded width n).toList) :
    Literal.isDigit c := by
  rw [toList_zeroPadded] at h
  rcases List.mem_append.mp h with hzero | hdigit
  · rw [List.eq_of_mem_replicate hzero]
    rfl
  · exact isDigit_of_mem_digitsOf hdigit

/-- A natural below a power of ten takes as many digits as its width, with zeros in front. -/
theorem length_zeroPadded (hwidth : 0 < width) (h : n < powerOfTen width) :
    (zeroPadded width n).toList.length = width := by
  have hle := length_digitsOf_le hwidth h
  rw [toList_zeroPadded, List.length_append, List.length_replicate]
  omega

/-- A natural with zeros in front stands for the natural. -/
theorem value_zeroPadded (width n : Nat) : Literal.value (zeroPadded width n).toList = n := by
  have hzeros (k : Nat) :
      Literal.value (List.replicate k '0' ++ digitsOf n) = Literal.value (digitsOf n) := by
    induction k with
    | zero => rfl
    | succ k ih => exact ih
  rw [toList_zeroPadded, hzeros, value_digitsOf]

end Padding

private theorem powerOfTen_mono {m n : Nat} (h : m ≤ n) : powerOfTen m ≤ powerOfTen n :=
  Nat.pow_le_pow_right (by decide) h

/-- Digits within the limit stand for a natural within the limit. -/
theorem value_lt_limit {digits : List Char} (h : ∀ c ∈ digits, Literal.isDigit c)
    (hlength : digits.length ≤ digitLimit) : Literal.value digits < powerOfTen digitLimit :=
  Nat.lt_of_lt_of_le (Literal.value_lt_powerOfTen h) (powerOfTen_mono hlength)

/-- An integer is within the limit if its magnitude is. -/
theorem hasTooManyDigits_eq_false {n : Int} (h : n.natAbs < powerOfTen digitLimit) :
    hasTooManyDigits n = false :=
  decide_eq_false (Nat.not_le.mpr h)

/-- The magnitude of an integer within the limit. -/
theorem natAbs_lt_limit {n : Int} (h : hasTooManyDigits n = false) :
    n.natAbs < powerOfTen digitLimit :=
  Nat.not_le.mp (of_decide_eq_false h)

/-- Zero is within the limit. -/
theorem hasTooManyDigits_zero : hasTooManyDigits 0 = false := by
  decide +kernel

/-- A natural below one within the limit is within it. -/
theorem hasTooManyDigits_of_le {m n : Nat} (hmn : m ≤ n) (h : hasTooManyDigits n = false) :
    hasTooManyDigits m = false :=
  hasTooManyDigits_eq_false (Nat.lt_of_le_of_lt hmn (natAbs_lt_limit h))

end MailSearch
