import MailSearch.Console.Figures
import MailSearch.Proofs.Numeric.Digits
import MailSearch.Proofs.Numeric.Exact
import MailSearch.Proofs.Outcome
import Mathlib.Data.List.Basic

/-!
# Figures that are rounded up to their unit

A size or a time is shown in the unit that its exact figure asks for, and the figure is rounded
after that. Just below a unit it is rounded up to the whole unit and shown so: a size that is next
to a megabyte as 1024.0 kilobytes, and a time that is next to a full minute with 60.0 seconds. Both
happen from the midpoint between the last two tenths on, and nowhere else.
-/

namespace MailSearch

section Tenths

variable {num den : Nat}

/-- The text of a number of tenths: the whole units, a point, and the tenths beyond them. -/
def tenthsText (tenths : Nat) : String :=
  String.ofList (digitsOf (tenths / 10) ++ '.' :: digitsOf (tenths % 10))

/-- Different numbers of tenths have different texts. -/
theorem tenthsText_injective : Function.Injective tenthsText := by
  intro m n h
  have hpoint (k : Nat) : '.' ∉ digitsOf k := not_mem_digitsOf (by decide) k
  have hchars := String.ofList_injective h
  rw [List.append_cons_inj_of_notMem (hpoint _) (hpoint _)] at hchars
  have hwhole := digitsOf_injective hchars.1
  have hrest := digitsOf_injective hchars.2.2
  omega

/-- Two digits at least of a natural are those of its tenth and the last one. -/
theorem toList_zeroPadded_two (n : Nat) :
    (zeroPadded 2 n).toList = digitsOf (n / 10) ++ digitsOf (n % 10) := by
  have hlast : digitsOf (n % 10) = [(n % 10).digitChar] :=
    digitsOf_of_lt_ten (Nat.mod_lt n (by decide))
  rw [toList_zeroPadded, hlast]
  rcases Nat.lt_or_ge n 10 with hn | hn
  · rw [digitsOf_of_lt_ten hn, Nat.div_eq_of_lt hn, Nat.mod_eq_of_lt hn]
    rfl
  · have hlength : 2 ≤ (digitsOf n).length := by
      have hne := List.length_pos_iff.mpr (digitsOf_ne_nil (n / 10))
      rw [digitsOf_of_ten_le hn, List.length_append, List.length_singleton]
      omega
    rw [Nat.sub_eq_zero_of_le hlength, digitsOf_of_ten_le hn]
    rfl

/-- A ratio with one place is shown by its tenths. -/
theorem fixed_one (num den : Nat) :
    fixed 1 false num den = tenthsText (roundEven (num * 10) den) := by
  let tenths := roundEven (num * 10) den
  have hchars : (zeroPadded (1 + 1) (roundEven (num * powerOfTen 1) den)).toList =
      digitsOf (tenths / 10) ++ digitsOf (tenths % 10) := toList_zeroPadded_two tenths
  have hlast : (digitsOf (tenths % 10)).length = 1 := by
    rw [digitsOf_of_lt_ten (Nat.mod_lt tenths (by decide))]
    rfl
  simp only [fixed, hchars, List.length_append, hlast, Nat.add_sub_cancel, List.take_left,
    List.drop_left]
  rfl

/-- A quotient by 1024 has at least a number of tenths from the midpoint in front of it on, which is
a tie that an even number of tenths takes up. -/
theorem le_roundEven_tenths_iff {n k : Nat} (hk : k % 2 = 1) :
    k + 1 ≤ roundEven (n * 10) 1024 ↔ (2 * k + 1) * 1024 ≤ n * 20 := by
  have hodd : roundEven (n * 10) 1024 ≤ k ↔ 2 * (n * 10) < (2 * k + 1) * 1024 :=
    roundEven_le_iff_of_odd (by decide) hk
  omega

end Tenths

namespace Console

open Binary64

/-- A unit counts 1024 times as many steps as its 1024th part. -/
theorem stepsPerUnit_eq : stepsPerUnit = 1024 * powerOfTwo 1064 := by
  have hten : powerOfTwo 10 = 1024 := rfl
  rw [stepsPerUnit, ← hten, ← powerOfTwo_add]

/-- A number of 1024th parts is shown with one place by its tenths. -/
theorem fixedText_one (n : Nat) :
    (finite false (n * powerOfTwo 1064)).fixedText 1 = tenthsText (roundEven (n * 10) 1024) := by
  rw [fixedText, fixed_one, stepsPerUnit_eq, Nat.mul_right_comm,
    roundEven_mul_mul (powerOfTwo_pos 1064)]

/-- A ratio that is a number is shown as this number. -/
theorem onePlace_of_quotient? {num : Int} {den : Nat} {x : Binary64}
    (h : quotient? num den = some x) : onePlace num den = .ok (x.fixedText 1) := by
  -- unfolded as a function, since checking it at arguments would compute the quotient
  generalize hdef : onePlace = f
  delta onePlace at hdef
  subst hdef
  simp only [h]

/-- A natural of at most 53 bits is divided by 1024 without rounding, and shown by its tenths. -/
theorem onePlace_eq {n : Nat} (hn : n < powerOfTwo 53) :
    onePlace n 1024 = .ok (tenthsText (roundEven (n * 10) 1024)) := by
  have hnum : (n : Int).natAbs * stepsPerUnit = n * powerOfTwo 1064 * 1024 := by
    rw [Int.natAbs_natCast, stepsPerUnit_eq, Nat.mul_comm 1024, Nat.mul_assoc]
  have hsign : decide ((n : Int) < 0) = false :=
    decide_eq_false (Int.not_lt.mpr (Int.natCast_nonneg n))
  have hquotient := quotient?_eq_finite (by decide) hn (by decide) hnum
  rw [hsign] at hquotient
  rw [onePlace_of_quotient? hquotient, fixedText_one]

section Size

variable {bytes tenths : Nat}

/-- A size from a kilobyte to a megabyte is shown in kilobytes. -/
theorem sizeText_of_kilobytes (hlow : 1024 ≤ bytes) (hhigh : bytes < 1048576) :
    sizeText bytes = .ok (tenthsText (roundEven (bytes * 10) 1024) ++ " KB") := by
  have hbits : bytes < powerOfTwo 53 := Nat.lt_trans hhigh (by decide +kernel)
  rw [sizeText, if_neg (by omega), if_pos (by omega), onePlace_eq hbits]
  rfl

/-- A text that ends in the word of another unit is not one in kilobytes. -/
theorem append_ne_kilobytes {word : String} {unit : Char} (before : List Char)
    (hword : word.toList = before ++ [unit, 'B']) (hunit : unit ≠ 'K') (number : String) :
    number ++ word ≠ tenthsText tenths ++ " KB" := by
  intro heq
  have hends := congrArg (fun text : String ↦ text.toList.reverse) heq
  simp [hword, hunit] at hends

/-- A size is shown in kilobytes exactly from a kilobyte to a megabyte. -/
theorem sizeText_eq_kilobytes_iff :
    sizeText bytes = .ok (tenthsText tenths ++ " KB") ↔
      (1024 ≤ bytes ∧ bytes < 1048576) ∧ tenths = roundEven (bytes * 10) 1024 := by
  by_cases hkilobytes : 1024 ≤ bytes ∧ bytes < 1048576
  · rw [sizeText_of_kilobytes hkilobytes.1 hkilobytes.2, Except.ok.injEq, String.append_left_inj,
      tenthsText_injective.eq_iff, eq_comm]
    exact (and_iff_right hkilobytes).symm
  · refine iff_of_false (fun h ↦ ?_) fun h ↦ hkilobytes h.1
    unfold sizeText at h
    split at h
    · obtain ⟨number, -, heq⟩ := map_eq_ok.mp h
      exact append_ne_kilobytes [] rfl (by decide) number heq
    · rw [if_neg (by omega)] at h
      obtain ⟨number, -, heq⟩ := map_eq_ok.mp h
      exact append_ne_kilobytes [' '] rfl (by decide) number heq

end Size

section Duration

variable {text : String} {tenths tenths' : Nat}

/-- A time is shown with this many tenths of a second, alone or beyond its minutes. -/
def ShowsSeconds (text : String) (tenths : Nat) : Prop :=
  text = tenthsText tenths ++ "s" ∨ ∃ minutes, text = minutesText minutes (tenthsText tenths)

/-- The letters of minutes and the seconds beyond them, parted at the sign of the minutes. -/
theorem toList_minutesText (minutes : Nat) (seconds : String) :
    (minutesText minutes seconds).toList =
      digitsOf minutes ++ 'm' :: ' ' :: (seconds ++ "s").toList := by
  have hsign : ¬(minutes : Int) < 0 := Int.not_lt.mpr (Int.natCast_nonneg minutes)
  simp [minutesText, integerText, hsign]

/-- The sign of the minutes is not among the letters of seconds. -/
theorem not_mem_tenthsText (tenths : Nat) : 'm' ∉ (tenthsText tenths ++ "s").toList := by
  have hdigits (k : Nat) : 'm' ∉ digitsOf k := not_mem_digitsOf (by decide) k
  simp [tenthsText, hdigits]

/-- A time without minutes is not shown as one with minutes. -/
theorem tenthsText_ne_minutesText (minutes : Nat) (seconds : String) :
    tenthsText tenths ++ "s" ≠ minutesText minutes seconds := by
  intro heq
  apply not_mem_tenthsText tenths
  rw [heq, toList_minutesText]
  exact List.mem_append_right _ List.mem_cons_self

/-- A text shows one number of tenths. -/
theorem ShowsSeconds.unique (h : ShowsSeconds text tenths) (h' : ShowsSeconds text tenths') :
    tenths = tenths' := by
  rcases h with rfl | ⟨minutes, rfl⟩ <;> rcases h' with heq | ⟨minutes', heq⟩
  · exact tenthsText_injective ((String.append_left_inj _).mp heq)
  · exact absurd heq (tenthsText_ne_minutesText _ _)
  · exact absurd heq.symm (tenthsText_ne_minutesText _ _)
  · have hminutes : 'm' ∉ digitsOf minutes := not_mem_digitsOf (by decide) minutes
    have hseconds : 'm' ∉ ' ' :: (tenthsText tenths ++ "s").toList :=
      List.not_mem_cons_of_ne_of_not_mem (by decide) (not_mem_tenthsText tenths)
    have hchars := congrArg String.toList heq
    rw [toList_minutesText, toList_minutesText,
      List.append_cons_inj_of_notMem hminutes hseconds, List.cons.injEq] at hchars
    have htexts := String.toList_injective hchars.2.2.2
    exact tenthsText_injective ((String.append_left_inj _).mp htexts)

/-- A minute counts 61440 times as many steps as the 1024th part of a second. -/
theorem minuteSteps_eq : minuteSteps = 61440 * powerOfTwo 1064 := by
  have hminute : 60 * 1024 = 61440 := rfl
  rw [minuteSteps, stepsPerUnit_eq, ← Nat.mul_assoc, hminute]

/-- A time of so many 1024th parts of a second is shown with the tenths of those that are beyond its
full minutes. -/
theorem exists_durationText (k : Nat) :
    ∃ text, durationText (finite false (k * powerOfTwo 1064)) = .ok text ∧
      ShowsSeconds text (roundEven (k % 61440 * 10) 1024) := by
  have hpos : 0 < powerOfTwo 1064 := powerOfTwo_pos 1064
  unfold durationText
  dsimp only
  rw [Bool.false_or, minuteSteps_eq, Nat.mul_mod_mul_right, fixedText_one, fixedText_one]
  by_cases hminute : k < 61440
  · have hsteps : k * powerOfTwo 1064 < 61440 * powerOfTwo 1064 :=
      Nat.mul_lt_mul_of_pos_right hminute hpos
    rw [if_pos (decide_eq_true hsteps), Nat.mod_eq_of_lt hminute]
    exact ⟨_, rfl, .inl rfl⟩
  · have hsteps : ¬k * powerOfTwo 1064 < 61440 * powerOfTwo 1064 := by
      rw [Nat.mul_lt_mul_right hpos]
      exact hminute
    rw [if_neg (by rwa [decide_eq_true_eq])]
    exact ⟨_, rfl, .inr ⟨_, rfl⟩⟩

/-- A natural is shown with one place as it is, without tenths. -/
theorem onePlace_one {n : Nat} (hn : n < powerOfTwo 53) :
    onePlace n 1 = .ok (tenthsText (n * 10)) := by
  have hnum : (n : Int).natAbs * stepsPerUnit = n * powerOfTwo 1074 * 1 := by
    rw [Int.natAbs_natCast, Nat.mul_one, stepsPerUnit]
  have hsign : decide ((n : Int) < 0) = false :=
    decide_eq_false (Int.not_lt.mpr (Int.natCast_nonneg n))
  have hquotient := quotient?_eq_finite Nat.one_pos hn (by decide) hnum
  rw [hsign] at hquotient
  rw [onePlace_of_quotient? hquotient, fixedText, fixed_one, stepsPerUnit, Nat.mul_right_comm,
    roundEven_mul_self (powerOfTwo_pos 1074)]

/-- A time in whole seconds is shown with those beyond its full minutes, unless the minutes have too
many digits. -/
theorem showsSeconds_of_wholeDurationText {n : Nat} (h : wholeDurationText n = .ok text) :
    ShowsSeconds text (n % 60 * 10) := by
  have hbits : n % 60 < powerOfTwo 53 :=
    Nat.lt_trans (Nat.mod_lt n (by decide)) (by decide +kernel)
  unfold wholeDurationText at h
  split at h
  · next hminute =>
    rw [← Nat.mod_eq_of_lt (Int.ofNat_lt.mp hminute), onePlace_one hbits] at h
    cases h
    exact .inl rfl
  · split at h
    · cases h
    · have hrest : (n : Int) % 60 = (n % 60 : Nat) := rfl
      rw [hrest, onePlace_one hbits] at h
      cases h
      exact .inr ⟨_, rfl⟩

end Duration

/-- The figure of a size in kilobytes reaches 1024.0 from 51 bytes below a megabyte on, and the
seconds of a time in 1024th parts reach 60.0 from 51 such parts below a full minute on; a time in
whole seconds never shows 60.0 of them. -/
theorem carries_iff (bytes k n : Nat) :
    ((∃ tenths, sizeText bytes = .ok (tenthsText tenths ++ " KB") ∧ 10240 ≤ tenths) ↔
      1048525 ≤ bytes ∧ bytes < 1048576) ∧
    ((∃ text tenths, durationText (finite false (k * powerOfTwo 1064)) = .ok text ∧
      ShowsSeconds text tenths ∧ 600 ≤ tenths) ↔ 61389 ≤ k % 61440) ∧
    ¬∃ text tenths, wholeDurationText n = .ok text ∧ ShowsSeconds text tenths ∧ 600 ≤ tenths := by
  refine ⟨?_, ?_, ?_⟩
  · have hcarry : 10240 ≤ roundEven (bytes * 10) 1024 ↔ 1048525 ≤ bytes := by
      rw [le_roundEven_tenths_iff (by decide)]
      omega
    simp only [sizeText_eq_kilobytes_iff]
    constructor
    · rintro ⟨tenths, ⟨⟨-, hhigh⟩, rfl⟩, htenths⟩
      exact ⟨hcarry.mp htenths, hhigh⟩
    · intro ⟨hlow, hhigh⟩
      exact ⟨_, ⟨⟨by omega, hhigh⟩, rfl⟩, hcarry.mpr hlow⟩
  · have hcarry : 600 ≤ roundEven (k % 61440 * 10) 1024 ↔ 61389 ≤ k % 61440 := by
      rw [le_roundEven_tenths_iff (by decide)]
      omega
    obtain ⟨text, htext, hshown⟩ := exists_durationText k
    rw [← hcarry]
    constructor
    · rintro ⟨text', tenths, htext', hshown', htenths⟩
      rw [htext, Except.ok.injEq] at htext'
      subst htext'
      rwa [hshown.unique hshown']
    · intro htenths
      exact ⟨text, _, htext, hshown, htenths⟩
  · rintro ⟨text, tenths, htext, hshown, hcarry⟩
    have htenths := hshown.unique (showsSeconds_of_wholeDurationText htext)
    have hsecond : n % 60 < 60 := Nat.mod_lt n (by decide)
    omega

/-- The last size below a megabyte is shown as 1024.0 kilobytes, and the last 1024th part of a
second below two minutes with 60.0 seconds. -/
theorem carries_shown :
    sizeText 1048575 = .ok "1024.0 KB" ∧
      durationText (finite false (122879 * powerOfTwo 1064)) = .ok "1m 60.0s" := by
  decide +kernel

end Console

end MailSearch
