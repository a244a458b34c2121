import MailSearch.Proofs.Calendar.Days
import MailSearch.Proofs.Moment
import MailSearch.Proofs.Numeric.Exact

/-!
# Date literals follow the calendar

A literal is read exactly if its digits, of whatever script, name a day of the years 1 to 9999. What
is read is the count of days from 1970-01-01 in milliseconds, so it grows with the days, and it is
shown as the midnight of the day that was named. The seconds of all these days are exact as
floating-point numbers, and so are their milliseconds.
-/

namespace MailSearch.Date

variable {cs : List Char} {d : Date}

section Reading

/-- A literal is read exactly if it names a day of the years 1 to 9999. -/
theorem readMillis?_eq_some_iff {text : String} {millis : Int} :
    readMillis? text = some millis ↔ ∃ d, Names text.toList d ∧ d.isReal ∧ millis = d.toMillis := by
  simp only [readMillis?, ofLiteral?, Option.map_eq_some_iff, Option.filter_eq_some_iff,
    readShape?_eq_some_iff, and_assoc, @eq_comm _ millis]

/-- A text names one day at most. -/
theorem Names.unique {e : Date} (h : Names cs d) (h' : Names cs e) : d = e :=
  Option.some.inj ((readShape?_eq_some_iff.mpr h).symm.trans (readShape?_eq_some_iff.mpr h'))

/-- What is read from a literal are the milliseconds of the day that it names. -/
theorem Names.eq_toMillis {text : String} {millis : Int} (h : Names text.toList d)
    (hread : readMillis? text = some millis) : d.isReal ∧ millis = d.toMillis := by
  obtain ⟨e, hnames, hreal, hmillis⟩ := readMillis?_eq_some_iff.mp hread
  obtain rfl := h.unique hnames
  exact ⟨hreal, hmillis⟩

end Reading

section Midnight

open Binary64

/-- The seconds of a day of the years 1 to 9999 take no more than 53 bits. -/
theorem natAbs_seconds_lt (h : d.isReal) : (d.toDays * 86400).natAbs < powerOfTwo 53 := by
  obtain ⟨hfirst, hlast⟩ := toDays_bounds h
  have hseconds : (d.toDays * 86400).natAbs ≤ 2933300 * 86400 := by omega
  have hbits : 2933300 * 86400 < powerOfTwo 53 := by decide +kernel
  exact Nat.lt_of_le_of_lt hseconds hbits

/-- Whole seconds are an instant without microseconds. -/
theorem ofSeconds_whole (seconds : Int) :
    Instant.ofSeconds (decide (seconds < 0)) (seconds.natAbs * stepsPerUnit) = ⟨seconds, 0⟩ := by
  have hunit : 0 < stepsPerUnit := powerOfTwo_pos 1074
  have hsteps : roundSteps 0 1 = 0 := roundSteps_of_gapAt_dvd Nat.one_pos (Nat.dvd_zero _)
  have hmicros : roundEven 0 stepsPerUnit = 0 := by
    have hnone := roundEven_mul_self hunit 0
    rwa [Nat.zero_mul] at hnone
  unfold Instant.ofSeconds
  -- a unit counts so many steps that nothing must compute them
  generalize stepsPerUnit = unit at hunit hmicros ⊢
  simp only [Nat.mul_div_cancel _ hunit, Nat.mul_mod_left, Nat.zero_mul, hsteps, hmicros,
    decide_eq_true_eq, if_pos, Nat.zero_lt_succ]
  rw [← apply_ite (Instant.mk · 0), ite_neg_natAbs]

/-- Milliseconds that are a number of seconds are the instant of this number. -/
theorem ofMillis_of_quotient? {millis : Int} {negative : Bool} {steps : Nat}
    (h : quotient? millis 1000 = some (finite negative steps)) :
    Instant.ofMillis millis =
      (Instant.checkRange (Instant.ofSeconds negative steps).seconds).map
        fun _ ↦ Instant.ofSeconds negative steps := by
  -- unfolded as a function, since checking it at an argument would compute the quotient
  generalize hdef : Instant.ofMillis = f
  delta Instant.ofMillis at hdef
  subst hdef
  simp only [h]

/-- The milliseconds of whole seconds are divided exactly, so they are the instant of the seconds. -/
theorem ofMillis_whole {seconds : Int} (hbits : seconds.natAbs < powerOfTwo 53) :
    Instant.ofMillis (seconds * 1000) =
      (Instant.checkRange seconds).map fun _ ↦ ⟨seconds, 0⟩ := by
  have hthousand : Int.natAbs 1000 = 1000 := rfl
  have hnum : (seconds * 1000).natAbs * stepsPerUnit =
      seconds.natAbs * powerOfTwo 1074 * 1000 := by
    rw [Int.natAbs_mul, hthousand, Nat.mul_right_comm, stepsPerUnit]
  have hsign : decide (seconds * 1000 < 0) = decide (seconds < 0) := by
    rw [decide_eq_decide]
    omega
  have hquotient := quotient?_eq_finite (by decide) hbits (by decide) hnum
  rw [hsign, ← stepsPerUnit] at hquotient
  rw [ofMillis_of_quotient? hquotient, ofSeconds_whole]

/-- The midnights of the years 1 to 9999 are held by the clock and by the calendar. -/
theorem checkRange_toDays (h : d.isReal) : Instant.checkRange (d.toDays * 86400) = .ok () := by
  obtain ⟨hday, hyears⟩ := isReal_iff.mp h
  obtain ⟨hfirst, hlast⟩ := toDays_bounds h
  have hdate : ofDays (d.toDays * 86400 / 86400) = d := by
    rw [Int.mul_ediv_cancel _ (by decide), ofDays_toDays hday]
  unfold Instant.checkRange Instant.clockBound Instant.yearBound
  rw [hdate, if_neg (by omega)]
  dsimp only
  rw [if_neg (by omega), if_neg (by omega)]

/-- The milliseconds of a day are shown as its midnight. -/
theorem isoOfMillis_toMillis (h : d.isReal) :
    isoOfMillis d.toMillis = .ok (zeroPadded 4 d.year.toNat ++ "-" ++ zeroPadded 2 d.month ++ "-" ++
      zeroPadded 2 d.day ++ "T00:00:00Z") := by
  have hmillis : d.toMillis = d.toDays * 86400 * 1000 := (Int.mul_assoc _ 86400 1000).symm
  have hdate : (⟨d.toDays * 86400, 0⟩ : Instant).date = d := by
    rw [Instant.date, Int.mul_ediv_cancel _ (by decide), ofDays_toDays (isReal_iff.mp h).1]
  have hclock : (⟨d.toDays * 86400, 0⟩ : Instant).clock = (0, 0, 0) := by
    simp [Instant.clock, Instant.secondOfDay]
  rw [isoOfMillis, hmillis, ofMillis_whole (natAbs_seconds_lt h), checkRange_toDays h, Except.map, Except.map,
    Instant.isoText, hclock, hdate]
  simp only [if_pos, String.append_assoc]
  rfl

/-- Seconds of at most 53 bits in milliseconds are multiplied by a thousand exactly. -/
theorem truncate?_mul_thousand {seconds : Int} (hbits : seconds.natAbs * 1000 < powerOfTwo 53) :
    ((ofInt seconds).mul (ofInt 1000)).truncate? = some (seconds * 1000) := by
  have hexact : seconds.natAbs < powerOfTwo 53 :=
    Nat.lt_of_le_of_lt (Nat.le_mul_of_pos_right _ (by decide)) hbits
  have hthousand : ofInt 1000 = finite false (1000 * stepsPerUnit) := by
    have hfactor : Int.natAbs 1000 = 1000 := rfl
    have hpos : decide ((1000 : Int) < 0) = false := rfl
    rw [ofInt_eq_finite (by decide +kernel), hfactor, hpos]
  have hsign : decide (seconds < 0) = decide (seconds * 1000 < 0) := by
    rw [decide_eq_decide]
    omega
  have hnatAbs : seconds.natAbs * 1000 = (seconds * 1000).natAbs := by
    rw [Int.natAbs_mul]
    rfl
  rw [ofInt_eq_finite hexact, hthousand, mul_eq_finite hbits, Bool.bne_false, hsign, hnatAbs,
    truncate?_whole]

end Midnight

/-- A literal is read exactly if it names a day of the years 1 to 9999, as the milliseconds of the
days that the day lies from 1970-01-01. Later days have more of them, and they are shown as the
midnight of the day. The seconds of these years are floating-point numbers as they stand, and their
product with a thousand is exact. -/
theorem literals_follow_calendar :
    (∀ (text : String) (millis : Int), readMillis? text = some millis ↔
      ∃ d days, Names text.toList d ∧ (d.IsDay ∧ 1 ≤ d.year ∧ d.year ≤ 9999) ∧ d.LiesAt days ∧
        millis = 86400000 * days) ∧
    (∀ (text text' : String) (d d' : Date) (millis millis' : Int),
      Names text.toList d → readMillis? text = some millis →
      Names text'.toList d' → readMillis? text' = some millis' →
        (millis < millis' ↔ d.Before d')) ∧
    (∀ (text : String) (d : Date) (millis : Int),
      Names text.toList d → readMillis? text = some millis →
        isoOfMillis millis = .ok (zeroPadded 4 d.year.toNat ++ "-" ++ zeroPadded 2 d.month ++ "-" ++
          zeroPadded 2 d.day ++ "T00:00:00Z")) ∧
    (∀ seconds : Int, -62135596800 ≤ seconds → seconds ≤ 253402300799 →
      Binary64.ofInt seconds =
        .finite (decide (seconds < 0)) (seconds.natAbs * Binary64.stepsPerUnit) ∧
      ((Binary64.ofInt seconds).mul (Binary64.ofInt 1000)).truncate? = some (seconds * 1000)) := by
  refine ⟨fun text millis ↦ ?_, fun text text' d d' millis millis' hd hread hd' hread' ↦ ?_,
    fun text d millis hd hread ↦ ?_, fun seconds hfirst hlast ↦ ?_⟩
  · rw [readMillis?_eq_some_iff]
    constructor
    · rintro ⟨d, hnames, hreal, rfl⟩
      obtain ⟨hday, hyears⟩ := isReal_iff.mp hreal
      exact ⟨d, d.toDays, hnames, ⟨hday, hyears⟩, (liesAt_iff hday _).mpr rfl, Int.mul_comm _ _⟩
    · rintro ⟨d, days, hnames, ⟨hday, hyears⟩, hlies, rfl⟩
      obtain rfl := (liesAt_iff hday days).mp hlies
      exact ⟨d, hnames, isReal_iff.mpr ⟨hday, hyears⟩, Int.mul_comm _ _⟩
  · obtain ⟨hreal, rfl⟩ := hd.eq_toMillis hread
    obtain ⟨hreal', rfl⟩ := hd'.eq_toMillis hread'
    rw [← toDays_lt_iff (isReal_iff.mp hreal).1 (isReal_iff.mp hreal').1]
    unfold toMillis millisPerDay
    omega
  · obtain ⟨hreal, rfl⟩ := hd.eq_toMillis hread
    exact isoOfMillis_toMillis hreal
  · have hseconds : seconds.natAbs ≤ 253402300799 := by omega
    have hmillis : 253402300799 * 1000 < powerOfTwo 53 := by decide +kernel
    have hbits : seconds.natAbs * 1000 < powerOfTwo 53 :=
      Nat.lt_of_le_of_lt (Nat.mul_le_mul_right _ hseconds) hmillis
    have hexact : seconds.natAbs < powerOfTwo 53 :=
      Nat.lt_of_le_of_lt (Nat.le_mul_of_pos_right _ (by decide)) hbits
    exact ⟨Binary64.ofInt_eq_finite hexact, truncate?_mul_thousand hbits⟩

/-- A leap day that is written with digits of two scripts, and the last day before 1970. -/
theorem literals_follow_calendar_leapDay :
    (Names "２０２４-02/29\n".toList ⟨2024, 2, 29⟩ ∧
      readMillis? "２０２４-02/29\n" = some 1709164800000) ∧
    (Names "1969/12/31".toList ⟨1969, 12, 31⟩ ∧ readMillis? "1969/12/31" = some (-86400000)) ∧
    ((-86400000 : Int) < 1709164800000 ↔ Before ⟨1969, 12, 31⟩ ⟨2024, 2, 29⟩) ∧
    isoOfMillis 1709164800000 = .ok "2024-02-29T00:00:00Z" ∧
    ((Binary64.ofInt (-86400)).mul (Binary64.ofInt 1000)).truncate? = some (-86400000) := by
  have hd : Names "２０２４-02/29\n".toList ⟨2024, 2, 29⟩ :=
    readShape?_eq_some_iff.mp (by decide +kernel)
  have he : Names "1969/12/31".toList ⟨1969, 12, 31⟩ :=
    readShape?_eq_some_iff.mp (by decide +kernel)
  have hread : readMillis? "２０２４-02/29\n" = some 1709164800000 := by decide +kernel
  have hread' : readMillis? "1969/12/31" = some (-86400000) := by decide +kernel
  obtain ⟨-, horder, hiso, hexact⟩ := literals_follow_calendar
  have hshown := hiso _ _ _ hd hread
  have hmidnight : zeroPadded 4 (Int.toNat 2024) ++ "-" ++ zeroPadded 2 2 ++ "-" ++
      zeroPadded 2 29 ++ "T00:00:00Z" = "2024-02-29T00:00:00Z" := by decide +kernel
  rw [hmidnight] at hshown
  have hproduct := (hexact (-86400) (by decide) (by decide)).2
  have hmillis : (-86400 : Int) * 1000 = -86400000 := rfl
  rw [hmillis] at hproduct
  exact ⟨⟨hd, hread⟩, ⟨he, hread'⟩, horder _ _ _ _ _ _ he hread' hd hread, hshown, hproduct⟩

end MailSearch.Date
