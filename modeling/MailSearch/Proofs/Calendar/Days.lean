import MailSearch.Proofs.Calendar
import Mathlib.Logic.Function.Iterate

/-!
# The count of days

The calendar goes on from a day to the next: through the month, then to the first day of the next
month, and from December to January of the next year. Each such step adds one to the number of a
day, so the number counts the days from 1970-01-01, and later days have greater numbers. The day of
a number is found by walking the cycles of years and then the months, which undoes the count.
-/

namespace MailSearch

namespace Date

/-- The days of a month, the months counted from 1. -/
def monthLength (year : Int) (month : Nat) : Nat := (monthLengths year).getD (month - 1) 0

/-- The days of a year. -/
def yearLength (year : Int) : Nat := total (monthLengths year)

/-- A day of the calendar in some year, also before the year 1 and after the year 9999. -/
structure IsDay (d : Date) : Prop where
  month_pos : 1 ≤ d.month
  month_le : d.month ≤ 12
  day_pos : 1 ≤ d.day
  day_le : d.day ≤ monthLength d.year d.month

/-- The day after a day. -/
def next (d : Date) : Date :=
  if d.day < monthLength d.year d.month then { d with day := d.day + 1 }
  else if d.month < 12 then ⟨d.year, d.month + 1, 1⟩
  else ⟨d.year + 1, 1, 1⟩

/-- Whether a day lies before another: the year decides, then the month, then the day. -/
def Before (d e : Date) : Prop :=
  d.year < e.year ∨ d.year = e.year ∧ (d.month < e.month ∨ d.month = e.month ∧ d.day < e.day)

/-- The day that days are counted from. -/
def epochDay : Date := ⟨1970, 1, 1⟩

/-- Whether a day is so many days after 1970-01-01, or for a negative number so many days before
it. -/
def LiesAt (d : Date) (days : Int) : Prop :=
  next^[days.toNat] epochDay = next^[(-days).toNat] d

variable {d e : Date} {year : Int} {month : Nat}

/-- A month from 1 to 12 has a length. -/
theorem monthLengths_getElem? (hpos : 1 ≤ month) (hle : month ≤ 12) :
    (monthLengths year)[month - 1]? = some (monthLength year month) := by
  have htwelve : (monthLengths year).length = 12 := rfl
  have hbound : month - 1 < (monthLengths year).length := by omega
  rw [monthLength, List.getD_eq_getElem?_getD, List.getElem?_eq_getElem hbound, Option.getD_some]

/-- A month has days. -/
theorem monthLength_pos (hpos : 1 ≤ month) (hle : month ≤ 12) : 1 ≤ monthLength year month := by
  have hall : ∀ length ∈ monthLengths year, 1 ≤ length := by
    simp only [monthLengths, List.forall_mem_cons]
    split <;> decide
  exact hall _ (List.mem_of_getElem? (monthLengths_getElem? hpos hle))

/-- The calendar of the years 1 to 9999 has the days of these years. -/
theorem isReal_iff : d.isReal ↔ d.IsDay ∧ 1 ≤ d.year ∧ d.year ≤ 9999 := by
  simp only [isReal, Bool.and_eq_true, decide_eq_true_eq]
  constructor
  · rintro ⟨⟨⟨⟨hfirst, hlast⟩, hmonth⟩, hday⟩, hlength⟩
    have hmonths : d.month ≤ 12 := by
      by_contra hgt
      have hnone : (monthLengths d.year)[d.month - 1]? = none :=
        List.getElem?_eq_none (Nat.le_sub_one_of_lt (Nat.lt_of_not_le hgt))
      rw [hnone] at hlength
      exact absurd hlength Bool.false_ne_true
    rw [monthLengths_getElem? hmonth hmonths] at hlength
    exact ⟨⟨hmonth, hmonths, hday, of_decide_eq_true hlength⟩, hfirst, hlast⟩
  · rintro ⟨⟨hmonth, hmonths, hday, hlength⟩, hfirst, hlast⟩
    rw [monthLengths_getElem? hmonth hmonths]
    exact ⟨⟨⟨⟨hfirst, hlast⟩, hmonth⟩, hday⟩, decide_eq_true hlength⟩

section Count

/-- The leap years are those that four divides, but of the full centuries those that 400 divides. -/
theorem isLeapYear_iff (year : Int) :
    isLeapYear year ↔ year % 4 = 0 ∧ (year % 100 ≠ 0 ∨ year % 400 = 0) := by
  simp [isLeapYear]

/-- A leap year has a day more. -/
theorem yearLength_eq (year : Int) : yearLength year = if isLeapYear year then 366 else 365 := by
  unfold yearLength monthLengths
  split <;> rfl

/-- A year begins after the days of the one before. -/
theorem daysBeforeYear_succ (year : Int) :
    daysBeforeYear (year + 1) = daysBeforeYear year + yearLength year := by
  rw [yearLength_eq]
  simp only [daysBeforeYear, isLeapYear_iff]
  split <;> omega

/-- A later year does not begin before an earlier one ends. -/
theorem daysBeforeYear_add_le {year later : Int} (h : year < later) :
    daysBeforeYear year + yearLength year ≤ daysBeforeYear later := by
  rw [← daysBeforeYear_succ]
  unfold daysBeforeYear
  dsimp only
  omega

/-- A month begins after the days of the one before. -/
theorem daysBeforeMonth_succ (year : Int) (hpos : 1 ≤ month) (hle : month ≤ 12) :
    daysBeforeMonth year (month + 1) = daysBeforeMonth year month + monthLength year month := by
  have hmonth : month + 1 - 1 = month - 1 + 1 := by omega
  rw [daysBeforeMonth, hmonth, List.take_add_one, monthLengths_getElem? hpos hle, total_append]
  rfl

/-- A later month does not begin before an earlier one ends. -/
theorem daysBeforeMonth_add_le (year : Int) {later : Nat} (hpos : 1 ≤ month) (hle : month ≤ 12)
    (h : month < later) :
    daysBeforeMonth year month + monthLength year month ≤ daysBeforeMonth year later := by
  rw [← daysBeforeMonth_succ year hpos hle]
  exact total_take_mono (by omega) _

/-- A year ends with its last month. -/
theorem daysBeforeMonth_thirteen (year : Int) : daysBeforeMonth year 13 = yearLength year := rfl

/-- A day lies within its year. -/
theorem IsDay.dayOfYear_lt (h : d.IsDay) :
    daysBeforeMonth d.year d.month + (d.day - 1) < yearLength d.year := by
  have hbound : d.month < 13 := Nat.lt_succ_of_le h.month_le
  have hmonth := daysBeforeMonth_add_le d.year h.month_pos h.month_le hbound
  have hpos := h.day_pos
  have hle := h.day_le
  rw [daysBeforeMonth_thirteen] at hmonth
  omega

/-- The next day is a day of the calendar. -/
theorem IsDay.next (h : d.IsDay) : d.next.IsDay := by
  unfold Date.next
  split
  · next hinside =>
    exact ⟨h.month_pos, h.month_le, Nat.le_add_left 1 _, hinside⟩
  · split
    · next hmonths =>
      have hpos : 1 ≤ d.month + 1 := Nat.le_add_left 1 _
      exact ⟨hpos, hmonths, Nat.le_refl 1, monthLength_pos hpos hmonths⟩
    · have htwelve : 1 ≤ 12 := by decide
      exact ⟨Nat.le_refl 1, htwelve, Nat.le_refl 1, monthLength_pos (Nat.le_refl 1) htwelve⟩

/-- The next day has the next number. -/
theorem toDays_next (h : d.IsDay) : d.next.toDays = d.toDays + 1 := by
  have hpos := h.day_pos
  have hle := h.day_le
  unfold Date.next
  split
  · simp only [toDays]
    omega
  · split
    · have hmonth := daysBeforeMonth_succ d.year h.month_pos h.month_le
      simp only [toDays]
      omega
    · -- the last day of December is the last one of the year
      have hdecember : d.month = 12 := Nat.le_antisymm h.month_le (by omega)
      have hmonth := daysBeforeMonth_succ d.year h.month_pos h.month_le
      have hyear := daysBeforeYear_succ d.year
      have hjanuary : daysBeforeMonth (d.year + 1) 1 = 0 := rfl
      rw [hdecember, daysBeforeMonth_thirteen, ← hdecember] at hmonth
      simp only [toDays]
      omega

/-- The day that is some days later is a day of the calendar. -/
theorem IsDay.iterate_next (h : d.IsDay) (n : Nat) : (Date.next^[n] d).IsDay := by
  induction n with
  | zero => exact h
  | succ n ih =>
    rw [Function.iterate_succ_apply']
    exact ih.next

/-- The day that is some days later has a number that is greater by as much. -/
theorem toDays_iterate_next (h : d.IsDay) (n : Nat) : (Date.next^[n] d).toDays = d.toDays + n := by
  induction n with
  | zero => exact (Int.add_zero _).symm
  | succ n ih =>
    rw [Function.iterate_succ_apply', toDays_next (h.iterate_next n), ih, Int.natCast_succ,
      Int.add_assoc]

/-- A later day has a greater number. -/
theorem toDays_lt_of_before (hd : d.IsDay) (he : e.IsDay) (h : d.Before e) :
    d.toDays < e.toDays := by
  have hpos := hd.day_pos
  have hpos' := he.day_pos
  rcases h with hyear | ⟨hyear, hmonth | ⟨hmonth, hday⟩⟩
  · have hends := hd.dayOfYear_lt
    have hbegins := daysBeforeYear_add_le hyear
    unfold toDays
    omega
  · have hle := hd.day_le
    have hbegins := daysBeforeMonth_add_le d.year hd.month_pos hd.month_le hmonth
    unfold toDays
    rw [← hyear]
    omega
  · unfold toDays
    rw [← hyear, ← hmonth]
    omega

/-- Of two days one is before the other unless they are the same. -/
theorem before_trichotomy (d e : Date) : d.Before e ∨ d = e ∨ e.Before d := by
  obtain ⟨year, month, day⟩ := d
  obtain ⟨year', month', day'⟩ := e
  simp only [Before, mk.injEq]
  omega

/-- Days with the same number are the same. -/
theorem eq_of_toDays_eq (hd : d.IsDay) (he : e.IsDay) (h : d.toDays = e.toDays) : d = e := by
  rcases before_trichotomy d e with hbefore | heq | hafter
  · exact absurd h (Int.ne_of_lt (toDays_lt_of_before hd he hbefore))
  · exact heq
  · exact absurd h.symm (Int.ne_of_lt (toDays_lt_of_before he hd hafter))

/-- The numbers of days are in the order of the days. -/
theorem toDays_lt_iff (hd : d.IsDay) (he : e.IsDay) : d.toDays < e.toDays ↔ d.Before e := by
  refine ⟨fun hlt ↦ ?_, toDays_lt_of_before hd he⟩
  rcases before_trichotomy d e with hbefore | heq | hafter
  · exact hbefore
  · exact absurd (heq ▸ hlt) (Int.lt_irrefl _)
  · exact absurd hlt (Int.not_lt.mpr (Int.le_of_lt (toDays_lt_of_before he hd hafter)))

/-- Days are counted from a day of the calendar. -/
theorem isDay_epochDay : epochDay.IsDay where
  month_pos := by decide
  month_le := by decide
  day_pos := by decide
  day_le := by decide

/-- A day lies as many days from 1970-01-01 as its number says. -/
theorem liesAt_iff (hd : d.IsDay) (days : Int) : d.LiesAt days ↔ days = d.toDays := by
  have hepoch : epochDay.toDays = 0 := by decide
  have hleft := isDay_epochDay.iterate_next days.toNat
  have hright := hd.iterate_next (-days).toNat
  have hcount : (next^[days.toNat] epochDay).toDays = (next^[(-days).toNat] d).toDays ↔
      days = d.toDays := by
    rw [toDays_iterate_next isDay_epochDay, toDays_iterate_next hd, hepoch]
    omega
  rw [← hcount]
  exact ⟨congrArg toDays, eq_of_toDays_eq hleft hright⟩

end Count

section Walk

/-- A walk through the months ends in the one that has the day. -/
theorem monthAndDay_spec (month rest : Nat) (lengths : List Nat) (h : rest < total lengths) :
    ∃ k length, lengths[k]? = some length ∧ monthAndDay month lengths rest =
      (month + k, rest - total (lengths.take k) + 1) ∧
      total (lengths.take k) ≤ rest ∧ rest < total (lengths.take k) + length := by
  induction lengths generalizing month rest with
  | nil => exact absurd h (Nat.not_lt_zero rest)
  | cons first lengths ih =>
    unfold monthAndDay
    split
    · next hfirst => exact ⟨0, first, rfl, rfl, Nat.zero_le _, by simpa using hfirst⟩
    · next hfirst =>
      rw [total_cons] at h
      obtain ⟨k, length, hget, hwalk, hle, hlt⟩ := ih (month + 1) (rest - first) (by omega)
      refine ⟨k + 1, length, hget, ?_, ?_, ?_⟩
      · rw [hwalk, List.take_succ_cons, total_cons, Nat.sub_sub, Nat.add_right_comm]
        rfl
      · rw [List.take_succ_cons, total_cons]
        omega
      · rw [List.take_succ_cons, total_cons]
        omega

section Cycles

variable {era century olympiad single : Int}

/-- The days in front of a year that is found by cycles of 400, 100, 4 and 1 years. -/
theorem daysBeforeYear_cycles (hcentury : 0 ≤ century ∧ century ≤ 3)
    (holympiad : 0 ≤ olympiad ∧ olympiad ≤ 24) (hsingle : 0 ≤ single ∧ single ≤ 3) :
    daysBeforeYear (400 * era + 100 * century + 4 * olympiad + single + 1) =
      146097 * era + 36524 * century + 1461 * olympiad + 365 * single := by
  simp only [daysBeforeYear]
  omega

/-- The last year of four is a leap year, but the last one of a century only if the century is the
last one of four. -/
theorem lt_yearLength_cycles {rest : Int} (holympiad : 0 ≤ olympiad ∧ olympiad ≤ 24)
    (hsingle : 0 ≤ single ∧ single ≤ 3)
    (hrest : rest < 365 ∨ rest < 366 ∧ single = 3 ∧ (olympiad < 24 ∨ century = 3)) :
    rest < yearLength (400 * era + 100 * century + 4 * olympiad + single + 1) := by
  rw [yearLength_eq]
  simp only [isLeapYear_iff]
  split <;> omega

end Cycles

/-- The cycles of 400, 100, 4 and 1 years lead to the year of a day, and leave a day of that
year. -/
theorem exists_ofDays_eq (days : Int) :
    ∃ year rest, rest < yearLength year ∧ daysBeforeYear year + rest = days + epoch ∧
      ofDays days = ⟨year, (monthAndDay 1 (monthLengths year) rest).1,
        (monthAndDay 1 (monthLengths year) rest).2⟩ := by
  unfold ofDays
  dsimp only
  -- with a name for each amount the bounds follow one from the other
  generalize days + epoch = n
  generalize hcycle : n % 146097 = cycle
  generalize hcentury : min 3 (cycle / 36524) = century
  generalize hinCentury : cycle - 36524 * century = inCentury
  generalize holympiad : inCentury / 1461 = olympiad
  generalize hinOlympiad : inCentury % 1461 = inOlympiad
  generalize hsingle : min 3 (inOlympiad / 365) = single
  have hcenturies : 0 ≤ century ∧ century ≤ 3 := by omega
  have holympiads : 0 ≤ olympiad ∧ olympiad ≤ 24 := by omega
  have hsingles : 0 ≤ single ∧ single ≤ 3 := by omega
  have hrest : 0 ≤ inOlympiad - 365 * single := by omega
  refine ⟨_, _, ?_, ?_, rfl⟩
  · rw [← Int.ofNat_lt, Int.toNat_of_nonneg hrest]
    exact lt_yearLength_cycles holympiads hsingles (by omega)
  · rw [daysBeforeYear_cycles hcenturies holympiads hsingles, Int.toNat_of_nonneg hrest]
    omega

/-- The day of a number is a day of the calendar and has the number. -/
theorem ofDays_spec (days : Int) : (ofDays days).IsDay ∧ (ofDays days).toDays = days := by
  obtain ⟨year, rest, hrest, hyear, hdays⟩ := exists_ofDays_eq days
  obtain ⟨k, length, hget, hwalk, hle, hlt⟩ := monthAndDay_spec 1 rest (monthLengths year) hrest
  have htwelve : k < 12 := (List.getElem?_eq_some_iff.mp hget).1
  have hmonth : 1 + k - 1 = k := Nat.add_sub_cancel_left 1 k
  have hmonths : 1 + k ≤ 12 := by omega
  have hlength : monthLength year (1 + k) = length := by
    rw [monthLength, hmonth, List.getD_eq_getElem?_getD, hget, Option.getD_some]
  have hday : rest - total ((monthLengths year).take k) + 1 ≤ monthLength year (1 + k) := by omega
  rw [hdays, hwalk]
  constructor
  · exact ⟨Nat.le_add_right 1 k, hmonths, Nat.le_add_left 1 _, hday⟩
  · simp only [toDays, daysBeforeMonth, hmonth, Nat.add_sub_cancel]
    omega

/-- A day is the day of its number. -/
theorem ofDays_toDays (hd : d.IsDay) : ofDays d.toDays = d :=
  eq_of_toDays_eq (ofDays_spec _).1 hd (ofDays_spec _).2

end Walk

end Date

end MailSearch
