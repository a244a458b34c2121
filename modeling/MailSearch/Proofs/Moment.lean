import MailSearch.Proofs.Calendar.Days
import MailSearch.Proofs.Outcome
import MailSearch.Value

/-!
# Moments of the calendar

The date of a moment is a day of the years 1 to 9999. The milliseconds of such a moment are refused
in one case only: the day before it, which is asked for when it has no offset, lies in the year 0.
-/

namespace MailSearch

namespace Date

/-- The months in front of one have no more days than a year. -/
theorem daysBeforeMonth_le (year : Int) (month : Nat) : daysBeforeMonth year month ≤ 366 := by
  have hyear : yearLength year ≤ 366 := by
    rw [yearLength_eq]
    split <;> decide
  have hwhole : (monthLengths year).take (max (month - 1) 12) = monthLengths year :=
    List.take_of_length_le (Nat.le_max_right _ _)
  have hpart := total_take_mono (Nat.le_max_left (month - 1) 12) (monthLengths year)
  rw [hwhole] at hpart
  exact Nat.le_trans hpart hyear

/-- The days of the calendar lie close to the years 1 to 9999. -/
theorem toDays_bounds {d : Date} (h : d.isReal) : -719162 ≤ d.toDays ∧ d.toDays ≤ 2933300 := by
  obtain ⟨hfirst, hlast, -, hday⟩ := lt_of_isReal h
  have hmonth : daysBeforeMonth d.year d.month ≤ 366 := daysBeforeMonth_le d.year d.month
  unfold toDays daysBeforeYear epoch
  dsimp only
  omega

/-- Days that lie close to the years 1 to 9999 are days of years close to these. -/
theorem year_ofDays_bounds {days : Int} (hfirst : -719165 ≤ days) (hlast : days ≤ 2933300) :
    -1000 ≤ (ofDays days).year ∧ (ofDays days).year ≤ 20000 := by
  unfold ofDays epoch
  dsimp only
  omega

end Date

/-- Seconds of days close to the years 1 to 9999 are refused for the year alone. -/
theorem Instant.fault_of_checkRange {seconds : Int} {fault : Fault}
    (hfirst : -719165 ≤ seconds / 86400) (hlast : seconds / 86400 ≤ 2933300)
    (h : checkRange seconds = .error fault) : ∃ year, fault = .yearOutOfRange year := by
  have hyear := Date.year_ofDays_bounds hfirst hlast
  unfold checkRange clockBound yearBound at h
  rw [if_neg (by omega)] at h
  dsimp only at h
  rw [if_neg (by omega)] at h
  split at h
  · exact ⟨_, (Except.error.inj h).symm⟩
  · exact nomatch h

namespace Moment

/-- Whether a moment is a time of a day of the calendar. -/
def isReal (m : Moment) : Bool := m.date.isReal && decide (m.secondOfDay < 86400)

/-- The milliseconds of a moment of the calendar are refused for the year alone. -/
theorem fault_of_millis {m : Moment} {fault : Fault} (hm : m.isReal)
    (h : m.millis = .error fault) : ∃ year, fault = .yearOutOfRange year := by
  simp only [isReal, Bool.and_eq_true, decide_eq_true_eq] at hm
  obtain ⟨hfirst, hlast⟩ := Date.toDays_bounds hm.1
  unfold millis at h
  split at h
  · next hoffset =>
    rw [Option.isNone_iff_eq_none] at hoffset
    rcases bind_eq_error.mp h with hrange | ⟨_, -, hmillis⟩
    · have hseconds : m.seconds = m.date.toDays * 86400 + m.secondOfDay := by
        rw [seconds, hoffset]
        exact Int.sub_zero _
      exact Instant.fault_of_checkRange (by omega) (by omega) hrange
    · exact nomatch hmillis
  · exact nomatch h

end Moment
end MailSearch
