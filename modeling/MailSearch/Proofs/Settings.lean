import MailSearch.Proofs.Outcome
import MailSearch.Session

/-!
# Settings are never missing

A setting that is not set or that holds no number has a default, so every setting has a value
and every limit is a natural.
-/

namespace MailSearch

namespace Settings

/-- A number of the environment is read, or else its default is taken. -/
theorem exists_number {α : Type} (s : Settings) (name : String) (default : α) (shown : String)
    (read? : String → Option α) :
    ∃ value, (s.number name default shown read?).result = .ok value := by
  unfold Settings.number
  split
  · exact ⟨default, rfl⟩
  · split
    · exact ⟨default, rfl⟩
    · split
      · next value _ => exact ⟨value, rfl⟩
      · exact ⟨default, rfl⟩

/-- A limit of the environment is not negative if its default is not. -/
theorem exists_limit (s : Settings) (name : String) {default : Int} (hdefault : 0 ≤ default) :
    ∃ n : Nat, (s.limit name default).result = .ok (n : Int) := by
  obtain ⟨value, hvalue⟩ := exists_number s name default (integerText default) readInteger?
  have hresult : (s.limit name default).result = .ok (if 0 ≤ value then value else default) := by
    rw [limit, Logged.result_bind, hvalue]
    rfl
  have hnonneg : 0 ≤ if 0 ≤ value then value else default := by
    split
    · assumption
    · exact hdefault
  obtain ⟨n, hn⟩ := Int.eq_ofNat_of_zero_le hnonneg
  exact ⟨n, hresult.trans (by rw [hn])⟩

end Settings

/-- A limit that is asked for, or else that of the settings, is a natural. -/
theorem exists_chosenLimit (limit : Option Int) {fallback : Logged Int}
    (hfallback : ∃ n : Nat, fallback.result = .ok (n : Int)) :
    ∃ n : Nat, (chosenLimit limit fallback).result = .ok (n : Int) := by
  unfold chosenLimit
  cases limit with
  | none => exact hfallback
  | some n =>
    dsimp only
    split
    · exact hfallback
    · next hn =>
      obtain ⟨m, hm⟩ := Int.eq_ofNat_of_zero_le (Int.not_lt.mp hn)
      exact ⟨m, congrArg Except.ok hm⟩

end MailSearch
