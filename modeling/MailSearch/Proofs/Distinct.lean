import Mathlib.Data.List.Nodup

/-!
# First occurrences

`List.eraseDups` keeps the first occurrence of every element. What is put in front of a list
counts as the first occurrence, and what is put behind counts if it is new; nothing that a list
has said before matters but its first occurrences.
-/

namespace MailSearch

variable {α : Type} [BEq α] [LawfulBEq α] {xs : List α}

/-- The first occurrences among some elements are some of the first occurrences. -/
theorem eraseDups_filter (p : α → Bool) (xs : List α) :
    (xs.filter p).eraseDups = xs.eraseDups.filter p := by
  induction h : xs.length using Nat.strongRecOn generalizing xs with
  | _ n ih =>
    cases xs with
    | nil => rfl
    | cons x xs =>
      have hlength : (xs.filter fun y ↦ !y == x).length < n := by
        rw [← h, List.length_cons]
        exact Nat.lt_succ_of_le (List.length_filter_le _ xs)
      have hrest := ih _ hlength (xs.filter fun y ↦ !y == x) rfl
      rw [List.eraseDups_cons]
      by_cases hx : p x
      · rw [List.filter_cons_of_pos hx, List.filter_cons_of_pos hx, List.eraseDups_cons, ← hrest,
          List.filter_filter, List.filter_filter]
        simp only [Bool.and_comm]
      · rw [List.filter_cons_of_neg hx, List.filter_cons_of_neg hx, ← hrest, List.filter_filter]
        congr 1
        apply List.filter_congr
        intro y _
        by_cases hy : y = x
        · simp [hy, hx]
        · simp [hy]

/-- An element in front is the first, and is left out behind. -/
theorem eraseDups_cons_eq [DecidableEq α] (x : α) (xs : List α) :
    (x :: xs).eraseDups = x :: xs.eraseDups.filter (· ≠ x) := by
  rw [List.eraseDups_cons, eraseDups_filter]
  congr 2
  funext y
  rw [Bool.eq_iff_iff]
  simp

/-- No element is among the first occurrences twice. -/
theorem nodup_eraseDups (xs : List α) : xs.eraseDups.Nodup := by
  classical
  induction xs with
  | nil => exact List.nodup_nil
  | cons x xs ih =>
    rw [eraseDups_cons_eq, List.nodup_cons]
    refine ⟨?_, ih.filter _⟩
    simp

/-- Distinct elements are all first occurrences. -/
theorem eraseDups_eq_self (h : xs.Nodup) : xs.eraseDups = xs := by
  classical
  induction xs with
  | nil => rfl
  | cons x xs ih =>
    obtain ⟨hx, hxs⟩ := List.nodup_cons.mp h
    rw [eraseDups_cons_eq, ih hxs, List.filter_eq_self.mpr]
    intro y hy
    exact decide_eq_true fun he ↦ hx (he ▸ hy)

/-- Of what stands in front only the first occurrences matter. -/
theorem eraseDups_eraseDups_append (xs ys : List α) :
    (xs.eraseDups ++ ys).eraseDups = (xs ++ ys).eraseDups := by
  have hremove : ys.removeAll xs.eraseDups = ys.removeAll xs := by
    apply List.filter_congr
    intro y _
    rw [Bool.not_inj_iff, Bool.eq_iff_iff, List.elem_iff, List.elem_iff, List.mem_eraseDups]
  rw [List.eraseDups_append, List.eraseDups_append, eraseDups_eq_self (nodup_eraseDups xs), hremove]

/-- What stands behind counts if it is new. -/
theorem eraseDups_concat [DecidableEq α] (xs : List α) (x : α) :
    (xs ++ [x]).eraseDups = if x ∈ xs then xs.eraseDups else xs.eraseDups ++ [x] := by
  rw [List.eraseDups_append]
  by_cases hx : x ∈ xs
  · simp [List.removeAll, hx]
  · simp [List.removeAll, hx, eraseDups_eq_self (List.nodup_singleton x)]

/-- The first occurrences stand in the order of their places. -/
theorem pairwise_idxOf_eraseDups [DecidableEq α] (xs : List α) :
    xs.eraseDups.Pairwise fun x y ↦ xs.idxOf x < xs.idxOf y := by
  induction xs with
  | nil => exact List.Pairwise.nil
  | cons x xs ih =>
    have hplace {y : α} (hy : y ∈ xs.eraseDups.filter (· ≠ x)) :
        (x :: xs).idxOf y = xs.idxOf y + 1 := by
      have hne : y ≠ x := of_decide_eq_true (List.mem_filter.mp hy).2
      exact List.idxOf_cons_ne xs hne.symm
    rw [eraseDups_cons_eq, List.pairwise_cons]
    refine ⟨fun y hy ↦ ?_, (ih.filter _).imp_of_mem fun hy hz hlt ↦ ?_⟩
    · rw [List.idxOf_cons_self, hplace hy]
      exact Nat.succ_pos _
    · rw [hplace hy, hplace hz]
      exact Nat.succ_lt_succ hlt

/-- Of distinct elements that are cut off, one can be taken out before or after the cut. -/
theorem take_filter_take {α : Type} [DecidableEq α] {xs : List α} (h : xs.Nodup) (x : α) (n : Nat) :
    ((xs.take (n + 1)).filter (· ≠ x)).take n = (xs.filter (· ≠ x)).take n := by
  induction xs generalizing n with
  | nil => rfl
  | cons y ys ih =>
    obtain ⟨hy, hys⟩ := List.nodup_cons.mp h
    rw [List.take_succ_cons]
    by_cases hx : y = x
    · subst hx
      -- nothing else is taken out, so the cut that was made first does no harm
      have hothers : ∀ z ∈ ys, decide (z ≠ y) = true := by
        intro z hz
        exact decide_eq_true fun he ↦ hy (he ▸ hz)
      have htaken : ∀ z ∈ ys.take n, decide (z ≠ y) = true :=
        fun z hz ↦ hothers z (List.mem_of_mem_take hz)
      rw [List.filter_cons_of_neg (by simp), List.filter_cons_of_neg (by simp),
        List.filter_eq_self.mpr hothers, List.filter_eq_self.mpr htaken, List.take_take, Nat.min_self]
    · cases n with
      | zero => rfl
      | succ n =>
        rw [List.filter_cons_of_pos (by simpa using hx), List.filter_cons_of_pos (by simpa using hx),
          List.take_succ_cons, List.take_succ_cons, ih hys]

end MailSearch
