import MailSearch.Search
import Mathlib.Data.List.Basic

/-!
# Sorting by insertion

Inserting the elements one after the other into a sorted list gives what the stable merge
sort of the library gives, as long as the elements of the list are totally ordered by a
rank: a larger rank stands in front, and elements of one rank keep their order.
-/

namespace MailSearch

variable {α : Type}

private theorem insertSorted_append {precedes : α → α → Bool} {x : α} {before after : List α}
    (hbefore : ∀ y ∈ before, precedes x y = false) (hafter : ∀ y ∈ after, precedes x y = true) :
    insertSorted precedes x (before ++ after) = before ++ x :: after := by
  induction before with
  | nil =>
    cases after with
    | nil => rfl
    | cons y ys =>
      have hy : precedes x y = true := hafter y List.mem_cons_self
      simp [insertSorted, hy]
  | cons y ys ih =>
    have hy : precedes x y = false := hbefore y List.mem_cons_self
    have hys := ih fun z hz ↦ hbefore z (List.mem_cons_of_mem y hz)
    simp [insertSorted, hy, hys]

section Total

variable {precedes : α → α → Bool}
  (htrans : ∀ a b c, precedes a b = true → precedes b c = true → precedes a c = true)
  (htotal : ∀ a b, (precedes a b || precedes b a) = true)
include htrans htotal

/-- In a sorted list the first element stands where insertion puts it: behind those that it does
not come before, and in front of all others. -/
private theorem mergeSort_cons_split (x : α) (xs : List α) :
    ∃ before after, (x :: xs).mergeSort precedes = before ++ x :: after ∧
      xs.mergeSort precedes = before ++ after ∧
      (∀ y ∈ before, precedes x y = false) ∧ ∀ y ∈ after, precedes x y = true := by
  obtain ⟨before, after, hsorted, hrest, hbefore⟩ := List.mergeSort_cons htrans htotal x xs
  refine ⟨before, after, hsorted, hrest, by simpa using hbefore, ?_⟩
  have hpairs := List.pairwise_mergeSort htrans htotal (x :: xs)
  rw [hsorted] at hpairs
  exact (List.pairwise_cons.mp (List.pairwise_append.mp hpairs).2.1).1

/-- Sorting by insertion is the stable merge sort of a total order. -/
theorem sortStable_eq_mergeSort (xs : List α) :
    sortStable precedes xs = xs.mergeSort precedes := by
  induction xs with
  | nil => simp [sortStable]
  | cons x xs ih =>
    obtain ⟨before, after, hsorted, hrest, hbefore, hafter⟩ :=
      mergeSort_cons_split htrans htotal x xs
    rw [sortStable, ih, hrest, hsorted]
    exact insertSorted_append hbefore hafter

/-- What is kept of a sorted list is sorted as what is kept of the list. -/
theorem filter_mergeSort (keep : α → Bool) (xs : List α) :
    (xs.mergeSort precedes).filter keep = (xs.filter keep).mergeSort precedes := by
  induction xs with
  | nil => simp
  | cons x xs ih =>
    obtain ⟨before, after, hsorted, hrest, hbefore, hafter⟩ :=
      mergeSort_cons_split htrans htotal x xs
    rw [hrest, List.filter_append] at ih
    rw [hsorted, List.filter_append]
    cases hx : keep x with
    | false =>
      have hneg : ¬keep x = true := by simp [hx]
      rw [List.filter_cons_of_neg hneg, List.filter_cons_of_neg hneg, ih]
    | true =>
      rw [List.filter_cons_of_pos hx, List.filter_cons_of_pos hx,
        ← sortStable_eq_mergeSort htrans htotal, sortStable,
        sortStable_eq_mergeSort htrans htotal, ← ih]
      symm
      apply insertSorted_append
      · exact fun y hy ↦ hbefore y (List.mem_filter.mp hy).1
      · exact fun y hy ↦ hafter y (List.mem_filter.mp hy).1

end Total

private theorem mem_insertSorted (precedes : α → α → Bool) (x y : α) (xs : List α) :
    y ∈ insertSorted precedes x xs ↔ y = x ∨ y ∈ xs := by
  induction xs with
  | nil => simp [insertSorted]
  | cons z zs ih =>
    simp only [insertSorted]
    split
    · simp
    · simp only [List.mem_cons, ih]
      exact or_left_comm

private theorem insertSorted_congr {p q : α → α → Bool} {x : α} {xs : List α}
    (h : ∀ y ∈ xs, p x y = q x y) : insertSorted p x xs = insertSorted q x xs := by
  induction xs with
  | nil => rfl
  | cons y ys ih =>
    have hy : p x y = q x y := h y List.mem_cons_self
    simp only [insertSorted, hy, ih fun z hz ↦ h z (List.mem_cons_of_mem y hz)]

private theorem mem_sortStable (precedes : α → α → Bool) (x : α) (xs : List α) :
    x ∈ sortStable precedes xs ↔ x ∈ xs := by
  induction xs with
  | nil => simp [sortStable]
  | cons y ys ih => rw [sortStable, mem_insertSorted, ih, List.mem_cons]

private theorem sortStable_congr {p q : α → α → Bool} {xs : List α}
    (h : ∀ a ∈ xs, ∀ b ∈ xs, p a b = q a b) : sortStable p xs = sortStable q xs := by
  induction xs with
  | nil => rfl
  | cons x xs ih =>
    have hxs : sortStable p xs = sortStable q xs :=
      ih fun a ha b hb ↦ h a (List.mem_cons_of_mem x ha) b (List.mem_cons_of_mem x hb)
    rw [sortStable, sortStable, hxs]
    apply insertSorted_congr
    intro y hy
    rw [mem_sortStable] at hy
    exact h x List.mem_cons_self y (List.mem_cons_of_mem x hy)

section Ranked

variable {precedes : α → α → Bool} (rank : α → Int) {xs : List α}

/-- Whether an element has at least the rank of another. -/
private def byRank (rank : α → Int) (a b : α) : Bool := decide (rank b ≤ rank a)

private theorem byRank_trans (a b c : α) (hab : byRank rank a b = true)
    (hbc : byRank rank b c = true) : byRank rank a c = true := by
  simp only [byRank, decide_eq_true_eq] at hab hbc ⊢
  omega

private theorem byRank_total (a b : α) : (byRank rank a b || byRank rank b a) = true := by
  simp only [byRank, Bool.or_eq_true, decide_eq_true_eq]
  omega

variable (h : ∀ a ∈ xs, ∀ b ∈ xs, precedes a b = decide (rank b ≤ rank a))
include h

private theorem mergeSort_eq_byRank : xs.mergeSort precedes = xs.mergeSort (byRank rank) := by
  simpa using List.map_mergeSort (f := id) (s := byRank rank) h

/-- Sorting by insertion is the stable merge sort of a list whose elements are ordered by
a rank, the largest first. -/
theorem sortStable_eq_mergeSort_of_rank : sortStable precedes xs = xs.mergeSort precedes := by
  rw [sortStable_congr (q := byRank rank) h, mergeSort_eq_byRank rank h]
  exact sortStable_eq_mergeSort (byRank_trans rank) (byRank_total rank) xs

/-- What is kept of a sorted list is sorted as what is kept of the list, if a rank orders the
elements of the list, the largest first. -/
theorem filter_mergeSort_of_rank (keep : α → Bool) :
    (xs.mergeSort precedes).filter keep = (xs.filter keep).mergeSort precedes := by
  have hkept : ∀ a ∈ xs.filter keep, ∀ b ∈ xs.filter keep,
      precedes a b = decide (rank b ≤ rank a) :=
    fun a ha b hb ↦ h a (List.mem_filter.mp ha).1 b (List.mem_filter.mp hb).1
  rw [mergeSort_eq_byRank rank h, mergeSort_eq_byRank rank hkept]
  exact filter_mergeSort (byRank_trans rank) (byRank_total rank) keep xs

end Ranked

end MailSearch
