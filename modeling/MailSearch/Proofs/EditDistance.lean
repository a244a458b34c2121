import MailSearch.EditDistance
import Mathlib.Order.Bounds.Basic
import Mathlib.Order.MinMax

/-!
# Edit distance counts edits

`Aligns d xs ys` says that `d` single edits, made from left to right, turn one list into the
other. Every entry of the table is the least number of edits between what has been read of both
lists, because the last edit is made after one of the three entries beside it. So the distance of
two lists is the least number of edits between them.
-/

namespace MailSearch

/-- Going through two lists from left to right, `d` elements are replaced, left out or put in, and
all others are kept. -/
inductive Aligns {α : Type} : Nat → List α → List α → Prop where
  | nil : Aligns 0 [] []
  | keep {d : Nat} {xs ys : List α} (x : α) (h : Aligns d xs ys) : Aligns d (x :: xs) (x :: ys)
  | replace {d : Nat} {xs ys : List α} (x y : α) (h : Aligns d xs ys) :
      Aligns (d + 1) (x :: xs) (y :: ys)
  | delete {d : Nat} {xs ys : List α} (x : α) (h : Aligns d xs ys) : Aligns (d + 1) (x :: xs) ys
  | insert {d : Nat} {xs ys : List α} (y : α) (h : Aligns d xs ys) : Aligns (d + 1) xs (y :: ys)

namespace Aligns

variable {α : Type} {d e : Nat} {xs ys xs' ys' : List α}

/-- What is put in on one side is left out on the other. -/
theorem symm (h : Aligns d xs ys) : Aligns d ys xs := by
  induction h with
  | nil => exact nil
  | keep x _ ih => exact keep x ih
  | replace x y _ ih => exact replace y x ih
  | delete x _ ih => exact insert x ih
  | insert y _ ih => exact delete y ih

/-- Edits of two parts are edits of the whole. -/
theorem append (h : Aligns d xs ys) (h' : Aligns e xs' ys') :
    Aligns (d + e) (xs ++ xs') (ys ++ ys') := by
  induction h with
  | nil => rwa [Nat.zero_add]
  | keep x _ ih => exact keep x ih
  | replace x y _ ih => exact Nat.add_right_comm _ 1 e ▸ replace x y ih
  | delete x _ ih => exact Nat.add_right_comm _ 1 e ▸ delete x ih
  | insert y _ ih => exact Nat.add_right_comm _ 1 e ▸ insert y ih

/-- Edits can be made from right to left. -/
theorem reverse (h : Aligns d xs ys) : Aligns d xs.reverse ys.reverse := by
  induction h with
  | nil => exact nil
  | keep x _ ih => simpa using ih.append (keep x nil)
  | replace x y _ ih => simpa using ih.append (replace x y nil)
  | delete x _ ih => simpa using ih.append (delete x nil)
  | insert y _ ih => simpa using ih.append (insert y nil)

/-- The last edit leaves out the last element of one list, puts in that of the other, or replaces
one by the other, which costs nothing if they are the same. -/
theorem last_cases {x y : α} (h : Aligns e (xs ++ [x]) (ys ++ [y])) :
    (∃ d, Aligns d xs (ys ++ [y]) ∧ e = d + 1) ∨ (∃ d, Aligns d (xs ++ [x]) ys ∧ e = d + 1) ∨
      ∃ d, Aligns d xs ys ∧ (e = d + 1 ∨ x = y ∧ e = d) := by
  have hreverse := h.reverse
  rw [List.reverse_append, List.reverse_append] at hreverse
  cases hreverse with
  | keep x h => exact .inr (.inr ⟨e, by simpa using h.reverse, .inr ⟨rfl, rfl⟩⟩)
  | replace x y h => exact .inr (.inr ⟨_, by simpa using h.reverse, .inl rfl⟩)
  | delete x h => exact .inl ⟨_, by simpa using h.reverse, rfl⟩
  | insert y h => exact .inr (.inl ⟨_, by simpa using h.reverse, rfl⟩)

/-- Keeping every element takes no edit. -/
theorem refl (xs : List α) : Aligns 0 xs xs := by
  induction xs with
  | nil => exact nil
  | cons x xs ih => exact keep x ih

/-- Each edit makes a list longer by one element at most. -/
theorem length_le (h : Aligns d xs ys) : ys.length ≤ xs.length + d := by
  induction h with
  | nil => simp
  | _ => simp only [List.length_cons]; omega

/-- Turning a list into nothing leaves out each of its elements. -/
theorem nil_right_iff : Aligns d xs [] ↔ d = xs.length := by
  induction xs generalizing d with
  | nil =>
    constructor
    · rintro ⟨⟩
      rfl
    · rintro rfl
      exact nil
  | cons x xs ih =>
    constructor
    · rintro ⟨⟩
      next h => rw [ih.mp h, List.length_cons]
    · rintro rfl
      exact delete x (ih.mpr rfl)

end Aligns

/-- The number of edits between two lists: so many align them, and no fewer do. -/
def IsDistance {α : Type} (d : Nat) (xs ys : List α) : Prop := IsLeast {e | Aligns e xs ys} d

namespace IsDistance

variable {α : Type} {d : Nat} {xs ys : List α}

/-- The number of edits is the same in both directions. -/
theorem symm (h : IsDistance d xs ys) : IsDistance d ys xs :=
  ⟨h.1.symm, fun _ he ↦ h.2 (Aligns.symm he)⟩

/-- A list is as far from nothing as it is long. -/
theorem nil_right_iff : IsDistance d xs [] ↔ d = xs.length := by
  constructor
  · exact fun h ↦ Aligns.nil_right_iff.mp h.1
  · intro h
    exact ⟨Aligns.nil_right_iff.mpr h, fun _ he ↦ (h.trans (Aligns.nil_right_iff.mp he).symm).le⟩

/-- The least of what the three ways to make the last edit take is the number of edits. -/
theorem concat [DecidableEq α] {x y : α} {up left diagonal : Nat}
    (hup : IsDistance up xs (ys ++ [y])) (hleft : IsDistance left (xs ++ [x]) ys)
    (hdiagonal : IsDistance diagonal xs ys) :
    IsDistance (min (min (up + 1) (left + 1)) (diagonal + if x = y then 0 else 1))
      (xs ++ [x]) (ys ++ [y]) := by
  constructor
  · have hdelete : Aligns (up + 1) (xs ++ [x]) (ys ++ [y]) := by
      simpa using hup.1.append (.delete x .nil)
    have hinsert : Aligns (left + 1) (xs ++ [x]) (ys ++ [y]) := by
      simpa using hleft.1.append (.insert y .nil)
    have hlast : Aligns (diagonal + if x = y then 0 else 1) (xs ++ [x]) (ys ++ [y]) := by
      split
      · next heq =>
        rw [heq]
        exact hdiagonal.1.append (.keep y .nil)
      · exact hdiagonal.1.append (.replace x y .nil)
    rcases min_choice (min (up + 1) (left + 1)) (diagonal + if x = y then 0 else 1) with h | h
    · rw [h]
      rcases min_choice (up + 1) (left + 1) with h | h <;> rw [h]
      · exact hdelete
      · exact hinsert
    · rw [h]
      exact hlast
  · intro e he
    obtain ⟨d, hd, rfl⟩ | ⟨d, hd, rfl⟩ | ⟨d, hd, hcost⟩ := Aligns.last_cases he
    · have := hup.2 hd
      omega
    · have := hleft.2 hd
      omega
    · have := hdiagonal.2 hd
      rcases hcost with rfl | ⟨heq, rfl⟩
      · split <;> omega
      · rw [if_pos heq]
        omega

end IsDistance

section Table

variable {α : Type} {d : Nat} {us vs xs ys : List α} {row : List Nat}

/-- A row holds the number of edits between `us` and `vs`, and between `us` and every list that
goes on from `vs` along `ys`. -/
inductive IsRow (us : List α) : List α → List α → List Nat → Prop where
  | last {vs : List α} {d : Nat} (h : IsDistance d us vs) : IsRow us vs [] [d]
  | cons {vs ys : List α} {y : α} {d : Nat} {row : List Nat} (h : IsDistance d us vs)
      (hrow : IsRow us (vs ++ [y]) ys row) : IsRow us vs (y :: ys) (d :: row)

/-- A row begins with an entry. -/
theorem IsRow.exists_cons (h : IsRow us vs ys row) :
    ∃ d rest, row = d :: rest ∧ IsDistance d us vs := by
  cases h with
  | last h => exact ⟨_, _, rfl, h⟩
  | cons h hrow => exact ⟨_, _, rfl, h⟩

/-- A row ends with the number of edits between both lists. -/
theorem IsRow.isDistance_getLastD (h : IsRow us vs ys row) :
    IsDistance (row.getLastD 0) us (vs ++ ys) := by
  induction h with
  | last h => rwa [List.append_nil]
  | cons h hrow ih =>
    obtain ⟨d, rest, rfl, -⟩ := hrow.exists_cons
    simpa using ih

/-- The first row counts what is put in. -/
theorem isRow_range' (vs ys : List α) :
    IsRow [] vs ys (List.range' vs.length (ys.length + 1)) := by
  induction ys generalizing vs with
  | nil => exact .last (IsDistance.nil_right_iff.mpr rfl).symm
  | cons y ys ih =>
    have hrow := ih (vs ++ [y])
    rw [List.length_append, List.length_singleton] at hrow
    exact .cons (IsDistance.nil_right_iff.mpr rfl).symm hrow

variable [DecidableEq α]

/-- Continuing a row below a row gives a row. -/
theorem IsRow.extendRow {x : α} {left : Nat} (hleft : IsDistance left (us ++ [x]) vs)
    (h : IsRow us vs ys row) : IsRow (us ++ [x]) vs ys (left :: extendRow x left ys row) := by
  induction h generalizing left with
  | last h => exact .last hleft
  | cons h hrow ih =>
    obtain ⟨up, rest, rfl, hup⟩ := hrow.exists_cons
    exact .cons hleft (ih (hup.concat hleft h))

/-- The row below a row belongs to one element more. -/
theorem IsRow.nextRow (h : IsRow us [] ys row) (x : α) :
    IsRow (us ++ [x]) [] ys (nextRow ys row x) := by
  obtain ⟨d, rest, rfl, hd⟩ := h.exists_cons
  have hfirst : IsDistance (d + 1) (us ++ [x]) [] := by
    rw [IsDistance.nil_right_iff, IsDistance.nil_right_iff.mp hd, List.length_append,
      List.length_singleton]
  exact h.extendRow hfirst

/-- The rows below a row belong to ever more elements. -/
theorem IsRow.foldl_nextRow (h : IsRow us [] ys row) (xs : List α) :
    IsRow (us ++ xs) [] ys (xs.foldl (MailSearch.nextRow ys) row) := by
  induction xs generalizing us row with
  | nil => rwa [List.append_nil]
  | cons x xs ih =>
    have hrest := ih (h.nextRow x)
    rwa [List.append_assoc, List.singleton_append] at hrest

/-- The last row belongs to the whole list. -/
theorem isRow_lastRow (xs ys : List α) : IsRow xs [] ys (lastRow xs ys) := by
  have hfirst : IsRow [] [] ys (List.range (ys.length + 1)) := by
    rw [List.range_eq_range']
    exact isRow_range' [] ys
  exact hfirst.foldl_nextRow xs

/-- The distance of two lists is the least number of edits between them. -/
theorem isDistance_listDistance (xs ys : List α) : IsDistance (listDistance xs ys) xs ys := by
  unfold listDistance
  split
  · exact (isRow_lastRow ys xs).isDistance_getLastD.symm
  · exact (isRow_lastRow xs ys).isDistance_getLastD

end Table

end MailSearch
