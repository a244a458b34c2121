/-!
# Sums and powers

The sum of some naturals, and the powers of two and of ten that the number formats are
built from.
-/

namespace MailSearch

/-- The sum of some naturals. -/
def total : List Nat → Nat
  | [] => 0
  | n :: ns => n + total ns

@[simp] theorem total_nil : total [] = 0 := rfl

@[simp] theorem total_cons (n : Nat) (ns : List Nat) : total (n :: ns) = n + total ns := rfl

/-- The sum of two lists of naturals. -/
theorem total_append (ms ns : List Nat) : total (ms ++ ns) = total ms + total ns := by
  induction ms with
  | nil => exact (Nat.zero_add _).symm
  | cons m ms ih => rw [List.cons_append, total_cons, total_cons, ih, Nat.add_assoc]

/-- A longer part of a list has no smaller sum. -/
theorem total_take_mono {m n : Nat} (h : m ≤ n) (ns : List Nat) :
    total (ns.take m) ≤ total (ns.take n) := by
  induction ns generalizing m n with
  | nil => exact Nat.le_of_eq (by rw [List.take_nil, List.take_nil])
  | cons k ns ih =>
    cases m with
    | zero => exact Nat.zero_le _
    | succ m =>
      obtain ⟨n, rfl⟩ : ∃ k, n = k + 1 := ⟨n - 1, by omega⟩
      rw [List.take_succ_cons, List.take_succ_cons, total_cons, total_cons]
      exact Nat.add_le_add_left (ih (Nat.le_of_succ_le_succ h)) k

/-- A sum does not depend on the order. -/
theorem total_perm {ms ns : List Nat} (h : ms.Perm ns) : total ms = total ns := by
  induction h with
  | nil => rfl
  | cons n _ ih => rw [total_cons, total_cons, ih]
  | swap m n ns => simp only [total_cons]; omega
  | trans _ _ ih₁ ih₂ => exact ih₁.trans ih₂

/-- A power of two. -/
def powerOfTwo (exponent : Nat) : Nat := Nat.pow 2 exponent

/-- A power of ten. -/
def powerOfTen (exponent : Nat) : Nat := Nat.pow 10 exponent

end MailSearch
