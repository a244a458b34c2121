import MailSearch.Proofs.EditDistance

/-!
# Edits one after the other

`Edit` puts in, leaves out or replaces a single element anywhere in a list, and `Edits n` makes
`n` such edits one after the other, each on what the ones before have left. Going through two
lists once, from left to right, never takes more edits than such a sequence: an edit that is made
first touches at most one element of what the rest of the sequence starts from. So the edit
distance of two texts is the least number of edits in any sequence between them.
-/

namespace MailSearch

/-- A single element is put in, left out or replaced. -/
inductive Edit {α : Type} : List α → List α → Prop where
  | insert (us vs : List α) (y : α) : Edit (us ++ vs) (us ++ y :: vs)
  | delete (us vs : List α) (x : α) : Edit (us ++ x :: vs) (us ++ vs)
  | substitute (us vs : List α) (x y : α) : Edit (us ++ x :: vs) (us ++ y :: vs)

/-- Single edits, made one after the other, turn one list into another. -/
inductive Edits {α : Type} : Nat → List α → List α → Prop where
  | none (xs : List α) : Edits 0 xs xs
  | step {n : Nat} {xs ys zs : List α} (h : Edit xs ys) (hrest : Edits n ys zs) :
      Edits (n + 1) xs zs

section Sequence

variable {α : Type} {d n : Nat} {us vs xs ys zs : List α}

/-- An edit can be made behind an element. -/
theorem Edit.cons (x : α) (h : Edit xs ys) : Edit (x :: xs) (x :: ys) := by
  cases h with
  | insert us vs y => exact insert (x :: us) vs y
  | delete us vs z => exact delete (x :: us) vs z
  | substitute us vs y z => exact substitute (x :: us) vs y z

/-- Edits can be made behind an element. -/
theorem Edits.cons (x : α) (h : Edits n xs ys) : Edits n (x :: xs) (x :: ys) := by
  induction h with
  | none xs => exact none (x :: xs)
  | step h _ ih => exact step (h.cons x) ih

/-- Edits that are made in one go can be made one after the other. -/
theorem Aligns.edits (h : Aligns d xs ys) : Edits d xs ys := by
  induction h with
  | nil => exact .none []
  | keep x _ ih => exact ih.cons x
  | @replace _ xs _ x y _ ih => exact .step (.substitute [] xs x y) (ih.cons y)
  | @delete _ xs _ x _ ih => exact .step (.delete [] xs x) ih
  | @insert _ xs _ y _ ih => exact .step (.insert [] xs y) (ih.cons y)

/-- An edit changes a part of at most one element into such a part. -/
theorem Edit.exists_parts (h : Edit xs ys) :
    ∃ us ws ws' vs, xs = us ++ (ws ++ vs) ∧ ys = us ++ (ws' ++ vs) ∧ ws.length ≤ 1 ∧
      ws'.length ≤ 1 := by
  cases h with
  | insert us vs y => exact ⟨us, [], [y], vs, by simp⟩
  | delete us vs x => exact ⟨us, [x], [], vs, by simp⟩
  | substitute us vs x y => exact ⟨us, [x], [y], vs, by simp⟩

namespace Aligns

/-- Edits of a list are edits of its first element and of the rest. -/
theorem split_cons {x : α} (h : Aligns d (x :: xs) zs) :
    ∃ d₁ d₂ zs₁ zs₂, Aligns d₁ [x] zs₁ ∧ Aligns d₂ xs zs₂ ∧ zs = zs₁ ++ zs₂ ∧ d = d₁ + d₂ := by
  generalize hlist : x :: xs = list at h
  induction h with
  | nil => exact nomatch hlist
  | @keep d _ ys _ h =>
    cases hlist
    exact ⟨0, d, [x], ys, keep x nil, h, rfl, by omega⟩
  | @replace d _ ys _ y h =>
    cases hlist
    exact ⟨1, d, [y], ys, replace x y nil, h, rfl, by omega⟩
  | @delete d _ ys _ h =>
    cases hlist
    exact ⟨1, d, [], ys, delete x nil, h, rfl, by omega⟩
  | insert y h ih =>
    -- what is put in front of the first element belongs to its part
    obtain ⟨d₁, d₂, zs₁, zs₂, h₁, h₂, rfl, rfl⟩ := ih hlist
    exact ⟨d₁ + 1, d₂, y :: zs₁, zs₂, insert y h₁, h₂, rfl, by omega⟩

/-- Edits of a whole are edits of its two parts. -/
theorem split (h : Aligns d (us ++ vs) zs) :
    ∃ d₁ d₂ zs₁ zs₂, Aligns d₁ us zs₁ ∧ Aligns d₂ vs zs₂ ∧ zs = zs₁ ++ zs₂ ∧ d = d₁ + d₂ := by
  induction us generalizing d zs with
  | nil => exact ⟨0, d, [], zs, nil, h, rfl, by omega⟩
  | cons u us ih =>
    obtain ⟨d₁, d₂, zs₁, zs₂, h₁, h₂, rfl, rfl⟩ := h.split_cons
    obtain ⟨d₃, d₄, zs₃, zs₄, h₃, h₄, rfl, rfl⟩ := ih h₂
    exact ⟨d₁ + d₃, d₄, zs₁ ++ zs₃, zs₄, h₁.append h₃, h₄, by simp, by omega⟩

/-- Replacing all that both lists have is enough. -/
theorem max_length (xs ys : List α) : Aligns (max xs.length ys.length) xs ys := by
  induction xs generalizing ys with
  | nil => simpa using (nil_right_iff.mpr rfl).symm
  | cons x xs ih =>
    cases ys with
    | nil =>
      apply nil_right_iff.mpr
      simp
    | cons y ys => simpa [Nat.succ_max_succ] using replace x y (ih ys)

/-- An edit in front of others takes one more at most. -/
theorem exists_le_of_edit (hedit : Edit xs ys) (h : Aligns d ys zs) :
    ∃ e ≤ d + 1, Aligns e xs zs := by
  obtain ⟨us, ws, ws', vs, rfl, rfl, hws, hws'⟩ := hedit.exists_parts
  obtain ⟨d₁, _, zs₁, _, h₁, hrest, rfl, rfl⟩ := h.split
  obtain ⟨d₂, d₃, zs₂, zs₃, h₂, h₃, rfl, rfl⟩ := hrest.split
  have hlength := h₂.length_le
  exact ⟨_, by omega, h₁.append ((max_length ws zs₂).append h₃)⟩

end Aligns

/-- One go takes no more edits than a sequence. -/
theorem Edits.exists_aligns (h : Edits n xs ys) : ∃ d ≤ n, Aligns d xs ys := by
  induction h with
  | none xs => exact ⟨0, Nat.le_refl 0, .refl xs⟩
  | step h _ ih =>
    obtain ⟨d, hd, haligns⟩ := ih
    obtain ⟨e, he, haligns⟩ := haligns.exists_le_of_edit h
    exact ⟨e, by omega, haligns⟩

end Sequence

/-- The distance of two texts is the least number of characters that are put in, left out or
replaced, one after the other, to turn one text into the other. -/
theorem isLeast_editDistance (a b : String) :
    IsLeast {n | Edits n a.toList b.toList} (editDistance a b) := by
  have h : IsDistance (editDistance a b) a.toList b.toList :=
    isDistance_listDistance a.toList b.toList
  constructor
  · exact h.1.edits
  · intro n hn
    obtain ⟨d, hd, haligns⟩ := Edits.exists_aligns hn
    exact (h.2 haligns).trans hd

end MailSearch
