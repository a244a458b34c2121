import MailSearch.Proofs.Index.Edits

/-!
# The records of an index

What an edit does to the records depends on the records alone, not on tables or times, so
two indexes that hold the same records go on to hold the same. And no record comes from
nowhere: each was held before or was brought by a change, and so was the time of the last
insertion.
-/

namespace MailSearch.Index

variable {a b ix : Index}

private theorem records_edit_congr (h : a.records = b.records) (edit : Edit) :
    (edit.apply a).records = (edit.apply b).records := by
  cases edit with
  | erase id =>
    simp only [Edit.apply]
    rw [records_erase, records_erase, h]
  | append r => exact congrArg (· ++ [r]) h
  | clear => rfl

/-- What edits do to the records depends on the records alone. -/
theorem records_edited_congr (h : a.records = b.records) (edits : List Edit) :
    (a.edited edits).records = (b.edited edits).records := by
  induction edits generalizing a b with
  | nil => exact h
  | cons edit edits ih => exact ih (records_edit_congr h edit)

/-- What changes do to the records depends on the records alone. -/
theorem records_after_congr (h : a.records = b.records) (changes : List (Int × Change)) :
    (a.after changes).records = (b.after changes).records := by
  rw [after_eq_edited, after_eq_edited]
  exact records_edited_congr h (editsOf changes)

/-- Whether a change hands a record over, or a value that is read as the record. -/
def Change.Brings (r : Record) : Change → Prop
  | insert item => item.readMail = .ok r
  | insertAll items => ∃ item ∈ items, item.readMail = .ok r
  | erase _ => False
  | clear => False
  | restore items => ∃ item ∈ items, item.readStored = .ok r

/-- A record that is held after an edit was held before or is put in by the edit. -/
theorem mem_records_edit {edit : Edit} {r : Record} (h : r ∈ (edit.apply ix).records) :
    r ∈ ix.records ∨ edit = .append r := by
  cases edit with
  | erase id =>
    simp only [Edit.apply] at h
    rw [records_erase] at h
    exact Or.inl (List.mem_filter.mp h).1
  | append new =>
    rcases List.mem_append.mp h with hold | hnew
    · exact Or.inl hold
    · rw [List.mem_singleton.mp hnew]
      exact Or.inr rfl
  | clear => exact absurd h List.not_mem_nil

/-- A record that is held after edits was held before or is put in by one of them. -/
theorem mem_records_edited {edits : List Edit} {r : Record} (h : r ∈ (ix.edited edits).records) :
    r ∈ ix.records ∨ .append r ∈ edits := by
  induction edits generalizing ix with
  | nil => exact Or.inl h
  | cons edit edits ih =>
    rcases ih h with hold | hnew
    · rcases mem_records_edit hold with hold | rfl
      · exact Or.inl hold
      · exact Or.inr List.mem_cons_self
    · exact Or.inr (List.mem_cons_of_mem edit hnew)

private theorem mem_of_append_mem_insertions {rs : List Record} {r : Record}
    (h : .append r ∈ insertions rs) : r ∈ rs := by
  obtain ⟨new, hnew, hedit⟩ := List.mem_flatMap.mp h
  rcases List.mem_cons.mp hedit with hedit | hedit
  · cases hedit
  · rwa [Edit.append.inj (List.mem_singleton.mp hedit)]

private theorem readMail_of_mem_readMails {items : List Item} {r : Record}
    (h : r ∈ readMails items) : ∃ item ∈ items, item.readMail = .ok r := by
  induction items with
  | nil => exact absurd h List.not_mem_nil
  | cons item items ih =>
    rw [readMails] at h
    split at h
    · next new hnew =>
      rcases List.mem_cons.mp h with rfl | h
      · exact ⟨item, List.mem_cons_self, hnew⟩
      · obtain ⟨other, hother, hread⟩ := ih h
        exact ⟨other, List.mem_cons_of_mem item hother, hread⟩
    · exact absurd h List.not_mem_nil

private theorem readStored_of_readItems {items : List Item} {rs : List Record}
    (h : (readItems items).result = .ok rs) {r : Record} (hr : r ∈ rs) :
    ∃ item ∈ items, item.readStored = .ok r := by
  induction items generalizing rs with
  | nil =>
    cases h
    exact absurd hr List.not_mem_nil
  | cons item items ih =>
    rw [readItems] at h
    split at h
    · next new hnew =>
      rw [Logged.result_bind] at h
      obtain ⟨others, hothers, h⟩ := bind_eq_ok.mp h
      cases h
      rcases List.mem_cons.mp hr with rfl | hr
      · exact ⟨item, List.mem_cons_self, hnew⟩
      · obtain ⟨other, hother, hread⟩ := ih hothers hr
        exact ⟨other, List.mem_cons_of_mem item hother, hread⟩
    · split at h
      · rw [Logged.result_bind] at h
        obtain ⟨-, -, h⟩ := bind_eq_ok.mp h
        obtain ⟨other, hother, hread⟩ := ih h hr
        exact ⟨other, List.mem_cons_of_mem item hother, hread⟩
      · exact nomatch h

/-- A record that an edit of a change puts in is brought by the change. -/
theorem brings_of_append_mem {change : Change} {r : Record} (h : .append r ∈ change.edits) :
    change.Brings r := by
  cases change with
  | insert item =>
    obtain ⟨only, honly, hread⟩ := readMail_of_mem_readMails (mem_of_append_mem_insertions h)
    rwa [List.mem_singleton.mp honly] at hread
  | insertAll items => exact readMail_of_mem_readMails (mem_of_append_mem_insertions h)
  | erase id => simp [Change.edits] at h
  | clear => simp [Change.edits] at h
  | restore items =>
    rw [Change.edits] at h
    split at h
    · next rs hread =>
      rcases List.mem_cons.mp h with h | h
      · cases h
      · exact readStored_of_readItems hread (mem_of_append_mem_insertions h)
    · exact absurd h List.not_mem_nil

/-- A record that is held after a change was held before or is brought by the change. -/
theorem mem_records_apply {now : Int} {change : Change} {r : Record}
    (h : r ∈ (change.apply now ix).1.records) : r ∈ ix.records ∨ change.Brings r := by
  rw [apply_eq_edited] at h
  exact (mem_records_edited h).imp_right brings_of_append_mem

/-- A record that is held after changes was held before or is brought by one of them. -/
theorem mem_records_after {changes : List (Int × Change)} {r : Record}
    (h : r ∈ (ix.after changes).records) :
    r ∈ ix.records ∨ ∃ step ∈ changes, step.2.Brings r := by
  induction changes generalizing ix with
  | nil => exact Or.inl h
  | cons step changes ih =>
    rcases ih h with hold | ⟨other, hother, hbrings⟩
    · exact (mem_records_apply hold).imp_right fun hstep ↦ ⟨step, List.mem_cons_self, hstep⟩
    · exact Or.inr ⟨other, List.mem_cons_of_mem step hother, hbrings⟩

/-- The time of the last insertion into an index in whose place records were put. -/
theorem lastIndexedAt_restore (ix : Index) (now : Int) (rs : List Record) :
    (ix.restore now rs).lastIndexedAt = ix.lastIndexedAt ∨
      (ix.restore now rs).lastIndexedAt = now := by
  unfold restore
  dsimp only
  split
  · next hnil =>
    rw [List.isEmpty_iff.mp hnil]
    exact Or.inl rfl
  · exact Or.inr rfl

/-- After a change the last insertion was at the time of the change or before. -/
theorem lastIndexedAt_apply (now : Int) (ix : Index) (change : Change) :
    (change.apply now ix).1.lastIndexedAt = ix.lastIndexedAt ∨
      (change.apply now ix).1.lastIndexedAt = now := by
  rw [apply_eq_edited]
  exact ite_eq_or_eq _ _ _

/-- After changes the last insertion was at the time of one of them or before. -/
theorem lastIndexedAt_after (ix : Index) (changes : List (Int × Change)) :
    (ix.after changes).lastIndexedAt = ix.lastIndexedAt ∨
      ∃ step ∈ changes, (ix.after changes).lastIndexedAt = step.1 := by
  induction changes generalizing ix with
  | nil => exact Or.inl rfl
  | cons step changes ih =>
    rcases ih (step.2.apply step.1 ix).1 with hold | ⟨other, hother, htime⟩
    · rw [after, hold]
      exact (lastIndexedAt_apply step.1 ix step.2).imp_right fun h ↦
        ⟨step, List.mem_cons_self, h⟩
    · exact Or.inr ⟨other, List.mem_cons_of_mem step hother, htime⟩

end MailSearch.Index
