import MailSearch.Proofs.Index.Edits
import MailSearch.Proofs.Index.Vocabulary

/-!
# The figures of an index

The size of an index is summed over its keys and the ids filed under them. Counted the other way
round, every record has as many postings as it has distinct tokens, so the figures are those of the
records: however the records came to be held, and in whatever order, nothing else is left in the
tables. Only the time of the last insertion comes from the changes.
-/

namespace MailSearch

section Counting

variable {α β : Type}

private theorem total_zeros (ys : List β) : total (ys.map fun _ ↦ 0) = 0 := by
  induction ys with
  | nil => rfl
  | cons y ys ih => rw [List.map_cons, total_cons, ih]

private theorem total_add_flags (ys : List β) (f : β → Nat) (p : β → Bool) :
    total (ys.map fun y ↦ f y + if p y then 1 else 0) = total (ys.map f) + ys.countP p := by
  induction ys with
  | nil => rfl
  | cons y ys ih =>
    rw [List.map_cons, List.map_cons, total_cons, total_cons, ih, List.countP_cons]
    omega

/-- Pairs are counted by their first elements or by their second ones. -/
theorem total_countP_comm (xs : List α) (ys : List β) (p : α → β → Bool) :
    total (xs.map fun x ↦ ys.countP (p x)) = total (ys.map fun y ↦ xs.countP (p · y)) := by
  induction xs with
  | nil => exact (total_zeros ys).symm
  | cons x xs ih =>
    rw [List.map_cons, total_cons, ih, Nat.add_comm, ← total_add_flags]
    simp only [List.countP_cons]

/-- As many of some distinct elements are in a list as the list has distinct elements, if all of
these are among them. -/
theorem countP_mem_eq [DecidableEq α] {xs ys : List α} (hys : ys.Nodup) (hsub : xs ⊆ ys) :
    ys.countP (· ∈ xs) = xs.eraseDups.length := by
  rw [List.countP_eq_length_filter]
  apply List.Perm.length_eq
  apply (List.perm_ext_iff_of_nodup (hys.filter _) (nodup_eraseDups xs)).mpr
  intro x
  rw [List.mem_filter, List.mem_eraseDups, decide_eq_true_eq]
  exact and_iff_right_of_imp fun hx ↦ hsub hx

end Counting

namespace Postings

variable {p : Postings} {keysOf : Record → List String} {rs : List Record}

/-- The keys of a table are the distinct keys of its records. -/
theorem Files.keys_perm_eraseDups (h : p.Files keysOf rs) :
    p.keys.Perm (rs.flatMap keysOf).eraseDups := by
  apply (List.perm_ext_iff_of_nodup h.wf.keys (nodup_eraseDups _)).mpr
  intro key
  rw [h.mem_keys_iff, List.mem_eraseDups, List.mem_flatMap]

/-- Under a key there are as many ids as records have it, if no id stands twice. -/
theorem Files.length_ids (h : p.Files keysOf rs) (hids : (rs.map (·.id)).Nodup) (key : String) :
    (p.ids key).length = rs.countP (key ∈ keysOf ·) := by
  have hfiled : ((rs.filter (key ∈ keysOf ·)).map (·.id)).Nodup :=
    hids.sublist (List.filter_sublist.map _)
  have hperm : (p.ids key).Perm ((rs.filter (key ∈ keysOf ·)).map (·.id)) := by
    apply (List.perm_ext_iff_of_nodup (h.wf.ids key) hfiled).mpr
    intro id
    rw [h.mem_ids, List.mem_map]
    simp only [List.mem_filter, decide_eq_true_eq]
    constructor
    · rintro ⟨r, hr, hid, hkey⟩
      exact ⟨r, ⟨hr, hkey⟩, hid⟩
    · rintro ⟨r, ⟨hr, hkey⟩, hid⟩
      exact ⟨r, hr, hid, hkey⟩
  rw [hperm.length_eq, List.length_map, List.countP_eq_length_filter]

/-- A table holds an id for each distinct key of each record, if no id stands twice. -/
theorem Files.load_eq_total (h : p.Files keysOf rs) (hids : (rs.map (·.id)).Nodup) :
    p.load = total (rs.map fun r ↦ (keysOf r).eraseDups.length) := by
  have hkeys : ∀ r ∈ rs, p.keys.countP (· ∈ keysOf r) = (keysOf r).eraseDups.length := by
    intro r hr
    exact countP_mem_eq h.wf.keys fun key hkey ↦ (h.mem_keys_iff key).mpr ⟨r, hr, hkey⟩
  calc
    p.load = total (p.keys.map fun key ↦ (p.ids key).length) := by
      rw [load, h.wf.entries_eq, List.map_map]
      rfl
    _ = total (p.keys.map fun key ↦ rs.countP (key ∈ keysOf ·)) := by
      simp only [h.length_ids hids]
    _ = total (rs.map fun r ↦ p.keys.countP (· ∈ keysOf r)) :=
      total_countP_comm p.keys rs fun key r ↦ key ∈ keysOf r
    _ = total (rs.map fun r ↦ (keysOf r).eraseDups.length) := by
      rw [List.map_congr_left hkeys]

end Postings

namespace Index

variable {ix other : Index}

/-- The figures of a consistent index are those of its records, but for the time. -/
theorem Consistent.stats_eq (h : ix.Consistent) :
    ix.vocabularySize = (vocabularyOf ix.records).length ∧
      ix.stats = {
        totalIndexed := (ix.records.map (·.id)).eraseDups.length
        lastIndexedAt := ix.lastIndexedAt
        sizeBytes := 2 * total ((vocabularyOf ix.records).map String.length) +
          36 * total (ix.records.map fun r ↦ r.tokens.eraseDups.length) } := by
  have hkeys : ix.tokens.keys.Perm (vocabularyOf ix.records) := h.tokens.keys_perm_eraseDups
  have hids : (ix.records.map (·.id)).eraseDups.length = ix.size := by
    rw [eraseDups_eq_self h.ids, List.length_map]
    rfl
  have hlength : ix.tokens.keyLength = total ((vocabularyOf ix.records).map String.length) := by
    rw [← total_perm (hkeys.map String.length)]
    simp [Postings.keyLength, Postings.keys, Function.comp_def]
  refine ⟨?_, ?_⟩
  · rw [← hkeys.length_eq]
    exact (List.length_map _).symm
  · rw [stats, hlength, h.tokens.load_eq_total h.ids, hids]
    rfl

/-- Consistent indexes with the same records, in whatever order, have the same figures, but for the
time. -/
theorem stats_congr (h : ix.Consistent) (hother : other.Consistent)
    (hrecords : other.records.Perm ix.records) :
    other.vocabularySize = ix.vocabularySize ∧
      other.stats = { ix.stats with lastIndexedAt := other.lastIndexedAt } := by
  have htokens : other.tokens.Files Record.tokens ix.records := by
    refine ⟨hother.tokens.wf, fun key id ↦ ?_⟩
    rw [hother.tokens.mem_ids]
    simp only [hrecords.mem_iff]
  refine ⟨htokens.size_eq h.tokens, ?_⟩
  simp only [stats, size, hrecords.length_eq, htokens.keyLength_eq h.tokens,
    htokens.load_eq h.tokens]

/-- However an index came to be, its figures are those of the records that it holds: the words are
counted once, with two bytes for each of their characters, and each record has 36 bytes for each of
its distinct tokens. The time is that of the latest change that inserted a record. So other changes
that lead to the same records lead to the same number of words and emails and the same size, and
without records all three are zero. -/
theorem stats_after (size : Int) (threshold : Binary64) (changes : List (Int × Change)) :
    let ix := (empty size threshold).after changes
    let words := vocabularyOf ix.records
    ix.vocabularySize = words.length ∧
      ix.stats = {
        totalIndexed := (ix.records.map (·.id)).eraseDups.length
        lastIndexedAt := lastInsertion 0 changes
        sizeBytes := 2 * total (words.map String.length) +
          36 * total (ix.records.map fun r ↦ r.tokens.eraseDups.length) } ∧
      (∀ otherSize otherThreshold others,
        let other := (empty otherSize otherThreshold).after others
        other.records.Perm ix.records →
          other.vocabularySize = ix.vocabularySize ∧
            other.stats = { ix.stats with lastIndexedAt := lastInsertion 0 others }) ∧
      (ix.records = [] →
        ix.vocabularySize = 0 ∧ ix.stats.totalIndexed = 0 ∧ ix.stats.sizeBytes = 0) := by
  intro ix words
  have htime (size : Int) (threshold : Binary64) (changes : List (Int × Change)) :
      ((empty size threshold).after changes).lastIndexedAt = lastInsertion 0 changes :=
    congrArg lastIndexedAt (after_eq_edited (empty size threshold) changes)
  have hix : ix.Consistent := consistent_after (consistent_empty size threshold) changes
  obtain ⟨hwords, hstats⟩ := hix.stats_eq
  rw [htime] at hstats
  refine ⟨hwords, hstats, ?_, ?_⟩
  · intro otherSize otherThreshold others other hrecords
    have hother : other.Consistent :=
      consistent_after (consistent_empty otherSize otherThreshold) others
    rw [← htime otherSize otherThreshold others]
    exact stats_congr hix hother hrecords
  · intro hnone
    rw [hwords, hstats]
    simp [hnone, vocabularyOf]

/-- Two emails that share a word are indexed one after the other, or imported in the other order in
place of a third one; an import that fails later leaves the time. Without the emails all figures are
zero but the time. -/
theorem stats_after_imported :
    let rent : Record := { id := "a", tokens := ["rent", "may", "rent"] }
    let may : Record := { id := "b", tokens := ["may"] }
    let ix := (empty 3 .zero).after [(1, .insert (.record rent)), (2, .insert (.record may))]
    let other := (empty 4 .one).after [(4, .insert (.record { id := "c", tokens := ["june"] })),
      (5, .restore [.record may, .record rent]), (6, .restore [.value (.int 1)])]
    let gone := (empty 3 .zero).after [(1, .insert (.record rent)), (2, .erase "a")]
    (ix.stats = ⟨2, 2, 2 * (4 + 3) + 36 * (2 + 1)⟩ ∧ ix.vocabularySize = 2) ∧
      (other.records.Perm ix.records ∧ other.vocabularySize = ix.vocabularySize ∧
        other.stats = { ix.stats with lastIndexedAt := 5 }) ∧
      gone.records = [] ∧ gone.vocabularySize = 0 ∧ gone.stats.totalIndexed = 0 ∧
        gone.stats.sizeBytes = 0 := by
  intro rent may ix other gone
  obtain ⟨hwords, hstats, hsame, -⟩ :=
    stats_after 3 .zero [(1, .insert (.record rent)), (2, .insert (.record may))]
  obtain ⟨-, -, -, hzero⟩ := stats_after 3 .zero [(1, .insert (.record rent)), (2, .erase "a")]
  have hrecords : other.records.Perm ix.records := by decide +kernel
  have hgone : gone.records = [] := by decide +kernel
  exact ⟨⟨hstats, hwords⟩, ⟨hrecords, hsame 4 .one _ hrecords⟩, hgone, hzero hgone⟩

end Index
end MailSearch
