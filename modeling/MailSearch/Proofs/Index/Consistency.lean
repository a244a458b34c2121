import MailSearch.Index
import MailSearch.Proofs.Outcome
import MailSearch.Proofs.Postings

/-!
# Consistency of an index

What a host program may ask of an index is a `Change`; an index is reachable when changes
lead to it from an empty one. `Consistent` says that no id stands twice among the records
and that both tables file exactly these records. Every change keeps an index consistent,
also one that fails midway, so every reachable index is.
-/

namespace MailSearch.Index

/-- What a host program may ask of an index. -/
inductive Change where
  | insert (item : Item)
  | insertAll (items : List Item)
  | erase (id : String)
  | clear
  | restore (items : List Item)

/-- What becomes of an index by a change at a time, and the cause if the change fails. -/
def Change.apply (now : Int) (ix : Index) : Change → Index × Option Fault
  | insert item =>
      match ix.insertItem now item with
      | .ok next => (next, none)
      | .error fault => (ix, some fault)
  | insertAll items =>
      let (final, _, fault) := ix.insertItems now items
      (final, fault)
  | erase id => (ix.erase id, none)
  | clear => (ix.clear, none)
  | restore items =>
      match (ix.importItems now items).result with
      | .ok (filled, _) => (filled, none)
      | .error fault => (ix, some fault)

/-- What becomes of an index by changes, each at its time, whether they fail or not. -/
def after (ix : Index) : List (Int × Change) → Index
  | [] => ix
  | (now, change) :: changes => (change.apply now ix).1.after changes

/-- An index with a length of shingles and a threshold that holds nothing. -/
def empty (size : Int) (threshold : Binary64) : Index := { shingleSize := size, threshold }

/-- An index is reachable when changes lead to it from an empty one. -/
def Reachable (ix : Index) : Prop :=
  ∃ size threshold changes, (empty size threshold).after changes = ix

/-- No id stands twice among the records, and the tables file these records. -/
structure Consistent (ix : Index) : Prop where
  ids : (ix.records.map (·.id)).Nodup
  tokens : ix.tokens.Files Record.tokens ix.records
  shingles : ix.shingles.Files ix.shinglesOf ix.records

section Records

variable {ix : Index}

/-- A record that is found for an id has that id. -/
theorem id_of_get? {id : String} {r : Record} (h : ix.get? id = some r) : r.id = id :=
  of_decide_eq_true (List.find?_some (p := fun r : Record ↦ decide (r.id = id)) h)

/-- A record that is found stands among the records. -/
theorem mem_of_get? {id : String} {r : Record} (h : ix.get? id = some r) : r ∈ ix.records :=
  List.mem_of_find?_eq_some h

/-- An id for which no record is found stands at no record. -/
theorem id_ne_of_get?_eq_none {id : String} (h : ix.get? id = none) :
    ∀ r ∈ ix.records, r.id ≠ id := by
  intro r hr he
  have := List.find?_eq_none.mp h r hr
  exact this (decide_eq_true he)

/-- Two records of one id are the same. -/
theorem Consistent.eq_of_id_eq (h : ix.Consistent) {r other : Record} (hr : r ∈ ix.records)
    (hother : other ∈ ix.records) (he : other.id = r.id) : other = r :=
  List.inj_on_of_nodup_map h.ids hother hr he

/-- The record found for an id is the one among the records that has it. -/
theorem Consistent.get?_eq_some_iff (h : ix.Consistent) (id : String) (r : Record) :
    ix.get? id = some r ↔ r ∈ ix.records ∧ r.id = id := by
  constructor
  · intro hget
    exact ⟨mem_of_get? hget, id_of_get? hget⟩
  · rintro ⟨hr, rfl⟩
    cases hget : ix.get? r.id with
    | none => exact absurd rfl (id_ne_of_get?_eq_none hget r hr)
    | some found =>
      rw [h.eq_of_id_eq hr (mem_of_get? hget) (id_of_get? hget)]

/-- A table that files the records leads from a key to the ids whose records have it. -/
theorem Consistent.mem_ids_iff (h : ix.Consistent) {p : Postings}
    {keysOf : Record → List String} (hp : p.Files keysOf ix.records) (key id : String) :
    id ∈ p.ids key ↔ ∃ r, ix.get? id = some r ∧ key ∈ keysOf r := by
  rw [hp.mem_ids]
  constructor
  · rintro ⟨r, hr, hid, hkey⟩
    exact ⟨r, (h.get?_eq_some_iff id r).mpr ⟨hr, hid⟩, hkey⟩
  · rintro ⟨r, hget, hkey⟩
    exact ⟨r, mem_of_get? hget, id_of_get? hget, hkey⟩

end Records

section Changes

variable {ix : Index}

/-- An empty index is consistent. -/
theorem consistent_empty (size : Int) (threshold : Binary64) :
    (empty size threshold).Consistent :=
  ⟨List.nodup_nil, Postings.files_nil, Postings.files_nil⟩

/-- What has been cleared is consistent, whatever it was before. -/
theorem consistent_clear (ix : Index) : ix.clear.Consistent :=
  ⟨List.nodup_nil, Postings.files_nil, Postings.files_nil⟩

/-- Erasing an id that no record has changes nothing. -/
theorem erase_of_not_contains {id : String} (h : ix.contains id = false) : ix.erase id = ix := by
  have hget : ix.get? id = none := Option.isNone_iff_eq_none.mp (Option.isSome_eq_false_iff.mp h)
  rw [erase, hget]

/-- An erased id stands at no record. -/
theorem records_erase (ix : Index) (id : String) :
    (ix.erase id).records = ix.records.filter (·.id ≠ id) := by
  unfold erase
  split
  · next hget =>
    symm
    apply List.filter_eq_self.mpr
    intro r hr
    exact decide_eq_true (id_ne_of_get?_eq_none hget r hr)
  · rfl

/-- Erasing an id keeps an index consistent: its record is taken from both tables through
its own keys. -/
theorem consistent_erase (h : ix.Consistent) (id : String) : (ix.erase id).Consistent := by
  unfold erase
  split
  · exact h
  · next r hget =>
    obtain rfl := id_of_get? hget
    have hr : ∀ other ∈ ix.records, other.id = r.id → other = r :=
      fun other hother he ↦ h.eq_of_id_eq (mem_of_get? hget) hother he
    refine ⟨?_, h.tokens.removeAll hr, h.shingles.removeAll hr⟩
    exact h.ids.sublist (List.filter_sublist.map _)

/-- Appending a record of a new id keeps an index consistent. -/
theorem consistent_append (h : ix.Consistent) {r : Record}
    (hr : ∀ old ∈ ix.records, old.id ≠ r.id) : (ix.append r).Consistent := by
  refine ⟨?_, h.tokens.addAll r, h.shingles.addAll r⟩
  change ((ix.records ++ [r]).map (·.id)).Nodup
  rw [List.map_append, List.map_singleton, ← List.concat_eq_append, List.nodup_concat]
  refine ⟨?_, h.ids⟩
  intro hmem
  obtain ⟨old, hold, he⟩ := List.mem_map.mp hmem
  exact hr old hold he

/-- Replacing a record keeps an index consistent, whether its id was there or not. -/
theorem consistent_replace (h : ix.Consistent) (r : Record) : (ix.replace r).Consistent := by
  apply consistent_append (consistent_erase h r.id)
  intro old hold
  rw [records_erase] at hold
  exact of_decide_eq_true (List.mem_filter.mp hold).2

/-- The time of the last insertion has no part in consistency. -/
theorem Consistent.setTime (h : ix.Consistent) (now : Int) :
    { ix with lastIndexedAt := now }.Consistent :=
  ⟨h.ids, h.tokens, h.shingles⟩

/-- Inserting a record keeps an index consistent. -/
theorem consistent_insert (h : ix.Consistent) (now : Int) (r : Record) :
    (ix.insert now r).Consistent :=
  (consistent_replace h r).setTime now

/-- What is handed over is inserted as the record that is read from it. -/
theorem insert_of_insertItem {now : Int} {item : Item} {next : Index}
    (h : ix.insertItem now item = .ok next) :
    ∃ r, item.readMail = .ok r ∧ ix.insert now r = next :=
  map_eq_ok.mp h

/-- A batch keeps an index consistent, also when it ends before its end. -/
theorem consistent_insertItems (h : ix.Consistent) (now : Int) (items : List Item) :
    (ix.insertItems now items).1.Consistent := by
  induction items generalizing ix with
  | nil => exact h
  | cons item items ih =>
    simp only [insertItems]
    split
    · exact h
    · next next hnext =>
      obtain ⟨r, -, rfl⟩ := insert_of_insertItem hnext
      exact ih (consistent_insert h now r)

private theorem consistent_foldl_replace (h : ix.Consistent) (rs : List Record) :
    (rs.foldl replace ix).Consistent := by
  induction rs generalizing ix with
  | nil => exact h
  | cons r rs ih => exact ih (consistent_replace h r)

/-- Records put in place of what an index held make it consistent, whatever it was
before. -/
theorem consistent_restore (ix : Index) (now : Int) (rs : List Record) :
    (ix.restore now rs).Consistent := by
  have hfilled := consistent_foldl_replace (consistent_clear ix) rs
  unfold restore
  dsimp only
  split
  · exact hfilled
  · exact hfilled.setTime now

/-- An import puts the records that are read in place of what an index held. -/
theorem result_importItems (ix : Index) (now : Int) (items : List Item) :
    (ix.importItems now items).result =
      (readItems items).result.map fun rs ↦ (ix.restore now rs, rs.length) := by
  unfold importItems
  rw [Logged.result_bind]
  cases (readItems items).result with
  | error fault => rfl
  | ok rs => rfl

/-- Every change keeps an index consistent, whether it fails or not. -/
theorem consistent_apply (h : ix.Consistent) (now : Int) (change : Change) :
    (change.apply now ix).1.Consistent := by
  cases change with
  | insert item =>
    simp only [Change.apply]
    split
    · next next hnext =>
      obtain ⟨r, -, rfl⟩ := insert_of_insertItem hnext
      exact consistent_insert h now r
    · exact h
  | insertAll items => exact consistent_insertItems h now items
  | erase id => exact consistent_erase h id
  | clear => exact consistent_clear ix
  | restore items =>
    simp only [Change.apply, result_importItems]
    cases (readItems items).result with
    | error fault => exact h
    | ok rs => exact consistent_restore ix now rs

/-- Changes keep an index consistent. -/
theorem consistent_after (h : ix.Consistent) (changes : List (Int × Change)) :
    (ix.after changes).Consistent := by
  induction changes generalizing ix with
  | nil => exact h
  | cons step changes ih => exact ih (consistent_apply h step.1 step.2)

/-- Every reachable index is consistent. -/
theorem Reachable.consistent (h : ix.Reachable) : ix.Consistent := by
  obtain ⟨size, threshold, changes, rfl⟩ := h
  exact consistent_after (consistent_empty size threshold) changes

end Changes

section Settings

/-- Whether two indexes cut subjects and compare tokens alike. -/
structure SameSettings (a b : Index) : Prop where
  shingleSize : a.shingleSize = b.shingleSize
  threshold : a.threshold = b.threshold

/-- An index has its own settings. -/
theorem SameSettings.refl (ix : Index) : ix.SameSettings ix := ⟨rfl, rfl⟩

/-- Settings are handed on. -/
theorem SameSettings.trans {a b c : Index} (hab : a.SameSettings b) (hbc : b.SameSettings c) :
    a.SameSettings c :=
  ⟨hab.shingleSize.trans hbc.shingleSize, hab.threshold.trans hbc.threshold⟩

private theorem sameSettings_erase (ix : Index) (id : String) : (ix.erase id).SameSettings ix := by
  unfold erase
  split <;> exact ⟨rfl, rfl⟩

private theorem sameSettings_insert (ix : Index) (now : Int) (r : Record) :
    (ix.insert now r).SameSettings ix :=
  ⟨(sameSettings_erase ix r.id).shingleSize, (sameSettings_erase ix r.id).threshold⟩

private theorem sameSettings_foldl_replace (ix : Index) (rs : List Record) :
    (rs.foldl replace ix).SameSettings ix := by
  induction rs generalizing ix with
  | nil => exact .refl ix
  | cons r rs ih =>
    have hreplace : (ix.replace r).SameSettings ix :=
      ⟨(sameSettings_erase ix r.id).shingleSize, (sameSettings_erase ix r.id).threshold⟩
    exact (ih (ix.replace r)).trans hreplace

/-- Putting records in place of all that an index held keeps its settings. -/
theorem sameSettings_restore (ix : Index) (now : Int) (rs : List Record) :
    (ix.restore now rs).SameSettings ix := by
  have hfilled := sameSettings_foldl_replace ix.clear rs
  unfold restore
  dsimp only
  split <;> exact ⟨hfilled.shingleSize, hfilled.threshold⟩

private theorem sameSettings_insertItems (ix : Index) (now : Int) (items : List Item) :
    (ix.insertItems now items).1.SameSettings ix := by
  induction items generalizing ix with
  | nil => exact .refl ix
  | cons item items ih =>
    simp only [insertItems]
    split
    · exact .refl ix
    · next next hnext =>
      obtain ⟨r, -, rfl⟩ := insert_of_insertItem hnext
      exact (ih (ix.insert now r)).trans (sameSettings_insert ix now r)

/-- No change touches the settings of an index. -/
theorem sameSettings_apply (now : Int) (ix : Index) (change : Change) :
    (change.apply now ix).1.SameSettings ix := by
  cases change with
  | insert item =>
    simp only [Change.apply]
    split
    · next next hnext =>
      obtain ⟨r, -, rfl⟩ := insert_of_insertItem hnext
      exact sameSettings_insert ix now r
    · exact .refl ix
  | insertAll items => exact sameSettings_insertItems ix now items
  | erase id => exact sameSettings_erase ix id
  | clear => exact ⟨rfl, rfl⟩
  | restore items =>
    simp only [Change.apply, result_importItems]
    cases (readItems items).result with
    | error fault => exact .refl ix
    | ok rs => exact sameSettings_restore ix now rs

/-- Changes leave the settings of an index as they were. -/
theorem sameSettings_after (ix : Index) (changes : List (Int × Change)) :
    (ix.after changes).SameSettings ix := by
  induction changes generalizing ix with
  | nil => exact .refl ix
  | cons step changes ih =>
    exact (ih (step.2.apply step.1 ix).1).trans (sameSettings_apply step.1 ix step.2)

end Settings

/-- After any changes of an empty index its three parts agree: the record found for an id
has that id and is the only one, an id stands under a token if its record holds the token
and under a shingle if the subject of its record has the shingle, and no key stands twice
or without an id. -/
theorem tables_agree_after (size : Int) (threshold : Binary64) (changes : List (Int × Change)) :
    let ix := (empty size threshold).after changes
    (∀ id r, ix.get? id = some r ↔ r ∈ ix.records ∧ r.id = id) ∧
      (∀ token id, id ∈ ix.tokens.ids token ↔ ∃ r, ix.get? id = some r ∧ token ∈ r.tokens) ∧
      (∀ shingle id, id ∈ ix.shingles.ids shingle ↔
        ∃ r, ix.get? id = some r ∧ shingle ∈ MailSearch.shingles size r.subject) ∧
      ix.tokens.WF ∧ ix.shingles.WF := by
  intro ix
  have h : ix.Consistent := consistent_after (consistent_empty size threshold) changes
  have hsize : ix.shingleSize = size :=
    (sameSettings_after (empty size threshold) changes).shingleSize
  refine ⟨h.get?_eq_some_iff, ?_, ?_, h.tokens.wf, h.shingles.wf⟩
  · intro token id
    exact h.mem_ids_iff h.tokens token id
  · intro shingle id
    rw [← hsize]
    exact h.mem_ids_iff h.shingles shingle id

end MailSearch.Index
