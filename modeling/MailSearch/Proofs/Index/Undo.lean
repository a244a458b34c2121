import MailSearch.Proofs.Index.Consistency

/-!
# Putting in and taking out

Taking out a record that was put in under a new id undoes it: the keys that came with the record
go, every other key keeps its ids and its place, and only the time of the last insertion tells that
something has happened. To put in the same email once more is to undo its first insertion and to
do it again, so it changes nothing.
-/

namespace MailSearch.Index

variable {ix : Index} {r : Record}

/-- Erasing a record that was appended under a new id undoes it. -/
theorem erase_append (h : ix.Consistent) (hr : ∀ old ∈ ix.records, old.id ≠ r.id) :
    (ix.append r).erase r.id = ix := by
  have hget : (ix.append r).get? r.id = some r :=
    ((consistent_append h hr).get?_eq_some_iff r.id r).mpr
      ⟨List.mem_append_right _ (List.mem_singleton_self r), rfl⟩
  have hfiled {p : Postings} {keysOf : Record → List String} (hp : p.Files keysOf ix.records)
      (key : String) : r.id ∉ p.ids key := by
    intro hid
    obtain ⟨old, hold, he, -⟩ := (hp.mem_ids key r.id).mp hid
    exact hr old hold he
  have hrecords : (ix.records ++ [r]).filter (·.id ≠ r.id) = ix.records := by
    rw [List.filter_append, List.filter_cons_of_neg (by simp), List.filter_nil, List.append_nil]
    exact List.filter_eq_self.mpr fun old hold ↦ decide_eq_true (hr old hold)
  have htokens : (ix.tokens.addAll r.tokens r.id).removeAll r.tokens r.id = ix.tokens :=
    Postings.removeAll_addAll h.tokens.wf (hfiled h.tokens) r.tokens
  have hshingles : (ix.shingles.addAll (ix.shinglesOf r) r.id).removeAll (ix.shinglesOf r) r.id =
      ix.shingles :=
    Postings.removeAll_addAll h.shingles.wf (hfiled h.shingles) (ix.shinglesOf r)
  rw [erase, hget]
  change { ix with
    records := (ix.records ++ [r]).filter (·.id ≠ r.id)
    tokens := (ix.tokens.addAll r.tokens r.id).removeAll r.tokens r.id
    shingles := (ix.shingles.addAll (ix.shinglesOf r) r.id).removeAll (ix.shinglesOf r) r.id } = ix
  rw [hrecords, htokens, hshingles]

/-- An id that an index does not hold stands at none of its records. -/
theorem id_ne_of_not_contains {id : String} (h : ix.contains id = false) :
    ∀ old ∈ ix.records, old.id ≠ id :=
  id_ne_of_get?_eq_none (Option.isNone_iff_eq_none.mp (Option.isSome_eq_false_iff.mp h))

/-- Erasing a record that was inserted at a time under a new id leaves only the time. -/
theorem erase_insert (h : ix.Consistent) (hr : ix.contains r.id = false) (now : Int) :
    (ix.insert now r).erase r.id = { ix with lastIndexedAt := now } := by
  have hinsert : ix.insert now r = { ix with lastIndexedAt := now }.append r := by
    rw [insert, replace, erase_of_not_contains hr]
    rfl
  rw [hinsert]
  exact erase_append (h.setTime now) (id_ne_of_not_contains hr)

/-- Inserting a record once more at the same time changes nothing, whether its id was there
before or not. -/
theorem insert_insert (h : ix.Consistent) (now : Int) (r : Record) :
    (ix.insert now r).insert now r = ix.insert now r := by
  -- what is left without the id is the same before the first insertion and before the second
  let others : Index := { ix.erase r.id with lastIndexedAt := now }
  have hothers : others.Consistent := (consistent_erase h r.id).setTime now
  have hnew : ∀ old ∈ others.records, old.id ≠ r.id := by
    intro old hold
    change old ∈ (ix.erase r.id).records at hold
    rw [records_erase] at hold
    exact of_decide_eq_true (List.mem_filter.mp hold).2
  calc
    (ix.insert now r).insert now r
        = { ((others.append r).erase r.id).append r with lastIndexedAt := now } := rfl
    _ = { others.append r with lastIndexedAt := now } := by rw [erase_append hothers hnew]
    _ = ix.insert now r := rfl

/-- What is handed over is indexed if it can be read. -/
theorem insertItem_of_readMail {item : Item} (h : item.readMail = .ok r) (ix : Index) (now : Int) :
    ix.insertItem now item = .ok (ix.insert now r) := by
  rw [insertItem, h]
  rfl

/-- However an index came to be, and whether it held the id before or not, indexing an email or a
record a second time at one time leaves the index exactly as the first time did: the records, the
ids under each key, the order of the keys and the time of the last insertion. -/
theorem insertItem_twice (size : Int) (threshold : Binary64) (changes : List (Int × Change))
    (now : Int) {item : Item} (h : item.readMail = .ok r) :
    let ix := (empty size threshold).after changes
    ∃ once, ix.insertItem now item = .ok once ∧ once.insertItem now item = .ok once := by
  intro ix
  have hix : ix.Consistent := consistent_after (consistent_empty size threshold) changes
  refine ⟨ix.insert now r, insertItem_of_readMail h ix now, ?_⟩
  rw [insertItem_of_readMail h, insert_insert hix]

/-- An email takes the place of another one that has its id and shares words with it and with a
third one, and comes twice. It stands last then: a word that only the replaced one had is gone, a
word that it had with the third one keeps its place, and a new word comes behind. -/
theorem insertItem_twice_replaced :
    let other : Record := { id := "b", subject := "Rents", tokens := ["may", "rents"] }
    let ix := (empty 3 .zero).after
      [(1, .insert (.record { id := "a", subject := "Rent", tokens := ["rent", "may", "rent"] })),
        (2, .insert (.record other))]
    let item : Item := .value (.object [("id", .text "a"), ("subject", .text "June rents rents")])
    let sets (p : Postings) := p.keys.map fun key ↦ (key, p.ids key)
    ∃ r once, item.readMail = .ok r ∧ r.id = "a" ∧ r.tokens = ["june", "rents"] ∧
      ix.insertItem 3 item = .ok once ∧ once.insertItem 3 item = .ok once ∧
      once.records = [other, r] ∧
      sets once.tokens = [("may", ["b"]), ("rents", ["b", "a"]), ("june", ["a"])] ∧
      sets once.shingles = [("ren", ["b", "a"]), ("ent", ["b", "a"]), ("nts", ["b", "a"]),
        ("jun", ["a"]), ("une", ["a"]), ("ner", ["a"]), ("ere", ["a"]), ("tsr", ["a"]),
        ("sre", ["a"])] ∧
      once.lastIndexedAt = 3 := by
  intro other ix item sets
  let r : Record :=
    { id := "a", subject := "June rents rents", tokens := ["june", "rents"] }
  have hread : item.readMail = .ok r := by decide +kernel
  obtain ⟨once, honce, htwice⟩ := insertItem_twice 3 .zero
    [(1, .insert (.record { id := "a", subject := "Rent", tokens := ["rent", "may", "rent"] })),
      (2, .insert (.record other))] 3 hread
  refine ⟨r, once, hread, rfl, rfl, honce, htwice, ?_⟩
  obtain rfl := Except.ok.inj ((insertItem_of_readMail hread ix 3).symm.trans honce)
  decide +kernel

/-- However an index came to be, removing an email or a record that was indexed under a new id
gives the index back as it was but for the time of the last insertion: the records, the ids under
each key and the order of the keys. Removing an id that is not there changes nothing. -/
theorem erase_insertItem (size : Int) (threshold : Binary64) (changes : List (Int × Change)) :
    let ix := (empty size threshold).after changes
    (∀ now item r, item.readMail = .ok r → ix.contains r.id = false →
      ∃ once, ix.insertItem now item = .ok once ∧
        once.erase r.id = { ix with lastIndexedAt := now }) ∧
      ∀ id, ix.contains id = false → ix.erase id = ix := by
  intro ix
  have hix : ix.Consistent := consistent_after (consistent_empty size threshold) changes
  refine ⟨fun now item r hread hnew ↦ ?_, fun id ↦ erase_of_not_contains⟩
  exact ⟨ix.insert now r, insertItem_of_readMail hread ix now, erase_insert hix hnew now⟩

/-- An email that shares words and parts of its subject with two others, and has a word of its own
twice, comes and goes; an id that never came goes too. -/
theorem erase_insertItem_shared :
    let ix := (empty 3 .zero).after
      [(1, .insert (.record { id := "a", subject := "Rent", tokens := ["rent", "may", "rent"] })),
        (2, .insert (.record { id := "b", subject := "Rents", tokens := ["may", "rents"] }))]
    let item : Item := .value (.object [("id", .text "c"), ("subject", .text "June rents June")])
    (∃ r once, item.readMail = .ok r ∧ ix.contains r.id = false ∧ ix.insertItem 3 item = .ok once ∧
      once.tokens.keys = ["rent", "may", "rents", "june"] ∧
      once.erase r.id = { ix with lastIndexedAt := 3 }) ∧
      ix.contains "d" = false ∧ ix.erase "d" = ix := by
  intro ix item
  let r : Record := { id := "c", subject := "June rents June", tokens := ["june", "rents"] }
  obtain ⟨hundo, hnone⟩ := erase_insertItem 3 .zero
    [(1, .insert (.record { id := "a", subject := "Rent", tokens := ["rent", "may", "rent"] })),
      (2, .insert (.record { id := "b", subject := "Rents", tokens := ["may", "rents"] }))]
  have hread : item.readMail = .ok r := by decide +kernel
  have hnew : ix.contains r.id = false := by decide +kernel
  have hother : ix.contains "d" = false := by decide +kernel
  obtain ⟨once, honce, herase⟩ := hundo 3 item r hread hnew
  have hkeys : once.tokens.keys = ["rent", "may", "rents", "june"] := by
    obtain rfl := Except.ok.inj ((insertItem_of_readMail hread ix 3).symm.trans honce)
    decide +kernel
  exact ⟨⟨r, once, hread, hnew, honce, hkeys, herase⟩, hother, hnone "d" hother⟩

end MailSearch.Index
