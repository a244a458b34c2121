import MailSearch.Record.Reading

/-!
# Stored records are read back

A record is written as an object of sixteen fields. Reading each field undoes what writing
it did, so a record with an id is read back as it was.
-/

namespace MailSearch

namespace Coercion

private theorem shownItems_map_text (xs : List String) :
    shownItems (xs.map Value.text) = .ok xs := by
  induction xs with
  | nil => rfl
  | cons x xs ih =>
    rw [List.map_cons, shownItems, ih]
    rfl

/-- A list of texts is read as it was written. -/
theorem toTexts_texts (field : String) (xs : List String) :
    toTexts field (Value.texts xs) = .ok xs :=
  shownItems_map_text xs

/-- A text or nothing is read as it was written. -/
theorem toOptionalText_optionalText (s : Option String) :
    toOptionalText (Value.optionalText s) = .ok s := by
  cases s <;> rfl

/-- An integer or nothing is read as it was written. -/
theorem toOptionalInt_optionalInt (field : String) (n : Option Int) :
    toOptionalInt field (Value.optionalInt n) = .ok n := by
  cases n <;> rfl

end Coercion

namespace Record

open Coercion

private theorem isEmpty_id (r : Record) : (get r.toFields "id").isEmpty = r.id.isEmpty := rfl

/-- A record that was written is read back if it has an id. -/
theorem ofStored_toValue {r : Record} (h : r.id ≠ "") : ofStored r.toValue = .ok r := by
  have hid : (get r.toFields "id").isEmpty = false := by simpa [isEmpty_id] using h
  have hto : toTexts "to" (get r.toFields "to") = .ok r.recipients := toTexts_texts _ _
  have hcc : toTexts "cc" (get r.toFields "cc") = .ok r.cc := toTexts_texts _ _
  have hlabels : toTexts "labels" (get r.toFields "labels") = .ok r.labels := toTexts_texts _ _
  have htokens : toTexts "tokens" (get r.toFields "tokens") = .ok r.tokens := toTexts_texts _ _
  have hfolder : toOptionalText (get r.toFields "folder") = .ok r.folder :=
    toOptionalText_optionalText _
  have hsize : toOptionalInt "size" (get r.toFields "size") = .ok r.size :=
    toOptionalInt_optionalInt _ _
  change ofStoredFields r.toFields = .ok r
  unfold ofStoredFields
  -- texts, flags and the date are read by computation
  rw [hid, hto, hcc, hlabels, htokens, hfolder, hsize]
  rfl

/-- What is read back is the record that was written. -/
theorem eq_of_ofStored_toValue {r stored : Record} (h : ofStored r.toValue = .ok stored) :
    stored = r := by
  by_cases hempty : r.id = ""
  · have hid : (get r.toFields "id").isEmpty = true := by simpa [isEmpty_id] using hempty
    change ofStoredFields r.toFields = .ok stored at h
    unfold ofStoredFields at h
    rw [hid] at h
    exact nomatch h
  · rw [ofStored_toValue hempty] at h
    exact (Except.ok.inj h).symm

end Record
end MailSearch
