import MailSearch.Proofs.History
import MailSearch.Proofs.Index.Import
import MailSearch.Snapshot

/-!
# Loading that fails

A document without readable emails leaves the index it is loaded into as it was: nothing is
changed before all emails are known to be objects. The history is read after the records have
been put in place. So a load fails and changes the index just if the document is a snapshot whose
emails are objects and whose history has a broken list, and its records are not those that the
index would get anyway.
-/

namespace MailSearch

namespace Snapshot

/-- The records that are read from what is stored. -/
def Stored.records (stored : Stored) : List Record := stored.emails.filterMap Record.readStored?

/-- What is stored has a history with a broken list. -/
def Stored.HasBrokenHistory (stored : Stored) : Prop :=
  ∃ fields, stored.history = some fields ∧ History.HasBrokenList fields

variable {d : Disk} {p : Path} {nesting : Nesting} {stored : Stored} {fault : Fault}

/-- The history of what is stored cannot be read just if it has a broken list. -/
theorem loadHistory_eq_error_iff :
    (loadHistory stored).result = .error fault ↔
      fault = .itemsExpected ∧ stored.HasBrokenHistory := by
  unfold loadHistory Stored.HasBrokenHistory
  cases stored.history with
  | none => exact iff_of_false nofun fun ⟨_, _, h, _⟩ ↦ nomatch h
  | some fields =>
    rw [History.ofFields_eq_error_iff]
    exact and_congr_right fun _ ↦
      ⟨fun h ↦ ⟨fields, rfl, h⟩, fun ⟨_, hfields, h⟩ ↦ Option.some.inj hfields ▸ h⟩

section Index

/-- A file that holds no snapshot leaves the index alone. -/
theorem loadInto_of_error (h : readStored d p nesting = .error fault) (now : Int) (ix : Index) :
    loadInto d p now ix nesting = (ix, Logged.fail fault) := by
  rw [loadInto, h]

/-- Stored emails that are not all objects leave the index alone. -/
theorem fst_loadInto_of_not_objects (h : readStored d p nesting = .ok stored)
    (hemails : stored.emails.all Value.isObject = false) (now : Int) (ix : Index) :
    (loadInto d p now ix nesting).1 = ix := by
  have himport : (ix.importStored now stored.emails).result = .error .objectExpected := by
    rw [Index.importStored, Index.result_importItems, Index.result_readItems_values, hemails]
    rfl
  simp only [loadInto, h, himport]

/-- Stored objects take the place of what the index held, and the history is read after that. -/
theorem loadInto_of_objects (h : readStored d p nesting = .ok stored)
    (hemails : stored.emails.all Value.isObject) (now : Int) (ix : Index) :
    (loadInto d p now ix nesting).1 = ix.restore now stored.records ∧
      (loadInto d p now ix nesting).2.result = (loadHistory stored).result := by
  have himport : (ix.importStored now stored.emails).result =
      .ok (ix.restore now stored.records, stored.records.length) := by
    rw [Index.importStored, Index.result_importItems, Index.result_readItems_values, hemails]
    rfl
  simp only [loadInto, h, himport, and_self]

end Index

/-- A load that fails leaves the index as it was, with one exception: all stored emails are
objects, the history has a broken list, and clearing the index and inserting the stored records
makes another index of it. -/
theorem loadInto_failed_and_changed_iff (d : Disk) (p : Path) (now : Int) (ix : Index)
    (nesting : Nesting) (fault : Fault) :
    (loadInto d p now ix nesting).2.result = .error fault ∧
        (loadInto d p now ix nesting).1 ≠ ix ↔
      fault = .itemsExpected ∧ ∃ stored, readStored d p nesting = .ok stored ∧
        stored.emails.all Value.isObject ∧ stored.HasBrokenHistory ∧
          ix.after ((now, .clear) :: stored.records.map fun r ↦ (now, .insert (.record r))) ≠
            ix := by
  cases h : readStored d p nesting with
  | error cause =>
    rw [loadInto_of_error h]
    exact iff_of_false (fun h ↦ h.2 rfl) fun ⟨_, _, h, _⟩ ↦ nomatch h
  | ok stored =>
    simp only [Except.ok.injEq, exists_eq_left']
    cases hemails : stored.emails.all Value.isObject with
    | false =>
      rw [fst_loadInto_of_not_objects h hemails]
      exact iff_of_false (fun h ↦ h.2 rfl) fun ⟨_, h, _⟩ ↦ nomatch h
    | true =>
      -- the records are in place by now, so only the history can still fail
      obtain ⟨hindex, hresult⟩ := loadInto_of_objects h hemails now ix
      rw [hindex, hresult, loadHistory_eq_error_iff, ← Index.restore_eq_after]
      simp only [and_assoc, true_and]

/-- Loading a snapshot without emails, whose recent searches are null, fails and empties an index
that changes led to. -/
theorem loadInto_nullRecent :
    let text := (Json.write .compact (.object [("emails", .list []),
      ("history", .object [("recent_searches", .null)])])).1
    let d : Disk := { entries := [(["s.json"], .file (.text text) Disk.usualMode)] }
    let ix := (Index.empty 3 .zero).after [(5, .insert (.value (.object [("id", .text "a")])))]
    let after := loadInto d (Path.ofText "s.json") 7 ix
    ix.Reachable ∧ after.2.result = .error .itemsExpected ∧
      ix.records.map (·.id) = ["a"] ∧ after.1.records = [] := by
  refine ⟨⟨3, .zero, _, rfl⟩, by rfl, by decide +kernel, by decide +kernel⟩

end Snapshot
end MailSearch
