import MailSearch.Proofs.Index.Batch
import MailSearch.Proofs.Index.Edits

/-!
# Importing what cannot be read

A stored value is readable if a record can be read from it. An import of objects never fails:
it clears the index and inserts the records of the readable ones in order, and passes over the
others. A value that is no object ends the import before it has changed anything.
-/

namespace MailSearch

/-- Whether a value is an object. -/
def Value.isObject : Value → Bool
  | object _ => true
  | _ => false

/-- The record that a stored value is read as, if it is readable. -/
def Record.readStored? (stored : Value) : Option Record := (Record.ofStored stored).toOption

namespace Index

section Reading

/-- A value that is no object is refused for what it is. -/
theorem ofStored_eq_objectExpected {v : Value} (h : v.isObject = false) :
    Record.ofStored v = .error .objectExpected := by
  cases v with
  | object fields => exact nomatch h
  | _ => rfl

/-- A value that is refused for what a field holds is an object. -/
theorem isFieldFault_of_ofStored {v : Value} {fault : Fault} (hv : v.isObject)
    (h : Record.ofStored v = .error fault) : isFieldFault fault := by
  cases v with
  | object fields => exact fieldFaultsOnly_ofStoredFields fields fault h
  | _ => exact nomatch hv

/-- Reading stored objects gives the records of the readable ones in order; a value that is no
object is a fault, wherever it stands. -/
theorem result_readItems_values (stored : List Value) :
    (readItems (stored.map Item.value)).result =
      if stored.all Value.isObject then .ok (stored.filterMap Record.readStored?)
      else .error .objectExpected := by
  induction stored with
  | nil => rfl
  | cons v stored ih =>
    rw [List.map_cons, readItems, List.all_cons]
    cases hv : v.isObject with
    | false =>
      have hread : (Item.value v).readStored = .error .objectExpected :=
        ofStored_eq_objectExpected hv
      simp only [hread]
      rfl
    | true =>
      cases hread : (Item.value v).readStored with
      | ok r =>
        have hsome : Record.readStored? v = some r := congrArg Except.toOption hread
        dsimp only
        rw [Logged.result_bind, ih, List.filterMap_cons_some hsome, Bool.true_and]
        split <;> rfl
      | error fault =>
        have hnone : Record.readStored? v = none := congrArg Except.toOption hread
        have hfault : isFieldFault fault := isFieldFault_of_ofStored hv hread
        dsimp only
        rw [if_pos hfault, Logged.result_bind, List.filterMap_cons_none hnone, Bool.true_and]
        exact ih

end Reading

section Restoring

/-- Inserting records one after the other at one time replaces each and sets the time. -/
theorem after_inserts (ix : Index) (now : Int) (rs : List Record) :
    { ix with lastIndexedAt := now }.after (rs.map fun r ↦ (now, .insert (.record r))) =
      { rs.foldl replace ix with lastIndexedAt := now } := by
  induction rs generalizing ix with
  | nil => rfl
  | cons r rs ih =>
    have hstep : ((Change.insert (.record r)).apply now { ix with lastIndexedAt := now }).1 =
        { ix.replace r with lastIndexedAt := now } :=
      congrArg (fun next : Index ↦ { next with lastIndexedAt := now })
        (edited_setTime ix now [.erase r.id, .append r])
    rw [List.map_cons, after, hstep, List.foldl_cons]
    exact ih (ix.replace r)

/-- Putting records in place of what an index held is to clear it and to insert them one after
the other. -/
theorem restore_eq_after (ix : Index) (now : Int) (rs : List Record) :
    ix.restore now rs =
      ix.after ((now, .clear) :: rs.map fun r ↦ (now, .insert (.record r))) := by
  cases rs with
  | nil => rfl
  | cons r rs =>
    have hfirst : ((Change.insert (.record r)).apply now ix.clear).1 =
        { ix.clear.replace r with lastIndexedAt := now } := rfl
    change { rs.foldl replace (ix.clear.replace r) with lastIndexedAt := now } =
      (((Change.insert (.record r)).apply now ix.clear).1).after _
    rw [hfirst]
    exact (after_inserts (ix.clear.replace r) now rs).symm

end Restoring

/-- Importing stored objects never fails, whatever the index held and whatever they hold: the
index is then what clearing it and inserting the records of the readable ones in order makes of
it, and they are counted. A value that is no object ends the import with a fault. -/
theorem result_importStored (ix : Index) (now : Int) (stored : List Value) :
    let found := stored.filterMap Record.readStored?
    (ix.importStored now stored).result =
      if stored.all Value.isObject then
        .ok (ix.after ((now, .clear) :: found.map fun r ↦ (now, .insert (.record r))),
          found.length)
      else .error .objectExpected := by
  intro found
  rw [importStored, result_importItems, result_readItems_values]
  split
  · rw [← restore_eq_after]
    rfl
  · rfl

/-- A number beside a stored record is not passed over: the import fails and the record is not
imported. -/
theorem importStored_number :
    ((empty 3 .zero).importStored 5 [.object [("id", .text "a")], .int 5]).result =
      .error .objectExpected := by
  rfl

end Index
end MailSearch
