import MailSearch.Proofs.Index.Consistency

/-!
# The edits of a change

A change is made of edits: an id is taken out, a record is put at the end, or all records are
dropped. To insert a record is to take out its id and to put it at the end, whether the id is held
or not, and an import drops all records first. So a record is put in only while no other has its
id. Beside its edits a change does nothing but set the time of the last insertion, if it inserts a
record.
-/

namespace MailSearch.Index

/-- An edit of the records and of both tables. -/
inductive Edit where
  | erase (id : String)
  | append (r : Record)
  | clear

/-- What becomes of an index by an edit. -/
def Edit.apply (ix : Index) : Edit → Index
  | erase id => ix.erase id
  | append r => ix.append r
  | clear => ix.clear

/-- What becomes of an index by edits. -/
def edited (ix : Index) (edits : List Edit) : Index := edits.foldl Edit.apply ix

/-- Whether an edit puts in no record whose id is held. -/
def Edit.Fits (ix : Index) : Edit → Prop
  | erase _ => True
  | append r => ∀ old ∈ ix.records, old.id ≠ r.id
  | clear => True

/-- Whether each of some edits fits when its turn comes. -/
def Fits (ix : Index) : List Edit → Prop
  | [] => True
  | edit :: edits => edit.Fits ix ∧ (edit.apply ix).Fits edits

/-- The records that are read from what is handed over, up to the first item that cannot be
read. -/
def readMails : List Item → List Record
  | [] => []
  | item :: items =>
      match item.readMail with
      | .ok r => r :: readMails items
      | .error _ => []

/-- The records that a change inserts, in order. -/
def Change.inserted : Change → List Record
  | insert item => readMails [item]
  | insertAll items => readMails items
  | erase _ => []
  | clear => []
  | restore items =>
      match (readItems items).result with
      | .ok rs => rs
      | .error _ => []

/-- The edits by which records are inserted. -/
def insertions (rs : List Record) : List Edit := rs.flatMap fun r ↦ [.erase r.id, .append r]

/-- The edits that a change is made of. -/
def Change.edits : Change → List Edit
  | insert item => insertions (readMails [item])
  | insertAll items => insertions (readMails items)
  | erase id => [.erase id]
  | clear => [.clear]
  | restore items =>
      match (readItems items).result with
      | .ok rs => .clear :: insertions rs
      | .error _ => []

/-- The edits that some changes are made of. -/
def editsOf (changes : List (Int × Change)) : List Edit := changes.flatMap fun step ↦ step.2.edits

/-- The time of the latest of some changes that inserts a record, and another time if none
does. -/
def lastInsertion (otherwise : Int) (changes : List (Int × Change)) : Int :=
  ((changes.filter fun step ↦ step.2.inserted ≠ []).getLast?.map Prod.fst).getD otherwise

section Edits

variable {ix : Index} {edit : Edit} {edits others : List Edit}

/-- Edits are made one after the other. -/
theorem edited_append (ix : Index) (edits others : List Edit) :
    ix.edited (edits ++ others) = (ix.edited edits).edited others :=
  List.foldl_append

/-- Edits fit one after the other. -/
theorem fits_append :
    ix.Fits (edits ++ others) ↔ ix.Fits edits ∧ (ix.edited edits).Fits others := by
  induction edits generalizing ix with
  | nil => simp [Fits, edited]
  | cons edit edits ih =>
    rw [List.cons_append, Fits, ih, Fits, and_assoc]
    rfl

/-- An edit that fits keeps an index consistent. -/
theorem consistent_edit (h : ix.Consistent) (hfits : edit.Fits ix) :
    (edit.apply ix).Consistent := by
  cases edit with
  | erase id => exact consistent_erase h id
  | append r => exact consistent_append h hfits
  | clear => exact consistent_clear ix

/-- Edits that fit keep an index consistent. -/
theorem consistent_edited (h : ix.Consistent) (hfits : ix.Fits edits) :
    (ix.edited edits).Consistent := by
  induction edits generalizing ix with
  | nil => exact h
  | cons edit edits ih => exact ih (consistent_edit h hfits.1) hfits.2

/-- An edit does not look at the time of the last insertion. -/
theorem apply_setTime (ix : Index) (now : Int) (edit : Edit) :
    edit.apply { ix with lastIndexedAt := now } =
      { edit.apply ix with lastIndexedAt := now } := by
  cases edit with
  | erase id =>
    have hget : { ix with lastIndexedAt := now }.get? id = ix.get? id := rfl
    simp only [Edit.apply, Index.erase, hget]
    cases ix.get? id <;> rfl
  | append r => rfl
  | clear => rfl

/-- Edits do not look at the time of the last insertion. -/
theorem edited_setTime (ix : Index) (now : Int) (edits : List Edit) :
    { ix with lastIndexedAt := now }.edited edits =
      { ix.edited edits with lastIndexedAt := now } := by
  induction edits generalizing ix with
  | nil => rfl
  | cons edit edits ih =>
    have hstep := congrArg (fun next : Index ↦ next.edited edits) (apply_setTime ix now edit)
    exact hstep.trans (ih (edit.apply ix))

end Edits

section Insertions

/-- To insert records is to replace each by its edits. -/
theorem edited_insertions (ix : Index) (rs : List Record) :
    ix.edited (insertions rs) = rs.foldl replace ix := by
  induction rs generalizing ix with
  | nil => rfl
  | cons r rs ih => exact ih (ix.replace r)

/-- The edits of insertions fit: the id of a record is taken out before. -/
theorem fits_insertions (ix : Index) (rs : List Record) : ix.Fits (insertions rs) := by
  induction rs generalizing ix with
  | nil => trivial
  | cons r rs ih =>
    refine ⟨trivial, ?_, ih (ix.replace r)⟩
    intro old hold
    change old ∈ (ix.erase r.id).records at hold
    rw [records_erase] at hold
    exact of_decide_eq_true (List.mem_filter.mp hold).2

/-- A batch makes the insertions of the records that are read before a fault, and sets the time if
there are any. -/
theorem insertItems_eq_edited (ix : Index) (now : Int) (items : List Item) :
    (ix.insertItems now items).1 = { ix.edited (insertions (readMails items)) with
      lastIndexedAt := if readMails items = [] then ix.lastIndexedAt else now } := by
  induction items generalizing ix with
  | nil => rfl
  | cons item items ih =>
    rw [readMails, insertItems, insertItem]
    cases item.readMail with
    | error fault => rfl
    | ok r =>
      -- whatever the rest of the batch does, the time is that of the batch from here on
      have htime : (if readMails items = [] then (ix.insert now r).lastIndexedAt else now) = now :=
        ite_self now
      have hedited : (ix.insert now r).edited (insertions (readMails items)) =
          { ix.edited (insertions (r :: readMails items)) with lastIndexedAt := now } :=
        edited_setTime (ix.replace r) now _
      have hrest := ih (ix.insert now r)
      rw [htime, hedited] at hrest
      rw [if_neg (List.cons_ne_nil r _)]
      exact hrest

/-- Putting records in place of what an index held is to clear it and to insert them, and sets the
time if there are any. -/
theorem restore_eq_edited (ix : Index) (now : Int) (rs : List Record) :
    ix.restore now rs = { ix.edited (.clear :: insertions rs) with
      lastIndexedAt := if rs = [] then ix.lastIndexedAt else now } := by
  have hedited : ix.edited (.clear :: insertions rs) = rs.foldl replace ix.clear :=
    edited_insertions ix.clear rs
  rw [hedited]
  cases rs <;> rfl

end Insertions

section Changes

private theorem lastIndexedAt_erase (ix : Index) (id : String) :
    (ix.erase id).lastIndexedAt = ix.lastIndexedAt := by
  unfold erase
  split <;> rfl

/-- A change makes its edits, and sets the time of the last insertion if it inserts a record. -/
theorem apply_eq_edited (ix : Index) (now : Int) (change : Change) :
    (change.apply now ix).1 = { ix.edited change.edits with
      lastIndexedAt := if change.inserted = [] then ix.lastIndexedAt else now } := by
  cases change with
  | insert item =>
    have hbatch : ((Change.insert item).apply now ix).1 = (ix.insertItems now [item]).1 := by
      rw [insertItems, Change.apply]
      cases ix.insertItem now item <;> rfl
    rw [hbatch]
    exact insertItems_eq_edited ix now [item]
  | insertAll items => exact insertItems_eq_edited ix now items
  | erase id =>
    have htime : (ix.erase id).lastIndexedAt = ix.lastIndexedAt := lastIndexedAt_erase ix id
    change ix.erase id = { ix.erase id with lastIndexedAt := ix.lastIndexedAt }
    rw [← htime]
  | clear => rfl
  | restore items =>
    cases hread : (readItems items).result with
    | error fault =>
      have hinserted : (Change.restore items).inserted = [] := by rw [Change.inserted, hread]
      have hedits : (Change.restore items).edits = [] := by rw [Change.edits, hread]
      rw [hinserted, hedits, Change.apply, result_importItems, hread]
      rfl
    | ok rs =>
      have hinserted : (Change.restore items).inserted = rs := by rw [Change.inserted, hread]
      have hedits : (Change.restore items).edits = .clear :: insertions rs := by
        rw [Change.edits, hread]
      rw [hinserted, hedits, Change.apply, result_importItems, hread]
      exact restore_eq_edited ix now rs

/-- The edits of a change fit. -/
theorem fits_edits (ix : Index) (change : Change) : ix.Fits change.edits := by
  cases change with
  | insert item => exact fits_insertions ix _
  | insertAll items => exact fits_insertions ix _
  | erase id => exact ⟨trivial, trivial⟩
  | clear => exact ⟨trivial, trivial⟩
  | restore items =>
    rw [Change.edits]
    cases (readItems items).result with
    | error fault => trivial
    | ok rs => exact ⟨trivial, fits_insertions ix.clear rs⟩

/-- The edits of some changes fit. -/
theorem fits_editsOf (ix : Index) (changes : List (Int × Change)) :
    ix.Fits (editsOf changes) := by
  induction changes generalizing ix with
  | nil => trivial
  | cons step changes ih =>
    exact fits_append.mpr ⟨fits_edits ix step.2, ih (ix.edited step.2.edits)⟩

/-- A change that inserts a record is the latest one unless a later one does. -/
theorem lastInsertion_cons (otherwise : Int) (step : Int × Change)
    (changes : List (Int × Change)) :
    lastInsertion otherwise (step :: changes) =
      lastInsertion (if step.2.inserted = [] then otherwise else step.1) changes := by
  unfold lastInsertion
  split
  · next hnone => rw [List.filter_cons_of_neg (by simp [hnone])]
  · next hsome =>
    rw [List.filter_cons_of_pos (by simpa using hsome), List.getLast?_cons]
    cases (changes.filter fun step ↦ step.2.inserted ≠ []).getLast? <;> rfl

/-- Changes make their edits, and the time of the last insertion is that of the latest of them that
inserts a record. -/
theorem after_eq_edited (ix : Index) (changes : List (Int × Change)) :
    ix.after changes = { ix.edited (editsOf changes) with
      lastIndexedAt := lastInsertion ix.lastIndexedAt changes } := by
  induction changes generalizing ix with
  | nil => rfl
  | cons step changes ih =>
    have hedited : ix.edited (editsOf (step :: changes)) =
        (ix.edited step.2.edits).edited (editsOf changes) := edited_append ix step.2.edits _
    rw [after, ih, apply_eq_edited, lastInsertion_cons, hedited, edited_setTime]

end Changes

end MailSearch.Index
