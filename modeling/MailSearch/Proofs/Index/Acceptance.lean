import MailSearch.Proofs.Index.Batch
import MailSearch.Proofs.Moment

/-!
# What a batch takes in

Of a batch of emails those that can be read are put in as if the others were not there, and each of
the others gives one text that names its position. Whatever the fields hold, an email is refused
only for a value or its type, and it is refused before the index is touched.
-/

namespace MailSearch.Index

/-- Whether a record can be read from an email's fields. -/
def accepts (mail : List (String × Value)) : Bool := (Record.ofMailFields mail).isOk

/-- The text about an email at a position, if it cannot be read. -/
def refusalText? (entry : List (String × Value) × Nat) : Option String :=
  match Record.ofMailFields entry.1 with
  | .ok _ => none
  | .error fault => some s!"email {entry.2}: {fault.message}"

section Accepted

variable {mail : List (String × Value)}

/-- An email that can be read is kept. -/
theorem filter_accepts_of_ok {r : Record} (h : Record.ofMailFields mail = .ok r)
    (mails : List (List (String × Value))) :
    (mail :: mails).filter accepts = mail :: mails.filter accepts := by
  apply List.filter_cons_of_pos
  rw [accepts, h]
  rfl

/-- An email that cannot be read is left out. -/
theorem filter_accepts_of_error {fault : Fault} (h : Record.ofMailFields mail = .error fault)
    (mails : List (List (String × Value))) :
    (mail :: mails).filter accepts = mails.filter accepts := by
  apply List.filter_cons_of_neg
  rw [accepts, h]
  exact Bool.false_ne_true

end Accepted

section Batch

variable (ix : Index) (now : Int) (position : Nat) (mails : List (List (String × Value)))

/-- Indexing the emails of a batch that can be read, and no others, meets no fault and gives the
index of the batch. -/
theorem insertMails_filter_accepts :
    ix.insertMails now ((mails.filter accepts).map .object) =
      ((ix.insertEach now position (mails.map .object)).index, (mails.filter accepts).length,
        none) := by
  induction mails generalizing ix position with
  | nil => rfl
  | cons mail mails ih =>
    rw [List.map_cons]
    cases hread : Record.ofMailFields mail with
    | ok r =>
      have hinsert : ix.insertItem now (.value (.object mail)) = .ok (ix.insert now r) :=
        insertMail_of_ok ix now hread
      have hrest := ih (ix.insert now r) (position + 1)
      unfold insertMails at hrest ⊢
      rw [insertEach_of_ok ix now position _ hread, filter_accepts_of_ok hread,
        List.map_cons, List.map_cons, insertItems, hinsert]
      dsimp only
      rw [hrest]
      rfl
    | error fault =>
      rw [insertEach_of_error ix now position _ hread, filter_accepts_of_error hread]
      exact ih ix (position + 1)

/-- As many emails of a batch are put in as can be read. -/
theorem indexed_insertEach :
    (ix.insertEach now position (mails.map .object)).indexed = (mails.filter accepts).length := by
  induction mails generalizing ix position with
  | nil => rfl
  | cons mail mails ih =>
    rw [List.map_cons]
    cases hread : Record.ofMailFields mail with
    | ok r =>
      rw [insertEach_of_ok ix now position _ hread, Batch.indexed_after_inserted, ih,
        filter_accepts_of_ok hread, List.length_cons]
    | error fault =>
      rw [insertEach_of_error ix now position _ hread, Batch.indexed_after_refused, ih,
        filter_accepts_of_error hread]

/-- The texts of a batch are those about the emails that cannot be read, in order. -/
theorem errors_insertEach :
    (ix.insertEach now position (mails.map .object)).errors =
      (mails.zipIdx position).filterMap refusalText? := by
  induction mails generalizing ix position with
  | nil => rfl
  | cons mail mails ih =>
    rw [List.map_cons, List.zipIdx_cons]
    cases hread : Record.ofMailFields mail with
    | ok r =>
      have hnone : refusalText? (mail, position) = none := by rw [refusalText?, hread]
      rw [insertEach_of_ok ix now position _ hread, List.filterMap_cons_none hnone]
      exact ih (ix.insert now r) (position + 1)
    | error fault =>
      have hsome : refusalText? (mail, position) =
          some s!"email {position}: {fault.message}" := by
        rw [refusalText?, hread]
      rw [insertEach_of_error ix now position _ hread, List.filterMap_cons_some hsome]
      exact congrArg (s!"email {position}: {fault.message}" :: ·) (ih ix (position + 1))

end Batch

/-- An email whose date, if it is a moment, is one of the calendar is refused only for a value or
its type. -/
theorem liesInValue_of_ofMailFields {mail : List (String × Value)} {fault : Fault}
    (hdate : ∀ m, Record.pick mail ["date"] = .moment m → m.isReal)
    (h : Record.ofMailFields mail = .error fault) : fault.liesInValue := by
  refine faultsOnly_ofMailFields (p := (·.liesInValue)) (fun _ ↦ id) mail ?_ fault h
  intro m hm fault hmillis
  obtain ⟨year, rfl⟩ := Moment.fault_of_millis (hdate m hm) hmillis
  rfl

/-- A batch of objects goes on to its end, whatever the objects hold and whatever the index held.
The index is then the one that indexing only the emails that can be read gives, which meets no
fault. They are counted, and the texts are one for each of the others, in order, that names its
position. An email whose date is no moment outside the calendar is refused only for a value or its
type. A value is taken to have a text here however deep it is; a host that does not show values
beyond some depth stops at an email that holds one. -/
theorem insertEach_of_objects (ix : Index) (now : Int) (mails : List (List (String × Value))) :
    let batch := ix.insertEach now 0 (mails.map .object)
    let accepted := mails.filter accepts
    batch.stopped = none ∧
      ix.insertMails now (accepted.map .object) = (batch.index, accepted.length, none) ∧
      batch.toValue = .object [("indexed", .int accepted.length),
        ("errors", .texts (mails.zipIdx.filterMap refusalText?))] ∧
      ∀ mail ∈ mails, (∀ m, Record.pick mail ["date"] = .moment m → m.isReal) →
        ∀ fault, Record.ofMailFields mail = .error fault → fault.liesInValue := by
  intro batch accepted
  have hobjects : ∀ mail ∈ mails.map Value.object, ∃ fields, mail = .object fields := by
    intro mail hmail
    obtain ⟨fields, -, rfl⟩ := List.mem_map.mp hmail
    exact ⟨fields, rfl⟩
  refine ⟨stopped_insertEach ix now 0 hobjects, insertMails_filter_accepts ix now 0 mails, ?_,
    fun mail _ hdate fault hfault ↦ liesInValue_of_ofMailFields hdate hfault⟩
  rw [Batch.toValue, indexed_insertEach, errors_insertEach]

example :
    let ix := (empty 3 .zero).after [(1, .insert (.record { id := "a", tokens := ["rent"] }))]
    let mails : List (List (String × Value)) :=
      [[("id", .text "a"), ("subject", .text "May"), ("date", .float .nan)],
        [("id", .tuple [.int 1, .list [.null, .float (.infinity true)]]), ("to", .tuple [])],
        [("id", .text "c"), ("date", .moment ⟨⟨1, 1, 1⟩, 0, 0, none⟩)],
        [("id", .text "d"), ("labels", .object [("e", .list [.bool true])])],
        [("id", .text "(1, [None, -inf])"), ("is_read", .text " Yes ")]]
    let batch := ix.insertEach 2 0 (mails.map .object)
    batch.index.records.map (·.id) = ["a", "(1, [None, -inf])"] ∧ batch.indexed = 2 ∧
      batch.errors = ["email 0: Invalid date nan", "email 2: year 0 is out of range",
        "email 3: Field 'labels' must be a list of strings"] := by
  decide +kernel

end MailSearch.Index
