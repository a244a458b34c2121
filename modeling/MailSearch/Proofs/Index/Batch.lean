import MailSearch.Proofs.Index.Consistency

/-!
# Batches of emails

Reading an email or a stored record that is an object fails for what one of its fields holds,
never for what the value is. So a batch of objects goes on to its end, and its index is that of
indexing the emails one by one and passing over those that are refused.
-/

namespace MailSearch

section Quoted

mutual

/-- A value can be quoted unless one of its integers has too many digits. -/
theorem fault_of_quoted {fault : Fault} (v : Value) (h : v.quoted = .error fault) :
    fault = .tooManyDigits := by
  cases v with
  | int n =>
    unfold Value.quoted integerText? at h
    split at h
    · exact (Except.error.inj h).symm
    · exact nomatch h
  | list items =>
    rw [Value.quoted] at h
    rcases bind_eq_error.mp h with hitems | ⟨parts, -, hparts⟩
    · exact fault_of_quotedItems items hitems
    · exact nomatch hparts
  | tuple items =>
    rw [Value.quoted] at h
    rcases bind_eq_error.mp h with hitems | ⟨parts, -, hparts⟩
    · exact fault_of_quotedItems items hitems
    · split at hparts <;> exact nomatch hparts
  | object fields =>
    rw [Value.quoted] at h
    rcases bind_eq_error.mp h with hfields | ⟨parts, -, hparts⟩
    · exact fault_of_quotedFields fields hfields
    · exact nomatch hparts
  | null => exact nomatch h
  | bool b => exact nomatch h
  | float x => exact nomatch h
  | text s => exact nomatch h
  | moment m => exact nomatch h

private theorem fault_of_quotedItems {fault : Fault} (items : List Value)
    (h : Value.quotedItems items = .error fault) : fault = .tooManyDigits := by
  cases items with
  | nil => exact nomatch h
  | cons item items =>
    rw [Value.quotedItems] at h
    rcases bind_eq_error.mp h with hitem | ⟨first, -, hrest⟩
    · exact fault_of_quoted item hitem
    · rcases bind_eq_error.mp hrest with hothers | ⟨others, -, hparts⟩
      · exact fault_of_quotedItems items hothers
      · exact nomatch hparts

private theorem fault_of_quotedFields {fault : Fault} (fields : List (String × Value))
    (h : Value.quotedFields fields = .error fault) : fault = .tooManyDigits := by
  cases fields with
  | nil => exact nomatch h
  | cons field fields =>
    obtain ⟨key, value⟩ := field
    rw [Value.quotedFields] at h
    rcases bind_eq_error.mp h with hvalue | ⟨first, -, hrest⟩
    · exact fault_of_quoted value hvalue
    · rcases bind_eq_error.mp hrest with hothers | ⟨others, -, hparts⟩
      · exact fault_of_quotedFields fields hothers
      · exact nomatch hparts

end

end Quoted

/-- Whether a cause is that a value, or its type, is not what the field can hold. -/
def Fault.liesInValue : Fault → Bool
  | .mailWithoutId | .recordWithoutId | .textExpected _ | .listExpected _ | .flagExpected _ _
  | .integerExpected _ | .invalidDate _ | .tooManyDigits | .yearOutOfRange _ => true
  | _ => false

namespace Index

/-- An action whose faults, if it fails, have a property. -/
def FaultsOnly {α : Type} (p : Fault → Prop) (x : Except Fault α) : Prop :=
  ∀ fault, x = .error fault → p fault

/-- An action that fails for what a field holds, if it fails. -/
def FieldFaultsOnly {α : Type} (x : Except Fault α) : Prop :=
  ∀ fault, x = .error fault → isFieldFault fault

/-- What lies in a value concerns a field. -/
theorem isFieldFault_of_liesInValue {fault : Fault} (h : fault.liesInValue) :
    isFieldFault fault := by
  cases fault with
  | objectExpected => exact nomatch h
  | _ => rfl

namespace FaultsOnly

variable {α β : Type} {p : Fault → Prop}

/-- A result is no fault. -/
protected theorem ok (a : α) : FaultsOnly p (.ok a) := nofun

/-- A fault that has the property. -/
protected theorem error {fault : Fault} (h : p fault) :
    FaultsOnly p (.error fault : Except Fault α) := by
  intro other hother
  cases hother
  exact h

/-- A sequence has only the faults of its steps. -/
protected theorem bind {x : Except Fault α} {f : α → Except Fault β} (hx : FaultsOnly p x)
    (hf : ∀ a, FaultsOnly p (f a)) : FaultsOnly p (x >>= f) := by
  intro fault h
  rcases bind_eq_error.mp h with hfirst | ⟨a, -, hsecond⟩
  · exact hx fault hfirst
  · exact hf a fault hsecond

/-- What is only changed in its result has the faults that it had. -/
protected theorem map {x : Except Fault α} (hx : FaultsOnly p x) (f : α → β) :
    FaultsOnly p (x.map f) :=
  fun fault h ↦ hx fault (map_eq_error.mp h)

end FaultsOnly

section Coercion

open Coercion

variable {p : Fault → Prop} (hp : ∀ fault, fault.liesInValue → p fault)
include hp

private theorem faultsOnly_quoted (v : Value) : FaultsOnly p v.quoted := by
  intro fault h
  rw [fault_of_quoted v h]
  exact hp _ rfl

private theorem faultsOnly_shown (v : Value) : FaultsOnly p v.shown := by
  cases v with
  | text s => exact .ok s
  | moment m => exact .ok m.shown
  | _ => exact faultsOnly_quoted hp _

private theorem faultsOnly_toText (v : Value) : FaultsOnly p (toText v) := by
  unfold toText
  split
  · exact .ok ""
  · exact .error (hp _ rfl)
  · exact .error (hp _ rfl)
  · exact faultsOnly_shown hp v

private theorem faultsOnly_shownItems (items : List Value) : FaultsOnly p (shownItems items) := by
  induction items with
  | nil => exact .ok []
  | cons item items ih =>
    exact .bind (faultsOnly_shown hp item) fun first ↦ .bind ih fun others ↦ .ok _

private theorem faultsOnly_toTexts (field : String) (v : Value) :
    FaultsOnly p (toTexts field v) := by
  cases v with
  | null => exact .ok []
  | text s => exact .ok _
  | list items => exact faultsOnly_shownItems hp items
  | tuple items => exact faultsOnly_shownItems hp items
  | _ => exact .error (hp _ rfl)

private theorem faultsOnly_refuse {α : Type} (v : Value) {cause : String → Fault}
    (h : ∀ shown, (cause shown).liesInValue) :
    FaultsOnly p (refuse v cause : Except Fault α) := by
  unfold refuse
  split
  · exact .error (hp _ (h _))
  · next fault hquoted =>
    apply FaultsOnly.error
    exact faultsOnly_quoted hp v fault hquoted

private theorem faultsOnly_toFlag (field : String) (v : Value) :
    FaultsOnly p (toFlag field v) := by
  unfold toFlag
  split
  · exact .ok _
  · exact .ok _
  · exact .ok _
  · exact .ok _
  · split
    · exact .ok _
    · exact faultsOnly_refuse hp _ fun _ ↦ rfl
  · exact faultsOnly_refuse hp _ fun _ ↦ rfl

private theorem faultsOnly_toMillis (v : Value)
    (hv : ∀ m, v = .moment m → FaultsOnly p m.millis) : FaultsOnly p (toMillis v) := by
  unfold toMillis
  split
  · next m => exact hv m rfl
  · exact .ok _
  · exact .ok _
  · exact faultsOnly_refuse hp _ fun _ ↦ rfl
  · split
    · exact .ok _
    · exact faultsOnly_refuse hp _ fun _ ↦ rfl

private theorem faultsOnly_toOptionalInt (field : String) (v : Value) :
    FaultsOnly p (toOptionalInt field v) := by
  unfold toOptionalInt
  split
  · exact .ok _
  · split
    · exact .ok _
    · exact .error (hp _ rfl)

private theorem faultsOnly_toOptionalText (v : Value) : FaultsOnly p (toOptionalText v) := by
  unfold toOptionalText
  split
  · exact .ok _
  · exact (faultsOnly_toText hp v).map some

/-- An email that is an object is refused for a value or its type, or for a date that is a moment
outside the calendar. -/
theorem faultsOnly_ofMailFields (mail : List (String × Value))
    (hdate : ∀ m, Record.pick mail ["date"] = .moment m → FaultsOnly p m.millis) :
    FaultsOnly p (Record.ofMailFields mail) := by
  unfold Record.ofMailFields
  split
  · exact .error (hp _ rfl)
  · refine .bind (faultsOnly_toText hp _) fun subject ↦ ?_
    refine .bind (faultsOnly_toText hp _) fun snippet ↦ ?_
    refine .bind (faultsOnly_toText hp _) fun sender ↦ ?_
    refine .bind (faultsOnly_shown hp _) fun id ↦ ?_
    refine .bind (faultsOnly_toText hp _) fun threadId ↦ ?_
    refine .bind (faultsOnly_toTexts hp _ _) fun recipients ↦ ?_
    refine .bind (faultsOnly_toTexts hp _ _) fun cc ↦ ?_
    refine .bind (faultsOnly_toMillis hp _ hdate) fun date ↦ ?_
    refine .bind (faultsOnly_toTexts hp _ _) fun labels ↦ ?_
    refine .bind (faultsOnly_toFlag hp _ _) fun isRead ↦ ?_
    refine .bind (faultsOnly_toFlag hp _ _) fun isStarred ↦ ?_
    refine .bind (faultsOnly_toFlag hp _ _) fun hasAttachment ↦ ?_
    refine .bind (faultsOnly_toText hp _) fun body ↦ ?_
    refine .bind (faultsOnly_toOptionalText hp _) fun folder ↦ ?_
    exact .bind (faultsOnly_toOptionalInt hp _ _) fun size ↦ .ok _

/-- A stored record that is an object is refused for a value or its type, or for a date that is a
moment outside the calendar. -/
theorem faultsOnly_ofStoredFields (stored : List (String × Value))
    (hdate : ∀ m, Record.get stored "date" = .moment m → FaultsOnly p m.millis) :
    FaultsOnly p (Record.ofStoredFields stored) := by
  unfold Record.ofStoredFields
  split
  · exact .error (hp _ rfl)
  · refine .bind (faultsOnly_shown hp _) fun id ↦ ?_
    refine .bind (faultsOnly_toText hp _) fun threadId ↦ ?_
    refine .bind (faultsOnly_toText hp _) fun subject ↦ ?_
    refine .bind (faultsOnly_toText hp _) fun snippet ↦ ?_
    refine .bind (faultsOnly_toText hp _) fun sender ↦ ?_
    refine .bind (faultsOnly_toText hp _) fun senderName ↦ ?_
    refine .bind (faultsOnly_toTexts hp _ _) fun recipients ↦ ?_
    refine .bind (faultsOnly_toTexts hp _ _) fun cc ↦ ?_
    refine .bind (faultsOnly_toMillis hp _ hdate) fun date ↦ ?_
    refine .bind (faultsOnly_toTexts hp _ _) fun labels ↦ ?_
    refine .bind (faultsOnly_toFlag hp _ _) fun isRead ↦ ?_
    refine .bind (faultsOnly_toFlag hp _ _) fun isStarred ↦ ?_
    refine .bind (faultsOnly_toFlag hp _ _) fun hasAttachment ↦ ?_
    refine .bind (faultsOnly_toTexts hp _ _) fun tokens ↦ ?_
    refine .bind (faultsOnly_toOptionalText hp _) fun folder ↦ ?_
    exact .bind (faultsOnly_toOptionalInt hp _ _) fun size ↦ .ok _

end Coercion

section FieldFaults

private theorem fieldFaultsOnly_checkRange (seconds : Int) :
    FieldFaultsOnly (Instant.checkRange seconds) := by
  intro fault h
  unfold Instant.checkRange at h
  dsimp only at h
  split_ifs at h <;> cases h <;> rfl

private theorem fieldFaultsOnly_millis (m : Moment) : FieldFaultsOnly m.millis := by
  unfold Moment.millis
  split
  · exact FaultsOnly.bind (p := (isFieldFault ·)) (fieldFaultsOnly_checkRange _) fun _ ↦ .ok _
  · exact FaultsOnly.ok (p := (isFieldFault ·)) _

/-- An email that is an object is refused for what a field holds. -/
theorem fieldFaultsOnly_ofMailFields (mail : List (String × Value)) :
    FieldFaultsOnly (Record.ofMailFields mail) :=
  faultsOnly_ofMailFields (fun _ ↦ isFieldFault_of_liesInValue) mail
    fun m _ ↦ fieldFaultsOnly_millis m

/-- A stored record that is an object is refused for what a field holds. -/
theorem fieldFaultsOnly_ofStoredFields (stored : List (String × Value)) :
    FieldFaultsOnly (Record.ofStoredFields stored) :=
  faultsOnly_ofStoredFields (fun _ ↦ isFieldFault_of_liesInValue) stored
    fun m _ ↦ fieldFaultsOnly_millis m

end FieldFaults

/-- A step that put an email in is counted. -/
theorem Batch.indexed_after_inserted (b : Batch) (event : Event) :
    (b.after (.inserted event)).indexed = b.indexed + 1 :=
  List.countP_cons_of_pos rfl

/-- A step that refused an email is not counted. -/
theorem Batch.indexed_after_refused (b : Batch) (position : Nat) (fault : Fault) :
    (b.after (.refused position fault)).indexed = b.indexed :=
  List.countP_cons_of_neg Bool.false_ne_true

/-- Indexing an email reads it and puts its record in. -/
theorem insertMail_eq_map (ix : Index) (now : Int) (mail : Value) :
    ix.insertMail now mail = (Record.ofMail mail).map (ix.insert now) := rfl

section Steps

variable {fields : List (String × Value)}

/-- An email that can be read is put in, and the batch goes on. -/
theorem insertEach_of_ok (ix : Index) (now : Int) (position : Nat) (mails : List Value) {r : Record}
    (h : Record.ofMailFields fields = .ok r) :
    ix.insertEach now position (.object fields :: mails) =
      ((ix.insert now r).insertEach now (position + 1) mails).after
        (.inserted (ix.insertEvent r)) := by
  have hread : Record.ofMail (.object fields) = .ok r := h
  rw [insertEach]
  simp only [hread]

/-- An object that cannot be read leaves the index as it is, and the batch goes on. -/
theorem insertEach_of_error (ix : Index) (now : Int) (position : Nat) (mails : List Value)
    {fault : Fault} (h : Record.ofMailFields fields = .error fault) :
    ix.insertEach now position (.object fields :: mails) =
      (ix.insertEach now (position + 1) mails).after (.refused position fault) := by
  have hread : Record.ofMail (.object fields) = .error fault := h
  have hfault : isFieldFault fault := fieldFaultsOnly_ofMailFields fields fault h
  rw [insertEach]
  simp only [hread, if_pos hfault]

/-- What becomes of an index by an email that can be read. -/
theorem insertMail_of_ok (ix : Index) (now : Int) {r : Record}
    (h : Record.ofMailFields fields = .ok r) :
    ix.insertMail now (.object fields) = .ok (ix.insert now r) := by
  have hread : Record.ofMail (.object fields) = .ok r := h
  rw [insertMail_eq_map, hread]
  rfl

/-- An object that cannot be read is refused. -/
theorem insertMail_of_error (ix : Index) (now : Int) {fault : Fault}
    (h : Record.ofMailFields fields = .error fault) :
    ix.insertMail now (.object fields) = .error fault := by
  have hread : Record.ofMail (.object fields) = .error fault := h
  rw [insertMail_eq_map, hread]
  rfl

end Steps

/-- A batch of objects puts in what indexing them one by one puts in, those that are refused
leaving the index as it is. -/
theorem insertEach_eq_after (ix : Index) (now : Int) (position : Nat) {mails : List Value}
    (h : ∀ mail ∈ mails, ∃ fields, mail = .object fields) :
    (ix.insertEach now position mails).index =
      ix.after (mails.map fun mail ↦ (now, .insert (.value mail))) := by
  induction mails generalizing ix position with
  | nil => rfl
  | cons mail mails ih =>
    obtain ⟨⟨fields, rfl⟩, hmails⟩ := List.forall_mem_cons.mp h
    rw [List.map_cons, after]
    cases hread : Record.ofMailFields fields with
    | ok r =>
      have hinsert : ix.insertItem now (.value (.object fields)) = .ok (ix.insert now r) :=
        insertMail_of_ok ix now hread
      rw [insertEach_of_ok ix now position mails hread]
      simp only [Change.apply, hinsert]
      exact ih _ _ hmails
    | error fault =>
      have hinsert : ix.insertItem now (.value (.object fields)) = .error fault :=
        insertMail_of_error ix now hread
      rw [insertEach_of_error ix now position mails hread]
      simp only [Change.apply, hinsert]
      exact ih _ _ hmails

/-- A batch of objects goes on to its end. -/
theorem stopped_insertEach (ix : Index) (now : Int) (position : Nat) {mails : List Value}
    (h : ∀ mail ∈ mails, ∃ fields, mail = .object fields) :
    (ix.insertEach now position mails).stopped = none := by
  induction mails generalizing ix position with
  | nil => rfl
  | cons mail mails ih =>
    obtain ⟨⟨fields, rfl⟩, hmails⟩ := List.forall_mem_cons.mp h
    cases hread : Record.ofMailFields fields with
    | ok r =>
      rw [insertEach_of_ok ix now position mails hread]
      exact ih _ _ hmails
    | error fault =>
      rw [insertEach_of_error ix now position mails hread]
      exact ih _ _ hmails

end Index
end MailSearch
