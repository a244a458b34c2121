import MailSearch.Proofs.Record.Storing

/-!
# Reading a record again

However many values a field can be read from, a record holds one form of them, and what is written
of it is read as itself. The reader of emails derives the sender's name and the tokens once more;
for that it needs the texts that the record holds and nothing else, unless the email had a body.
-/

namespace MailSearch

/-- Only null is null. -/
theorem Value.eq_null_of_isNull {v : Value} (h : v.isNull) : v = .null := by
  cases v with
  | null => rfl
  | _ => exact nomatch h

namespace Record

open Coercion

variable {r : Record} {body : String} {fields : List (String × Value)}

/-- The value that is picked for one key is the value of the key. -/
theorem pick_singleton (fields : List (String × Value)) (key : String) :
    pick fields [key] = get fields key := by
  rw [pick]
  split
  · next hnull => rw [pick, Value.eq_null_of_isNull hnull]
  · rfl

/-- The sender's name and the tokens are those that follow from the texts of the record. -/
structure IsDerived (r : Record) : Prop where
  senderName : r.senderName = displayName r.sender
  tokens : r.tokens = emailTokens r.subject r.snippet r.senderName r.sender ""

/-- A record that is read from an email has an id. -/
theorem IsReadFrom.id_ne_empty (h : r.IsReadFrom body fields) : r.id ≠ "" :=
  shown_ne_empty h.hasId h.id

/-- What is derived for an email whose body is missing or null follows from the record. -/
theorem IsReadFrom.isDerived (h : r.IsReadFrom body fields)
    (hbody : (get fields "body").isNull) : r.IsDerived := by
  have htext : toText .null = .ok body := by
    rw [← Value.eq_null_of_isNull hbody, ← pick_singleton]
    exact h.bodyText
  obtain rfl := Except.ok.inj htext
  exact ⟨h.senderName, h.tokens⟩

/-- A record whose name and tokens follow from its texts is read from what it is written as. -/
theorem IsDerived.isReadFrom_toFields (h : r.IsDerived) (hid : r.id ≠ "") :
    r.IsReadFrom "" r.toFields where
  hasId := by
    change r.id.isEmpty = false
    simpa using hid
  id := rfl
  threadId := rfl
  subject := rfl
  snippet := rfl
  sender := rfl
  senderName := h.senderName
  recipients := toTexts_texts "to" r.recipients
  cc := toTexts_texts "cc" r.cc
  date := rfl
  labels := toTexts_texts "labels" r.labels
  isRead := rfl
  isStarred := rfl
  hasAttachment := rfl
  bodyText := rfl
  tokens := h.tokens
  folder := by
    rw [pick_singleton]
    exact toOptionalText_optionalText r.folder
  size := by
    rw [pick_singleton]
    exact toOptionalInt_optionalInt "size" r.size

/-- What is not empty is an id for an email. -/
theorem isMissingId_of_isEmpty {v : Value} (h : v.isEmpty = false) : isMissingId v = false := by
  cases v with
  | null => exact h
  | text s => exact h
  | _ => rfl

/-- A stored record that can be read has an id. -/
theorem id_ne_empty_of_ofStoredFields (h : ofStoredFields fields = .ok r) : r.id ≠ "" := by
  unfold ofStoredFields at h
  split at h
  · exact nomatch h
  · next hempty =>
    dsimp only at h
    obtain ⟨id, hid, h⟩ := bind_eq_ok.mp h
    obtain ⟨threadId, -, h⟩ := bind_eq_ok.mp h
    obtain ⟨subject, -, h⟩ := bind_eq_ok.mp h
    obtain ⟨snippet, -, h⟩ := bind_eq_ok.mp h
    obtain ⟨sender, -, h⟩ := bind_eq_ok.mp h
    obtain ⟨senderName, -, h⟩ := bind_eq_ok.mp h
    obtain ⟨recipients, -, h⟩ := bind_eq_ok.mp h
    obtain ⟨cc, -, h⟩ := bind_eq_ok.mp h
    obtain ⟨date, -, h⟩ := bind_eq_ok.mp h
    obtain ⟨labels, -, h⟩ := bind_eq_ok.mp h
    obtain ⟨isRead, -, h⟩ := bind_eq_ok.mp h
    obtain ⟨isStarred, -, h⟩ := bind_eq_ok.mp h
    obtain ⟨hasAttachment, -, h⟩ := bind_eq_ok.mp h
    obtain ⟨tokens, -, h⟩ := bind_eq_ok.mp h
    obtain ⟨folder, -, h⟩ := bind_eq_ok.mp h
    obtain ⟨size, -, h⟩ := bind_eq_ok.mp h
    obtain rfl := Except.ok.inj h
    exact shown_ne_empty (isMissingId_of_isEmpty (eq_false_of_ne_true hempty)) hid

/-- A record that is read from an email is read back from what it is written as, and if the email
had no body it is also what an email of this form is read as. A record that is read from a stored
one is read back from what it is written as. -/
theorem read_toValue_of_read (fields : List (String × Value)) (r : Record) :
    (ofMail (.object fields) = .ok r →
      ofStored r.toValue = .ok r ∧
        ((get fields "body").isNull → ofMail r.toValue = .ok r)) ∧
    (ofStored (.object fields) = .ok r → ofStored r.toValue = .ok r) := by
  constructor
  · intro h
    obtain ⟨body, hread⟩ := ofMailFields_eq_ok_iff.mp h
    refine ⟨ofStored_toValue hread.id_ne_empty, fun hbody ↦ ?_⟩
    exact ofMailFields_eq_ok_iff.mpr
      ⟨"", (hread.isDerived hbody).isReadFrom_toFields hread.id_ne_empty⟩
  · intro h
    exact ofStored_toValue (id_ne_empty_of_ofStoredFields h)

/-- An email and a stored record of which hardly a field has the form that is written. -/
theorem read_toValue_of_read_mixed :
    let mail : List (String × Value) :=
      [("id", .tuple [.int 1, .list [.null, .text "x"]]), ("thread_id", .null),
        ("threadId", .int (-7)), ("subject", .text "Rent for MAY"),
        ("from", .text "Jo Doe <jo@example.com>"), ("to", .text ""),
        ("cc", .list [.bool true, .tuple [.float .nan]]), ("date", .float (.ofRatio 7 2)),
        ("labels", .text "home"), ("is_read", .text " YES "), ("isStarred", .int 1),
        ("body", .null), ("folder", .text ""), ("size", .text " 1_0 ")]
    let record : Record :=
      { id := "(1, [None, 'x'])", threadId := "-7", subject := "Rent for MAY",
        sender := "Jo Doe <jo@example.com>", senderName := "Jo Doe", cc := ["True", "(nan,)"],
        date := 3, labels := ["home"], isRead := true, isStarred := true,
        tokens := ["rent", "jo", "doe", "jo@example.com"], folder := some "", size := some 10 }
    let stored : List (String × Value) :=
      [("id", .list [.int 5]), ("to", .tuple [.null, .int 3]), ("date", .text ""),
        ("is_read", .text "No"), ("tokens", .text "May"), ("size", .bool false)]
    let other : Record :=
      { id := "[5]", recipients := ["None", "3"], tokens := ["May"], size := some 0 }
    (ofMail (.object mail) = .ok record ∧ (get mail "body").isNull ∧
      ofStored record.toValue = .ok record ∧ ofMail record.toValue = .ok record) ∧
    ofStored (.object stored) = .ok other ∧ ofStored other.toValue = .ok other := by
  intro mail record stored other
  have hmail : ofMail (.object mail) = .ok record := by decide +kernel
  have hbody : (get mail "body").isNull := rfl
  have hstored : ofStored (.object stored) = .ok other := by decide +kernel
  obtain ⟨hback, hagain⟩ := (read_toValue_of_read mail record).1 hmail
  exact ⟨⟨hmail, hbody, hback, hagain hbody⟩, hstored,
    (read_toValue_of_read stored other).2 hstored⟩

end Record
end MailSearch
