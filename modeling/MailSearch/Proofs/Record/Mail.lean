import MailSearch.Proofs.Outcome
import MailSearch.Record.Reading

/-!
# What the record of an email is made of

A record is read from an email exactly if the value of every field is read as the field of the
record, and the name of the sender and the tokens are the ones that follow from the texts. Only
the text of the body is not in the record.
-/

namespace MailSearch.Record

open Coercion

/-- The fields of an email are read as a record and the text of a body. -/
structure IsReadFrom (r : Record) (body : String) (mail : List (String × Value)) : Prop where
  hasId : isMissingId (get mail "id") = false
  id : (get mail "id").shown = .ok r.id
  threadId : toText (pick mail ["thread_id", "threadId"]) = .ok r.threadId
  subject : toText (pick mail ["subject"]) = .ok r.subject
  snippet : toText (pick mail ["snippet"]) = .ok r.snippet
  sender : toText (pick mail ["sender", "from"]) = .ok r.sender
  senderName : r.senderName = displayName r.sender
  recipients : toTexts "to" (pick mail ["to"]) = .ok r.recipients
  cc : toTexts "cc" (pick mail ["cc"]) = .ok r.cc
  date : toMillis (pick mail ["date"]) = .ok r.date
  labels : toTexts "labels" (pick mail ["labels"]) = .ok r.labels
  isRead : toFlag "is_read" (pick mail ["is_read", "isRead"]) = .ok r.isRead
  isStarred : toFlag "is_starred" (pick mail ["is_starred", "isStarred"]) = .ok r.isStarred
  hasAttachment :
    toFlag "has_attachment" (pick mail ["has_attachment", "hasAttachment"]) = .ok r.hasAttachment
  bodyText : toText (pick mail ["body"]) = .ok body
  tokens : r.tokens = emailTokens r.subject r.snippet r.senderName r.sender body
  folder : toOptionalText (pick mail ["folder"]) = .ok r.folder
  size : toOptionalInt "size" (pick mail ["size"]) = .ok r.size

variable {mail : List (String × Value)} {r : Record}

private theorem exists_isReadFrom (h : ofMailFields mail = .ok r) :
    ∃ body, r.IsReadFrom body mail := by
  unfold ofMailFields at h
  split at h
  · exact nomatch h
  · next hmissing =>
    dsimp only at h
    obtain ⟨subject, hsubject, h⟩ := bind_eq_ok.mp h
    obtain ⟨snippet, hsnippet, h⟩ := bind_eq_ok.mp h
    obtain ⟨sender, hsender, h⟩ := bind_eq_ok.mp h
    obtain ⟨id, hid, h⟩ := bind_eq_ok.mp h
    obtain ⟨threadId, hthreadId, h⟩ := bind_eq_ok.mp h
    obtain ⟨recipients, hrecipients, h⟩ := bind_eq_ok.mp h
    obtain ⟨cc, hcc, h⟩ := bind_eq_ok.mp h
    obtain ⟨date, hdate, h⟩ := bind_eq_ok.mp h
    obtain ⟨labels, hlabels, h⟩ := bind_eq_ok.mp h
    obtain ⟨isRead, hisRead, h⟩ := bind_eq_ok.mp h
    obtain ⟨isStarred, hisStarred, h⟩ := bind_eq_ok.mp h
    obtain ⟨hasAttachment, hhasAttachment, h⟩ := bind_eq_ok.mp h
    obtain ⟨body, hbody, h⟩ := bind_eq_ok.mp h
    obtain ⟨folder, hfolder, h⟩ := bind_eq_ok.mp h
    obtain ⟨size, hsize, h⟩ := bind_eq_ok.mp h
    obtain rfl := Except.ok.inj h
    exact ⟨body, {
      hasId := eq_false_of_ne_true hmissing, id := hid, threadId := hthreadId
      subject := hsubject, snippet := hsnippet, sender := hsender, senderName := rfl
      recipients := hrecipients, cc := hcc, date := hdate, labels := hlabels
      isRead := hisRead, isStarred := hisStarred, hasAttachment := hhasAttachment
      bodyText := hbody, tokens := rfl, folder := hfolder, size := hsize }⟩

private theorem IsReadFrom.ofMailFields_eq {body : String} (h : r.IsReadFrom body mail) :
    ofMailFields mail = .ok r := by
  unfold ofMailFields
  rw [h.hasId, h.subject, h.snippet, h.sender, h.id, h.threadId, h.recipients, h.cc, h.date,
    h.labels, h.isRead, h.isStarred, h.hasAttachment, h.bodyText, h.folder, h.size]
  have hname := h.senderName
  have htokens := h.tokens
  rw [hname] at htokens
  cases r
  dsimp only at hname htokens
  rw [hname, htokens]
  rfl

/-- A record is what an email is read as exactly if each of its fields is. -/
theorem ofMailFields_eq_ok_iff : ofMailFields mail = .ok r ↔ ∃ body, r.IsReadFrom body mail :=
  ⟨exists_isReadFrom, fun ⟨_, h⟩ ↦ h.ofMailFields_eq⟩

/-- A record that is read from an email is read from an object. -/
theorem exists_fields_of_ofMail {v : Value} (h : ofMail v = .ok r) :
    ∃ mail body, v = .object mail ∧ r.IsReadFrom body mail := by
  cases v with
  | object mail =>
    obtain ⟨body, hbody⟩ := exists_isReadFrom h
    exact ⟨mail, body, rfl, hbody⟩
  | _ => exact nomatch h

end MailSearch.Record
