import MailSearch.Record.Basic
import MailSearch.Record.Coercion

/-!
# Reading records

A record is made in two ways. `Record.ofMail` reads an email as a host program has it:
some fields have two names, and the sender's name and the tokens are derived.
`Record.ofStored` reads a record that was written out, tokens and all. Both refuse what
has no id and what a field cannot hold; the first field at fault names the cause.
-/

namespace MailSearch.Record

/-- The value of a key; null if the key is missing. -/
def get (fields : List (String × Value)) (key : String) : Value :=
  (Value.lookup? key fields).getD .null

/-- The first value that is not null among those of some keys. -/
def pick (fields : List (String × Value)) : List String → Value
  | [] => .null
  | key :: keys => if (get fields key).isNull then pick fields keys else get fields key

/-- Whether a value is no id for an email: null or an empty text. -/
def isMissingId : Value → Bool
  | .null => true
  | .text s => s.isEmpty
  | _ => false

open Coercion

/-- Read the record of an email's fields. -/
def ofMailFields (mail : List (String × Value)) : Except Fault Record := do
  if isMissingId (get mail "id") then throw .mailWithoutId
  let subject ← toText (pick mail ["subject"])
  let snippet ← toText (pick mail ["snippet"])
  let sender ← toText (pick mail ["sender", "from"])
  let id ← (get mail "id").shown
  let threadId ← toText (pick mail ["thread_id", "threadId"])
  let recipients ← toTexts "to" (pick mail ["to"])
  let cc ← toTexts "cc" (pick mail ["cc"])
  let date ← toMillis (pick mail ["date"])
  let labels ← toTexts "labels" (pick mail ["labels"])
  let isRead ← toFlag "is_read" (pick mail ["is_read", "isRead"])
  let isStarred ← toFlag "is_starred" (pick mail ["is_starred", "isStarred"])
  let hasAttachment ← toFlag "has_attachment" (pick mail ["has_attachment", "hasAttachment"])
  let body ← toText (pick mail ["body"])
  let folder ← toOptionalText (pick mail ["folder"])
  let size ← toOptionalInt "size" (pick mail ["size"])
  let name := displayName sender
  let tokens := emailTokens subject snippet name sender body
  return ⟨id, threadId, subject, snippet, sender, name, recipients, cc, date, labels, isRead,
    isStarred, hasAttachment, tokens, folder, size⟩

/-- Read the record of an email. -/
def ofMail (mail : Value) : Except Fault Record := do
  ofMailFields (← mail.fields?)

/-- Read a record from stored fields. -/
def ofStoredFields (stored : List (String × Value)) : Except Fault Record := do
  if (get stored "id").isEmpty then throw .recordWithoutId
  let id ← (get stored "id").shown
  let threadId ← toText (get stored "thread_id")
  let subject ← toText (get stored "subject")
  let snippet ← toText (get stored "snippet")
  let sender ← toText (get stored "sender")
  let senderName ← toText (get stored "sender_name")
  let recipients ← toTexts "to" (get stored "to")
  let cc ← toTexts "cc" (get stored "cc")
  let date ← toMillis (get stored "date")
  let labels ← toTexts "labels" (get stored "labels")
  let isRead ← toFlag "is_read" (get stored "is_read")
  let isStarred ← toFlag "is_starred" (get stored "is_starred")
  let hasAttachment ← toFlag "has_attachment" (get stored "has_attachment")
  let tokens ← toTexts "tokens" (get stored "tokens")
  let folder ← toOptionalText (get stored "folder")
  let size ← toOptionalInt "size" (get stored "size")
  return ⟨id, threadId, subject, snippet, sender, senderName, recipients, cc, date, labels,
    isRead, isStarred, hasAttachment, tokens, folder, size⟩

/-- Read a stored record. -/
def ofStored (stored : Value) : Except Fault Record := do
  ofStoredFields (← stored.fields?)

end MailSearch.Record
