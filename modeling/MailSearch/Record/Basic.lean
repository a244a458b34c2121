import MailSearch.Token
import MailSearch.Value

/-!
# Records

The record that the index holds for one email. Its tokens come from the text of the
email's fields and body; the body itself is not kept.
-/

namespace MailSearch

/-- What is held for one email. The date is in milliseconds. -/
structure Record where
  id : String
  threadId : String := ""
  subject : String := ""
  snippet : String := ""
  sender : String := ""
  senderName : String := ""
  recipients : List String := []
  cc : List String := []
  date : Int := 0
  labels : List String := []
  isRead : Bool := false
  isStarred : Bool := false
  hasAttachment : Bool := false
  tokens : List String := []
  folder : Option String := none
  size : Option Int := none
  deriving DecidableEq, Repr, Inhabited

namespace Record

/-- The fields of a record with their names, in order. -/
def toFields (r : Record) : List (String × Value) :=
  [("id", .text r.id), ("thread_id", .text r.threadId), ("subject", .text r.subject),
    ("snippet", .text r.snippet), ("sender", .text r.sender),
    ("sender_name", .text r.senderName), ("to", .texts r.recipients), ("cc", .texts r.cc),
    ("date", .int r.date), ("labels", .texts r.labels), ("is_read", .bool r.isRead),
    ("is_starred", .bool r.isStarred), ("has_attachment", .bool r.hasAttachment),
    ("tokens", .texts r.tokens), ("folder", .optionalText r.folder),
    ("size", .optionalInt r.size)]

/-- A record as a stored object. -/
def toValue (r : Record) : Value := .object r.toFields

end Record

/-- The end of an address after `>`: nothing, or one line feed. -/
def isAddressEnd (cs : List Char) : Bool := cs = ['>'] || cs = ['>', '\n']

/-- The name in front of an address in angle brackets, if a sender is written so. -/
def namedSender? (cs : List Char) : Option (List Char) :=
  let name := cs.takeWhile (· ≠ '<')
  match cs.dropWhile (· ≠ '<') with
  | [] => none
  | _ :: address =>
      let inside := address.takeWhile (· ≠ '>')
      if name ≠ [] ∧ inside ≠ [] ∧ isAddressEnd (address.dropWhile (· ≠ '>')) then some name
      else none

/-- The name to show for a sender: the name in front of an address in angle brackets, or
what stands before the first `@`. -/
def displayName (sender : String) : String :=
  match namedSender? sender.toList with
  | some name => String.ofList (Unicode.stripChars name)
  | none => String.ofList (sender.toList.takeWhile (· ≠ '@'))

/-- The distinct tokens of the texts of an email, in the order of their first
occurrence. -/
def emailTokens (subject snippet name sender body : String) : List String :=
  distinctTokens [subject, snippet, name, sender, body]

end MailSearch
