import MailSearch.Value

/-!
# Queries

A query is free text together with filters, each set or not. Queries are values: what
their text says is read in `MailSearch.Query.Scan`.
-/

namespace MailSearch

/-- Free text and filters. Bounds of the date are milliseconds and belong to the range. -/
structure Query where
  text : String := ""
  sender : Option String := none
  recipient : Option String := none
  subject : Option String := none
  folder : Option String := none
  hasAttachment : Option Bool := none
  isRead : Option Bool := none
  isStarred : Option Bool := none
  labels : List String := []
  after : Option Int := none
  before : Option Int := none
  deriving DecidableEq, Repr, Inhabited

namespace Query

/-- A flag as a value, null when it is not set. -/
def flagValue : Option Bool → Value
  | some b => .bool b
  | none => .null

/-- The parts of a query with their names, in order; a part that is not set is null or
an empty list. -/
def toFields (q : Query) : List (String × Value) :=
  [("text", .text q.text), ("sender", .optionalText q.sender), ("to", .optionalText q.recipient),
    ("subject", .optionalText q.subject), ("in_folder", .optionalText q.folder),
    ("has_attachment", flagValue q.hasAttachment), ("is_read", flagValue q.isRead),
    ("is_starred", flagValue q.isStarred), ("labels", .texts q.labels),
    ("date_after", .optionalInt q.after), ("date_before", .optionalInt q.before)]

/-- Whether a part of a query is set. -/
def isSet : Value → Bool
  | .null => false
  | .list [] => false
  | _ => true

/-- The filters of a query that are set. -/
def filters (q : Query) : List (String × Value) :=
  q.toFields.tail.filter fun field ↦ isSet field.2

/-- Whether any filter is set. -/
def hasFilters (q : Query) : Bool := !q.filters.isEmpty

/-- The text and the filters that are set. -/
def summary (q : Query) : List (String × Value) := ("text", .text q.text) :: q.filters

end Query
end MailSearch
