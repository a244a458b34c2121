import MailSearch.Event
import MailSearch.Value

/-!
# Search history

What has been searched for: the distinct recent queries, newest first; queries saved
under a name; and a log of searches with their numbers of results. Saved searches and log
entries that were loaded keep whatever values they were loaded with.
-/

namespace MailSearch

/-- A query saved under a name. -/
structure SavedSearch where
  id : Value
  name : Value
  query : Value
  deriving Inhabited

/-- A search that was run: its query, when, and how many results it gave. -/
structure LogEntry where
  query : Value
  timestamp : Value
  resultCount : Value
  deriving Inhabited

/-- Recent, saved and logged searches. -/
structure History where
  recent : List String := []
  saved : List SavedSearch := []
  entries : List LogEntry := []
  deriving Inhabited

namespace SavedSearch

/-- A saved search as an object. -/
def toValue (s : SavedSearch) : Value :=
  .object [("id", s.id), ("name", s.name), ("query", s.query)]

/-- Whether a saved search has an id. -/
def hasId (s : SavedSearch) (id : Value) : Bool := s.id.same id

end SavedSearch

namespace LogEntry

/-- A log entry as an object. -/
def toValue (e : LogEntry) : Value :=
  .object [("query", e.query), ("timestamp", e.timestamp), ("result_count", e.resultCount)]

end LogEntry

namespace History

/-- How many recent queries are kept. -/
def maxRecent : Nat := 10

/-- How many log entries are kept. -/
def maxEntries : Nat := 100

/-- Put a query in front of the recent ones. -/
def addRecent (h : History) (query : String) : History :=
  { h with recent := (query :: h.recent.filter (· ≠ query)).take maxRecent }

/-- Forget the recent queries. -/
def clearRecent (h : History) : History := { h with recent := [] }

/-- Log a search that was run at a time. -/
def record (h : History) (now : Int) (query resultCount : Value) : History :=
  { h with entries := (⟨query, .int now, resultCount⟩ :: h.entries).take maxEntries }

/-- The id of a saved search with a stamp. -/
def stampedId (stamp : Int) : String := "search_" ++ integerText stamp

/-- Whether a stamp is taken by a saved search. -/
def isTaken (saved : List SavedSearch) (stamp : Int) : Bool :=
  saved.any (·.hasId (.text (stampedId stamp)))

/-- The first stamp from `stamp` on that is not taken, among the next `fuel` stamps or the
one after them. -/
def firstFree (saved : List SavedSearch) (stamp : Int) : Nat → Int
  | 0 => stamp
  | fuel + 1 => if isTaken saved stamp then firstFree saved (stamp + 1) fuel else stamp

/-- The stamp of a search saved at a time: the first from that time on that is not taken.
There are no more taken stamps than saved searches. -/
def nextStamp (saved : List SavedSearch) (now : Int) : Int := firstFree saved now saved.length

/-- Save a query under a name at a time. The ids of all saved searches must be keys. -/
def save (h : History) (now : Int) (name query : Value) : Except Fault (History × SavedSearch) :=
  if h.saved.all (·.id.isKey) then
    let search : SavedSearch := ⟨.text (stampedId (nextStamp h.saved now)), name, query⟩
    .ok ({ h with saved := h.saved ++ [search] }, search)
  else .error .notAKey

/-- The saved search of an id. -/
def get? (h : History) (id : Value) : Option SavedSearch := h.saved.find? (·.hasId id)

/-- Delete the saved searches of an id, and whether there were any. -/
def delete (h : History) (id : Value) : History × Bool :=
  let left := h.saved.filter fun s ↦ !s.hasId id
  ({ h with saved := left }, decide (left.length < h.saved.length))

/-- The parts of a history with their names, in order. -/
def toFields (h : History) : List (String × Value) :=
  [("recent_searches", .texts h.recent), ("saved_searches", .list (h.saved.map (·.toValue))),
    ("entries", .list (h.entries.map (·.toValue)))]

/-- A history as an object. -/
def toValue (h : History) : Value := .object h.toFields

/-- The fields of an object that has three keys, each once and no others. -/
def threeFields? (a b c : String) : Value → Option (Value × Value × Value)
  | .object fields => do
      let x ← Value.lookup? a fields
      let y ← Value.lookup? b fields
      let z ← Value.lookup? c fields
      if fields.length = 3 then some (x, y, z) else none
  | _ => none

/-- Read the saved searches among values and report the others. -/
def readSaved : List Value → Logged (List SavedSearch)
  | [] => pure []
  | item :: items => do
      match threeFields? "id" "name" "query" item with
      | some (id, name, query) =>
          let others ← readSaved items
          return ⟨id, name, query⟩ :: others
      | none =>
          Logged.warn .history "Skipping malformed saved search"
          readSaved items

/-- Read the log entries among values and report the others. -/
def readEntries : List Value → Logged (List LogEntry)
  | [] => pure []
  | item :: items => do
      match threeFields? "query" "timestamp" "result_count" item with
      | some (query, timestamp, resultCount) =>
          let others ← readEntries items
          return ⟨query, timestamp, resultCount⟩ :: others
      | none =>
          Logged.warn .history "Skipping malformed history entry"
          readEntries items

/-- The items of a field; a field that is missing has none. -/
def itemsOf (fields : List (String × Value)) (key : String) : Except Fault (List Value) :=
  match Value.lookup? key fields with
  | none => .ok []
  | some value => value.items?

/-- The text of a value that is one. -/
def textOf? : Value → Option String
  | .text s => some s
  | _ => none

/-- Read a history. What is malformed inside its lists is passed over. -/
def ofFields (fields : List (String × Value)) : Logged History := do
  let recent ← Logged.lift (itemsOf fields "recent_searches")
  let saved ← readSaved (← Logged.lift (itemsOf fields "saved_searches"))
  let entries ← readEntries (← Logged.lift (itemsOf fields "entries"))
  return ⟨(recent.filterMap textOf?).take maxRecent, saved, entries.take maxEntries⟩

/-- Read a history; only an object is one. -/
def ofValue (value : Value) : Logged History := do
  ofFields (← Logged.lift value.fields?)

end History
end MailSearch
