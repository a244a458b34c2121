import MailSearch.Service.Argument
import MailSearch.Session

/-!
# The service

Six tools that a client calls by name with an object of arguments: to search, to complete
a word, to explain a query, to show figures, to index emails and to remove one. A call
gives a value or fails, and says whether it changed the index or the history.
-/

namespace MailSearch

/-- A hit in the form in which clients see it. -/
def Hit.summary (h : Hit) : Except Fault Value := do
  let date ← isoOfMillis h.record.date
  let places := h.highlights.map (·.place.name)
  return .object [
    ("id", .text h.record.id), ("thread_id", .text h.record.threadId),
    ("subject", .text h.record.subject), ("sender", .text h.record.sender),
    ("sender_name", .text h.record.senderName), ("snippet", .text h.record.snippet),
    ("date", .text date), ("labels", .texts h.record.labels), ("is_read", .bool h.record.isRead),
    ("is_starred", .bool h.record.isStarred), ("has_attachment", .bool h.record.hasAttachment),
    ("score", .float h.shownScore),
    ("matched_in", .text (if places.isEmpty then "content" else ", ".intercalate places)),
    ("highlights", .list (Hit.highlightValues h.highlights))]

/-- The figures of an index in the form in which clients see them. -/
def Index.statsSummary (ix : Index) : Except Fault Value := do
  let stats := ix.stats
  let last ← if stats.lastIndexedAt = 0 then pure Value.null
    else (isoOfMillis stats.lastIndexedAt).map Value.text
  return .object [
    ("total_indexed", .int stats.totalIndexed), ("last_indexed_at", last),
    ("index_size_bytes", .int stats.sizeBytes), ("vocabulary_size", .int ix.vocabularySize)]

namespace Service

/-- Why a call fails. -/
inductive Refusal where
  | unknownTool
  | badArguments
  | failed (fault : Fault)
  deriving DecidableEq, Repr

/-- A call of one of the tools. -/
inductive Call where
  | search (query : String) (limit : Int) (fuzzy : Bool) (order : Order)
  | suggest (typed : String) (limit : Int)
  | explain (query : String)
  | stats
  | index (mails : List Value)
  | remove (id : String)

/-- Whether all arguments have names that a tool knows. -/
def onlyKnown (args : List (String × Value)) (names : List String) : Bool :=
  args.all fun arg ↦ names.contains arg.1

namespace Call

/-- The names of the arguments of each tool. -/
def argumentNames? : String → Option (List String)
  | "search" => some ["query", "limit", "fuzzy", "sort_by"]
  | "suggest" => some ["text", "limit"]
  | "parse_query" => some ["query"]
  | "index_stats" => some []
  | "index_emails" => some ["emails"]
  | "remove_email" => some ["id"]
  | _ => none

/-- Read the arguments of a tool. -/
def ofArguments? (tool : String) (args : List (String × Value)) : Option Call :=
  match tool with
  | "search" => do
      let query ← required args "query" textArgument?
      let limit ← optional args "limit" 20 intArgument?
      let fuzzy ← optional args "fuzzy" true flagArgument?
      let order ← optional args "sort_by" .relevance orderArgument?
      return .search query limit fuzzy order
  | "suggest" => do
      let typed ← required args "text" textArgument?
      let limit ← optional args "limit" 10 intArgument?
      return .suggest typed limit
  | "parse_query" => (required args "query" textArgument?).map .explain
  | "index_stats" => some .stats
  | "index_emails" => (required args "emails" objectsArgument?).map .index
  | "remove_email" => (required args "id" textArgument?).map .remove
  | _ => none

/-- Read a call of a tool. -/
def read (tool : String) (args : List (String × Value)) : Except Refusal Call :=
  match argumentNames? tool with
  | none => .error .unknownTool
  | some names =>
      match if onlyKnown args names then ofArguments? tool args else none with
      | some call => .ok call
      | none => .error .badArguments

end Call

/-- What comes of a call: the session afterwards, whether a change was announced, the
events, and the value or why the call failed. -/
structure Reply where
  session : Session
  changed : Bool := false
  events : List Event := []
  result : Except Refusal Value

/-- The reply of a call that only looks. -/
def look (session : Session) (outcome : Logged Value) : Reply :=
  { session, events := outcome.events, result := outcome.result.mapError .failed }

/-- Search, record the search, and show the hits. A search whose hits cannot be shown has
been recorded but is not announced. -/
def search (session : Session) (s : Settings) (now : Int) (query : String) (req : Request) :
    Session × Logged (List Value) :=
  let (after, outcome) := session.execute s now query req
  (after, do
    let hits ← outcome
    Logged.lift (hits.mapM Hit.summary))

/-- Carry out a call at a time. -/
def perform (session : Session) (s : Settings) (now : Int) : Call → Reply
  | .search query limit fuzzy order =>
      let req : Request := { limit := some limit, fuzzy := some fuzzy, order := order }
      let (after, outcome) := search session s now query req
      { session := after
        changed := outcome.result.isOk && !Unicode.isBlankText query
        events := outcome.events
        result := (outcome.result.map Value.list).mapError .failed }
  | .suggest typed limit =>
      look session do return Value.texts (← session.complete s typed (some limit))
  | .explain query =>
      look session ⟨Query.events query, .ok (.object (Query.ofText query).summary)⟩
  | .stats => look session (Logged.lift session.index.statsSummary)
  | .index mails =>
      let batch := session.index.insertEach now 0 mails
      let after := { session with index := batch.index }
      match batch.stopped with
      | some fault => { session := after, events := batch.events, result := .error (.failed fault) }
      | none =>
          { session := after
            changed := 0 < batch.indexed
            events := batch.events
            result := .ok batch.toValue }
  | .remove id =>
      { session := { session with index := session.index.erase id }
        changed := session.index.contains id
        events := session.index.eraseEvents id
        result := .ok (.bool (session.index.contains id)) }

/-- Answer a call of a tool by its name and arguments. -/
def call (session : Session) (s : Settings) (now : Int) (tool : String)
    (args : List (String × Value)) : Reply :=
  match Call.read tool args with
  | .ok c => perform session s now c
  | .error refusal => { session, result := .error refusal }

end Service
end MailSearch
