import MailSearch.History
import MailSearch.Search
import MailSearch.Settings

/-!
# Search sessions

A session pairs an index with a history and behaves like a search box: a blank query does
nothing, a search that gave results or none is recorded, and a search that failed is not.
-/

namespace MailSearch

/-- What a search asks for beside its query; what is left open comes from the settings. -/
structure Request where
  limit : Option Int := none
  fuzzy : Option Bool := none
  order : Order := .relevance
  now : Option Int := none
  deriving Inhabited

/-- A limit that is set and not negative, or else the one of the settings. -/
def chosenLimit (limit : Option Int) (fallback : Logged Int) : Logged Int :=
  match limit with
  | some n => if n < 0 then fallback else pure n
  | none => fallback

namespace Request

/-- The settings of a search of an index at a time. -/
def options (req : Request) (s : Settings) (ix : Index) (now : Int) :
    Logged Search.Options := do
  let limit ← chosenLimit req.limit s.searchLimit
  return ⟨limit, req.fuzzy.getD s.isFuzzy, req.order, ix.threshold, ix.shingleSize,
    req.now.getD now⟩

end Request

namespace Index

/-- Search with a query. -/
def searchQuery (ix : Index) (s : Settings) (now : Int) (q : Query) (req : Request) :
    Logged (List Hit) := do
  Search.reported ix q (← req.options s ix now) []

/-- Search with a query's text. -/
def searchText (ix : Index) (s : Settings) (now : Int) (text : String) (req : Request) :
    Logged (List Hit) := do
  Search.reported ix (Query.ofText text) (← req.options s ix now) (Query.events text)

/-- The first tokens that begin with a prefix. -/
def suggest (ix : Index) (s : Settings) (start : String) (limit : Option Int) :
    Logged (List String) := do
  let n ← chosenLimit limit s.suggestionLimit
  return ix.suggestions start n.toNat

end Index

/-- An index and the history of what was sought in it. -/
structure Session where
  index : Index
  history : History := {}
  deriving Inhabited

namespace Session

/-- Record a search that gave a number of results. -/
def recorded (session : Session) (now : Int) (text : String) (count : Nat) : Session :=
  { session with
    history := (session.history.addRecent text).record now (.text text) (.int count) }

/-- Run a search and record it. The session afterwards stands beside the outcome. -/
def execute (session : Session) (s : Settings) (now : Int) (text : String) (req : Request) :
    Session × Logged (List Hit) :=
  if Unicode.isBlankText text then (session, pure [])
  else
    let outcome := session.index.searchText s now text req
    match outcome.result with
    | .ok found => (session.recorded now text found.length, outcome)
    | .error _ => (session, outcome)

/-- Run a query as it was saved; only a text can be run, and nothing is done for an empty
value. -/
def executeValue (session : Session) (s : Settings) (now : Int) (query : Value)
    (req : Request) : Session × Logged (List Hit) :=
  match query with
  | .text text => session.execute s now text req
  | query => (session, if query.isEmpty then pure [] else Logged.fail .textNeeded)

/-- The cause that no saved search has an id. -/
def unknownSaved (id : Value) : Fault :=
  match id.shown with
  | .ok shown => .unknownSavedSearch shown
  | .error fault => fault

/-- Run a saved search. -/
def runSaved (session : Session) (s : Settings) (now : Int) (id : Value) (req : Request) :
    Session × Logged (List Hit) :=
  match session.history.get? id with
  | none => (session, Logged.fail (unknownSaved id))
  | some found => session.executeValue s now found.query req

/-- The least number of characters that are completed. -/
def minTyped : Nat := 2

/-- What stands after the last white space of a text. -/
def lastWord (text : String) : String :=
  String.ofList (text.toList.reverse.takeWhile Query.isInk).reverse

/-- Completions of the last word that was typed, once it has two characters. -/
def complete (session : Session) (s : Settings) (typed : String) (limit : Option Int) :
    Logged (List String) :=
  let word := lastWord typed
  if word.length < minTyped then pure [] else session.index.suggest s word limit

end Session
end MailSearch
