import MailSearch.Index
import MailSearch.Query.Scan
import MailSearch.Ranking

/-!
# Searching

A search takes the records that the tables lead to, keeps those that pass the filters,
scores them and puts the best first. Records of equal rank stay in the order of their
insertion. A query without free text takes all records.
-/

namespace MailSearch

/-- What comes first among results. -/
inductive Order where
  | relevance
  | date
  deriving DecidableEq, Repr

/-- The order that a name stands for; a name that is not known means relevance. -/
def Order.ofName (name : String) : Order := if name = "date" then .date else .relevance

/-- A record that answers a query. -/
structure Hit where
  record : Record
  score : Binary64
  highlights : List Highlight
  deriving DecidableEq, Repr

namespace Hit

/-- Highlights as a list of values. -/
def highlightValues (hs : List Highlight) : List Value :=
  hs.map fun h ↦ .object [("field", .text h.place.name), ("matches", .texts h.found)]

/-- The score as it is shown, to three places. -/
def shownScore (h : Hit) : Binary64 := h.score.roundPlaces 3

/-- A hit as an object. -/
def toValue (h : Hit) : Value :=
  .object [("email", h.record.toValue), ("score", .float h.shownScore),
    ("highlights", .list (highlightValues h.highlights))]

end Hit

/-- Put an element before the first that does not come at or before it. -/
def insertSorted {α : Type} (precedes : α → α → Bool) (x : α) : List α → List α
  | [] => [x]
  | y :: ys => if precedes x y then x :: y :: ys else y :: insertSorted precedes x ys

/-- Sort so that equal elements keep their order. -/
def sortStable {α : Type} (precedes : α → α → Bool) : List α → List α
  | [] => []
  | x :: xs => insertSorted precedes x (sortStable precedes xs)

namespace Search

/-- The settings of a search. -/
structure Options where
  limit : Int
  fuzzy : Bool
  order : Order
  threshold : Binary64
  shingleSize : Int
  /-- the time from which ages are counted, in milliseconds -/
  now : Int

/-- The ids that a token leads to: through itself and, in a fuzzy search, its shingles. -/
def candidatesOf (tokens shingles : Postings) (fuzzy : Bool) (size : Int) (token : String) :
    List String :=
  tokens.ids token ++
    if fuzzy then (MailSearch.shingles size token).flatMap shingles.ids else []

/-- The ids that the tokens of a query lead to; an id may occur more than once. -/
def candidates (tokens shingles : Postings) (fuzzy : Bool) (size : Int) (sought : List String) :
    List String :=
  sought.flatMap (candidatesOf tokens shingles fuzzy size)

/-- The score of a record for the tokens of a query, one without free text. -/
def scoreOf (q : Query) (o : Options) (r : Record) : Binary64 × List Highlight :=
  if q.text.isEmpty then (Binary64.one, [])
  else
    let score := Score.ofRecord r (if o.fuzzy then some o.threshold else none) (tokenize q.text)
    (Binary64.ofInt score.points, score.highlights)

/-- The hit of a record that passes. -/
def hitOf (q : Query) (o : Options) (r : Record) : Except Fault Hit :=
  let (score, highlights) := scoreOf q o r
  (Boost.apply score r.date r.isStarred o.now).map fun boosted ↦ ⟨r, boosted, highlights⟩

/-- Whether one hit may stand before another. -/
def precedes (order : Order) (a b : Hit) : Bool :=
  match order with
  | .date => decide (b.record.date ≤ a.record.date)
  | .relevance => b.score.le a.score

/-- The hits among records that are sought, in order. -/
def rank (q : Query) (o : Options) (sought : List Record) : Except Fault (List Hit) := do
  let hits ← (sought.filter (·.passes q)).mapM (hitOf q o)
  return sortStable (precedes o.order) hits

/-- The records that a query looks at: those that the tables lead to, in the order of
their insertion. -/
def soughtRecords (ix : Index) (q : Query) (o : Options) : List Record :=
  if q.text.isEmpty then ix.records
  else
    let ids := candidates ix.tokens ix.shingles o.fuzzy o.shingleSize (tokenize q.text)
    ix.records.filter fun r ↦ ids.contains r.id

/-- All hits of a query, best first. -/
def hits (ix : Index) (q : Query) (o : Options) : Except Fault (List Hit) :=
  rank q o (soughtRecords ix q o)

/-- Whether a search looks at anything: not with a limit of zero or less, and not in an
empty index. -/
def isActive (ix : Index) (o : Options) : Bool := 0 < o.limit && !ix.records.isEmpty

/-- The best hits of a query, as many as the limit allows. -/
def run (ix : Index) (q : Query) (o : Options) : Except Fault (List Hit) :=
  if isActive ix o then (hits ix q o).map (·.take o.limit.toNat) else .ok []

/-- Run a search and report how many emails matched, after what reading the query had to
report. -/
def reported (ix : Index) (q : Query) (o : Options) (read : List Event) :
    Logged (List Hit) :=
  if isActive ix o then
    match hits ix q o with
    | .error fault => ⟨read, .error fault⟩
    | .ok found =>
        let message := s!"Query {quoteText q.text} matched {found.length} of {ix.size} emails"
        ⟨read ++ [⟨.debug, .search, message⟩], .ok (found.take o.limit.toNat)⟩
  else pure []

/-- A search whose events are set aside is a search. -/
theorem reported_result (ix : Index) (q : Query) (o : Options) (read : List Event) :
    (reported ix q o read).result = run ix q o := by
  unfold reported run
  split
  · split
    · next h => simp [h, Except.map]
    · next h => simp [h, Except.map]
  · rfl

end Search
end MailSearch
