import MailSearch.EditDistance
import MailSearch.Query.Basic
import MailSearch.Record.Basic

/-!
# Ranking

Which records pass the filters of a query, and how well a record answers its tokens. A
token counts ten for the subject, five for the sender, two for the record's own tokens,
and one for each of those that is similar to it. The sum is multiplied for recent emails
and for starred ones.
-/

namespace MailSearch

/-- Whether one list stands somewhere inside another. -/
def occursIn {α : Type} [BEq α] (xs : List α) : List α → Bool
  | [] => xs.isEmpty
  | y :: ys => xs.isPrefixOf (y :: ys) || occursIn xs ys

/-- Whether a text stands somewhere inside another. -/
def isWithin (part whole : String) : Bool := occursIn part.toList whole.toList

/-- Whether a text stands inside another when both are in lower case. -/
def isWithinLower (part whole : String) : Bool :=
  isWithin (Unicode.lowercase part) (Unicode.lowercase whole)

namespace Record

/-- Whether a text filter is not set, is empty, or holds. -/
def passesText (filter : Option String) (holds : String → Bool) : Bool :=
  match filter with
  | none => true
  | some "" => true
  | some value => holds value

/-- Whether a filter is not set or names the value of a flag. -/
def passesFlag (filter : Option Bool) (flag : Bool) : Bool :=
  match filter with
  | none => true
  | some wanted => flag == wanted

/-- Whether the filter of a folder holds; a record without a folder passes. -/
def passesFolder (folder : Option String) (wanted : String) : Bool :=
  match folder with
  | none => true
  | some name => Unicode.lowercase name = Unicode.lowercase wanted

/-- Whether a record passes every filter of a query. -/
def passes (r : Record) (q : Query) : Bool :=
  passesText q.sender (fun s ↦ isWithinLower s r.sender || isWithinLower s r.senderName) &&
  passesText q.recipient (fun s ↦ r.recipients.any (isWithinLower s)) &&
  passesText q.subject (isWithinLower · r.subject) &&
  passesFlag q.hasAttachment r.hasAttachment &&
  passesFlag q.isRead r.isRead &&
  passesFlag q.isStarred r.isStarred &&
  (q.labels.isEmpty || q.labels.any (r.labels.contains ·)) &&
  (q.after.all fun day ↦ decide (day ≤ r.date)) &&
  (q.before.all fun day ↦ decide (r.date ≤ day)) &&
  passesText q.folder (passesFolder r.folder)

end Record

/-- The places of a record in which a token can be seen. -/
inductive Place where
  | subject
  | sender
  deriving DecidableEq, Repr

/-- The name of a place. -/
def Place.name : Place → String
  | subject => "subject"
  | sender => "from"

/-- The tokens of a query that were found in one place. -/
structure Highlight where
  place : Place
  found : List String
  deriving DecidableEq, Repr

/-- Note that a token was found in a place; each place and token is noted once. -/
def highlight (place : Place) (token : String) : List Highlight → List Highlight
  | [] => [⟨place, [token]⟩]
  | h :: hs =>
      if h.place = place then
        (if token ∈ h.found then h else ⟨place, h.found ++ [token]⟩) :: hs
      else h :: highlight place token hs

/-- A sum of points and the places that gave some. -/
structure Score where
  points : Nat := 0
  highlights : List Highlight := []
  deriving DecidableEq, Repr

namespace Score

/-- Points for a token in the subject. -/
def subjectPoints : Nat := 10

/-- Points for a token in the sender. -/
def senderPoints : Nat := 5

/-- Points for a token among the record's own. -/
def tokenPoints : Nat := 2

/-- Points for each token of the record that is similar. -/
def similarPoints : Nat := 1

/-- Whether a token stands in the subject of a record. -/
def inSubject (r : Record) (token : String) : Bool :=
  isWithin token (Unicode.lowercase r.subject)

/-- Whether a token stands in the sender of a record or in the sender's name. -/
def inSender (r : Record) (token : String) : Bool :=
  isWithin token (Unicode.lowercase r.sender) || isWithin token (Unicode.lowercase r.senderName)

/-- The number of a record's tokens that are similar to a token. -/
def similarCount (r : Record) (token : String) (threshold : Binary64) : Nat :=
  r.tokens.countP fun own ↦ isSimilar own token threshold

/-- The points that one token gives. Near misses count only if a threshold is given. -/
def tokenScore (r : Record) (fuzzy : Option Binary64) (token : String) : Nat :=
  (if inSubject r token then subjectPoints else 0) +
    (if inSender r token then senderPoints else 0) +
    (if r.tokens.contains token then tokenPoints else 0) +
    (match fuzzy with
      | some threshold => similarPoints * similarCount r token threshold
      | none => 0)

/-- Note the places in which a token stands. -/
def addHighlights (r : Record) (hs : List Highlight) (token : String) : List Highlight :=
  let hs := if inSubject r token then highlight .subject token hs else hs
  if inSender r token then highlight .sender token hs else hs

/-- The points of a record for the tokens of a query, and where they were found. -/
def ofRecord (r : Record) (fuzzy : Option Binary64) (tokens : List String) : Score :=
  { points := total (tokens.map (tokenScore r fuzzy))
    highlights := tokens.foldl (addHighlights r) [] }

end Score

namespace Boost

/-- The multipliers of recent emails, each for ages below a number of days. The first
that holds counts. -/
def recency : List (Int × Binary64) :=
  [(7, Binary64.ofRatio 3 2), (30, Binary64.ofRatio 6 5)]

/-- The multiplier of starred emails. -/
def starred : Binary64 := Binary64.ofRatio 13 10

/-- The age of an email of a date in days; one that is too large for a number is refused. -/
def ageInDays (date now : Int) : Except Fault Binary64 :=
  (Binary64.quotient? (now - date) Date.millisPerDay.toNat).elim (.error .ratioTooLarge) .ok

/-- The multipliers of an email of an age, in the order in which they apply. -/
def factorsAt (isStarred : Bool) (age : Binary64) : List Binary64 :=
  let recent := (recency.find? fun boost ↦ age.lt (Binary64.ofInt boost.1)).map Prod.snd
  recent.toList ++ if isStarred then [starred] else []

/-- The multipliers of an email of a date. -/
def factors (date : Int) (isStarred : Bool) (now : Int) : Except Fault (List Binary64) :=
  (ageInDays date now).map (factorsAt isStarred)

/-- Multiply a score by an email's multipliers. -/
def apply (score : Binary64) (date : Int) (isStarred : Bool) (now : Int) :
    Except Fault Binary64 :=
  (factors date isStarred now).map (·.foldl Binary64.mul score)

end Boost
end MailSearch
