import MailSearch.Numeric.Binary64
import MailSearch.Unicode.Lowercase

/-!
# Edit distance

`editDistance` counts the insertions, deletions and substitutions of single characters
that turn one text into another, by the rows of a table: row `i` holds the distances
from the first `i` characters of one text to every prefix of the other. Two texts are
similar when their distance is small for their length.
-/

namespace MailSearch

/-- Continue a row of the table after an entry `left`, given the characters still to come
and the entries of the row above from the one over `left` on. -/
def extendRow {α : Type} [DecidableEq α] (x : α) (left : Nat) : List α → List Nat → List Nat
  | y :: ys, diagonal :: up :: above =>
      let entry := min (min (up + 1) (left + 1)) (diagonal + if x = y then 0 else 1)
      entry :: extendRow x entry ys (up :: above)
  | _, _ => []

/-- The row below, which begins with one entry more than the row above. -/
def nextRow {α : Type} [DecidableEq α] (ys : List α) (above : List Nat) (x : α) : List Nat :=
  let first := above.headD 0 + 1
  first :: extendRow x first ys above

/-- The last row of the table. -/
def lastRow {α : Type} [DecidableEq α] (xs ys : List α) : List Nat :=
  xs.foldl (nextRow ys) (List.range (ys.length + 1))

/-- The least number of single edits that turn one list into the other. -/
def listDistance {α : Type} [DecidableEq α] (xs ys : List α) : Nat :=
  (if xs.length < ys.length then lastRow ys xs else lastRow xs ys).getLastD 0

/-- The least number of single edits that turn one text into the other. -/
def editDistance (a b : String) : Nat := listDistance a.toList b.toList

/-- The difference of two lengths. -/
def lengthGap (a b : String) : Nat := (a.length - b.length) + (b.length - a.length)

/-- Whether two texts, compared in lower case, differ by at most a share of the longer
one's length. The lengths alone settle texts whose lengths differ too much. -/
def isSimilar (a b : String) (threshold : Binary64) : Bool :=
  let longest := max a.length b.length
  if longest = 0 then true
  else if threshold.lt (Binary64.ofRatio (lengthGap a b) longest) then false
  else
    let distance := editDistance (Unicode.lowercase a) (Unicode.lowercase b)
    (Binary64.ofRatio distance longest).le threshold

end MailSearch
