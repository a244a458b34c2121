import MailSearch.Unicode.Blank
import MailSearch.Unicode.Lowercase

/-!
# Shingles

The shingles of a text are the runs of a fixed number of neighbouring characters in its
lower case without white space. Two texts that differ in few places share shingles, so
they lead from a mistyped word to the subjects it may have meant.
-/

namespace MailSearch

/-- Every run of `size` neighbouring elements, from the left. -/
def windows {α : Type} (size : Nat) : List α → List (List α)
  | [] => []
  | x :: xs =>
      let window := (x :: xs).take size
      if window.length = size then window :: windows size xs else []

/-- The lower case of a list of characters without white space. -/
def compacted (cs : List Char) : List Char :=
  (Unicode.lowerChars cs).filter fun c ↦ !Unicode.isBlank c

/-- The shingles of a text; there are none of a size below one. -/
def shingles (size : Int) (text : String) : List String :=
  if size ≤ 0 then [] else (windows size.toNat (compacted text.toList)).map String.ofList

end MailSearch
