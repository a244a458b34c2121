/-!
# Ranges of code points

A character class is a list of closed ranges of code points, ascending and apart.
`covers` looks a code point up and stops at the first range that starts above it.
All classes of this library follow Unicode 14.
-/

namespace MailSearch.Unicode

/-- Whether a code point lies in one of the ascending closed ranges. -/
def covers : List (Nat × Nat) → Nat → Bool
  | [], _ => false
  | (first, last) :: ranges, n =>
      if n < first then false else if n ≤ last then true else covers ranges n

/-- Ranges that ascend and leave a gap between neighbours. -/
def isAscending : List (Nat × Nat) → Bool
  | [] => true
  | [range] => range.1 ≤ range.2
  | range :: next :: ranges =>
      range.1 ≤ range.2 && range.2 + 1 < next.1 && isAscending (next :: ranges)

/-- The empty class holds nothing. -/
@[simp] theorem covers_nil (n : Nat) : covers [] n = false := rfl

end MailSearch.Unicode
