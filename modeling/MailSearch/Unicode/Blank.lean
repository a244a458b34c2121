import MailSearch.Unicode.Ranges

/-!
# White space

The blank characters that separate words: the twenty-five of the Unicode property
`White_Space` and the four information separators U+001C to U+001F. `strip` drops
blanks at both ends of a text, `runs` cuts a text into its maximal runs of a class.
-/

namespace MailSearch.Unicode

/-- The blank characters as ranges of code points. -/
def blankRanges : List (Nat × Nat) := [
  (0x9, 0xD), (0x1C, 0x20), (0x85, 0x85), (0xA0, 0xA0), (0x1680, 0x1680), (0x2000, 0x200A),
  (0x2028, 0x2029), (0x202F, 0x202F), (0x205F, 0x205F), (0x3000, 0x3000)]

/-- Whether a character is white space. -/
def isBlank (c : Char) : Bool := covers blankRanges c.toNat

/-- The ranges are in order. -/
theorem isAscending_blankRanges : isAscending blankRanges = true := rfl

/-- The white space of ASCII is blank. -/
theorem isBlank_of_isWhitespace {c : Char} (h : c.isWhitespace = true) : isBlank c = true := by
  simp only [Char.isWhitespace, Bool.or_eq_true, decide_eq_true_eq] at h
  rcases h with ((rfl | rfl) | rfl) | rfl <;> rfl

/-- Drop the blanks at both ends. -/
def stripChars (cs : List Char) : List Char :=
  ((cs.dropWhile isBlank).reverse.dropWhile isBlank).reverse

/-- What neither begins nor ends with a blank stays as it is. -/
theorem stripChars_eq_self {cs : List Char} (hfirst : ∀ c ∈ cs.head?, isBlank c = false)
    (hlast : ∀ c ∈ cs.getLast?, isBlank c = false) : stripChars cs = cs := by
  have hdrop {ds : List Char} (h : ∀ c ∈ ds.head?, isBlank c = false) :
      ds.dropWhile isBlank = ds := by
    cases ds with
    | nil => rfl
    | cons c ds => exact List.dropWhile_cons_of_neg (by simp [h c rfl])
  rw [← List.head?_reverse] at hlast
  rw [stripChars, hdrop hfirst, hdrop hlast, List.reverse_reverse]

/-- A text without the blanks at its ends. -/
def strip (text : String) : String := String.ofList (stripChars text.toList)

/-- Whether a text holds nothing but blanks. -/
def isBlankText (text : String) : Bool := text.toList.all isBlank

/-- The run collected so far, if there is one; runs are collected in reverse. -/
def closeRun {α : Type} (run : List α) : List (List α) :=
  if run.isEmpty then [] else [run.reverse]

/-- Continue a run of members of a class that was begun before the list. -/
def runsFrom {α : Type} (inClass : α → Bool) (run : List α) : List α → List (List α)
  | [] => closeRun run
  | x :: xs =>
      if inClass x then runsFrom inClass (x :: run) xs
      else closeRun run ++ runsFrom inClass [] xs

/-- The maximal runs of members of a class, in order. -/
def runs {α : Type} (inClass : α → Bool) (xs : List α) : List (List α) :=
  runsFrom inClass [] xs

/-- A list without members has no runs. -/
@[simp] theorem runs_nil {α : Type} (inClass : α → Bool) : runs inClass [] = [] := rfl

end MailSearch.Unicode
