import MailSearch.Search
import MailSearch.Unicode.Lowercase

/-!
# Arguments of calls

Arguments are read with some goodwill: a numeral or a number without places may stand for
an integer, and a word or a number for a flag. `required` and `optional` read an argument
by its name.
-/

namespace MailSearch.Service

/-- The words that stand for a set flag in a call. -/
def onWords : List String := ["1", "on", "t", "true", "y", "yes"]

/-- The words that stand for a flag in a call that is not set. -/
def offWords : List String := ["0", "off", "f", "false", "n", "no"]

/-- A text among arguments. -/
def textArgument? : Value → Option String
  | .text s => some s
  | _ => none

/-- Integers that floating-point numbers stand for lie below this bound. -/
def wholeBound : Nat := powerOfTwo 63

/-- The integer that a number without places stands for. -/
def wholeNumber? : Binary64 → Option Int
  | .finite negative steps =>
      if steps % Binary64.stepsPerUnit = 0 ∧ steps < wholeBound * Binary64.stepsPerUnit then
        Binary64.truncate? (.finite negative steps)
      else none
  | _ => none

/-- Drop the zeros in front of a numeral and the low lines behind a zero; a minus sign may
follow them. The character in front of a point stays, and so does the last one of all. -/
def dropZeros? : List Char → Option (List Char)
  | [] => none
  | '0' :: cs => behindZero '0' cs
  | c :: cs => if Literal.isDigit c then some (c :: cs) else none
where
  /-- What follows zeros and low lines, of which one is the last so far. -/
  behindZero (last : Char) : List Char → Option (List Char)
    | [] => some [last]
    | c :: cs =>
        if c = '0' || c = '_' then behindZero c cs
        else if c = '.' then some (last :: c :: cs)
        else if Literal.isDigit c || c = '-' then some (c :: cs)
        else none

/-- What stands in front of a point, if only zeros follow it, at least one. -/
def dropPlaces? (cs : List Char) : Option (List Char) :=
  match cs.dropWhile (· ≠ '.') with
  | [] => some cs
  | _ :: places =>
      if places ≠ [] ∧ places.all (· = '0') then some (cs.takeWhile (· ≠ '.')) else none

/-- Whether a low line stands at the end or in front of another one. -/
def hasLooseLowLine : List Char → Bool
  | [] => false
  | '_' :: cs => cs.isEmpty || cs.head? = some '_' || hasLooseLowLine cs
  | _ :: cs => hasLooseLowLine cs

/-- Drop the low lines inside a numeral. -/
def dropInnerLowLines? (cs : List Char) : Option (List Char) :=
  if cs.head? = some '_' || hasLooseLowLine cs then none else some (cs.filter (· ≠ '_'))

/-- The number that plain digits spell; no zero may stand in front of other digits. -/
def plainNumber? (digits : List Char) : Option Nat :=
  if (digits = ['0'] ∨ digits.head? ≠ some '0') ∧ digits ≠ [] ∧ digits.all Literal.isDigit ∧
      digits.length ≤ digitLimit then
    some (Literal.value digits)
  else none

/-- The integer that a numeral stands for. Margins, a plus sign, zeros in front, low lines
between digits and zeros behind a point do not count. One minus sign may stand in front of
all or behind the zeros. -/
def numeral? (text : String) : Option Int := do
  let (negative, unsigned) := Literal.sign (Literal.dropMargins text.toList)
  match ← dropInnerLowLines? (← dropPlaces? (← dropZeros? unsigned)) with
  | '-' :: digits =>
      if negative then none else return -(← plainNumber? digits : Nat)
  | digits =>
      let n ← plainNumber? digits
      return if negative then -(n : Int) else n

/-- An integer among arguments. -/
def intArgument? : Value → Option Int
  | .int n => some n
  | .bool b => some (if b then 1 else 0)
  | .float x => wholeNumber? x
  | .text s => numeral? s
  | _ => none

/-- The flag that a word stands for in a call. -/
def flagOfWord? (word : String) : Option Bool :=
  if onWords.contains word then some true
  else if offWords.contains word then some false
  else none

/-- A flag among arguments. -/
def flagArgument? : Value → Option Bool
  | .bool b => some b
  | .int 0 => some false
  | .int 1 => some true
  | .float x =>
      if x.eq Binary64.zero then some false
      else if x.eq Binary64.one then some true
      else none
  | .text s => flagOfWord? (Unicode.lowercase s)
  | _ => none

/-- The name of an order among arguments. -/
def orderArgument? : Value → Option Order
  | .text "relevance" => some .relevance
  | .text "date" => some .date
  | _ => none

/-- A list of objects among arguments. -/
def objectsArgument? : Value → Option (List Value)
  | .list items => items.mapM fun item ↦
      match item with
      | .object _ => some item
      | _ => none
  | _ => none

/-- An argument that must be there. -/
def required {α : Type} (args : List (String × Value)) (key : String)
    (read? : Value → Option α) : Option α :=
  (Value.lookup? key args).bind read?

/-- An argument that has a default. -/
def optional {α : Type} (args : List (String × Value)) (key : String) (default : α)
    (read? : Value → Option α) : Option α :=
  match Value.lookup? key args with
  | some value => read? value
  | none => some default

end MailSearch.Service
