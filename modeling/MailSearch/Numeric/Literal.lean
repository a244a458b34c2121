import MailSearch.Numeric.Decimal
import MailSearch.Unicode.Blank
import MailSearch.Unicode.DecimalDigit

/-!
# Reading numbers

Numbers as people write them: white space around the number is dropped, a sign may
stand in front, single low lines may stand between digits, and the digits may be those
of any script. `readInteger?` reads integers, `readBinary64?` decimal fractions,
exponents, `nan` and `infinity`, `readMarked?` integers in other bases, and `isNumeral`
knows complex numbers as well. A decimal integer of more than `digitLimit` digits is
neither read nor written.
-/

namespace MailSearch

/-- The greatest number of digits of an integer that is read or written as text. -/
def digitLimit : Nat := 4300

/-- Whether an integer has more digits than can be written. -/
def hasTooManyDigits (n : Int) : Bool := decide (powerOfTen digitLimit ≤ n.natAbs)

namespace Literal

/-- White space around a number: blanks other than the information separators. -/
def isMargin (c : Char) : Bool := Unicode.isBlank c && !(0x1C ≤ c.toNat && c.toNat ≤ 0x1F)

/-- Drop the margin at the end. -/
def dropEndMargin (cs : List Char) : List Char := (cs.reverse.dropWhile isMargin).reverse

/-- Drop the margins at both ends. -/
def dropMargins (cs : List Char) : List Char := dropEndMargin (cs.dropWhile isMargin)

/-- A number's characters without margins, in ASCII digits. -/
def body (text : String) : List Char := (dropMargins text.toList).map Unicode.asciiDigit

/-- Whether a character is an ASCII digit. -/
def isDigit (c : Char) : Bool := decide ('0' ≤ c) && decide (c ≤ '9')

/-- Drop the low lines that stand between two digits; nothing if one stands elsewhere. -/
def dropLowLines? (afterDigit : Bool) : List Char → Option (List Char)
  | [] => some []
  | '_' :: c :: cs =>
      if afterDigit && isDigit c then (dropLowLines? true cs).map (c :: ·) else none
  | c :: cs =>
      if c = '_' then none else (dropLowLines? (isDigit c) cs).map (c :: ·)

/-- The value of a list of ASCII digits. -/
def value (digits : List Char) : Nat :=
  digits.foldl (fun n c ↦ 10 * n + (c.toNat - 0x30)) 0

/-- A sign, if there is one, and what follows it. -/
def sign : List Char → Bool × List Char
  | '-' :: cs => (true, cs)
  | '+' :: cs => (false, cs)
  | cs => (false, cs)

/-- The number `digits · 10 ^ exponent`; magnitudes far out of range are settled without
computing the power. -/
def scaled (negative : Bool) (digits : List Char) (exponent : Int) : Binary64 :=
  let significant := digits.dropWhile (· = '0')
  let leading := exponent + significant.length
  if significant = [] ∨ leading < -400 then .finite negative 0
  else if 400 < leading then .infinity negative
  else
    .ofSteps negative (value significant * powerOfTen exponent.toNat * Binary64.stepsPerUnit)
      (powerOfTen (-exponent).toNat)

/-- An exponent part: nothing, or `e` and an integer. -/
def exponent? : List Char → Option Int
  | [] => some 0
  | e :: cs =>
      let (negative, digits) := sign cs
      if (e = 'e' ∨ e = 'E') ∧ digits ≠ [] ∧ digits.all isDigit then
        some (if negative then -(value digits : Int) else value digits)
      else none

/-- An unsigned decimal fraction with an optional exponent. -/
def fraction? (negative : Bool) (cs : List Char) : Option Binary64 :=
  let whole := cs.takeWhile isDigit
  let afterWhole := cs.dropWhile isDigit
  let (places, rest) := match afterWhole with
    | '.' :: more => (more.takeWhile isDigit, more.dropWhile isDigit)
    | more => ([], more)
  if whole = [] ∧ places = [] then none
  else (exponent? rest).map fun e ↦ scaled negative (whole ++ places) (e - places.length)

/-- A number with its sign, `nan` or `infinity`. -/
def number? (cs : List Char) : Option Binary64 :=
  let (negative, unsigned) := sign cs
  let word := String.ofList (unsigned.map Char.toLower)
  if word = "nan" then some .nan
  else if word = "inf" ∨ word = "infinity" then some (.infinity negative)
  else fraction? negative unsigned

/-- Whether a character is a sign. -/
def isSign (c : Char) : Bool := c = '-' || c = '+'

/-- Whether characters are the multiple of an imaginary unit: a number, a sign for one of
its two units, or nothing. -/
def isMultiple : List Char → Bool
  | [] => true
  | cs => (cs.all isSign && cs.length = 1) || (number? cs).isSome

/-- Whether characters are a number and behind it the multiple of an imaginary unit, which
a sign begins; the first list is what of the number has been passed, in reverse. -/
def isSum (passed : List Char) : List Char → Bool
  | [] => false
  | c :: cs =>
      (isSign c && (number? passed.reverse).isSome && isMultiple (c :: cs)) ||
        isSum (c :: passed) cs

/-- Whether characters are a complex number, whose imaginary unit is `j`. -/
def isComplex (cs : List Char) : Bool :=
  match cs.getLast? with
  | some 'j' | some 'J' => isMultiple cs.dropLast || isSum [] cs.dropLast
  | _ => (number? cs).isSome

/-- The base that a letter behind a zero marks. -/
def base? : Char → Option Nat
  | 'x' => some 16
  | 'o' => some 8
  | 'b' => some 2
  | _ => none

/-- The value of a digit of a base. -/
def digitIn? (base : Nat) (c : Char) : Option Nat :=
  let d := if isDigit c then c.toNat - 0x30
    else if 'a' ≤ c ∧ c ≤ 'f' then c.toNat - 0x57 else base
  if d < base then some d else none

/-- The value of the digits of a base behind those of the value `n`; a low line may stand
before each digit, and there must be one. -/
def valueIn? (base n : Nat) : Bool → List Char → Option Nat
  | hadDigit, [] => if hadDigit then some n else none
  | _, '_' :: c :: cs => (digitIn? base c).bind fun d ↦ valueIn? base (base * n + d) true cs
  | _, c :: cs => (digitIn? base c).bind fun d ↦ valueIn? base (base * n + d) true cs

end Literal

/-- Read an integer in the base that a letter behind a zero marks, in either case. A sign
may stand in front, white space only at the end. -/
def readMarked? (text : String) : Option Int :=
  match Literal.sign text.toList with
  | (negative, '0' :: mark :: cs) => do
      let base ← Literal.base? mark.toLower
      let digits := (Literal.dropEndMargin cs).map fun c ↦ (Unicode.asciiDigit c).toLower
      let n ← Literal.valueIn? base 0 false digits
      return if negative then -(n : Int) else n
  | _ => none

/-- Whether a text is a number, real or complex. -/
def isNumeral (text : String) : Bool :=
  ((Literal.dropLowLines? false (Literal.body text)).map Literal.isComplex).getD false

/-- Read an integer. -/
def readInteger? (text : String) : Option Int :=
  let (negative, unsigned) := Literal.sign (Literal.body text)
  match Literal.dropLowLines? false unsigned with
  | none => none
  | some digits =>
      if digits ≠ [] ∧ digits.all Literal.isDigit ∧ digits.length ≤ digitLimit then
        some (if negative then -(Literal.value digits : Int) else Literal.value digits)
      else none

/-- Read a decimal number, `nan` or `infinity`. -/
def readBinary64? (text : String) : Option Binary64 :=
  (Literal.dropLowLines? false (Literal.body text)).bind Literal.number?

end MailSearch
