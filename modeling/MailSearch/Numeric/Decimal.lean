import MailSearch.Numeric.Binary64

/-!
# Decimal text of numbers

`fixed` writes a ratio with a set number of places, rounding the exact value and a tie
to the even neighbour. `Binary64.text` writes a floating-point number with the fewest
digits that read back to it: positionally while the exponent of the leading digit is at
least -4 and below 16, with an exponent of at least two digits elsewhere. `grouped`
sets a comma between groups of three digits.
-/

namespace MailSearch

/-- Pad a text with a character on the left up to a width. -/
def padLeft (width : Nat) (fill : Char) (text : String) : String :=
  String.ofList (List.replicate (width - text.length) fill) ++ text

/-- The decimal digits of a natural. -/
def digitsOf (n : Nat) : List Char := Nat.toDigits 10 n

/-- The decimal text of an integer. -/
def integerText (n : Int) : String :=
  String.ofList (if n < 0 then '-' :: digitsOf n.natAbs else digitsOf n.natAbs)

/-- A natural in decimal, with zeros in front up to a width. -/
def zeroPadded (width n : Nat) : String := padLeft width '0' (String.ofList (digitsOf n))

/-- A list cut into groups of three from the right, a comma between them. -/
def commaGroups : List Char → List Char
  | [] => []
  | c :: cs =>
      if cs.length % 3 = 0 ∧ cs ≠ [] then c :: ',' :: commaGroups cs else c :: commaGroups cs

/-- An integer in decimal with a comma between groups of three digits. -/
def grouped (n : Int) : String :=
  String.ofList ((if n < 0 then ['-'] else []) ++ commaGroups (digitsOf n.natAbs))

/-- A ratio with a set number of places. -/
def fixed (places : Nat) (negative : Bool) (num den : Nat) : String :=
  let digits := (zeroPadded (places + 1) (roundEven (num * powerOfTen places) den)).toList
  let whole := digits.take (digits.length - places)
  let fraction := digits.drop (digits.length - places)
  String.ofList ((if negative then ['-'] else []) ++ whole ++ '.' :: fraction)

/-- A decimal number, `digits · 10 ^ exponent`. -/
structure Decimal where
  digits : Nat
  exponent : Int
  deriving DecidableEq, Repr

namespace Decimal

/-- Compare a decimal number with the ratio of a natural to a power of two. -/
def compareScaled (d : Decimal) (num bits : Nat) : Ordering :=
  compare (d.digits * powerOfTen d.exponent.toNat * powerOfTwo bits)
    (num * powerOfTen (-d.exponent).toNat)

/-- Whether a decimal number lies among the reals that round to a positive count of
steps: between the midpoints to the neighbours, which count when the significand is
even. The gap below a power of two is half the gap above it. -/
def readsBackTo (d : Decimal) (steps : Nat) : Bool :=
  let gap := Binary64.gapAt steps
  let narrow := steps = powerOfTwo steps.log2 ∧ 1 < gap
  let low := if narrow then 4 * steps - gap else 4 * steps - 2 * gap
  let high := 4 * steps + 2 * gap
  let closed := steps / gap % 2 = 0
  let fromLow := d.compareScaled low 1076
  let toHigh := d.compareScaled high 1076
  (fromLow == .gt || (closed && fromLow == .eq)) && (toHigh == .lt || (closed && toHigh == .eq))

/-- The largest exponent of a power of ten that is at most a positive count of steps,
found from the binary logarithm and corrected upward. -/
def leadingExponent (steps : Nat) : Int :=
  let estimate : Int := Int.fdiv (((steps.log2 : Int) - 1074) * 30103) 100000 - 1
  let reaches (k : Int) : Bool := compareScaled ⟨1, k⟩ steps 1074 != .gt
  if reaches (estimate + 3) then estimate + 3
  else if reaches (estimate + 2) then estimate + 2
  else if reaches (estimate + 1) then estimate + 1
  else estimate

/-- The multiple of a power of ten just below or at a count of steps. -/
def floorOn (steps : Nat) (exponent : Int) : Nat :=
  steps * powerOfTen (-exponent).toNat / (Binary64.stepsPerUnit * powerOfTen exponent.toNat)

/-- The decimal on the grid of one power of ten that reads back, the nearer of two. -/
def onGrid? (steps : Nat) (exponent : Int) : Option Decimal :=
  let below : Decimal := ⟨floorOn steps exponent, exponent⟩
  let above : Decimal := ⟨below.digits + 1, exponent⟩
  match below.readsBackTo steps, above.readsBackTo steps with
  | false, false => none
  | true, false => some below
  | false, true => some above
  | true, true =>
      match compareScaled ⟨2 * below.digits + 1, exponent⟩ (2 * steps) 1074 with
      | .gt => some below
      | .lt => some above
      | .eq => some (if below.digits % 2 = 0 then below else above)

/-- Drop up to `fuel` trailing zeros of the digits. -/
def dropZeros : Nat → Decimal → Decimal
  | 0, d => d
  | fuel + 1, d =>
      if d.digits ≠ 0 ∧ d.digits % 10 = 0 then dropZeros fuel ⟨d.digits / 10, d.exponent + 1⟩
      else d

/-- The decimal of fewest digits that reads back to a positive count of steps. Seventeen
digits always do. -/
def shortest (steps : Nat) : Decimal :=
  let leading := leadingExponent steps
  let grids := (List.range 17).map fun (n : Nat) ↦ leading - (n : Int)
  match grids.findSome? (onGrid? steps) with
  | some d => dropZeros 17 d
  | none => ⟨floorOn steps (leading - 16), leading - 16⟩

/-- A positive decimal number written out: positionally while the leading digit's
exponent is at least -4 and below 16, with an exponent otherwise. -/
def layout (d : Decimal) : String :=
  let digits := digitsOf d.digits
  let count : Int := digits.length
  let leading := d.exponent + count - 1
  if leading < -4 ∨ 16 ≤ leading then
    let mantissa := match digits with
      | first :: second :: rest => first :: '.' :: second :: rest
      | short => short
    let sign := if leading < 0 then "-" else "+"
    String.ofList mantissa ++ "e" ++ sign ++ zeroPadded 2 leading.natAbs
  else if leading < 0 then
    String.ofList ('0' :: '.' :: List.replicate (leading.natAbs - 1) '0' ++ digits)
  else if 0 ≤ d.exponent then
    String.ofList (digits ++ List.replicate d.exponent.toNat '0' ++ ['.', '0'])
  else
    String.ofList (digits.take (leading.toNat + 1) ++ '.' :: digits.drop (leading.toNat + 1))

end Decimal

namespace Binary64

/-- Infinity, as shown. -/
def infinityText : String := "inf"

/-- The text of a number: the fewest digits that read back to it. -/
def text : Binary64 → String
  | nan => "nan"
  | infinity negative => (if negative then "-" else "") ++ infinityText
  | finite negative steps =>
      (if negative then "-" else "") ++
        (if steps = 0 then "0.0" else (Decimal.shortest steps).layout)

/-- The text of a number with a set number of places. -/
def fixedText (places : Nat) : Binary64 → String
  | nan => "nan"
  | infinity negative => (if negative then "-" else "") ++ infinityText
  | finite negative steps => fixed places negative steps stepsPerUnit

end Binary64
end MailSearch
