import MailSearch.Numeric.Natural

/-!
# Binary floating point

Numbers of the 64-bit binary format, with exact integer arithmetic underneath. A finite
number is a sign and a count of the least positive step, 2⁻¹⁰⁷⁴, so two finite numbers
compare as integers. Every operation computes its exact result and rounds it once: to
the nearest number of 53 significant bits, a tie to the even one.
-/

namespace MailSearch

/-- A floating-point number; a finite one counts steps of 2⁻¹⁰⁷⁴. -/
inductive Binary64 where
  | nan
  | infinity (negative : Bool)
  | finite (negative : Bool) (steps : Nat)
  deriving DecidableEq, Repr, Inhabited

/-- The quotient of two naturals rounded to a natural, a tie to the even one. -/
def roundEven (num den : Nat) : Nat :=
  let quotient := num / den
  let rest := num % den
  if 2 * rest < den then quotient
  else if den < 2 * rest then quotient + 1
  else if quotient % 2 = 0 then quotient else quotient + 1

namespace Binary64

/-- The steps in one unit. -/
def stepsPerUnit : Nat := powerOfTwo 1074

/-- The steps of the greatest finite number. -/
def maxSteps : Nat := (powerOfTwo 53 - 1) * powerOfTwo 2045

/-- The distance between neighbouring numbers at a magnitude of this many steps. -/
def gapAt (steps : Nat) : Nat := powerOfTwo (steps.log2 - 52)

/-- A quotient in steps, rounded to 53 significant bits. -/
def roundSteps (num den : Nat) : Nat :=
  let gap := gapAt (num / den)
  roundEven num (den * gap) * gap

/-- The number nearest to a quotient in steps; infinity when that is out of range. -/
def ofSteps (negative : Bool) (num den : Nat) : Binary64 :=
  let steps := roundSteps num den
  if steps ≤ maxSteps then finite negative steps else infinity negative

/-- The number nearest to a ratio. -/
def ofRatio (num : Int) (den : Nat) : Binary64 :=
  ofSteps (decide (num < 0)) (num.natAbs * stepsPerUnit) den

/-- The number nearest to an integer. -/
def ofInt (n : Int) : Binary64 := ofRatio n 1

/-- Zero. -/
def zero : Binary64 := finite false 0

/-- One. -/
def one : Binary64 := ofInt 1

/-- Whether a number is finite. -/
def isFinite : Binary64 → Bool
  | finite _ _ => true
  | _ => false

/-- A ratio as a number, or nothing when it is too large for one. -/
def quotient? (num : Int) (den : Nat) : Option Binary64 :=
  let x := ofRatio num den
  if x.isFinite then some x else none

/-- The place of a number in the order of all numbers; that of a finite one is its
count of steps. -/
def position? : Binary64 → Option Int
  | nan => none
  | infinity negative => some (if negative then -(maxSteps + 1) else maxSteps + 1)
  | finite negative steps => some (if negative then -steps else steps)

/-- Whether one number is at most another; no comparison with `nan` holds. -/
def le (x y : Binary64) : Bool :=
  match x.position?, y.position? with
  | some i, some j => decide (i ≤ j)
  | _, _ => false

/-- Whether one number is below another; no comparison with `nan` holds. -/
def lt (x y : Binary64) : Bool :=
  match x.position?, y.position? with
  | some i, some j => decide (i < j)
  | _, _ => false

/-- Whether two numbers are equal; the two zeros are, `nan` is equal to nothing. -/
def eq (x y : Binary64) : Bool :=
  match x.position?, y.position? with
  | some i, some j => decide (i = j)
  | _, _ => false

/-- Whether a number is zero. -/
def isZero : Binary64 → Bool
  | finite _ 0 => true
  | _ => false

/-- Whether a number carries a minus sign. -/
def isNegative : Binary64 → Bool
  | nan => false
  | infinity negative => negative
  | finite negative _ => negative

/-- The product. -/
def mul : Binary64 → Binary64 → Binary64
  | nan, _ => nan
  | _, nan => nan
  | finite s a, finite t b => ofSteps (s != t) (a * b) stepsPerUnit
  | x, y => if x.isZero || y.isZero then nan else infinity (x.isNegative != y.isNegative)

/-- The same number with the other sign. -/
def neg : Binary64 → Binary64
  | nan => nan
  | infinity negative => infinity !negative
  | finite negative steps => finite (!negative) steps

/-- The sum. -/
def add : Binary64 → Binary64 → Binary64
  | nan, _ => nan
  | _, nan => nan
  | infinity s, infinity t => if s = t then infinity s else nan
  | infinity s, finite _ _ => infinity s
  | finite _ _, infinity t => infinity t
  | finite s a, finite t b =>
      let sum : Int := (if s then -(a : Int) else a) + (if t then -(b : Int) else b)
      if sum = 0 then finite (s && t) 0 else ofSteps (decide (sum < 0)) sum.natAbs 1

/-- The difference. -/
def sub (x y : Binary64) : Binary64 := x.add y.neg

/-- The integer part, toward zero, of a finite number. -/
def truncate? : Binary64 → Option Int
  | finite negative steps =>
      let whole : Int := (steps / stepsPerUnit : Nat)
      some (if negative then -whole else whole)
  | _ => none

/-- Round to a number of decimal places and back to the nearest number. -/
def roundPlaces (places : Nat) : Binary64 → Binary64
  | finite negative steps =>
      let scaled := roundEven (steps * powerOfTen places) stepsPerUnit
      ofSteps negative (scaled * stepsPerUnit) (powerOfTen places)
  | x => x

end Binary64
end MailSearch
