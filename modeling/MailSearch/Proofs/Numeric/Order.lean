import MailSearch.Numeric.Binary64

/-!
# The order of floating-point numbers

Numbers other than `nan` are totally ordered by their positions. Rounding a ratio never
gives `nan`, and neither does a product with a factor that is finite and not zero.
-/

namespace MailSearch.Binary64

/-- The place of a number in the order of all numbers; that of `nan` does not matter. -/
def place (x : Binary64) : Int := x.position?.getD 0

/-- Numbers other than `nan` compare by their places. -/
theorem le_eq_decide_place {x y : Binary64} (hx : x ≠ nan) (hy : y ≠ nan) :
    x.le y = decide (x.place ≤ y.place) := by
  cases x with
  | nan => exact absurd rfl hx
  | _ =>
    cases y with
    | nan => exact absurd rfl hy
    | _ => rfl

/-- One number is at most another if both have places, in this order. -/
theorem le_iff {x y : Binary64} :
    x.le y ↔ ∃ i j, x.position? = some i ∧ y.position? = some j ∧ i ≤ j := by
  unfold le
  cases x.position? with
  | none => simp
  | some i => cases y.position? <;> simp

/-- What is at most a number is at most all that the number is at most. -/
theorem le_trans {x y z : Binary64} (h : x.le y) (h' : y.le z) : x.le z := by
  obtain ⟨i, j, hx, hy, hij⟩ := le_iff.mp h
  obtain ⟨j', k, hy', hz, hjk⟩ := le_iff.mp h'
  obtain rfl : j = j' := Option.some.inj (hy.symm.trans hy')
  exact le_iff.mpr ⟨i, k, hx, hz, Int.le_trans hij hjk⟩

/-- Of two numbers one is below the other just if the other is not at most it. -/
theorem lt_eq_not_le {x y : Binary64} (hx : x ≠ nan) (hy : y ≠ nan) : x.lt y = !y.le x := by
  have hlt : x.lt y = decide (x.place < y.place) := by
    cases x with
    | nan => exact absurd rfl hx
    | _ =>
      cases y with
      | nan => exact absurd rfl hy
      | _ => rfl
  rw [hlt, le_eq_decide_place hy hx, ← decide_not]
  simp

/-- Nothing is at most `nan`. -/
theorem ne_nan_of_le {x y : Binary64} (h : x.le y) : y ≠ nan := by
  rintro rfl
  obtain ⟨-, j, -, hnan, -⟩ := le_iff.mp h
  exact nomatch hnan

/-- A rounded ratio is a number. -/
theorem ofSteps_ne_nan (negative : Bool) (num den : Nat) : ofSteps negative num den ≠ nan := by
  unfold ofSteps
  dsimp only
  split <;> exact Binary64.noConfusion

/-- An integer as a number is a number. -/
theorem ofInt_ne_nan (n : Int) : ofInt n ≠ nan := ofSteps_ne_nan _ _ _

/-- One is a number. -/
theorem one_ne_nan : one ≠ nan := ofInt_ne_nan 1

/-- Whether a number is finite and not zero. -/
def isFactor (x : Binary64) : Bool := x.isFinite && !x.isZero

/-- A product with a factor is a number if the other side is one. -/
theorem mul_ne_nan {x y : Binary64} (hx : x ≠ nan) (hy : y.isFactor) : x.mul y ≠ nan := by
  cases y with
  | nan => simp [isFactor, isFinite] at hy
  | infinity negative => simp [isFactor, isFinite] at hy
  | finite negative steps =>
    cases x with
    | nan => exact absurd rfl hx
    | infinity other =>
      have hzero : (finite negative steps).isZero = false := by simpa [isFactor, isFinite] using hy
      have hinfinity : (infinity other).isZero = false := rfl
      simp [mul, hzero, hinfinity]
    | finite other count => exact ofSteps_ne_nan _ _ _

/-- A product with several factors is a number if the other side is one. -/
theorem foldl_mul_ne_nan {x : Binary64} (hx : x ≠ nan) {factors : List Binary64}
    (h : ∀ factor ∈ factors, factor.isFactor) : factors.foldl mul x ≠ nan := by
  induction factors generalizing x with
  | nil => exact hx
  | cons factor factors ih =>
    have hproduct := mul_ne_nan hx (h factor List.mem_cons_self)
    exact ih hproduct fun other hother ↦ h other (List.mem_cons_of_mem factor hother)

end MailSearch.Binary64
