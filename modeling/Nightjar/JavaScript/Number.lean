import Mathlib.Algebra.Order.Floor.Ring
import Mathlib.Analysis.SpecialFunctions.Trigonometric.Basic
import Mathlib.Data.Rat.Floor
import Nightjar.Python.Numbers

/-!
# JavaScript numbers

JavaScript has one type of numbers. It is modelled by an ordered field with a floor, so arithmetic
is exact and rounding to 53 bits is left aside, as for the floats of Python. `Math.PI` and
`Math.cos` are taken from the class `JsMath`. `toFixedNumber` is `+x.toFixed(digits)`, the number
that is read back from a text of so many decimal places.
-/

namespace JavaScript

/-- The members of `Math` that are not field operations. -/
class JsMath (N : Type) where
  pi : N
  cos : N → N

noncomputable instance : JsMath ℝ where
  pi := Real.pi
  cos := Real.cos

/-- Rational numbers, on which the definitions can be evaluated: the cosine is that of small
    angles. -/
instance : JsMath ℚ where
  pi := 355 / 113
  cos x := 1 - x ^ 2 / 2

section Rounding

variable {N : Type} [Field N] [LinearOrder N] [FloorRing N]

/-- `Number.prototype.toFixed` rounds numbers below this one. -/
def fixedBound : N := 10 ^ 21

/-- The digits of `x.toFixed(digits)` as an integer: the nearest one, and the larger of two that are
    equally near, for the absolute value of `x`. -/
def fixedUnits (digits : Nat) (x : N) : Int :=
  if x < 0 then -⌊-x * 10 ^ digits + 1 / 2⌋ else ⌊x * 10 ^ digits + 1 / 2⌋

/-- `+x.toFixed(digits)`. A number that is too large for `toFixed` is written out as it is. -/
def toFixedNumber (digits : Nat) (x : N) : N :=
  if fixedBound ≤ |x| then x else fixedUnits digits x / 10 ^ digits

variable [IsStrictOrderedRing N]

/-- The integer is within one half of the scaled number. -/
theorem abs_fixedUnits_sub_le (digits : Nat) (x : N) :
    |(fixedUnits digits x : N) - x * 10 ^ digits| ≤ 1 / 2 := by
  unfold fixedUnits
  split_ifs with negative
  · have below := Int.floor_le (-x * 10 ^ digits + 1 / 2)
    have above := Int.lt_floor_add_one (-x * 10 ^ digits + 1 / 2)
    push_cast
    rw [abs_le]
    constructor <;> linarith
  · have below := Int.floor_le (x * 10 ^ digits + 1 / 2)
    have above := Int.lt_floor_add_one (x * 10 ^ digits + 1 / 2)
    rw [abs_le]
    constructor <;> linarith

/-- The number that is read back is within half a unit of the last decimal place. -/
theorem abs_toFixedNumber_sub_le (digits : Nat) (x : N) :
    |toFixedNumber digits x - x| ≤ 1 / 2 / 10 ^ digits := by
  have scale : (0 : N) < 10 ^ digits := by positivity
  unfold toFixedNumber
  split_ifs with large
  · rw [sub_self, abs_zero]
    positivity
  · have rounded := abs_fixedUnits_sub_le digits x
    have scaled : (fixedUnits digits x : N) / 10 ^ digits - x =
        ((fixedUnits digits x : N) - x * 10 ^ digits) / 10 ^ digits := by
      rw [sub_div, mul_div_cancel_right₀ _ scale.ne']
    rw [scaled, abs_div, abs_of_pos scale]
    exact div_le_div_of_nonneg_right rounded scale.le

end Rounding

end JavaScript
