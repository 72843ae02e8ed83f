import Mathlib.Algebra.Order.Floor.Ring
import Mathlib.Analysis.SpecialFunctions.Trigonometric.Inverse

/-!
# Python numbers

Python's `float` is modelled by an ordered field with a floor, so arithmetic is exact; rounding
to 53 bits is left aside throughout. What the field does not give (the `math` functions, the range
of a float and its text) is taken from the two classes `PyMath` and `PyText`. The real numbers
carry the real functions and the range of a double; the text of a float is never fixed, since
nothing depends on more than `LawfulFloatText`.

An attribute whose annotation is not enforced holds a Python `int` or a `float`: `PyNum`.
-/

namespace Python

section Numerals

/-! The numerals of the constants of the program. -/

instance atLeastTwo_2 : Nat.AtLeastTwo 2 := ⟨by decide⟩
instance atLeastTwo_5 : Nat.AtLeastTwo 5 := ⟨by decide⟩
instance atLeastTwo_9 : Nat.AtLeastTwo 9 := ⟨by decide⟩
instance atLeastTwo_10 : Nat.AtLeastTwo 10 := ⟨by decide⟩
instance atLeastTwo_20 : Nat.AtLeastTwo 20 := ⟨by decide⟩
instance atLeastTwo_30 : Nat.AtLeastTwo 30 := ⟨by decide⟩
instance atLeastTwo_180 : Nat.AtLeastTwo 180 := ⟨by decide⟩
instance atLeastTwo_6371000 : Nat.AtLeastTwo 6371000 := ⟨by decide⟩

end Numerals

/-- The functions of module `math` that are not field operations, and the range of a float.
    `radians`, `sin`, `cos` and `hypot` are total on finite floats; `sqrt` and `asin` are read
    through `sqrt?` and `asin?`. -/
class PyMath (N : Type) where
  /-- The number is beyond the largest float: a product with this value is an infinity. -/
  overflows : N → Bool
  hypot : N → N → N
  radians : N → N
  sin : N → N
  cos : N → N
  asin : N → N
  sqrt : N → N

/-- The text of a float: `repr(x)`, and the two format specifications that are used. -/
class PyText (N : Type) where
  repr : N → String
  /-- `format(x, ".1f")` -/
  fixed1 : N → String
  /-- `format(x, "g")` -/
  general : N → String

/-- The texts of floats that carry no fraction, as one possible `PyText`. -/
@[reducible] def PyText.whole {N : Type} [Ring N] [LinearOrder N] [FloorRing N] : PyText N where
  repr x := toString ⌊x⌋ ++ ".0"
  fixed1 x := toString ⌊x⌋ ++ ".0"
  general x := toString ⌊x⌋

/-- The least number that is rounded to an infinity. -/
def floatLimit : ℕ := 2 ^ 1024 - 2 ^ 970

noncomputable instance : PyMath ℝ where
  overflows x := decide ((floatLimit : ℝ) ≤ |x|)
  hypot x y := Real.sqrt (x ^ 2 + y ^ 2)
  radians x := x * (Real.pi / 180)
  sin := Real.sin
  cos := Real.cos
  asin := Real.arcsin
  sqrt := Real.sqrt

/-- The characters of a number in JSON text. -/
def isNumberChar (c : Char) : Bool :=
  c.isDigit || c == '-' || c == '+' || c == '.' || c == 'e'

/-- What is documented of `repr` on finite floats: different floats have different texts, and
    a text is a numeral with a fraction or an exponent, so it is never the text of an `int`. -/
class LawfulFloatText (N : Type) [PyText N] : Prop where
  repr_injective : ∀ x y : N, PyText.repr x = PyText.repr y → x = y
  repr_chars : ∀ (x : N), ∀ c ∈ (PyText.repr x).toList, isNumberChar c = true
  repr_float : ∀ x : N, ∃ c ∈ (PyText.repr x).toList, c = '.' ∨ c = 'e'

section Math

variable {N : Type} [Field N] [LinearOrder N] [PyMath N]

/-- `math.sqrt`: `none` is `ValueError: math domain error`. -/
def sqrt? (x : N) : Option N := if x < 0 then none else some (PyMath.sqrt x)

/-- `math.asin`: `none` is `ValueError: math domain error`. -/
def asin? (x : N) : Option N := if x < -1 ∨ 1 < x then none else some (PyMath.asin x)

end Math

/-- The longest decimal text an `int` is converted to (`sys.set_int_max_str_digits`). -/
def intMaxStrDigits : Nat := 4300

/-- `str(i)`: `none` is `ValueError: Exceeds the limit (4300 digits) for integer string
    conversion`. -/
def intStr? (i : Int) : Option String :=
  if i.natAbs < 10 ^ intMaxStrDigits then some (toString i) else none

/-- A number held by an attribute that is not coerced: an `int` or a `float`. -/
inductive PyNum (N : Type) where
  | int (i : Int)
  | float (x : N)
  deriving DecidableEq

namespace PyNum

variable {N : Type}

/-- The value that Python's comparisons and arithmetic use. -/
def val [IntCast N] : PyNum N → N
  | .int i => (i : N)
  | .float x => x

/-- `isinstance(x, int)`. -/
def isInt : PyNum N → Bool
  | .int _ => true
  | .float _ => false

/-- A number is its value and its type. -/
theorem eq_of_val [Ring N] [CharZero N] {x y : PyNum N} (value : x.val = y.val)
    (type : x.isInt = y.isInt) : x = y := by
  cases x with
  | int i =>
    cases y with
    | int j => exact congrArg PyNum.int (Int.cast_injective value)
    | float y => cases type
  | float x =>
    cases y with
    | int j => cases type
    | float y => exact congrArg PyNum.float value

/-- `str(x)`, with the digit limit of `intStr?`. -/
def str? [PyText N] : PyNum N → Option String
  | .int i => intStr? i
  | .float x => some (PyText.repr x)

end PyNum

section Division

variable {N : Type} [Field N] [PyMath N]

/-- `i / scale` of two `int`s: `none` is the `OverflowError` of a quotient that is no float. -/
def trueDiv? (i scale : Int) : Option N :=
  if PyMath.overflows ((i : N) / scale) then none else some (i / scale)

theorem trueDiv?_eq_some {i scale : Int} (fits : PyMath.overflows ((i : N) / scale) = false) :
    trueDiv? i scale = some ((i : N) / scale) := by
  simp [trueDiv?, fits]

end Division

section Rounding

variable {N : Type} [Field N] [LinearOrder N] [FloorRing N]

/-- `round(x)`: to the nearest integer, and to the even one from halfway between two. -/
def roundHalfEven (x : N) : Int :=
  if x - ⌊x⌋ < 1 / 2 then ⌊x⌋
  else if 1 / 2 < x - ⌊x⌋ then ⌊x⌋ + 1
  else if ⌊x⌋ % 2 = 0 then ⌊x⌋ else ⌊x⌋ + 1

section Range

variable [PyMath N]

/-- `round(x)` of a product: `none` is the `OverflowError` of an infinity. -/
def round? (x : N) : Option Int := if PyMath.overflows x then none else some (roundHalfEven x)

theorem round?_eq_some {x : N} (fits : PyMath.overflows x = false) :
    round? x = some (roundHalfEven x) := by
  simp [round?, fits]

theorem overflows_of_round? {x : N} {i : Int} (rounded : round? x = some i) :
    PyMath.overflows x = false := by
  unfold round? at rounded
  cases overflow : PyMath.overflows x with
  | false => rfl
  | true => simp [overflow] at rounded

end Range

variable [IsStrictOrderedRing N]

@[simp] theorem roundHalfEven_intCast (i : Int) : roundHalfEven (i : N) = i := by
  simp [roundHalfEven]

/-- Rounding moves a number by at most one half. -/
theorem abs_roundHalfEven_sub_le (x : N) : |(roundHalfEven x : N) - x| ≤ 1 / 2 := by
  have below := Int.floor_le x
  have above := Int.lt_floor_add_one x
  unfold roundHalfEven
  split
  · rw [abs_le]; constructor <;> linarith
  · split
    · rw [abs_le]; push_cast; constructor <;> linarith
    · split
      · rw [abs_le]; constructor <;> linarith
      · rw [abs_le]; push_cast; constructor <;> linarith

/-- A scaled integer survives division by the scale and the rounding back. -/
theorem roundHalfEven_div_mul {scale : N} (nonzero : scale ≠ 0) (i : Int) :
    roundHalfEven ((i : N) / scale * scale) = i := by
  rw [div_mul_cancel₀ _ nonzero, roundHalfEven_intCast]

/-- Dividing the rounded product by the scale is within half a unit of the scale. -/
theorem abs_roundHalfEven_div_sub_le {scale : N} (positive : 0 < scale) (x : N) :
    |(roundHalfEven (x * scale) : N) / scale - x| ≤ 1 / 2 / scale := by
  have rounded := abs_roundHalfEven_sub_le (x * scale)
  have scaled : (roundHalfEven (x * scale) : N) / scale - x =
      ((roundHalfEven (x * scale) : N) - x * scale) / scale := by
    rw [sub_div, mul_div_cancel_right₀ _ positive.ne']
  rw [scaled, abs_div, abs_of_pos positive]
  exact div_le_div_of_nonneg_right rounded positive.le

end Rounding

end Python
