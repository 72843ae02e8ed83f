import Nightjar.Python.Json
import Mathlib.Data.Rat.Floor

/-!
# Rational floats

The rational numbers as floats, on which the definitions can be evaluated. Texts are exact: a whole
number is written with the fraction `.0`, any other as numerator and denominator. No number is too
large, unless `PyMath.ranged` is used. Of module `math`, `sqrt` and `hypot` are exact where the root
is rational, and the functions of an angle are exact at the angle zero.
-/

namespace Python

/-- The square root, rounded down to a multiple of the reciprocal of the denominator. -/
def rationalSqrt (x : ℚ) : ℚ := (Nat.sqrt (x.num.natAbs * x.den) : ℚ) / x.den

instance : PyMath ℚ where
  overflows _ := false
  hypot x y := rationalSqrt (x ^ 2 + y ^ 2)
  radians x := x * (355 / 113 / 180)
  sin x := x
  cos x := 1 - x ^ 2 / 2
  asin x := x
  sqrt := rationalSqrt

/-- The rational floats with the range of a double. -/
@[reducible] def PyMath.ranged : PyMath ℚ :=
  { (inferInstance : PyMath ℚ) with overflows := fun x => decide ((floatLimit : ℚ) ≤ |x|) }

/-- The text of a rational float. -/
def rationalRepr (x : ℚ) : String :=
  if x.den = 1 then toString x.num ++ ".0" else toString x.num ++ "e" ++ Nat.repr x.den

instance : PyText ℚ where
  repr := rationalRepr
  fixed1 x :=
    let tenths := roundHalfEven (x * 10)
    (if tenths < 0 then "-" else "") ++ Nat.repr (tenths.natAbs / 10) ++ "." ++
      Nat.repr (tenths.natAbs % 10)
  general x := if x.den = 1 then toString x.num else rationalRepr x

/-- A character of the text of an `int`. -/
def isIntChar (c : Char) : Bool := c.isDigit || c == '-'

theorem intText_isIntChar (i : Int) : ∀ c ∈ (toString i).toList, isIntChar c = true := by
  intro c member
  rcases Json.intText_chars i c member with digit | rfl
  · simp [isIntChar, digit]
  · decide

/-- The text of an `int` ends where a mark follows. -/
theorem intText_append_injective {i j : Int} {c d : Char} {rest rest' : List Char}
    (marks : isIntChar c = false) (marks' : isIntChar d = false)
    (same : (toString i).toList ++ c :: rest = (toString j).toList ++ d :: rest') :
    i = j ∧ c :: rest = d :: rest' := by
  have number := congrArg (List.takeWhile isIntChar) same
  rw [List.takeWhile_append_of_pos (intText_isIntChar i),
    List.takeWhile_append_of_pos (intText_isIntChar j),
    List.takeWhile_cons_of_neg (by simp [marks]), List.takeWhile_cons_of_neg (by simp [marks']),
    List.append_nil, List.append_nil] at number
  refine ⟨Json.intText_injective number, ?_⟩
  rwa [number, List.append_cancel_left_eq] at same

theorem rationalRepr_whole {x : ℚ} (whole : x.den = 1) :
    (rationalRepr x).toList = (toString x.num).toList ++ '.' :: ['0'] := by
  rw [rationalRepr, if_pos whole, String.toList_append]
  rfl

theorem rationalRepr_fraction {x : ℚ} (fraction : x.den ≠ 1) :
    (rationalRepr x).toList =
      (toString x.num).toList ++ 'e' :: (Nat.repr x.den).toList := by
  rw [rationalRepr, if_neg fraction, String.toList_append, String.toList_append,
    List.append_assoc]
  rfl

instance : LawfulFloatText ℚ where
  repr_injective x y same := by
    have chars : (rationalRepr x).toList = (rationalRepr y).toList := congrArg _ same
    by_cases whole : x.den = 1 <;> by_cases whole' : y.den = 1
    · rw [rationalRepr_whole whole, rationalRepr_whole whole'] at chars
      obtain ⟨num, -⟩ := intText_append_injective (by decide) (by decide) chars
      exact Rat.ext num (whole.trans whole'.symm)
    · rw [rationalRepr_whole whole, rationalRepr_fraction whole'] at chars
      obtain ⟨-, mark⟩ := intText_append_injective (by decide) (by decide) chars
      exact absurd (List.cons.inj mark).1 (by decide)
    · rw [rationalRepr_fraction whole, rationalRepr_whole whole'] at chars
      obtain ⟨-, mark⟩ := intText_append_injective (by decide) (by decide) chars
      exact absurd (List.cons.inj mark).1 (by decide)
    · rw [rationalRepr_fraction whole, rationalRepr_fraction whole'] at chars
      obtain ⟨num, den⟩ := intText_append_injective (by decide) (by decide) chars
      exact Rat.ext num (Json.natText_injective (List.cons.inj den).2)
  repr_chars x c member := by
    change c ∈ (rationalRepr x).toList at member
    have number := Json.intText_numeral x.num c
    by_cases whole : x.den = 1
    · rw [rationalRepr_whole whole] at member
      rcases List.mem_append.mp member with digit | fraction
      · exact number digit
      · fin_cases fraction <;> decide
    · rw [rationalRepr_fraction whole] at member
      rcases List.mem_append.mp member with digit | exponent
      · exact number digit
      · rcases List.mem_cons.mp exponent with rfl | digit
        · decide
        · exact Json.intText_numeral x.den c digit
  repr_float x := by
    change ∃ c ∈ (rationalRepr x).toList, c = '.' ∨ c = 'e'
    by_cases whole : x.den = 1
    · exact ⟨'.', by simp [rationalRepr_whole whole], Or.inl rfl⟩
    · exact ⟨'e', by simp [rationalRepr_fraction whole], Or.inr rfl⟩

end Python
