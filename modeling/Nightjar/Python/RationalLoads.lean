import Nightjar.Python.JsonLoads
import Nightjar.Python.Rational

/-!
# Rational floats are read back

The reader of the texts that `rationalRepr` writes.
-/

namespace Python

/-- `int(text)`. -/
def intOfChars : List Char → Int
  | '-' :: digits => -(Nat.ofDigitChars 10 digits 0 : Int)
  | digits => Nat.ofDigitChars 10 digits 0

/-- The number of a text: a whole number, or one with a denominator. -/
def rationalOfText (text : List Char) : ℚ :=
  let num : ℚ := intOfChars (text.takeWhile isIntChar)
  match text.dropWhile isIntChar with
  | 'e' :: den => num / (Nat.ofDigitChars 10 den 0 : ℕ)
  | _ => num

/-- Rational floats. -/
def rationalFloats {F : Type} (f : ℚ → F) (nan posInf negInf : F) : Loads.Floats F where
  ofText text := f (rationalOfText text)
  nan := nan
  posInf := posInf
  negInf := negInf

namespace Loads

theorem run_append_part {part between last : Part} {text later : List Char}
    (ran : part.run text = some between) (goes : between.run later = some last) :
    part.run (text ++ later) = some last := by
  induction text generalizing part with
  | nil =>
    cases ran
    exact goes
  | cons c text ih =>
    rw [Part.run] at ran
    rw [List.cons_append, Part.run]
    cases next : part.step c with
    | none =>
      rw [next] at ran
      cases ran
    | some part' =>
      rw [next] at ran
      exact ih ran

/-- A numeral that goes on. -/
theorem numeralPart_append {between last : Part} {text later : List Char}
    (numeral : numeralPart text = some between) (goes : between.run later = some last) :
    numeralPart (text ++ later) = some last := by
  cases text with
  | nil => cases numeral
  | cons c text =>
    rw [numeralPart] at numeral
    rw [List.cons_append, numeralPart]
    split_ifs at numeral ⊢
    · exact run_append_part numeral goes
    · exact run_append_part numeral goes
    · exact run_append_part numeral goes

theorem run_exponent {digits : List Char} (all : ∀ c ∈ digits, c.isDigit = true) :
    Part.exponent.run digits = some .exponent := by
  induction digits with
  | nil => rfl
  | cons c digits ih =>
    rw [List.forall_mem_cons] at all
    simp only [Part.run, Part.step, all.1, if_true, Option.bind_some]
    exact ih all.2

end Loads

theorem intOfChars_toString (i : Int) : intOfChars (toString i).toList = i := by
  cases i with
  | ofNat n =>
    have digits := Json.natText_digits n
    have value := Loads.ofDigitChars_repr n
    have text : (toString (Int.ofNat n)).toList = (Nat.repr n).toList := rfl
    rw [text, intOfChars]
    · rw [value]
      rfl
    · intro rest minus
      rw [minus] at digits
      exact absurd (digits '-' List.mem_cons_self) (by decide)
  | negSucc n =>
    rw [Json.intText_negSucc, intOfChars, Loads.ofDigitChars_repr]
    rfl

/-- `float(repr(x))` is `x`. -/
theorem rationalOfText_repr (x : ℚ) : rationalOfText (rationalRepr x).toList = x := by
  have number := intText_isIntChar x.num
  by_cases whole : x.den = 1
  · rw [rationalRepr_whole whole, rationalOfText, List.takeWhile_append_of_pos number,
      List.dropWhile_append_of_pos number]
    rw [List.takeWhile_cons_of_neg (by decide), List.dropWhile_cons_of_neg (by decide),
      List.append_nil, intOfChars_toString]
    exact Rat.coe_int_num_of_den_eq_one whole
  · rw [rationalRepr_fraction whole, rationalOfText, List.takeWhile_append_of_pos number,
      List.dropWhile_append_of_pos number, List.takeWhile_cons_of_neg (by decide),
      List.dropWhile_cons_of_neg (by decide), List.append_nil, intOfChars_toString]
    simp only [Loads.ofDigitChars_repr]
    exact Rat.num_div_den x

/-- The texts of rational floats are numerals, and are read back. -/
theorem rationalFloats_roundTrips {F : Type} (f : ℚ → F) (nan posInf negInf : F) :
    (rationalFloats f nan posInf negInf).RoundTrips f where
  numeral x := by
    obtain ⟨part, numeral, kind⟩ := Loads.numeralPart_int x.num
    change ∃ part, Loads.numeralPart (rationalRepr x).toList = some part ∧ _
    by_cases whole : x.den = 1
    · rw [rationalRepr_whole whole]
      refine ⟨.fraction, Loads.numeralPart_append numeral ?_, Or.inl rfl⟩
      rcases kind with rfl | rfl <;> rfl
    · rw [rationalRepr_fraction whole]
      obtain ⟨d, ds, text, -, digit, -⟩ := Loads.repr_pos x.den_pos
      have digits := Json.natText_digits x.den
      rw [text, List.forall_mem_cons] at digits
      have exponent : Loads.Part.mark.run (d :: ds) = some .exponent := by
        simp only [Loads.Part.run, Loads.Part.step, digit, if_true, Option.bind_some]
        exact Loads.run_exponent digits.2
      refine ⟨.exponent, Loads.numeralPart_append numeral ?_, Or.inr rfl⟩
      rw [text]
      rcases kind with rfl | rfl <;> exact exponent
  ofText x := congrArg f (rationalOfText_repr x)

end Python
