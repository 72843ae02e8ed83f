import Nightjar.Python.JsonLoads

/-!
# Line breaks of text files

A file that is opened as text gives each of the three line breaks as `'\n'`. JSON text means the
same with any of them: between tokens a line break is white space, and within them it is refused.
-/

namespace Python

/-- The text of a file that is opened with `newline=None`. -/
def universalNewlines : List Char → List Char
  | [] => []
  | '\r' :: '\n' :: text => '\n' :: universalNewlines text
  | c :: text => (if c = '\r' then '\n' else c) :: universalNewlines text

namespace Loads

variable {F : Type} (floats : Floats F)

/-- The two characters of line breaks are the same to a string. -/
theorem literal_step_return (s : Literal) : s.step '\r' = s.step '\n' := by
  unfold Literal.step
  cases s.escape <;> rfl

/-- The two characters of line breaks are the same to a number. -/
theorem part_step_return (part : Part) : part.step '\r' = none ∧ part.step '\n' = none := by
  cases part <;> exact ⟨rfl, rfl⟩

theorem afterValue_return (value : Json F) (stack : List (Frame F)) :
    afterValue value '\r' stack = afterValue value '\n' stack := by
  cases stack with
  | nil => rfl
  | cons frame stack => cases frame <;> rfl

/-- A constant has no line break. -/
theorem ne_of_isAlpha {c d : Char} (alpha : c.isAlpha = true) (other : d.isAlpha = false) :
    d ≠ c := by
  rintro rfl
  rw [alpha] at other
  cases other

/-- The two characters of line breaks are the same to the machine. -/
theorem step_return (config : Config F) : step floats config '\r' = step floats config '\n' := by
  obtain ⟨mode, stack⟩ := config
  cases mode with
  | value => rfl
  | firstItem => rfl
  | firstKey => rfl
  | nextKey before => rfl
  | colon before key => rfl
  | after value => exact afterValue_return value stack
  | literal purpose s => simp only [step, literal_step_return]
  | number part text =>
    have letter : ∀ d : Char, d ≠ 'I' → ¬ (part = .minus ∧ d = 'I') :=
      fun _ other infinite => other infinite.2
    simp only [step, part_step_return, afterValue_return, if_neg (letter '\r' (by decide)),
      if_neg (letter '\n' (by decide))]
  | word rest value =>
    obtain ⟨letters, alpha⟩ := rest
    cases letters with
    | nil => exact afterValue_return value stack
    | cons d letters =>
      have letter := alpha d List.mem_cons_self
      simp only [step, if_neg (ne_of_isAlpha letter (d := '\r') rfl),
        if_neg (ne_of_isAlpha letter (d := '\n') rfl)]

theorem afterValue_newline {value : Json F} {stack : List (Frame F)} {after : Config F}
    (stepped : afterValue value '\n' stack = .ok after) : after = ⟨.after value, stack⟩ := by
  cases stack with
  | nil =>
    cases stepped
    rfl
  | cons frame stack =>
    cases frame with
    | items before =>
      cases stepped
      rfl
    | entry before key =>
      cases stepped
      rfl

/-- A string, a number or a constant that is being read ends at a line break. -/
def Mode.AtRest : Mode F → Prop
  | .literal _ _ | .number _ _ | .word _ _ => False
  | _ => True

/-- Between tokens a line break is passed over. -/
theorem step_newline_of_atRest {mode : Mode F} (rest : mode.AtRest) (stack : List (Frame F)) :
    step floats ⟨mode, stack⟩ '\n' = .ok ⟨mode, stack⟩ := by
  cases mode with
  | after value =>
    cases stack with
    | nil => rfl
    | cons frame stack => cases frame <;> rfl
  | literal purpose s => exact rest.elim
  | number part text => exact rest.elim
  | word letters value => exact rest.elim
  | _ => rfl

/-- After a line break the machine is between tokens. -/
theorem atRest_of_step_newline {config after : Config F}
    (stepped : step floats config '\n' = .ok after) : after.mode.AtRest := by
  obtain ⟨mode, stack⟩ := config
  have ends : ∀ value : Json F, afterValue value '\n' stack = .ok after → after.mode.AtRest := by
    intro value ended
    rw [afterValue_newline ended]
    trivial
  cases mode with
  | literal purpose s =>
    have refused : s.step '\n' = none := by
      unfold Literal.step
      cases s.escape <;> rfl
    simp only [step, refused] at stepped
    cases stepped
  | number part text =>
    simp only [step, part_step_return] at stepped
    rw [if_neg (by simp)] at stepped
    cases number : numberOf floats part text with
    | error e =>
      rw [number] at stepped
      cases stepped
    | ok value =>
      rw [number] at stepped
      exact ends value stepped
  | word rest value =>
    obtain ⟨letters, alpha⟩ := rest
    cases letters with
    | nil => exact ends value stepped
    | cons d letters =>
      have letter := alpha d List.mem_cons_self
      simp only [step, if_neg (ne_of_isAlpha letter (d := '\n') rfl)] at stepped
      cases stepped
  | after value => exact ends value stepped
  | _ =>
    cases stepped
    trivial

/-- A second line break changes nothing. -/
theorem step_newline_twice {config after : Config F}
    (stepped : step floats config '\n' = .ok after) : step floats after '\n' = .ok after :=
  step_newline_of_atRest floats (atRest_of_step_newline floats stepped) after.stack

/-- The machine does not see which line breaks a text has. -/
theorem run_universalNewlines (text : List Char) :
    ∀ config, run floats (universalNewlines text) config = run floats text config := by
  induction text using universalNewlines.induct with
  | case1 => exact fun _ => rfl
  | case2 text ih =>
    intro config
    rw [universalNewlines]
    simp only [run, step_return]
    cases stepped : step floats config '\n' with
    | error e => rfl
    | ok after =>
      simp only [step_newline_twice floats stepped]
      exact ih after
  | case3 c text single ih =>
    intro config
    rw [universalNewlines]
    · have same : step floats config (if c = '\r' then '\n' else c) = step floats config c := by
        split_ifs with carriage
        · rw [carriage, step_return]
        · rfl
      simp only [run, same]
      cases step floats config c with
      | error e => rfl
      | ok after => exact ih after
    · exact single

/-- A text is read alike with any line breaks. -/
theorem loads_universalNewlines (text : List Char) :
    loads floats (universalNewlines text) = loads floats text := by
  rw [loads, read, run_universalNewlines, loads, read]

end Loads

end Python
