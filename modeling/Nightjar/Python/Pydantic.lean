import Mathlib.Data.List.Basic

/-!
# Validation with pydantic

How pydantic validates a model against a value that was read from JSON text: every field is
validated, and the errors of all of them are collected with their places. The readers of single
values and the texts of the errors are the library's, and parameters here.
-/

namespace Python

/-- An entry of `ValidationError.errors()`. -/
structure FieldError where
  loc : List String
  msg : String
  deriving DecidableEq, Repr

/-- The kinds of errors that a model finds itself, with the context that their texts show. -/
inductive ErrorKind where
  | missing
  | extraForbidden
  | modelType (model : String)
  | modelAttributesType
  | unionTagNotFound (discriminator : String)
  | tupleType
  | tooShort (minLength actual : Nat)
  | tooLong (maxLength actual : Nat)
  | stringTooShort (minLength : Nat)
  | stringTooLong (maxLength : Nat)
  | greaterThan (bound : Int)
  | valueError (text : String)
  deriving DecidableEq, Repr

/-- A validated value, or the errors. -/
abbrev Validated (α : Type) : Type := Except (List FieldError) α

namespace Validated

variable {α β ι κ : Type}

/-- One error at this place. -/
def fail (msg : String) : Validated α := .error [⟨[], msg⟩]

/-- A part of a value: its errors are placed under it. -/
def under (part : String) : Validated α → Validated α
  | .ok a => .ok a
  | .error errors => .error (errors.map fun error => { error with loc := part :: error.loc })

/-- Two parts: the errors of both. -/
def both : Validated α → Validated β → Validated (α × β)
  | .ok a, .ok b => .ok (a, b)
  | .ok _, .error errors => .error errors
  | .error errors, .ok _ => .error errors
  | .error errors, .error more => .error (errors ++ more)

/-- The items of a sequence, from an index on: the errors of all. -/
def each (read : ι → Validated α) : Nat → List ι → Validated (List α)
  | _, [] => .ok []
  | index, item :: items =>
      ((under (toString index) (read item)).both (each read (index + 1) items)).map
        fun both => both.1 :: both.2

@[simp] theorem under_ok (part : String) (a : α) : under part (.ok a) = .ok a := rfl

@[simp] theorem both_ok (a : α) (b : β) : both (.ok a) (.ok b) = .ok (a, b) := rfl

/-- When every item is valid, so is the sequence. -/
theorem each_eq_ok {read : ι → Validated α} {item : κ → ι} {value : κ → α} :
    ∀ (index : Nat) (keys : List κ), (∀ key ∈ keys, read (item key) = .ok (value key)) →
      each read index (keys.map item) = .ok (keys.map value) := by
  intro index keys valid
  induction keys generalizing index with
  | nil => rfl
  | cons key keys ih =>
    obtain ⟨first, rest⟩ := List.forall_mem_cons.mp valid
    rw [List.map_cons, each, first, ih (index + 1) rest]
    rfl

end Validated

end Python
