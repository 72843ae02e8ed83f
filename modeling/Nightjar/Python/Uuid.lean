import Mathlib.Data.List.Basic

/-!
# `uuid.UUID`

A UUID is 128 bits, kept as its 32 hexadecimal digits. `str(uuid)` groups them 8-4-4-4-12 and
puts dashes between the groups; the text determines the UUID (`UUID.text_injective`).
-/

namespace Python

instance neZero_16 : @NeZero Nat Zero.ofOfNat0 16 := Nat.instNeZeroSucc

/-- A `uuid.UUID`. -/
structure UUID where
  digits : List (Fin 16)
  length_eq : digits.length = 32
  deriving DecidableEq

/-- One hexadecimal digit, in lower case. -/
def hexDigit (d : Fin 16) : Char := Nat.digitChar d.val

theorem hexDigit_injective {c d : Fin 16} (same : hexDigit c = hexDigit d) : c = d := by
  revert c d
  decide

theorem hexDigit_ne_dash (d : Fin 16) : hexDigit d ≠ '-' := by
  revert d
  decide

namespace UUID

/-- The characters of `str(uuid)`. -/
def chars (u : UUID) : List Char :=
  let hex := u.digits.map hexDigit
  hex.take 8 ++ '-' :: ((hex.drop 8).take 4 ++ '-' :: ((hex.drop 12).take 4 ++
    '-' :: ((hex.drop 16).take 4 ++ '-' :: hex.drop 20)))

/-- `str(uuid)`. -/
def text (u : UUID) : String := String.ofList u.chars

theorem filter_hex (l : List Char) (hex : ∀ c ∈ l, c ≠ '-') :
    l.filter (· ≠ '-') = l :=
  List.filter_eq_self.mpr fun c member => by simpa using hex c member

theorem hex_ne_dash (u : UUID) : ∀ c ∈ u.digits.map hexDigit, c ≠ '-' := by
  intro c member
  obtain ⟨d, -, rfl⟩ := List.mem_map.mp member
  exact hexDigit_ne_dash d

/-- Without its dashes the text is the digits. -/
theorem filter_chars (u : UUID) : u.chars.filter (· ≠ '-') = u.digits.map hexDigit := by
  have plain := u.hex_ne_dash
  have part : ∀ n k, ∀ c ∈ ((u.digits.map hexDigit).drop n).take k, c ≠ '-' :=
    fun n k c member => plain c (List.mem_of_mem_drop (List.mem_of_mem_take member))
  have first : ∀ c ∈ (u.digits.map hexDigit).take 8, c ≠ '-' :=
    fun c member => plain c (List.mem_of_mem_take member)
  have last : ∀ c ∈ (u.digits.map hexDigit).drop 20, c ≠ '-' :=
    fun c member => plain c (List.mem_of_mem_drop member)
  have dash : ∀ l : List Char, ('-' :: l).filter (· ≠ '-') = l.filter (· ≠ '-') :=
    fun l => List.filter_cons_of_neg (by decide)
  simp only [chars, List.filter_append, dash, filter_hex _ first, filter_hex _ (part 8 4),
    filter_hex _ (part 12 4), filter_hex _ (part 16 4), filter_hex _ last]
  have groups : ∀ (l : List Char), l.take 8 ++ ((l.drop 8).take 4 ++ ((l.drop 12).take 4 ++
      ((l.drop 16).take 4 ++ l.drop 20))) = l := by
    intro l
    rw [show l.drop 20 = (l.drop 16).drop 4 by rw [List.drop_drop], List.take_append_drop,
      show l.drop 16 = (l.drop 12).drop 4 by rw [List.drop_drop], List.take_append_drop,
      show l.drop 12 = (l.drop 8).drop 4 by rw [List.drop_drop], List.take_append_drop,
      List.take_append_drop]
  exact groups _

/-- Different UUIDs have different texts. -/
theorem text_injective {u v : UUID} (same : u.text = v.text) : u = v := by
  have chars : u.chars = v.chars := String.ofList_injective same
  have digits : u.digits.map hexDigit = v.digits.map hexDigit := by
    rw [← filter_chars, ← filter_chars, chars]
  obtain ⟨ds, _⟩ := u
  obtain ⟨es, _⟩ := v
  have equal : ds = es := List.map_injective_iff.mpr (fun _ _ => hexDigit_injective) digits
  subst equal
  rfl

end UUID

end Python
