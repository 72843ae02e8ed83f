import Nightjar.Home

/-!
# Values read from JSON text

What `json.loads` returns: unlike a dumped value it may hold floats that are not finite.
-/

namespace Nightjar

open Python

section Numbers

variable {N : Type}

/-- `0.0`. -/
instance [Zero N] : Zero (Reading N) := ⟨.finite 0⟩

/-- The texts of floats that are not finite. -/
instance [PyText N] : PyText (Reading N) where
  repr
    | .finite x => PyText.repr x
    | .posInf => "inf"
    | .negInf => "-inf"
    | .nan => "nan"
  fixed1
    | .finite x => PyText.fixed1 x
    | .posInf => "inf"
    | .negInf => "-inf"
    | .nan => "nan"
  general
    | .finite x => PyText.general x
    | .posInf => "inf"
    | .negInf => "-inf"
    | .nan => "nan"

end Numbers

/-- A value that was read from JSON text. -/
abbrev Loaded (N : Type) : Type := Json (Reading N)

/-- What decoding and reading a text raise. -/
structure Reader (N : Type) where
  /-- `json.loads`. -/
  loads : String → Except PyExc (Loaded N)
  /-- `str` of the `UnicodeDecodeError` for some bytes. -/
  decodeError : List UInt8 → String

section Dumped

variable {N : Type}

mutual

/-- A value as `json.loads` gives it back: its floats are finite. -/
def loaded : Json N → Loaded N
  | .null => .null
  | .bool b => .bool b
  | .int i => .int i
  | .float x => .float (.finite x)
  | .str s => .str s
  | .arr items => .arr (loadedItems items)
  | .obj fields => .obj (loadedFields fields)

/-- The items of a list, given back. -/
def loadedItems : List (Json N) → List (Loaded N)
  | [] => []
  | item :: items => loaded item :: loadedItems items

/-- The entries of an object, given back. -/
def loadedFields : List (String × Json N) → List (String × Loaded N)
  | [] => []
  | (key, value) :: fields => (key, loaded value) :: loadedFields fields

end

end Dumped

end Nightjar
