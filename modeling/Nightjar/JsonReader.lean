import Nightjar.Loaded
import Nightjar.Python.RationalLoads

/-!
# The reader of JSON text

The machine of `json.loads`, with the exceptions that Python raises when it refuses a text.
-/

namespace Nightjar

open Python

section Reader

variable {N : Type}

/-- `json.loads` and the decoding of bytes. `describe` and `decodeError` are the texts of the
    exceptions. -/
def jsonReader (floats : Loads.Floats (Reading N)) (describe : Loads.Failure → String → String)
    (decodeError : List UInt8 → String) : Reader N where
  loads text :=
    match Loads.loads floats text.toList with
    | .ok value => .ok value
    | .error .syntax_ => .error ⟨.jsonDecodeError, describe .syntax_ text⟩
    | .error .intDigits => .error ⟨.valueError, describe .intDigits text⟩
  decodeError := decodeError

end Reader

mutual

/-- What is read back is the value with finite floats. -/
theorem loaded_eq_mapFloats {N : Type} : ∀ v : Json N, loaded v = v.mapFloats .finite
  | .null => rfl
  | .bool _ => rfl
  | .int _ => rfl
  | .float _ => rfl
  | .str _ => rfl
  | .arr items => congrArg Json.arr (loadedItems_eq_mapFloats items)
  | .obj fields => congrArg Json.obj (loadedFields_eq_mapFloats fields)

theorem loadedItems_eq_mapFloats {N : Type} :
    ∀ items : List (Json N), loadedItems items = Json.mapFloatsItems .finite items
  | [] => rfl
  | item :: items => by
    rw [loadedItems, Json.mapFloatsItems, loaded_eq_mapFloats item, loadedItems_eq_mapFloats items]

theorem loadedFields_eq_mapFloats {N : Type} :
    ∀ fields : List (String × Json N), loadedFields fields = Json.mapFloatsFields .finite fields
  | [] => rfl
  | (_, value) :: fields => by
    rw [loadedFields, Json.mapFloatsFields, loaded_eq_mapFloats value,
      loadedFields_eq_mapFloats fields]

end

section Texts

variable {N : Type} {floats : Loads.Floats (Reading N)}
  {describe : Loads.Failure → String → String} {decodeError : List UInt8 → String}

theorem jsonReader_ok {text : List Char} {value : Loaded N}
    (read : Loads.loads floats text = .ok value) :
    (jsonReader floats describe decodeError).loads (String.ofList text) = .ok value := by
  have chars : (String.ofList text).toList = text := String.toList_ofList
  simp only [jsonReader, chars, read]

theorem jsonReader_error {text : List Char} {e : Loads.Failure}
    (refused : Loads.loads floats text = .error e) :
    ∃ exc, (jsonReader floats describe decodeError).loads (String.ofList text) = .error exc := by
  have chars : (String.ofList text).toList = text := String.toList_ofList
  cases e <;> exact ⟨_, by simp only [jsonReader, chars, refused]; rfl⟩

theorem jsonReader_intDigits {text : List Char}
    (refused : Loads.loads floats text = .error .intDigits) :
    (jsonReader floats describe decodeError).loads (String.ofList text) =
      .error ⟨.valueError, describe .intDigits (String.ofList text)⟩ := by
  have chars : (String.ofList text).toList = text := String.toList_ofList
  simp only [jsonReader, chars, refused]

/-- A value is read back from its text. -/
theorem jsonReader_render [PyText N] [LawfulFloatText N] (roundTrips : floats.RoundTrips .finite)
    {v : Json N} (distinct : v.Distinct) (short : v.shortInts = true) :
    (jsonReader floats describe decodeError).loads (String.ofList (v.render Json.ascii)) =
      .ok (loaded v) := by
  rw [loaded_eq_mapFloats]
  exact jsonReader_ok (Loads.loads_render roundTrips distinct short)

/-- Digits that `int()` does not convert. -/
theorem loads_ones (floats : Loads.Floats (Reading N)) {n : Nat} (long : intMaxStrDigits ≤ n) :
    Loads.loads floats (List.replicate (n + 1) '1') = .error .intDigits := by
  have digits : ∀ c ∈ List.replicate (n + 1) '1', c.isDigit = true := by
    intro c member
    rw [List.eq_of_mem_replicate member]
    rfl
  rw [List.replicate_succ] at digits ⊢
  have enough : intMaxStrDigits ≤ (List.replicate n '1').length := by
    rw [List.length_replicate]
    exact long
  exact Loads.loads_long floats (by decide) digits enough

/-- A number of one digit more than `int()` converts. -/
def longNumber : List Char := List.replicate (intMaxStrDigits + 1) '1'

/-- It raises the plain `ValueError`. -/
theorem jsonReader_longNumber :
    (jsonReader floats describe decodeError).loads (String.ofList longNumber) =
      .error ⟨.valueError, describe .intDigits (String.ofList longNumber)⟩ := by
  have refused : Loads.loads floats longNumber = .error .intDigits := by
    rw [longNumber]
    exact loads_ones floats (le_refl intMaxStrDigits)
  exact jsonReader_intDigits refused

end Texts

section Sample

/-- The texts of the samples' errors. -/
def sampleDescribe (_ : Loads.Failure) (_ : String) : String := "Extra data: line 1 column 2"

/-- Rational floats, as they are read. -/
def sampleFloats : Loads.Floats (Reading ℚ) := rationalFloats .finite .nan .posInf .negInf

theorem sampleFloats_roundTrips : sampleFloats.RoundTrips .finite :=
  rationalFloats_roundTrips Reading.finite Reading.nan Reading.posInf Reading.negInf

/-- `json.loads` of the samples. -/
abbrev sampleJson : Reader ℚ := jsonReader sampleFloats sampleDescribe fun _ => "invalid start byte"

end Sample

end Nightjar
