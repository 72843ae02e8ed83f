import Nightjar.Python.Json

/-!
# Python strings and what is read from JSON text

The operations on `str` that the acceptance checks use: `in`, `splitlines`, `strip`, the decoding of
UTF-8; and, for the values that `json.loads` returns, `bool`, `str` and `repr`. A number that was
read may also be infinite or not a number.
-/

namespace Python

/-- `part in whole`. -/
def occursIn (part whole : String) : Prop := part.toList <:+: whole.toList

instance (part whole : String) : Decidable (occursIn part whole) :=
  inferInstanceAs (Decidable (_ <:+: _))

/-- What is before a separator that is not in the part is a prefix of the whole. -/
theorem prefix_of_prefix_append_cons {α : Type} {part before after : List α} {c : α}
    (absent : c ∉ part) (found : part <+: before ++ c :: after) : part <+: before := by
  rcases List.prefix_or_prefix_of_prefix found (List.prefix_append before (c :: after)) with
    inside | ⟨rest, rfl⟩
  · exact inside
  · have continues := (List.prefix_append_right_inj before).mp found
    cases rest with
    | nil => rw [List.append_nil]
    | cons d rest =>
      obtain ⟨rfl, -⟩ := List.cons_prefix_cons.mp continues
      exact absurd (List.mem_append_right _ List.mem_cons_self) absent

/-- A part without a separator occurs on one side of it. -/
theorem infix_append_cons_iff {α : Type} {part before after : List α} {c : α} (absent : c ∉ part) :
    part <:+: before ++ c :: after ↔ part <:+: before ∨ part <:+: after := by
  induction before with
  | nil =>
    rw [List.nil_append, List.infix_cons_iff]
    refine or_congr_left ⟨fun found => ?_, fun found => ?_⟩
    · have inside : part <+: [] := prefix_of_prefix_append_cons absent found
      exact inside.isInfix
    · rw [List.infix_nil.mp found]
      exact List.nil_prefix
  | cons d before ih =>
    rw [List.cons_append, List.infix_cons_iff, List.infix_cons_iff, ih, or_assoc]
    refine or_congr_left ⟨fun found => ?_, fun found => ?_⟩
    · have inside : part <+: d :: before := prefix_of_prefix_append_cons absent found
      exact inside
    · exact found.trans (List.prefix_append (d :: before) _)

/-- A part does not begin in a text without its first character. -/
theorem infix_append_iff_of_head {α : Type} {part before after : List α} {c : α}
    (starts : part.head? = some c) (absent : c ∉ before) :
    part <:+: before ++ after ↔ part <:+: after := by
  obtain ⟨rest, rfl⟩ := List.head?_eq_some_iff.mp starts
  induction before with
  | nil => rfl
  | cons d before ih =>
    rw [List.mem_cons, not_or] at absent
    rw [List.cons_append, List.infix_cons_iff, ih absent.2, List.cons_prefix_cons]
    simp [absent.1]

/-- What is joined has the characters of the separator and of the parts. -/
theorem mem_intercalate {separator : String} {c : Char} : ∀ {parts : List String},
    c ∈ (separator.intercalate parts).toList →
      c ∈ separator.toList ∨ ∃ part ∈ parts, c ∈ part.toList
  | [], member => by
    rw [String.intercalate_nil] at member
    cases member
  | [part], member => by
    rw [String.intercalate_singleton] at member
    exact Or.inr ⟨part, List.mem_cons_self, member⟩
  | part :: next :: parts, member => by
    rw [String.intercalate_cons_cons] at member
    simp only [String.toList_append, List.mem_append] at member
    rcases member with (first | between) | rest
    · exact Or.inr ⟨part, List.mem_cons_self, first⟩
    · exact Or.inl between
    · rcases mem_intercalate rest with between | ⟨other, among, inside⟩
      · exact Or.inl between
      · exact Or.inr ⟨other, List.mem_cons_of_mem _ among, inside⟩

theorem occursIn_ofList (part : String) (text : List Char) :
    occursIn part (String.ofList text) ↔ part.toList <:+: text := by
  have same : (String.ofList text).toList = text := String.toList_ofList
  unfold occursIn
  rw [same]

/-- A part without line breaks occurs in lines that each end with one just when it occurs in one
    of them. -/
theorem infix_lines_iff {part : List Char} (some : part ≠ []) (absent : '\n' ∉ part)
    (lines : List String) :
    part <:+: lines.flatMap (fun line => line.toList ++ ['\n']) ↔
      ∃ line ∈ lines, part <:+: line.toList := by
  induction lines with
  | nil => simp [some]
  | cons line lines ih =>
    rw [List.flatMap_cons, List.append_assoc, List.singleton_append,
      infix_append_cons_iff absent, ih]
    simp

/-- `bytes.decode("utf-8")`; `none` is `UnicodeDecodeError`. -/
def decodeUtf8 (bytes : List UInt8) : Option String := String.fromUTF8? ⟨bytes.toArray⟩

/-- `text.encode("utf-8")`. -/
def encodeUtf8 (text : String) : List UInt8 := text.toByteArray.data.toList

theorem decodeUtf8_encodeUtf8 (text : String) : decodeUtf8 (encodeUtf8 text) = some text := by
  unfold decodeUtf8 encodeUtf8
  rw [Array.toArray_toList, String.fromUTF8?, dif_pos text.isValidUTF8]
  rfl

/-- The line boundaries of `splitlines`, which include those of a file read as text. -/
def isLineBreak (c : Char) : Bool :=
  c.toNat ∈ [0x0a, 0x0b, 0x0c, 0x0d, 0x1c, 0x1d, 0x1e, 0x85, 0x2028, 0x2029]

/-- `text.splitlines()`. -/
def splitlines : List Char → List (List Char)
  | [] => []
  | '\r' :: '\n' :: rest => [] :: splitlines rest
  | c :: rest =>
    if isLineBreak c then [] :: splitlines rest
    else
      match splitlines rest with
      | [] => [[c]]
      | line :: lines => (c :: line) :: lines

/-- `c.isspace()`. -/
def isSpace (c : Char) : Bool :=
  isLineBreak c || c.toNat ∈ [0x09, 0x1f, 0x20, 0xa0, 0x1680, 0x202f, 0x205f, 0x3000] ||
    (0x2000 ≤ c.toNat && c.toNat ≤ 0x200a)

/-- `text.strip()`. -/
def strip (text : List Char) : List Char :=
  ((text.dropWhile isSpace).reverse.dropWhile isSpace).reverse

/-- The number of some decimal digits with underscores between them. There is a limit to how many
    digits are read. -/
def natOfText (text : List Char) : Option Nat :=
  let groups := text.splitOn '_'
  if groups.all (fun group => group ≠ [] && group.all Char.isDigit) &&
      groups.flatten.length ≤ 4300 then
    some (Nat.ofDigitChars 10 groups.flatten 0)
  else none

/-- `int(text)` for a text without other decimal digits than those of ASCII, as a header is;
    `none` is a `ValueError`. -/
def intOfText (text : String) : Option Int :=
  match strip text.toList with
  | '-' :: digits => (natOfText digits).map fun n => -(n : Int)
  | '+' :: digits => (natOfText digits).map Int.ofNat
  | digits => (natOfText digits).map Int.ofNat

namespace Json

variable {N : Type} [PyText N]

mutual

/-- `repr(value)`. An integer that was read has few enough digits to be written. -/
def pyRepr : Json N → String
  | .null => "None"
  | .bool true => "True"
  | .bool false => "False"
  | .int i => toString i
  | .float x => PyText.repr x
  | .str s => strRepr s
  | .arr items => "[" ++ ", ".intercalate (pyReprItems items) ++ "]"
  | .obj fields => "\x7b" ++ ", ".intercalate (pyReprFields fields) ++ "\x7d"

/-- The items of a list. -/
def pyReprItems : List (Json N) → List String
  | [] => []
  | item :: items => pyRepr item :: pyReprItems items

/-- The entries of a dictionary. -/
def pyReprFields : List (String × Json N) → List String
  | [] => []
  | (key, value) :: fields => (strRepr key ++ ": " ++ pyRepr value) :: pyReprFields fields

end

/-- `str(value)`. -/
def pyStr : Json N → String
  | .str s => s
  | value => value.pyRepr

omit [PyText N] in
/-- `bool(value)`. -/
def truthy [Zero N] [DecidableEq N] : Json N → Bool
  | .null => false
  | .bool b => b
  | .int i => i ≠ 0
  | .float x => x ≠ 0
  | .str s => s ≠ ""
  | .arr items => items.length ≠ 0
  | .obj fields => fields.length ≠ 0

/-- `isinstance(value, dict)`. -/
def isObject : Json N → Bool
  | .obj _ => true
  | _ => false

/-- `type(value).__name__`. -/
def typeName : Json N → String
  | .null => "NoneType"
  | .bool _ => "bool"
  | .int _ => "int"
  | .float _ => "float"
  | .str _ => "str"
  | .arr _ => "list"
  | .obj _ => "dict"

end Json

end Python
