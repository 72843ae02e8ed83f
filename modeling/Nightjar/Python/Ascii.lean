import Mathlib.Data.Bool.AllAny
import Nightjar.Python.Text

/-!
# `json.dumps` with its defaults

The style of `json.dumps` without keyword arguments: a blank after commas and colons, and every
character outside printable ASCII escaped. So a text has no line break, and it is read back as one
line from a file of such texts.
-/

namespace Python

namespace Json

/-- `ensure_ascii=True`: a character beyond the basic plane is a pair of surrogates. -/
def escapeAscii (c : Char) : List Char :=
  match shortEscape c with
  | some e => ['\\', e]
  | none =>
    if 32 ≤ c.toNat ∧ c.toNat < 127 then [c]
    else if c.toNat < 65536 then '\\' :: 'u' :: hex4 c.toNat
    else
      '\\' :: 'u' :: (hex4 (55296 + (c.toNat - 65536) / 1024) ++
        '\\' :: 'u' :: hex4 (56320 + (c.toNat - 65536) % 1024))

/-- A character is no surrogate. -/
theorem toNat_scalar (c : Char) : c.toNat < 55296 ∨ 57343 < c.toNat ∧ c.toNat < 1114112 := c.valid

/-- The four forms of an escape. -/
theorem escapeAscii_cases (c : Char) :
    (∃ e, shortEscape c = some e ∧ escapeAscii c = ['\\', e]) ∨
      (c ≠ '\\' ∧ c ≠ '"' ∧ escapeAscii c = [c]) ∨
      (c.toNat < 65536 ∧ escapeAscii c = '\\' :: 'u' :: hex4 c.toNat) ∨
      (65536 ≤ c.toNat ∧ escapeAscii c =
        '\\' :: 'u' :: (hex4 (55296 + (c.toNat - 65536) / 1024) ++
          '\\' :: 'u' :: hex4 (56320 + (c.toNat - 65536) % 1024))) := by
  unfold escapeAscii
  cases short : shortEscape c with
  | some e => exact Or.inl ⟨e, rfl, rfl⟩
  | none =>
    dsimp only
    split_ifs with plain basic
    · refine Or.inr (Or.inl ⟨?_, ?_, rfl⟩)
      · rintro rfl; cases short
      · rintro rfl; cases short
    · exact Or.inr (Or.inr (Or.inl ⟨basic, rfl⟩))
    · exact Or.inr (Or.inr (Or.inr ⟨Nat.le_of_not_lt basic, rfl⟩))

/-- The defaults of `json.dumps`. -/
def ascii : Style where
  escape := escapeAscii
  afterComma := [' ']
  afterColon := [' ']

/-- A printable ASCII character. -/
def Printable (c : Char) : Prop := 32 ≤ c.toNat ∧ c.toNat < 127

instance (c : Char) : Decidable (Printable c) := inferInstanceAs (Decidable (_ ∧ _))

theorem printable_hex4 (n : Nat) : ∀ c ∈ hex4 n, Printable c := by
  have digit : ∀ d : Fin 16, Printable (Nat.digitChar d) := by decide
  intro c member
  simp only [hex4, List.mem_cons, List.not_mem_nil, or_false] at member
  rcases member with rfl | rfl | rfl | rfl <;>
    exact digit ⟨_ % 16, Nat.mod_lt _ (by decide)⟩

theorem printable_shortEscape {c e : Char} (escaped : shortEscape c = some e) : Printable e := by
  unfold shortEscape at escaped
  split at escaped <;> first | cases escaped; decide | cases escaped

theorem printable_escapeAscii (c : Char) : ∀ d ∈ escapeAscii c, Printable d := by
  unfold escapeAscii
  cases short : shortEscape c with
  | some e =>
    simp only [List.mem_cons, List.not_mem_nil, or_false]
    rintro d (rfl | rfl)
    · decide
    · exact printable_shortEscape short
  | none =>
    dsimp only
    split_ifs with plain basic
    · rintro d member
      rw [List.mem_singleton.mp member]
      exact plain
    · simp only [List.mem_cons]
      rintro d (rfl | rfl | digit)
      · decide
      · decide
      · exact printable_hex4 _ d digit
    · simp only [List.mem_cons, List.mem_append]
      rintro d (rfl | rfl | digit | rfl | rfl | digit)
      · decide
      · decide
      · exact printable_hex4 _ d digit
      · decide
      · decide
      · exact printable_hex4 _ d digit

theorem printable_quote (s : String) : ∀ c ∈ quote ascii s, Printable c := by
  intro c member
  simp only [quote, List.mem_cons, List.mem_append, List.mem_flatMap, List.not_mem_nil,
    or_false] at member
  rcases member with rfl | ⟨d, -, escaped⟩ | rfl
  · decide
  · exact printable_escapeAscii d c escaped
  · decide

theorem printable_of_isNumberChar {c : Char} (number : isNumberChar c = true) : Printable c := by
  simp only [isNumberChar, Char.isDigit, Bool.or_eq_true, Bool.and_eq_true, decide_eq_true_eq,
    beq_iff_eq] at number
  rcases number with (((⟨low, high⟩ | rfl) | rfl) | rfl) | rfl
  · have low' : 48 ≤ c.toNat := low
    have high' : c.toNat ≤ 57 := high
    exact ⟨by omega, by omega⟩
  · decide
  · decide
  · decide
  · decide

section Printable

variable {N : Type} [PyText N]

mutual

/-- A text is printable ASCII. -/
theorem printable_render [LawfulFloatText N] :
    ∀ v : Json N, ∀ c ∈ render ascii v, Printable c
  | .null => List.all_iff_forall_prop.mp rfl
  | .bool true => List.all_iff_forall_prop.mp rfl
  | .bool false => List.all_iff_forall_prop.mp rfl
  | .int i => fun c member => printable_of_isNumberChar (intText_numeral i c member)
  | .float x => fun c member => printable_of_isNumberChar (LawfulFloatText.repr_chars x c member)
  | .str s => printable_quote s
  | .arr items => by
    intro c member
    simp only [render, List.mem_cons, List.mem_append, List.not_mem_nil, or_false] at member
    rcases member with rfl | inside | rfl
    · decide
    · exact printable_renderItems items c inside
    · decide
  | .obj fields => by
    intro c member
    simp only [render, List.mem_cons, List.mem_append, List.not_mem_nil, or_false] at member
    rcases member with rfl | inside | rfl
    · decide
    · exact printable_renderFields fields c inside
    · decide

theorem printable_renderItems [LawfulFloatText N] :
    ∀ items : List (Json N), ∀ c ∈ renderItems ascii items, Printable c
  | [] => fun c member => nomatch member
  | item :: items => by
    intro c member
    rcases List.mem_append.mp member with first | rest
    · exact printable_render item c first
    · exact printable_renderMoreItems items c rest

theorem printable_renderMoreItems [LawfulFloatText N] :
    ∀ items : List (Json N), ∀ c ∈ renderMoreItems ascii items, Printable c
  | [] => fun c member => nomatch member
  | item :: items => by
    intro c member
    simp only [renderMoreItems, ascii, List.mem_cons, List.mem_append, List.not_mem_nil,
      or_false] at member
    rcases member with rfl | rfl | first | rest
    · decide
    · decide
    · exact printable_render item c first
    · exact printable_renderMoreItems items c rest

theorem printable_renderFields [LawfulFloatText N] :
    ∀ fields : List (String × Json N), ∀ c ∈ renderFields ascii fields, Printable c
  | [] => fun c member => nomatch member
  | (key, value) :: fields => by
    intro c member
    rw [renderFields, List.mem_append] at member
    rcases member with name | member
    · exact printable_quote key c name
    simp only [ascii, List.mem_cons, List.mem_append, List.not_mem_nil, or_false] at member
    rcases member with rfl | rfl | first | rest
    · decide
    · decide
    · exact printable_render value c first
    · exact printable_renderMoreFields fields c rest

theorem printable_renderMoreFields [LawfulFloatText N] :
    ∀ fields : List (String × Json N), ∀ c ∈ renderMoreFields ascii fields, Printable c
  | [] => fun c member => nomatch member
  | (key, value) :: fields => by
    intro c member
    rw [renderMoreFields, List.mem_cons, List.mem_append, List.mem_append] at member
    rcases member with rfl | blank | name | member
    · decide
    · rw [List.mem_singleton.mp blank]
      decide
    · exact printable_quote key c name
    simp only [ascii, List.mem_cons, List.mem_append, List.not_mem_nil, or_false] at member
    rcases member with rfl | rfl | first | rest
    · decide
    · decide
    · exact printable_render value c first
    · exact printable_renderMoreFields fields c rest

end

end Printable

end Json

/-! ## Lines of a file -/

theorem not_isLineBreak_of_printable {c : Char} (printable : Json.Printable c) :
    isLineBreak c = false := by
  obtain ⟨low, high⟩ := printable
  simp only [isLineBreak, decide_eq_false_iff_not, List.mem_cons, List.not_mem_nil, or_false]
  omega

/-- A line without breaks is the first of the lines that follow it. -/
theorem splitlines_append_newline {line : List Char} (printable : ∀ c ∈ line, Json.Printable c)
    (rest : List Char) : splitlines (line ++ '\n' :: rest) = line :: splitlines rest := by
  induction line with
  | nil => rfl
  | cons c line ih =>
    rw [List.forall_mem_cons] at printable
    have unbroken := not_isLineBreak_of_printable printable.1
    have other : c ≠ '\r' := by
      rintro rfl
      cases unbroken
    rw [List.cons_append, splitlines]
    · rw [ih printable.2]
      simp [unbroken]
    · exact fun _ same _ => other same

/-- A file of printable lines has these lines. -/
theorem splitlines_flatMap {lines : List (List Char)}
    (printable : ∀ line ∈ lines, ∀ c ∈ line, Json.Printable c) :
    splitlines (lines.flatMap fun line => line ++ ['\n']) = lines := by
  induction lines with
  | nil => rfl
  | cons line lines ih =>
    rw [List.forall_mem_cons] at printable
    rw [List.flatMap_cons, List.append_assoc, List.singleton_append,
      splitlines_append_newline printable.1, ih printable.2]

/-- A text between characters that are no blanks has nothing to strip. -/
theorem strip_eq_self {first last : Char} {middle : List Char} (starts : isSpace first = false)
    (ends : isSpace last = false) :
    strip (first :: (middle ++ [last])) = first :: (middle ++ [last]) := by
  have reversed : (first :: (middle ++ [last])).reverse = last :: (middle.reverse ++ [first]) := by
    simp
  rw [strip, List.dropWhile_cons_of_neg (by simp [starts]), reversed,
    List.dropWhile_cons_of_neg (by simp [ends]), ← reversed, List.reverse_reverse]

/-! ## Bytes of a file -/

theorem encodeUtf8_append (text later : String) :
    encodeUtf8 (text ++ later) = encodeUtf8 text ++ encodeUtf8 later := by
  simp [encodeUtf8, String.toByteArray_append]

/-- A character of ASCII is a byte. -/
theorem encodeUtf8_ofList {text : List Char} (ascii : ∀ c ∈ text, c.toNat < 128) :
    encodeUtf8 (String.ofList text) = text.map fun c => c.val.toUInt8 := by
  have byte : ∀ c ∈ text, String.utf8EncodeChar c = [c.val.toUInt8] := by
    intro c member
    have small : c.toNat ≤ 127 := Nat.le_of_lt_succ (ascii c member)
    exact String.utf8EncodeChar_eq_singleton (Char.utf8Size_eq_one_iff.mpr small)
  rw [encodeUtf8, String.toByteArray_ofList, List.utf8Encode, List.data_toByteArray,
    List.flatMap_congr byte, ← List.map_eq_flatMap]

/-- The first bytes of a text in ASCII are its first characters. -/
theorem take_encodeUtf8 {text : List Char} (ascii : ∀ c ∈ text, c.toNat < 128) (n : Nat) :
    (encodeUtf8 (String.ofList text)).take n = encodeUtf8 (String.ofList (text.take n)) := by
  have begins : ∀ c ∈ text.take n, c.toNat < 128 :=
    fun c member => ascii c (List.mem_of_mem_take member)
  rw [encodeUtf8_ofList ascii, encodeUtf8_ofList begins, List.map_take]

theorem length_encodeUtf8 {text : List Char} (ascii : ∀ c ∈ text, c.toNat < 128) :
    (encodeUtf8 (String.ofList text)).length = text.length := by
  rw [encodeUtf8_ofList ascii, List.length_map]

end Python
