import Nightjar.Python.Numbers
import Mathlib.Data.List.Sort

/-!
# `json.dumps`

`Json` is the type of the values that `json.dumps` serializes: `None`, `bool`, `int`, `float`
(finite, as `allow_nan=False` demands), `str`, `list` and `dict` with string keys in insertion
order. `render` is the serializer; what the call's keyword arguments change is its `Style`:
the text after a comma and a colon (`separators`) and the escaping of a character
(`ensure_ascii`). `sort_keys=True` is a pass before it, `sortKeys`.

`render_injective` says that the text determines the value: rendering is unambiguous whatever
the strings contain, as long as the escape of every character can be read off the text.
-/

namespace Python

/-- A value `json.dumps` accepts. -/
inductive Json (N : Type) where
  | null
  | bool (b : Bool)
  | int (i : Int)
  | float (x : N)
  | str (s : String)
  | arr (items : List (Json N))
  | obj (fields : List (String × Json N))

namespace Json

/-- The JSON number an uncoerced attribute is written as. -/
def ofPyNum {N : Type} : PyNum N → Json N
  | .int i => .int i
  | .float x => .float x

/-- Values built from strings, integers and dictionaries only. -/
inductive Plain {N : Type} : Json N → Prop
  | int (i : Int) : Plain (.int i)
  | str (s : String) : Plain (.str s)
  | obj (fields : List (String × Json N)) (distinct : (fields.map Prod.fst).Nodup)
      (plain : ∀ field ∈ fields, Plain field.2) : Plain (.obj fields)

/-- What the keyword arguments of `json.dumps` decide. -/
structure Style where
  escape : Char → List Char
  afterComma : List Char
  afterColon : List Char

/-- A string literal: the escaped characters between quotes. -/
def quote (st : Style) (s : String) : List Char :=
  '"' :: (s.toList.flatMap st.escape ++ ['"'])

section Render

variable {N : Type} [PyText N] (st : Style)

mutual

/-- The text of a value. -/
def render : Json N → List Char
  | .null => ['n', 'u', 'l', 'l']
  | .bool true => ['t', 'r', 'u', 'e']
  | .bool false => ['f', 'a', 'l', 's', 'e']
  | .int i => (toString i).toList
  | .float x => (PyText.repr x).toList
  | .str s => quote st s
  | .arr items => '[' :: (renderItems items ++ [']'])
  | .obj fields => '{' :: (renderFields fields ++ ['}'])

/-- The items of a list, separated by commas. -/
def renderItems : List (Json N) → List Char
  | [] => []
  | item :: items => render item ++ renderMoreItems items

/-- The items after the first. -/
def renderMoreItems : List (Json N) → List Char
  | [] => []
  | item :: items => ',' :: (st.afterComma ++ (render item ++ renderMoreItems items))

/-- The entries of an object, separated by commas. -/
def renderFields : List (String × Json N) → List Char
  | [] => []
  | (key, value) :: fields =>
      quote st key ++ ':' :: (st.afterColon ++ (render value ++ renderMoreFields fields))

/-- The entries after the first. -/
def renderMoreFields : List (String × Json N) → List Char
  | [] => []
  | (key, value) :: fields =>
      ',' :: (st.afterComma ++
        (quote st key ++ ':' :: (st.afterColon ++ (render value ++ renderMoreFields fields))))

end

end Render

mutual

/-- `sort_keys=True`: the entries of every object in the order of their keys. -/
def sortKeys {N : Type} : Json N → Json N
  | .arr items => .arr (sortItems items)
  | .obj fields => .obj ((sortFields fields).insertionSort fun a b => a.1 ≤ b.1)
  | .null => .null
  | .bool b => .bool b
  | .int i => .int i
  | .float x => .float x
  | .str s => .str s

/-- `sortKeys` in every item. -/
def sortItems {N : Type} : List (Json N) → List (Json N)
  | [] => []
  | item :: items => sortKeys item :: sortItems items

/-- `sortKeys` in every entry's value. -/
def sortFields {N : Type} : List (String × Json N) → List (String × Json N)
  | [] => []
  | (key, value) :: fields => (key, sortKeys value) :: sortFields fields

end

mutual

/-- Every `int` has few enough digits for its text; of others `json.dumps` raises. -/
def shortInts {N : Type} : Json N → Bool
  | .int i => (intStr? i).isSome
  | .arr items => shortIntsItems items
  | .obj fields => shortIntsFields fields
  | .null | .bool _ | .float _ | .str _ => true

/-- `shortInts` of every item. -/
def shortIntsItems {N : Type} : List (Json N) → Bool
  | [] => true
  | item :: items => shortInts item && shortIntsItems items

/-- `shortInts` of every entry's value. -/
def shortIntsFields {N : Type} : List (String × Json N) → Bool
  | [] => true
  | (_, value) :: fields => shortInts value && shortIntsFields fields

end

/-- The two-character escapes that both settings of `ensure_ascii` use. -/
def shortEscape : Char → Option Char
  | '"' => some '"'
  | '\\' => some '\\'
  | '\n' => some 'n'
  | '\r' => some 'r'
  | '\t' => some 't'
  | '\x0c' => some 'f'
  | '\x08' => some 'b'
  | _ => none

/-- `format(n, '04x')` for `n < 65536`, after the `u` of an escape. -/
def hex4 (n : Nat) : List Char :=
  [Nat.digitChar (n / 4096 % 16), Nat.digitChar (n / 256 % 16), Nat.digitChar (n / 16 % 16),
    Nat.digitChar (n % 16)]

/-- `ensure_ascii=False`: only quotes, backslashes and control characters are escaped. -/
def escapeUnicode (c : Char) : List Char :=
  match shortEscape c with
  | some e => ['\\', e]
  | none => if c.toNat < 32 then '\\' :: 'u' :: hex4 c.toNat else [c]

/-- `separators=(",", ":"), ensure_ascii=False`. -/
def compact : Style where
  escape := escapeUnicode
  afterComma := []
  afterColon := []

/-- `repr(s)`, what `!r` inserts. Characters outside ASCII are taken as printable. -/
def strRepr (s : String) : String :=
  let quote : Char := if s.toList.contains '\'' ∧ ¬ s.toList.contains '"' then '"' else '\''
  let escape : Char → List Char := fun c =>
    if c = quote ∨ c = '\\' then ['\\', c]
    else if c = '\n' then ['\\', 'n']
    else if c = '\r' then ['\\', 'r']
    else if c = '\t' then ['\\', 't']
    else if c.toNat < 32 ∨ c.toNat = 127 then '\\' :: 'x' :: (hex4 c.toNat).drop 2
    else [c]
  String.ofList (quote :: (s.toList.flatMap escape ++ [quote]))

/-! ## Rendering is unambiguous -/

/-- What the escapes must satisfy for a string literal to be readable: the escape of a character
    is never taken for the closing quote, and no escape is the beginning of another. -/
structure Style.Readable (st : Style) : Prop where
  escape_not_quote : ∀ (c : Char) (rest after : List Char), st.escape c ++ rest ≠ '"' :: after
  escape_code : ∀ (c d : Char) (rest rest' : List Char),
    st.escape c ++ rest = st.escape d ++ rest' → c = d ∧ rest = rest'

theorem flatMap_escape_injective {st : Style} (readable : st.Readable) :
    ∀ (cs ds rest rest' : List Char),
      cs.flatMap st.escape ++ '"' :: rest = ds.flatMap st.escape ++ '"' :: rest' →
        cs = ds ∧ rest = rest' := by
  intro cs
  induction cs with
  | nil =>
    intro ds rest rest' same
    cases ds with
    | nil => simpa using same
    | cons d ds =>
      rw [List.flatMap_cons, List.append_assoc] at same
      exact absurd same.symm (readable.escape_not_quote d _ rest)
  | cons c cs ih =>
    intro ds rest rest' same
    cases ds with
    | nil =>
      rw [List.flatMap_cons, List.append_assoc] at same
      exact absurd same (readable.escape_not_quote c _ rest')
    | cons d ds =>
      rw [List.flatMap_cons, List.flatMap_cons, List.append_assoc, List.append_assoc] at same
      obtain ⟨rfl, tail⟩ := readable.escape_code c d _ _ same
      obtain ⟨rfl, after⟩ := ih ds rest rest' tail
      exact ⟨rfl, after⟩

/-- A string literal determines its string and what follows it. -/
theorem quote_append_injective {st : Style} (readable : st.Readable) {s t : String}
    {rest rest' : List Char} (same : quote st s ++ rest = quote st t ++ rest') :
    s = t ∧ rest = rest' := by
  simp only [quote, List.cons_append, List.append_assoc, List.nil_append,
    List.cons.injEq, true_and] at same
  obtain ⟨chars, after⟩ := flatMap_escape_injective readable _ _ _ _ same
  exact ⟨String.toList_inj.mp chars, after⟩

/-- What may follow a value in a text: the end, or a character that is in no number. -/
def Delimited (rest : List Char) : Prop :=
  ∀ c after, rest = c :: after → isNumberChar c = false

theorem delimited_nil : Delimited [] := by
  intro c after h
  cases h

theorem delimited_cons {c : Char} {rest : List Char} (other : isNumberChar c = false) :
    Delimited (c :: rest) := by
  intro d after h
  cases h
  exact other

/-- Two numerals followed by something else agree as soon as the texts do. -/
theorem numeral_append_injective :
    ∀ (cs ds : List Char), (∀ c ∈ cs, isNumberChar c = true) →
      (∀ d ∈ ds, isNumberChar d = true) → ∀ {rest rest' : List Char}, Delimited rest →
        Delimited rest' → cs ++ rest = ds ++ rest' → cs = ds ∧ rest = rest' := by
  intro cs
  induction cs with
  | nil =>
    intro ds _ numeral rest rest' stop _ same
    cases ds with
    | nil => exact ⟨rfl, same⟩
    | cons d ds =>
      have number := numeral d List.mem_cons_self
      rw [stop d _ same] at number
      cases number
  | cons c cs ih =>
    intro ds numeral numeral' rest rest' stop stop' same
    cases ds with
    | nil =>
      have number := numeral c List.mem_cons_self
      rw [stop' c _ same.symm] at number
      cases number
    | cons d ds =>
      simp only [List.cons_append, List.cons.injEq] at same
      obtain ⟨rfl, tail⟩ := same
      obtain ⟨rfl, after⟩ := ih ds (fun x h => numeral x (List.mem_cons_of_mem _ h))
        (fun x h => numeral' x (List.mem_cons_of_mem _ h)) stop stop' tail
      exact ⟨rfl, after⟩

theorem natText_digits (n : Nat) : ∀ c ∈ (Nat.repr n).toList, c.isDigit = true := by
  intro c member
  rw [Nat.toList_repr] at member
  exact Nat.isDigit_of_mem_toDigits (by decide) (by decide) member

theorem natText_ne_nil (n : Nat) : (Nat.repr n).toList ≠ [] := by
  rw [Nat.toList_repr]
  exact Nat.toDigits_ne_nil

theorem natText_injective {m n : Nat} (same : (Nat.repr m).toList = (Nat.repr n).toList) :
    m = n := by
  rw [Nat.toList_repr, Nat.toList_repr] at same
  rw [← Nat.ofDigitChars_ten_toDigits (n := m), same, Nat.ofDigitChars_ten_toDigits]

theorem intText_negSucc (n : Nat) :
    (toString (Int.negSucc n)).toList = '-' :: (Nat.repr (n + 1)).toList := by
  change ("-" ++ Nat.repr (n + 1)).toList = _
  rw [String.toList_append]
  rfl

/-- The text of an `int` is made of digits and a sign. -/
theorem intText_chars (i : Int) : ∀ c ∈ (toString i).toList, c.isDigit = true ∨ c = '-' := by
  intro c member
  cases i with
  | ofNat n => exact Or.inl (natText_digits n c member)
  | negSucc n =>
    rw [intText_negSucc, List.mem_cons] at member
    rcases member with rfl | member
    · exact Or.inr rfl
    · exact Or.inl (natText_digits _ c member)

/-- Different integers have different texts. -/
theorem intText_injective {i j : Int} (same : (toString i).toList = (toString j).toList) :
    i = j := by
  cases i with
  | ofNat m =>
    cases j with
    | ofNat n => exact congrArg Int.ofNat (natText_injective same)
    | negSucc n =>
      rw [intText_negSucc] at same
      have digit := natText_digits m '-' (by
        change '-' ∈ (toString (Int.ofNat m)).toList
        rw [same]
        exact List.mem_cons_self)
      exact absurd digit (by decide)
  | negSucc m =>
    cases j with
    | ofNat n =>
      rw [intText_negSucc] at same
      have digit := natText_digits n '-' (by
        change '-' ∈ (toString (Int.ofNat n)).toList
        rw [← same]
        exact List.mem_cons_self)
      exact absurd digit (by decide)
    | negSucc n =>
      rw [intText_negSucc, intText_negSucc, List.cons.injEq] at same
      have magnitudes := natText_injective same.2
      exact congrArg Int.negSucc (by omega)

theorem intText_numeral (i : Int) : ∀ c ∈ (toString i).toList, isNumberChar c = true := by
  intro c member
  rcases intText_chars i c member with digit | rfl
  · simp [isNumberChar, digit]
  · decide

/-- The text of an `int` is never the text of a `float`. -/
theorem intText_ne_floatText {N : Type} [PyText N] [LawfulFloatText N] (i : Int) (x : N) :
    (toString i).toList ≠ (PyText.repr x).toList := by
  intro same
  obtain ⟨c, member, special⟩ := LawfulFloatText.repr_float x
  rw [← same] at member
  rcases special with rfl | rfl <;> rcases intText_chars i _ member with digit | sign
  · exact absurd digit (by decide)
  · exact absurd sign (by decide)
  · exact absurd digit (by decide)
  · exact absurd sign (by decide)

theorem intText_ne_nil (i : Int) : (toString i).toList ≠ [] := by
  cases i with
  | ofNat n => exact natText_ne_nil n
  | negSucc n => rw [intText_negSucc]; exact List.cons_ne_nil _ _

theorem floatText_ne_nil {N : Type} [PyText N] [LawfulFloatText N] (x : N) :
    (PyText.repr x).toList ≠ [] := by
  obtain ⟨c, member, -⟩ := LawfulFloatText.repr_float x
  exact List.ne_nil_of_mem member

/-- What the first character of a text tells about the value. -/
inductive Kind where
  | null | true | false | number | str | arr | obj | other
  deriving DecidableEq

/-- The kind of value a first character announces. -/
def kindOfHead (c : Char) : Kind :=
  if c = 'n' then .null else if c = 't' then .true else if c = 'f' then .false
  else if c = '"' then .str else if c = '[' then .arr else if c = '{' then .obj
  else if isNumberChar c then .number else .other

/-- The kind of a value. -/
def kind {N : Type} : Json N → Kind
  | .null => .null
  | .bool true => .true
  | .bool false => .false
  | .int _ => .number
  | .float _ => .number
  | .str _ => .str
  | .arr _ => .arr
  | .obj _ => .obj

theorem kindOfHead_numeral {c : Char} (number : isNumberChar c = true) :
    kindOfHead c = .number := by
  unfold kindOfHead
  split_ifs with h1 h2 h3 h4 h5 h6
  all_goals first
    | rfl
    | (subst c; exact absurd number (by decide))

section Injective

variable {N : Type} [PyText N] {st : Style}

/-- A text starts with a character that announces the value's kind. -/
theorem render_head [LawfulFloatText N] (st : Style) (v : Json N) :
    ∃ c rest, render st v = c :: rest ∧ kindOfHead c = v.kind := by
  cases v with
  | null => exact ⟨_, _, rfl, rfl⟩
  | bool b => cases b <;> exact ⟨_, _, rfl, rfl⟩
  | int i =>
    obtain ⟨c, rest, text⟩ := List.exists_cons_of_ne_nil (intText_ne_nil i)
    refine ⟨c, rest, text, kindOfHead_numeral (intText_numeral i c ?_)⟩
    rw [text]
    exact List.mem_cons_self
  | float x =>
    obtain ⟨c, rest, text⟩ := List.exists_cons_of_ne_nil (floatText_ne_nil x)
    refine ⟨c, rest, text, kindOfHead_numeral (LawfulFloatText.repr_chars x c ?_)⟩
    rw [text]
    exact List.mem_cons_self
  | str s => exact ⟨'"', _, rfl, rfl⟩
  | arr items => exact ⟨'[', _, rfl, rfl⟩
  | obj fields => exact ⟨'{', _, rfl, rfl⟩

/-- A text never starts with a character that announces no value. -/
theorem render_append_ne [LawfulFloatText N] {c : Char} (announces : kindOfHead c = .other)
    (v : Json N) (rest after : List Char) : render st v ++ rest ≠ c :: after := by
  intro same
  obtain ⟨d, text, head, announced⟩ := render_head st v
  rw [head, List.cons_append, List.cons.injEq] at same
  rw [← same.1, announced] at announces
  cases v with
  | bool b => cases b <;> cases announces
  | _ => cases announces

/-- Texts that agree have values of one kind. -/
theorem kind_eq_of_render_append [LawfulFloatText N] {v w : Json N} {rest rest' : List Char}
    (same : render st v ++ rest = render st w ++ rest') : v.kind = w.kind := by
  obtain ⟨c, text, head, announced⟩ := render_head st v
  obtain ⟨d, text', head', announced'⟩ := render_head st w
  rw [head, head', List.cons_append, List.cons_append, List.cons.injEq] at same
  rw [← announced, ← announced', same.1]

theorem delimited_moreItems (items : List (Json N)) (rest : List Char) :
    Delimited (renderMoreItems st items ++ ']' :: rest) := by
  cases items with
  | nil => exact delimited_cons (by decide)
  | cons item items => exact delimited_cons (by decide)

theorem delimited_moreFields (fields : List (String × Json N)) (rest : List Char) :
    Delimited (renderMoreFields st fields ++ '}' :: rest) := by
  cases fields with
  | nil => exact delimited_cons (by decide)
  | cons field fields => exact delimited_cons (by decide)

mutual

/-- A text followed by a delimiter determines the value and what follows it: the induction is
    on the first value, and lists and objects peel one item at a time off both texts. -/
theorem render_append_injective [LawfulFloatText N] (readable : st.Readable) :
    ∀ (v w : Json N) (rest rest' : List Char), Delimited rest → Delimited rest' →
      render st v ++ rest = render st w ++ rest' → v = w ∧ rest = rest' := by
  intro v w rest rest' stop stop' same
  have kinds := kind_eq_of_render_append same
  match v, w with
  | .null, .null =>
    exact ⟨rfl, by simpa [render] using same⟩
  | .bool true, .bool true => exact ⟨rfl, by simpa [render] using same⟩
  | .bool false, .bool false => exact ⟨rfl, by simpa [render] using same⟩
  | .int i, .int j =>
    obtain ⟨text, after⟩ := numeral_append_injective _ _ (intText_numeral i)
      (intText_numeral j) stop stop' same
    exact ⟨congrArg Json.int (intText_injective text), after⟩
  | .int i, .float y =>
    obtain ⟨text, -⟩ := numeral_append_injective _ _ (intText_numeral i)
      (LawfulFloatText.repr_chars y) stop stop' same
    exact absurd text (intText_ne_floatText i y)
  | .float x, .int j =>
    obtain ⟨text, -⟩ := numeral_append_injective _ _ (LawfulFloatText.repr_chars x)
      (intText_numeral j) stop stop' same
    exact absurd text.symm (intText_ne_floatText j x)
  | .float x, .float y =>
    obtain ⟨text, after⟩ := numeral_append_injective _ _ (LawfulFloatText.repr_chars x)
      (LawfulFloatText.repr_chars y) stop stop' same
    exact ⟨congrArg Json.float
      (LawfulFloatText.repr_injective x y (String.toList_inj.mp text)), after⟩
  | .str s, .str t =>
    obtain ⟨rfl, after⟩ := quote_append_injective readable same
    exact ⟨rfl, after⟩
  | .arr items, .arr items' =>
    simp only [render, List.cons_append, List.append_assoc, List.cons.injEq, true_and,
      List.nil_append] at same
    obtain ⟨rfl, after⟩ := renderItems_append_injective readable items items' rest rest' same
    exact ⟨rfl, after⟩
  | .obj fields, .obj fields' =>
    simp only [render, List.cons_append, List.append_assoc, List.cons.injEq, true_and,
      List.nil_append] at same
    obtain ⟨rfl, after⟩ :=
      renderFields_append_injective readable fields fields' rest rest' same
    exact ⟨rfl, after⟩

theorem renderItems_append_injective [LawfulFloatText N] (readable : st.Readable) :
    ∀ (items items' : List (Json N)) (rest rest' : List Char),
      renderItems st items ++ ']' :: rest = renderItems st items' ++ ']' :: rest' →
        items = items' ∧ rest = rest' := by
  intro items items' rest rest' same
  match items, items' with
  | [], [] => exact ⟨rfl, by simpa [renderItems] using same⟩
  | [], w :: ws =>
    simp only [renderItems, List.nil_append, List.append_assoc] at same
    exact absurd same.symm (render_append_ne (by decide) w _ _)
  | v :: vs, [] =>
    simp only [renderItems, List.nil_append, List.append_assoc] at same
    exact absurd same (render_append_ne (by decide) v _ _)
  | v :: vs, w :: ws =>
    simp only [renderItems, List.append_assoc] at same
    obtain ⟨rfl, tail⟩ := render_append_injective readable v w _ _
      (delimited_moreItems vs rest) (delimited_moreItems ws rest') same
    obtain ⟨rfl, after⟩ := renderMoreItems_append_injective readable vs ws rest rest' tail
    exact ⟨rfl, after⟩

theorem renderMoreItems_append_injective [LawfulFloatText N] (readable : st.Readable) :
    ∀ (items items' : List (Json N)) (rest rest' : List Char),
      renderMoreItems st items ++ ']' :: rest = renderMoreItems st items' ++ ']' :: rest' →
        items = items' ∧ rest = rest' := by
  intro items items' rest rest' same
  match items, items' with
  | [], [] => exact ⟨rfl, by simpa [renderMoreItems] using same⟩
  | [], w :: ws => simp [renderMoreItems] at same
  | v :: vs, [] => simp [renderMoreItems] at same
  | v :: vs, w :: ws =>
    simp only [renderMoreItems, List.cons_append, List.append_assoc, List.cons.injEq, true_and,
      List.append_cancel_left_eq] at same
    obtain ⟨rfl, tail⟩ := render_append_injective readable v w _ _
      (delimited_moreItems vs rest) (delimited_moreItems ws rest') same
    obtain ⟨rfl, after⟩ := renderMoreItems_append_injective readable vs ws rest rest' tail
    exact ⟨rfl, after⟩

theorem renderFields_append_injective [LawfulFloatText N] (readable : st.Readable) :
    ∀ (fields fields' : List (String × Json N)) (rest rest' : List Char),
      renderFields st fields ++ '}' :: rest = renderFields st fields' ++ '}' :: rest' →
        fields = fields' ∧ rest = rest' := by
  intro fields fields' rest rest' same
  match fields, fields' with
  | [], [] => exact ⟨rfl, by simpa [renderFields] using same⟩
  | [], (key, w) :: ws => simp [renderFields, quote] at same
  | (key, v) :: vs, [] => simp [renderFields, quote] at same
  | (key, v) :: vs, (key', w) :: ws =>
    simp only [renderFields, List.append_assoc, List.cons_append] at same
    obtain ⟨rfl, entry⟩ := quote_append_injective readable same
    simp only [List.cons.injEq, true_and, List.append_cancel_left_eq] at entry
    obtain ⟨rfl, tail⟩ := render_append_injective readable v w _ _
      (delimited_moreFields vs rest) (delimited_moreFields ws rest') entry
    obtain ⟨rfl, after⟩ := renderMoreFields_append_injective readable vs ws rest rest' tail
    exact ⟨rfl, after⟩

theorem renderMoreFields_append_injective [LawfulFloatText N] (readable : st.Readable) :
    ∀ (fields fields' : List (String × Json N)) (rest rest' : List Char),
      renderMoreFields st fields ++ '}' :: rest = renderMoreFields st fields' ++ '}' :: rest' →
        fields = fields' ∧ rest = rest' := by
  intro fields fields' rest rest' same
  match fields, fields' with
  | [], [] => exact ⟨rfl, by simpa [renderMoreFields] using same⟩
  | [], (key, w) :: ws => simp [renderMoreFields] at same
  | (key, v) :: vs, [] => simp [renderMoreFields] at same
  | (key, v) :: vs, (key', w) :: ws =>
    simp only [renderMoreFields, List.cons_append, List.append_assoc, List.cons.injEq, true_and,
      List.append_cancel_left_eq] at same
    obtain ⟨rfl, entry⟩ := quote_append_injective readable same
    simp only [List.cons.injEq, true_and, List.append_cancel_left_eq] at entry
    obtain ⟨rfl, tail⟩ := render_append_injective readable v w _ _
      (delimited_moreFields vs rest) (delimited_moreFields ws rest') entry
    obtain ⟨rfl, after⟩ := renderMoreFields_append_injective readable vs ws rest rest' tail
    exact ⟨rfl, after⟩

end

/-- The text of a value determines the value. -/
theorem render_injective [LawfulFloatText N] (readable : st.Readable) {v w : Json N}
    (same : render st v = render st w) : v = w :=
  (render_append_injective readable v w [] [] delimited_nil delimited_nil
    (by rw [same])).1

end Injective

/-! ## The escapes of `ensure_ascii=False` -/

/-- The character a two-character escape stands for. -/
def unescape : Char → Option Char
  | '"' => some '"'
  | '\\' => some '\\'
  | 'n' => some '\n'
  | 'r' => some '\r'
  | 't' => some '\t'
  | 'f' => some '\x0c'
  | 'b' => some '\x08'
  | _ => none

theorem unescape_shortEscape {c e : Char} (escaped : shortEscape c = some e) :
    unescape e = some c := by
  unfold shortEscape at escaped
  split at escaped <;> first | cases escaped; rfl | cases escaped

theorem hex4_injective {m n : Nat} (small : m < 32) (small' : n < 32) (same : hex4 m = hex4 n) :
    m = n := by
  have table : ∀ i : Fin 32, ∀ j : Fin 32, hex4 i = hex4 j → i = j := by decide
  exact congrArg Fin.val (table ⟨m, small⟩ ⟨n, small'⟩ same)

/-- The three forms of an escape. -/
theorem escapeUnicode_cases (c : Char) :
    (∃ e, shortEscape c = some e ∧ escapeUnicode c = ['\\', e]) ∨
      (c.toNat < 32 ∧ escapeUnicode c = '\\' :: 'u' :: hex4 c.toNat) ∨
      (c ≠ '\\' ∧ c ≠ '"' ∧ escapeUnicode c = [c]) := by
  unfold escapeUnicode
  cases short : shortEscape c with
  | some e => exact Or.inl ⟨e, rfl, rfl⟩
  | none =>
    by_cases control : c.toNat < 32
    · exact Or.inr (Or.inl ⟨control, by simp [control]⟩)
    · refine Or.inr (Or.inr ⟨?_, ?_, by simp [control]⟩)
      · rintro rfl; cases short
      · rintro rfl; cases short

theorem shortEscape_ne_u {c e : Char} (escaped : shortEscape c = some e) : e ≠ 'u' := by
  rintro rfl
  have inverse := unescape_shortEscape escaped
  cases inverse

/-- Canonical text is readable. -/
theorem compact_readable : compact.Readable where
  escape_not_quote := by
    intro c rest after same
    change escapeUnicode c ++ rest = _ at same
    rcases escapeUnicode_cases c with ⟨e, -, text⟩ | ⟨-, text⟩ | ⟨-, other, text⟩
    · rw [text] at same; cases same
    · rw [text] at same; cases same
    · rw [text] at same
      exact other (List.cons.inj same).1
  escape_code := by
    intro c d rest rest' same
    change escapeUnicode c ++ rest = escapeUnicode d ++ rest' at same
    rcases escapeUnicode_cases c with ⟨e, short, text⟩ | ⟨control, text⟩ | ⟨plain, -, text⟩ <;>
      rcases escapeUnicode_cases d with ⟨e', short', text'⟩ | ⟨control', text'⟩ |
        ⟨plain', -, text'⟩ <;>
      rw [text, text'] at same <;>
      simp only [List.cons_append, List.nil_append, List.cons.injEq, true_and] at same
    · obtain ⟨rfl, after⟩ := same
      have inverse := unescape_shortEscape short
      rw [unescape_shortEscape short'] at inverse
      exact ⟨(Option.some.inj inverse).symm, after⟩
    · exact absurd same.1 (shortEscape_ne_u short)
    · exact absurd same.1.symm plain'
    · exact absurd same.1.symm (shortEscape_ne_u short')
    · obtain ⟨digits, after⟩ := List.append_inj same rfl
      exact ⟨Char.toNat_inj.mp (hex4_injective control control' digits), after⟩
    · exact absurd same.1.symm plain'
    · exact absurd same.1 plain
    · exact absurd same.1 plain
    · exact same

/-! ## Reading canonical text back -/

section Canonical

variable {N : Type} [PyText N]

/-- The canonical text of a value. -/
def dumps (value : Json N) : String := String.ofList (value.render compact)

/-- The value that a canonical text was written for. -/
noncomputable def loads? (text : String) : Option (Json N) :=
  open Classical in if written : ∃ value : Json N, value.dumps = text then some written.choose
    else none

theorem loads?_dumps [LawfulFloatText N] (value : Json N) : loads? value.dumps = some value := by
  have written : ∃ other : Json N, other.dumps = value.dumps := ⟨value, rfl⟩
  have same : written.choose = value :=
    render_injective compact_readable (String.ofList_injective written.choose_spec)
  rw [loads?, dif_pos written, same]

end Canonical

end Json

end Python
