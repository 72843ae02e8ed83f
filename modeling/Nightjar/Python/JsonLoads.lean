import Nightjar.Python.Ascii

/-!
# `json.loads`

The reader of JSON text, as a machine that takes one character at a time: a mode, and a stack of the
lists and dictionaries that are open. It accepts what Python's reader accepts, `NaN` and the
infinities included, and refuses an `int` of more digits than `int()` converts. How deep a text may
be nested is not bounded. A lone surrogate is read as the replacement character.

`run_append` and `step_below` are the two rules for texts put together: a machine runs through them
one after the other, and does not look below the part of the stack that it uses.
-/

namespace Python

namespace Loads

/-- Why a text is refused. -/
inductive Failure where
  /-- `JSONDecodeError`. -/
  | syntax_
  /-- The `ValueError` of `int()`. -/
  | intDigits
  deriving DecidableEq, Repr

/-- JSON's white space. -/
def isBlank (c : Char) : Bool := c = ' ' || c = '\n' || c = '\r' || c = '\t'

/-! ## Strings -/

/-- What a backslash has begun. -/
inductive Escape where
  | none
  | backslash
  /-- `\u` and some digits. -/
  | hex (digits : List Nat)
  deriving DecidableEq, Repr

/-- A string that is being read: its text, and a high surrogate that waits for its pair. -/
structure Literal where
  text : List Char
  high : Option Nat
  escape : Escape
  deriving DecidableEq, Repr

/-- The begin of a string. -/
def Literal.start : Literal := ⟨[], none, .none⟩

/-- What a lone surrogate is read as. -/
def replacement : Char := '\uFFFD'

/-- The text, once no pair can follow. -/
def Literal.flush (s : Literal) : List Char :=
  match s.high with
  | none => s.text
  | some _ => s.text ++ [replacement]

/-- A character of the string. -/
def Literal.push (s : Literal) (c : Char) : Literal := ⟨s.flush ++ [c], none, .none⟩

/-- A `\u` escape: a surrogate waits for its pair or completes it. -/
def Literal.unit (s : Literal) (n : Nat) : Literal :=
  if 55296 ≤ n ∧ n < 56320 then ⟨s.flush, some n, .none⟩
  else if 56320 ≤ n ∧ n < 57344 then
    match s.high with
    | some high =>
      ⟨s.text ++ [Char.ofNat (65536 + (high - 55296) * 1024 + (n - 56320))], none, .none⟩
    | none => s.push replacement
  else s.push (Char.ofNat n)

/-- A hexadecimal digit. -/
def hexValue (c : Char) : Option Nat :=
  if '0' ≤ c ∧ c ≤ '9' then some (c.toNat - 48)
  else if 'a' ≤ c ∧ c ≤ 'f' then some (c.toNat - 87)
  else if 'A' ≤ c ∧ c ≤ 'F' then some (c.toNat - 55)
  else none

/-- The character of a two-character escape. -/
def unescape (c : Char) : Option Char := if c = '/' then some '/' else Json.unescape c

/-- What a character does to a string: the string goes on, or it ends. -/
inductive Reading where
  | more (s : Literal)
  | done (text : String)

/-- The next character of a string; `none` when it is refused. -/
def Literal.step (s : Literal) (c : Char) : Option Reading :=
  match s.escape with
  | .none =>
    if c = '"' then some (.done (String.ofList s.flush))
    else if c = '\\' then some (.more { s with escape := .backslash })
    else if c.toNat < 32 then none
    else some (.more (s.push c))
  | .backslash =>
    if c = 'u' then some (.more { s with escape := .hex [] })
    else (unescape c).map fun d => .more (s.push d)
  | .hex digits =>
    (hexValue c).map fun d =>
      if digits.length < 3 then .more { s with escape := .hex (digits ++ [d]) }
      else .more (s.unit ((digits ++ [d]).foldl (fun n d => 16 * n + d) 0))

/-! ## Numbers -/

/-- The part of a number that is being read. -/
inductive Part where
  | minus
  | zero
  | whole
  | point
  | fraction
  | mark
  | sign
  | exponent
  deriving DecidableEq, Repr

/-- The part after the next character; `none` when the character is not of the number. -/
def Part.step (part : Part) (c : Char) : Option Part :=
  match part with
  | minus => if c = '0' then some zero else if c.isDigit then some whole else none
  | zero => if c = '.' then some point else if c = 'e' ∨ c = 'E' then some mark else none
  | whole =>
    if c.isDigit then some whole else if c = '.' then some point
    else if c = 'e' ∨ c = 'E' then some mark else none
  | point => if c.isDigit then some fraction else none
  | fraction =>
    if c.isDigit then some fraction else if c = 'e' ∨ c = 'E' then some mark else none
  | mark => if c.isDigit then some exponent else if c = '+' ∨ c = '-' then some sign else none
  | sign => if c.isDigit then some exponent else none
  | exponent => if c.isDigit then some exponent else none

variable {F : Type}

/-- The floats: `float(text)`, and the three constants. -/
structure Floats (F : Type) where
  ofText : List Char → F
  nan : F
  posInf : F
  negInf : F

/-- `int(text)`, of an optional sign and digits. -/
def intOf (text : List Char) : Except Failure (Json F) :=
  match text with
  | '-' :: digits =>
    if digits.length ≤ intMaxStrDigits then .ok (.int (-(Nat.ofDigitChars 10 digits 0 : Int)))
    else .error .intDigits
  | digits =>
    if digits.length ≤ intMaxStrDigits then .ok (.int (Nat.ofDigitChars 10 digits 0))
    else .error .intDigits

/-- The value of a number that has ended. A number that ends before its fraction or exponent is
    the shorter one, which nothing may follow. -/
def numberOf (floats : Floats F) (part : Part) (text : List Char) : Except Failure (Json F) :=
  match part with
  | .zero | .whole => intOf text
  | .fraction | .exponent => .ok (.float (floats.ofText text))
  | .minus => .error .syntax_
  | .point | .mark | .sign =>
    match (intOf (text.takeWhile fun c => c.isDigit || c = '-') : Except Failure (Json F)) with
    | .ok _ => .error .syntax_
    | .error e => if part ≠ .point ∧ '.' ∈ text then .error .syntax_ else .error e

/-! ## The machine -/

/-- A list or a dictionary that is open where a value is read. -/
inductive Frame (F : Type) where
  | items (before : List (Json F))
  | entry (before : List (String × Json F)) (key : String)

/-- What a string is read for. -/
inductive Purpose (F : Type) where
  | value
  | key (before : List (String × Json F))

/-- The letters of a constant that are still to come. -/
structure Word where
  letters : List Char
  alpha : ∀ c ∈ letters, c.isAlpha = true

/-- The last letters of a constant. -/
def Word.of (text : String) (alpha : text.toList.all Char.isAlpha = true) : Word :=
  ⟨text.toList, List.all_eq_true.mp alpha⟩

/-- Where the machine is. -/
inductive Mode (F : Type) where
  /-- Before a value. -/
  | value
  /-- After `[`. -/
  | firstItem
  /-- After an opening brace. -/
  | firstKey
  /-- After a comma in a dictionary. -/
  | nextKey (before : List (String × Json F))
  /-- After a key. -/
  | colon (before : List (String × Json F)) (key : String)
  | after (value : Json F)
  | literal (purpose : Purpose F) (s : Literal)
  | number (part : Part) (text : List Char)
  /-- Within a constant. -/
  | word (rest : Word) (value : Json F)

/-- A configuration of the machine. -/
structure Config (F : Type) where
  mode : Mode F
  stack : List (Frame F)

/-- `dictionary[key] = value`. -/
def store (key : String) (value : Json F) : List (String × Json F) → List (String × Json F)
  | [] => [(key, value)]
  | (k, v) :: fields => if k = key then (k, value) :: fields else (k, v) :: store key value fields

/-- What the first character of a value begins. -/
def firstMode (floats : Floats F) (c : Char) : Option (Mode F) :=
  if c = '"' then some (.literal .value .start)
  else if c = '\x7b' then some .firstKey
  else if c = '[' then some .firstItem
  else if c = '-' then some (.number .minus [c])
  else if c = '0' then some (.number .zero [c])
  else if c.isDigit then some (.number .whole [c])
  else if c = 'n' then some (.word (.of "ull" rfl) .null)
  else if c = 't' then some (.word (.of "rue" rfl) (.bool true))
  else if c = 'f' then some (.word (.of "alse" rfl) (.bool false))
  else if c = 'N' then some (.word (.of "aN" rfl) (.float floats.nan))
  else if c = 'I' then some (.word (.of "nfinity" rfl) (.float floats.posInf))
  else none

/-- The first character of a value. -/
def startValue (floats : Floats F) (c : Char) (stack : List (Frame F)) :
    Except Failure (Config F) :=
  match firstMode floats c with
  | some mode => .ok ⟨mode, stack⟩
  | none => .error .syntax_

/-- The character after a value. -/
def afterValue (value : Json F) (c : Char) : List (Frame F) → Except Failure (Config F)
  | [] => if isBlank c then .ok ⟨.after value, []⟩ else .error .syntax_
  | .items before :: stack =>
    if isBlank c then .ok ⟨.after value, .items before :: stack⟩
    else if c = ',' then .ok ⟨.value, .items (before ++ [value]) :: stack⟩
    else if c = ']' then .ok ⟨.after (.arr (before ++ [value])), stack⟩
    else .error .syntax_
  | .entry before key :: stack =>
    if isBlank c then .ok ⟨.after value, .entry before key :: stack⟩
    else if c = ',' then .ok ⟨.nextKey (store key value before), stack⟩
    else if c = '\x7d' then .ok ⟨.after (.obj (store key value before)), stack⟩
    else .error .syntax_

/-- The first character of a key. -/
def startKey (before : List (String × Json F)) (c : Char) (stack : List (Frame F)) :
    Except Failure (Config F) :=
  if c = '"' then .ok ⟨.literal (.key before) .start, stack⟩ else .error .syntax_

/-- One character. -/
def step (floats : Floats F) (config : Config F) (c : Char) : Except Failure (Config F) :=
  match config.mode with
  | .value => if isBlank c then .ok config else startValue floats c config.stack
  | .firstItem =>
    if isBlank c then .ok config
    else if c = ']' then .ok ⟨.after (.arr []), config.stack⟩
    else startValue floats c (.items [] :: config.stack)
  | .firstKey =>
    if isBlank c then .ok config
    else if c = '\x7d' then .ok ⟨.after (.obj []), config.stack⟩
    else startKey [] c config.stack
  | .nextKey before => if isBlank c then .ok config else startKey before c config.stack
  | .colon before key =>
    if isBlank c then .ok config
    else if c = ':' then .ok ⟨.value, .entry before key :: config.stack⟩
    else .error .syntax_
  | .after value => afterValue value c config.stack
  | .literal purpose s =>
    match s.step c with
    | none => .error .syntax_
    | some (.more s) => .ok ⟨.literal purpose s, config.stack⟩
    | some (.done text) =>
      match purpose with
      | .value => .ok ⟨.after (.str text), config.stack⟩
      | .key before => .ok ⟨.colon before text, config.stack⟩
  | .number part text =>
    match part.step c with
    | some part => .ok ⟨.number part (text ++ [c]), config.stack⟩
    | none =>
      if part = .minus ∧ c = 'I' then
        .ok ⟨.word (.of "nfinity" rfl) (.float floats.negInf), config.stack⟩
      else
        match numberOf floats part text with
        | .ok value => afterValue value c config.stack
        | .error e => .error e
  | .word ⟨[], _⟩ value => afterValue value c config.stack
  | .word ⟨d :: rest, alpha⟩ value =>
    if c = d then
      .ok
        ⟨if rest = [] then .after value
          else .word ⟨rest, (List.forall_mem_cons.mp alpha).2⟩ value,
          config.stack⟩
    else .error .syntax_

/-- The end of the text. -/
def finish (floats : Floats F) (config : Config F) : Except Failure (Json F) :=
  match config.mode, config.stack with
  | .after value, [] => .ok value
  | .number part text, [] => numberOf floats part text
  | .number part text, _ :: _ =>
    match numberOf floats part text with
    | .ok _ => .error .syntax_
    | .error e => .error e
  | _, _ => .error .syntax_

/-- A text, from a configuration on. -/
def run (floats : Floats F) : List Char → Config F → Except Failure (Config F)
  | [], config => .ok config
  | c :: text, config =>
    match step floats config c with
    | .ok config => run floats text config
    | .error e => .error e

/-- A text to its end, from a configuration on. -/
def read (floats : Floats F) (text : List Char) (config : Config F) : Except Failure (Json F) :=
  match run floats text config with
  | .ok config => finish floats config
  | .error e => .error e

/-- The machine on a whole text. -/
def loads (floats : Floats F) (text : List Char) : Except Failure (Json F) :=
  read floats text ⟨.value, []⟩

/-! ## Texts put together -/

theorem run_append (floats : Floats F) (text later : List Char) :
    ∀ config, run floats (text ++ later) config =
      match run floats text config with
      | .ok config => run floats later config
      | .error e => .error e := by
  induction text with
  | nil => exact fun _ => rfl
  | cons c text ih =>
    intro config
    rw [List.cons_append, run, run]
    cases step floats config c with
    | ok config => exact ih config
    | error e => rfl

theorem run_append_of_ok {floats : Floats F} {text later : List Char} {config between : Config F}
    (ran : run floats text config = .ok between) :
    run floats (text ++ later) config = run floats later between := by
  rw [run_append, ran]

/-- What a beginning of a text leads to, when the text is read. -/
theorem run_of_append {floats : Floats F} {text later : List Char} {config after : Config F}
    (ran : run floats (text ++ later) config = .ok after) :
    ∃ between, run floats text config = .ok between ∧ run floats later between = .ok after := by
  rw [run_append] at ran
  cases first : run floats text config with
  | error e =>
    rw [first] at ran
    cases ran
  | ok between =>
    rw [first] at ran
    exact ⟨between, rfl, ran⟩

theorem run_of_cons {floats : Floats F} {c : Char} {text : List Char} {config after : Config F}
    (ran : run floats (c :: text) config = .ok after) :
    ∃ next, step floats config c = .ok next ∧ run floats text next = .ok after := by
  rw [run] at ran
  cases stepped : step floats config c with
  | error e =>
    rw [stepped] at ran
    cases ran
  | ok next =>
    rw [stepped] at ran
    exact ⟨next, rfl, ran⟩

/-- A configuration over further open values. -/
def Config.over (config : Config F) (below : List (Frame F)) : Config F :=
  ⟨config.mode, config.stack ++ below⟩

theorem startValue_below {floats : Floats F} {c : Char} {stack : List (Frame F)}
    {after : Config F} (below : List (Frame F)) (started : startValue floats c stack = .ok after) :
    startValue floats c (stack ++ below) = .ok (after.over below) := by
  unfold startValue at started ⊢
  cases first : firstMode floats c with
  | none =>
    rw [first] at started
    cases started
  | some mode =>
    rw [first] at started
    cases started
    rfl

theorem startKey_below {before : List (String × Json F)} {c : Char} {stack : List (Frame F)}
    {after : Config F} (below : List (Frame F)) (started : startKey before c stack = .ok after) :
    startKey before c (stack ++ below) = .ok (after.over below) := by
  unfold startKey at started ⊢
  split_ifs at started ⊢
  cases started
  rfl

theorem afterValue_below {value : Json F} {c : Char} {stack : List (Frame F)} {after : Config F}
    (below : List (Frame F)) (went : afterValue value c stack = .ok after) :
    afterValue value c (stack ++ below) = .ok (after.over below) := by
  cases stack with
  | nil =>
    unfold afterValue at went
    split_ifs at went with blank
    cases went
    cases below with
    | nil => simp [afterValue, blank, Config.over]
    | cons frame below => cases frame <;> simp [afterValue, blank, Config.over]
  | cons frame stack =>
    cases frame <;> simp only [afterValue, List.cons_append] at went ⊢ <;>
      split_ifs at went ⊢ <;> cases went <;> rfl

/-- A step does not look below the open values that it uses. -/
theorem step_below {floats : Floats F} {c : Char} {config after : Config F}
    (below : List (Frame F)) (stepped : step floats config c = .ok after) :
    step floats (config.over below) c = .ok (after.over below) := by
  obtain ⟨mode, stack⟩ := config
  cases mode with
  | value =>
    simp only [step, Config.over] at stepped ⊢
    split_ifs at stepped ⊢
    · cases stepped
      rfl
    · exact startValue_below below stepped
  | firstItem =>
    simp only [step, Config.over] at stepped ⊢
    split_ifs at stepped ⊢
    · cases stepped
      rfl
    · cases stepped
      rfl
    · exact startValue_below below stepped
  | firstKey =>
    simp only [step, Config.over] at stepped ⊢
    split_ifs at stepped ⊢
    · cases stepped
      rfl
    · cases stepped
      rfl
    · exact startKey_below below stepped
  | nextKey before =>
    simp only [step, Config.over] at stepped ⊢
    split_ifs at stepped ⊢
    · cases stepped
      rfl
    · exact startKey_below below stepped
  | colon before key =>
    simp only [step, Config.over] at stepped ⊢
    split_ifs at stepped ⊢ <;> cases stepped <;> rfl
  | after value => exact afterValue_below below stepped
  | literal purpose s =>
    simp only [step, Config.over] at stepped ⊢
    cases read : s.step c with
    | none =>
      rw [read] at stepped
      cases stepped
    | some reading =>
      rw [read] at stepped
      cases reading with
      | more s' =>
        cases stepped
        rfl
      | done text => cases purpose <;> cases stepped <;> rfl
  | number part text =>
    simp only [step, Config.over] at stepped ⊢
    cases next : part.step c with
    | some part' =>
      rw [next] at stepped
      cases stepped
      rfl
    | none =>
      rw [next] at stepped
      simp only at stepped ⊢
      split_ifs at stepped ⊢
      · cases stepped
        rfl
      · cases value : numberOf floats part text with
        | error e =>
          rw [value] at stepped
          cases stepped
        | ok value' =>
          rw [value] at stepped
          exact afterValue_below below stepped
  | word rest value =>
    obtain ⟨letters, alpha⟩ := rest
    cases letters with
    | nil => exact afterValue_below below stepped
    | cons d rest =>
      simp only [step, Config.over] at stepped ⊢
      split_ifs at stepped ⊢ <;> cases stepped <;> rfl

theorem run_below {floats : Floats F} (below : List (Frame F)) (text : List Char) :
    ∀ {config after : Config F}, run floats text config = .ok after →
      run floats text (config.over below) = .ok (after.over below) := by
  induction text with
  | nil =>
    intro config after ran
    cases ran
    rfl
  | cons c text ih =>
    intro config after ran
    obtain ⟨next, stepped, went⟩ := run_of_cons ran
    rw [run, step_below below stepped]
    exact ih went

/-! ## Strings are read back -/

theorem hexValue_digitChar {n : Nat} (small : n < 16) : hexValue (Nat.digitChar n) = some n := by
  have table : ∀ i : Fin 16, hexValue (Nat.digitChar i) = some i.val := by decide
  exact table ⟨n, small⟩

theorem step_hex_more {floats : Floats F} {purpose : Purpose F} {text : List Char}
    {high : Option Nat} {stack : List (Frame F)} {digits : List Nat} {c : Char} {d : Nat}
    (digit : hexValue c = some d) (few : digits.length < 3) :
    step floats ⟨.literal purpose ⟨text, high, .hex digits⟩, stack⟩ c =
      .ok ⟨.literal purpose ⟨text, high, .hex (digits ++ [d])⟩, stack⟩ := by
  simp only [step, Literal.step, digit, Option.map_some, if_pos few]

theorem step_hex_last {floats : Floats F} {purpose : Purpose F} {text : List Char}
    {high : Option Nat} {stack : List (Frame F)} {digits : List Nat} {c : Char} {d : Nat}
    (digit : hexValue c = some d) (three : digits.length = 3) :
    step floats ⟨.literal purpose ⟨text, high, .hex digits⟩, stack⟩ c =
      .ok ⟨.literal purpose (Literal.unit ⟨text, high, .none⟩
        ((digits ++ [d]).foldl (fun n d => 16 * n + d) 0)), stack⟩ := by
  have many : ¬ digits.length < 3 := by omega
  simp only [step, Literal.step, digit, Option.map_some, if_neg many]
  rfl

/-- Four digits are a `\u` escape. -/
theorem run_hex4 (floats : Floats F) (purpose : Purpose F) (text : List Char) (high : Option Nat)
    (stack : List (Frame F)) {n : Nat} (small : n < 65536) :
    run floats (Json.hex4 n) ⟨.literal purpose ⟨text, high, .hex []⟩, stack⟩ =
      .ok ⟨.literal purpose (Literal.unit ⟨text, high, .none⟩ n), stack⟩ := by
  have digit : ∀ m, hexValue (Nat.digitChar (m % 16)) = some (m % 16) :=
    fun m => hexValue_digitChar (Nat.mod_lt m (by decide))
  have value : 16 * (16 * (16 * (16 * 0 + n / 4096 % 16) + n / 256 % 16) + n / 16 % 16) + n % 16 =
      n := by omega
  simp only [Json.hex4, run]
  rw [step_hex_more (digit _) (by simp)]
  dsimp only
  rw [step_hex_more (digit _) (by simp)]
  dsimp only
  rw [step_hex_more (digit _) (by simp)]
  dsimp only
  rw [step_hex_last (digit _) (by simp)]
  simp only [List.nil_append, List.cons_append, List.foldl_cons, List.foldl_nil, value]

/-- Within a string, after some of its characters. -/
def inString (purpose : Purpose F) (text : List Char) (stack : List (Frame F)) : Config F :=
  ⟨.literal purpose ⟨text, none, .none⟩, stack⟩

theorem run_u (floats : Floats F) (purpose : Purpose F) (text : List Char) (high : Option Nat)
    (stack : List (Frame F)) {n : Nat} (small : n < 65536) :
    run floats ('\\' :: 'u' :: Json.hex4 n) ⟨.literal purpose ⟨text, high, .none⟩, stack⟩ =
      .ok ⟨.literal purpose (Literal.unit ⟨text, high, .none⟩ n), stack⟩ :=
  run_hex4 floats purpose text high stack small

/-- The escape of a character is read as the character. -/
theorem run_escapeAscii (floats : Floats F) (purpose : Purpose F) (text : List Char)
    (stack : List (Frame F)) (c : Char) :
    run floats (Json.escapeAscii c) (inString purpose text stack) =
      .ok (inString purpose (text ++ [c]) stack) := by
  have scalar := Json.toNat_scalar c
  rcases Json.escapeAscii_cases c with ⟨e, short, escaped⟩ | ⟨plain, other, escaped⟩ |
    ⟨basic, escaped⟩ | ⟨beyond, escaped⟩
  · have inverse := Json.unescape_shortEscape short
    have letter : e ≠ 'u' := Json.shortEscape_ne_u short
    have solidus : e ≠ '/' := by
      rintro rfl
      cases inverse
    rw [escaped]
    simp [run, step, Literal.step, inString, letter, unescape, solidus, inverse, Literal.push,
      Literal.flush]
  · have low : ¬ c.toNat < 32 := by
      have printable := Json.printable_escapeAscii c c (by rw [escaped]; exact List.mem_cons_self)
      exact not_lt.mpr printable.1
    rw [escaped]
    simp [run, step, Literal.step, inString, plain, other, low, Literal.push, Literal.flush]
  · rw [escaped, inString, run_u floats purpose text none stack basic]
    have high : ¬ (55296 ≤ c.toNat ∧ c.toNat < 56320) := by omega
    have low : ¬ (56320 ≤ c.toNat ∧ c.toNat < 57344) := by omega
    simp [Literal.unit, high, low, Literal.push, Literal.flush, inString]
  · have big : c.toNat < 1114112 := scalar.elim (fun small => by omega) And.right
    have high : 55296 ≤ 55296 + (c.toNat - 65536) / 1024 ∧
        55296 + (c.toNat - 65536) / 1024 < 56320 := by omega
    have low : ¬ (55296 ≤ 56320 + (c.toNat - 65536) % 1024 ∧
        56320 + (c.toNat - 65536) % 1024 < 56320) := by omega
    have low' : 56320 ≤ 56320 + (c.toNat - 65536) % 1024 ∧
        56320 + (c.toNat - 65536) % 1024 < 57344 := by omega
    have pair : 65536 + (55296 + (c.toNat - 65536) / 1024 - 55296) * 1024 +
        (56320 + (c.toNat - 65536) % 1024 - 56320) = c.toNat := by omega
    have first : Literal.unit ⟨text, none, .none⟩ (55296 + (c.toNat - 65536) / 1024) =
        ⟨text, some (55296 + (c.toNat - 65536) / 1024), .none⟩ := by
      rw [Literal.unit, if_pos high]
      rfl
    have second : Literal.unit ⟨text, some (55296 + (c.toNat - 65536) / 1024), .none⟩
        (56320 + (c.toNat - 65536) % 1024) = ⟨text ++ [c], none, .none⟩ := by
      rw [Literal.unit, if_neg low, if_pos low']
      simp only [pair, Char.ofNat_toNat]
    have half := run_u floats purpose text none stack (n := 55296 + (c.toNat - 65536) / 1024)
      (by omega)
    have rest := run_u floats purpose text (some (55296 + (c.toNat - 65536) / 1024)) stack
      (n := 56320 + (c.toNat - 65536) % 1024) (by omega)
    rw [first] at half
    rw [second] at rest
    rw [escaped]
    exact (run_append_of_ok half).trans rest

/-- The characters of a string are read back. -/
theorem run_flatMap_escapeAscii (floats : Floats F) (purpose : Purpose F)
    (stack : List (Frame F)) (chars : List Char) :
    ∀ text, run floats (chars.flatMap Json.escapeAscii) (inString purpose text stack) =
      .ok (inString purpose (text ++ chars) stack) := by
  induction chars with
  | nil =>
    intro text
    rw [List.append_nil]
    rfl
  | cons c chars ih =>
    intro text
    rw [List.flatMap_cons, run_append_of_ok (run_escapeAscii floats purpose text stack c), ih,
      List.append_assoc, List.singleton_append]

/-- A string literal is read back, after its opening quote. -/
theorem run_quote (floats : Floats F) (purpose : Purpose F) (stack : List (Frame F))
    (s : String) :
    run floats (s.toList.flatMap Json.escapeAscii ++ ['"']) (inString purpose [] stack) =
      .ok ⟨match purpose with
        | .value => .after (.str s)
        | .key before => .colon before s, stack⟩ := by
  rw [run_append_of_ok (run_flatMap_escapeAscii floats purpose stack s.toList [])]
  cases purpose <;> simp [run, step, Literal.step, inString, Literal.flush]

/-! ## Numbers are read back -/

/-- The part after some characters. -/
def Part.run : Part → List Char → Option Part
  | part, [] => some part
  | part, c :: text => (part.step c).bind fun part => part.run text

/-- The part that a numeral ends in; `none` when it is not one. -/
def numeralPart : List Char → Option Part
  | [] => none
  | c :: text =>
    if c = '-' then Part.minus.run text
    else if c = '0' then Part.zero.run text
    else if c.isDigit then Part.whole.run text
    else none

theorem run_part (floats : Floats F) (stack : List (Frame F)) (text : List Char) :
    ∀ (before : List Char) {part last : Part}, part.run text = some last →
      run floats text ⟨.number part before, stack⟩ =
        .ok ⟨.number last (before ++ text), stack⟩ := by
  induction text with
  | nil =>
    intro before part last ran
    cases ran
    rw [List.append_nil]
    rfl
  | cons c text ih =>
    intro before part last ran
    rw [Part.run] at ran
    cases next : part.step c with
    | none =>
      rw [next] at ran
      cases ran
    | some part' =>
      rw [next] at ran
      have rest := ih (before ++ [c]) ran
      rw [List.append_assoc, List.singleton_append] at rest
      simp only [run, step, next]
      exact rest

/-- A numeral is read as a number. -/
theorem run_numeral {floats : Floats F} {stack : List (Frame F)} {text : List Char} {last : Part}
    (numeral : numeralPart text = some last) :
    run floats text ⟨.value, stack⟩ = .ok ⟨.number last text, stack⟩ := by
  cases text with
  | nil => cases numeral
  | cons c text =>
    have began : ∀ part, firstMode floats c = some (.number part [c]) → isBlank c = false →
        part.run text = some last →
        run floats (c :: text) ⟨.value, stack⟩ = .ok ⟨.number last (c :: text), stack⟩ := by
      intro part first nonblank ran
      have rest := run_part floats stack text [c] ran
      simp only [run, step, nonblank, startValue, first]
      exact rest
    rw [numeralPart] at numeral
    split_ifs at numeral with minus zero digit
    · subst minus
      exact began .minus rfl rfl numeral
    · subst zero
      exact began .zero rfl rfl numeral
    · have other : ∀ d : Char, d.isDigit = false → c ≠ d := by
        rintro d letter rfl
        rw [digit] at letter
        cases letter
      refine began .whole ?_ ?_ numeral
      · simp [firstMode, other '"' rfl, other '\x7b' rfl, other '[' rfl, minus, zero, digit]
      · simp [isBlank, other ' ' rfl, other '\n' rfl, other '\r' rfl, other '\t' rfl]

/-- What stands after a number: nothing, or a character that no number goes on with. -/
def Stops (rest : List Char) : Prop :=
  ∀ c after, rest = c :: after → ∀ part : Part, part.step c = none

theorem stops_nil : Stops [] := by
  intro c after same
  cases same

theorem stops_cons {c : Char} (stops : ∀ part : Part, part.step c = none) (after : List Char) :
    Stops (c :: after) := by
  intro d after' same
  cases same
  exact stops

theorem step_comma (part : Part) : part.step ',' = none := by cases part <;> rfl

theorem step_bracket (part : Part) : part.step ']' = none := by cases part <;> rfl

theorem step_brace (part : Part) : part.step '\x7d' = none := by cases part <;> rfl

theorem stops_moreItems {N : Type} [PyText N] (items : List (Json N)) (rest : List Char) :
    Stops (Json.renderMoreItems Json.ascii items ++ ']' :: rest) := by
  cases items with
  | nil => exact stops_cons step_bracket _
  | cons item items => exact stops_cons step_comma _

theorem stops_moreFields {N : Type} [PyText N] (fields : List (String × Json N))
    (rest : List Char) : Stops (Json.renderMoreFields Json.ascii fields ++ '\x7d' :: rest) := by
  cases fields with
  | nil => exact stops_cons step_brace _
  | cons field fields => exact stops_cons step_comma _

/-- The text is read as the value, wherever a value may stand. -/
def Reads (floats : Floats F) (text : List Char) (value : Json F) : Prop :=
  ∀ rest stack, Stops rest →
    read floats (text ++ rest) ⟨.value, stack⟩ = read floats rest ⟨.after value, stack⟩

theorem read_append_of_ok {floats : Floats F} {text later : List Char} {config between : Config F}
    (ran : run floats text config = .ok between) :
    read floats (text ++ later) config = read floats later between := by
  rw [read, run_append_of_ok ran, read]

/-- A text that the machine has read as a value. -/
theorem reads_of_run {floats : Floats F} {text : List Char} {value : Json F}
    (ran : ∀ stack, run floats text ⟨.value, stack⟩ = .ok ⟨.after value, stack⟩) :
    Reads floats text value := fun _ stack _ => read_append_of_ok (ran stack)

/-- A number ends where it stops. -/
theorem reads_number {floats : Floats F} {text : List Char} {part : Part} {value : Json F}
    (numeral : numeralPart text = some part) (number : numberOf floats part text = .ok value) :
    Reads floats text value := by
  intro rest stack stops
  rw [read_append_of_ok (run_numeral numeral)]
  cases rest with
  | nil =>
    cases stack with
    | nil => simp [read, run, finish, number]
    | cons frame stack => simp [read, run, finish, number]
  | cons c rest =>
    have ends := stops c rest rfl part
    have begun : part ≠ .minus := by
      rintro rfl
      cases number
    simp only [read, run, step, ends, begun, false_and, if_false, number]

/-- The decimal text of a positive number does not begin with a zero. -/
theorem toDigits_pos : ∀ n : Nat, 0 < n → ∃ d ds, Nat.toDigits 10 n = d :: ds ∧ d ≠ '0' := by
  intro n
  induction n using Nat.strongRecOn with
  | ind n ih =>
    intro positive
    by_cases small : n < 10
    · have table : ∀ i : Fin 10, 0 < i.val → Nat.digitChar i ≠ '0' := by decide
      exact ⟨_, [], Nat.toDigits_of_lt_base small, table ⟨n, small⟩ positive⟩
    · obtain ⟨d, ds, text, nonzero⟩ := ih (n / 10) (by omega) (by omega)
      refine ⟨d, ds ++ [Nat.digitChar (n % 10)], ?_, nonzero⟩
      rw [Nat.toDigits_of_base_le (by decide) (Nat.le_of_not_lt small), text]
      rfl

theorem run_whole (digits : List Char) (all : ∀ c ∈ digits, c.isDigit = true) :
    Part.whole.run digits = some .whole := by
  induction digits with
  | nil => rfl
  | cons c digits ih =>
    rw [List.forall_mem_cons] at all
    simp only [Part.run, Part.step, all.1, if_true, Option.bind_some]
    exact ih all.2

/-- The decimal text of a positive number, as a first digit and the others. -/
theorem repr_pos {n : Nat} (positive : 0 < n) : ∃ d ds, (Nat.repr n).toList = d :: ds ∧
    d ≠ '0' ∧ d.isDigit = true ∧ Part.whole.run ds = some .whole := by
  obtain ⟨d, ds, text, nonzero⟩ := toDigits_pos n positive
  rw [← Nat.toList_repr] at text
  have digits := Json.natText_digits n
  rw [text, List.forall_mem_cons] at digits
  exact ⟨d, ds, text, nonzero, digits.1, run_whole ds digits.2⟩

theorem length_repr_le {n : Nat} (short : n < 10 ^ intMaxStrDigits) :
    (Nat.repr n).toList.length ≤ intMaxStrDigits := by
  rw [Nat.toList_repr]
  exact (Nat.length_toDigits_le_iff (by decide) (by decide)).mpr short

theorem ofDigitChars_repr (n : Nat) : Nat.ofDigitChars 10 (Nat.repr n).toList 0 = n := by
  rw [Nat.toList_repr]
  exact Nat.ofDigitChars_ten_toDigits

/-- The text of an `int` is a numeral without fraction and exponent. -/
theorem numeralPart_int (i : Int) :
    ∃ part, numeralPart (toString i).toList = some part ∧ (part = .zero ∨ part = .whole) := by
  cases i with
  | ofNat n =>
    rcases Nat.eq_zero_or_pos n with rfl | positive
    · exact ⟨.zero, rfl, Or.inl rfl⟩
    · obtain ⟨d, ds, text, nonzero, digit, whole⟩ := repr_pos positive
      have sign : d ≠ '-' := by
        rintro rfl
        cases digit
      have same : (toString (Int.ofNat n)).toList = d :: ds := text
      refine ⟨.whole, ?_, Or.inr rfl⟩
      simp only [same, numeralPart, sign, nonzero, digit, if_false, if_true, whole]
  | negSucc n =>
    obtain ⟨d, ds, text, nonzero, digit, whole⟩ := repr_pos (Nat.succ_pos n)
    refine ⟨.whole, ?_, Or.inr rfl⟩
    rw [Json.intText_negSucc, text]
    simp only [numeralPart, if_true, Part.run, Part.step, nonzero, digit, if_false,
      Option.bind_some, whole]

/-- `int(str(i))` is `i`, when it has few enough digits. -/
theorem intOf_toString {i : Int} (short : i.natAbs < 10 ^ intMaxStrDigits) :
    (intOf (toString i).toList : Except Failure (Json F)) = .ok (.int i) := by
  cases i with
  | ofNat n =>
    have length : (Nat.repr n).toList.length ≤ intMaxStrDigits := length_repr_le short
    have digits := Json.natText_digits n
    have text : (toString (Int.ofNat n)).toList = (Nat.repr n).toList := rfl
    rw [text, intOf, if_pos length, ofDigitChars_repr]
    · rfl
    · intro rest minus
      rw [minus] at digits
      exact absurd (digits '-' List.mem_cons_self) (by decide)
  | negSucc n =>
    have length : (Nat.repr (n + 1)).toList.length ≤ intMaxStrDigits := length_repr_le short
    rw [Json.intText_negSucc, intOf, if_pos length, ofDigitChars_repr]
    rfl

/-- The text of a short `int` is read as the `int`. -/
theorem reads_int (floats : Floats F) {i : Int} (short : i.natAbs < 10 ^ intMaxStrDigits) :
    Reads floats (toString i).toList (.int i) := by
  obtain ⟨part, numeral, rfl | rfl⟩ := numeralPart_int i
  · exact reads_number numeral (intOf_toString short)
  · exact reads_number numeral (intOf_toString short)

theorem intOf_long {d : Char} {digits : List Char} (digit : d.isDigit = true)
    (long : intMaxStrDigits ≤ digits.length) :
    (intOf (d :: digits) : Except Failure (Json F)) = .error .intDigits := by
  have unsigned : d ≠ '-' := by
    rintro rfl
    cases digit
  have more : ¬ (d :: digits).length ≤ intMaxStrDigits := by
    rw [List.length_cons]
    omega
  unfold intOf
  split
  · next same => exact absurd (List.cons.inj same).1 unsigned
  · exact if_neg more

/-- A whole number of more digits than `int()` converts is refused. -/
theorem loads_long (floats : Floats F) {d : Char} {digits : List Char} (nonzero : d ≠ '0')
    (all : ∀ c ∈ d :: digits, c.isDigit = true) (long : intMaxStrDigits ≤ digits.length) :
    loads floats (d :: digits) = .error .intDigits := by
  rw [List.forall_mem_cons] at all
  have unsigned : d ≠ '-' := by
    rintro rfl
    cases all.1
  have numeral : numeralPart (d :: digits) = some .whole := by
    rw [numeralPart, if_neg unsigned, if_neg nonzero, if_pos all.1, run_whole digits all.2]
  rw [loads, read, run_numeral numeral]
  exact intOf_long all.1 long

/-- A numeral with a fraction or an exponent is read as a float. -/
theorem reads_float (floats : Floats F) {text : List Char} {part : Part}
    (numeral : numeralPart text = some part) (float : part = .fraction ∨ part = .exponent) :
    Reads floats text (.float (floats.ofText text)) := by
  refine reads_number numeral ?_
  rcases float with rfl | rfl <;> rfl

/-- A string literal is read as the string. -/
theorem reads_quote (floats : Floats F) (s : String) :
    Reads floats (Json.quote Json.ascii s) (.str s) :=
  reads_of_run fun stack => run_quote floats .value stack s

end Loads

/-! ## Values are read back -/

namespace Json

section Predicates

variable {N : Type}

mutual

/-- The keys of every dictionary are distinct. -/
def Distinct : Json N → Prop
  | .arr items => DistinctItems items
  | .obj fields => (fields.map Prod.fst).Nodup ∧ DistinctFields fields
  | .null | .bool _ | .int _ | .float _ | .str _ => True

def DistinctItems : List (Json N) → Prop
  | [] => True
  | item :: items => Distinct item ∧ DistinctItems items

def DistinctFields : List (String × Json N) → Prop
  | [] => True
  | (_, value) :: fields => Distinct value ∧ DistinctFields fields

end

variable {F : Type} (f : N → F)

mutual

/-- The value with other floats. -/
def mapFloats : Json N → Json F
  | .null => .null
  | .bool b => .bool b
  | .int i => .int i
  | .float x => .float (f x)
  | .str s => .str s
  | .arr items => .arr (mapFloatsItems items)
  | .obj fields => .obj (mapFloatsFields fields)

def mapFloatsItems : List (Json N) → List (Json F)
  | [] => []
  | item :: items => mapFloats item :: mapFloatsItems items

def mapFloatsFields : List (String × Json N) → List (String × Json F)
  | [] => []
  | (key, value) :: fields => (key, mapFloats value) :: mapFloatsFields fields

end

end Predicates

end Json

namespace Loads

/-- `float(repr(x))` is `x`, and `repr(x)` is a numeral of JSON with a fraction or an exponent. -/
structure Floats.RoundTrips {N F : Type} [PyText N] (floats : Floats F) (f : N → F) : Prop where
  numeral : ∀ x : N, ∃ part, numeralPart (PyText.repr x).toList = some part ∧
    (part = .fraction ∨ part = .exponent)
  ofText : ∀ x : N, floats.ofText (PyText.repr x).toList = f x

section RoundTrip

variable {N F : Type} {floats : Floats F} {f : N → F}

theorem read_cons {c : Char} {rest : List Char} {config next : Config F}
    (stepped : step floats config c = .ok next) :
    read floats (c :: rest) config = read floats rest next := by
  simp only [read, run, stepped]

theorem natAbs_lt_of_shortInts {i : Int} (short : (Json.int i : Json N).shortInts = true) :
    i.natAbs < 10 ^ intMaxStrDigits := by
  have text : (intStr? i).isSome = true := short
  rw [intStr?] at text
  by_cases small : i.natAbs < 10 ^ intMaxStrDigits
  · exact small
  · rw [if_neg small] at text
    cases text

variable [PyText N]

theorem reads_bool (floats : Floats F) (b : Bool) :
    Reads floats ((Json.bool b : Json N).render Json.ascii) (.bool b) := by
  cases b <;> exact reads_of_run fun _ => rfl

/-- An item may stand where a list begins. -/
theorem read_firstItem [LawfulFloatText N] (v : Json N) (rest : List Char)
    (stack : List (Frame F)) :
    read floats (v.render Json.ascii ++ rest) ⟨.firstItem, stack⟩ =
      read floats (v.render Json.ascii ++ rest) ⟨.value, .items [] :: stack⟩ := by
  obtain ⟨c, text, head, announced⟩ := Json.render_head Json.ascii v
  have other : ∀ d : Char, Json.kindOfHead d = .other → c ≠ d := by
    rintro d none rfl
    rw [announced] at none
    cases v with
    | bool b => cases b <;> cases none
    | _ => cases none
  have nonblank : isBlank c = false := by
    simp [isBlank, other ' ' rfl, other '\n' rfl, other '\r' rfl, other '\t' rfl]
  have same : step floats ⟨.firstItem, stack⟩ c = step floats ⟨.value, .items [] :: stack⟩ c := by
    simp only [step, nonblank, other ']' rfl]
    rfl
  rw [head, List.cons_append, read, read, run, run, same]

theorem store_fresh {key : String} {value : Json F} {before : List (String × Json F)}
    (fresh : key ∉ before.map Prod.fst) : store key value before = before ++ [(key, value)] := by
  induction before with
  | nil => rfl
  | cons field before ih =>
    rw [List.map_cons, List.mem_cons, not_or] at fresh
    rw [store, if_neg (Ne.symm fresh.1), ih fresh.2]
    rfl

/-- A key and what stands before its value. -/
theorem read_key (before : List (String × Json F)) (key : String) (rest : List Char)
    (stack : List (Frame F)) (mode : Mode F) (begins : mode = .firstKey ∧ before = [] ∨
      mode = .nextKey before) :
    read floats (Json.quote Json.ascii key ++ ':' :: ' ' :: rest) ⟨mode, stack⟩ =
      read floats rest ⟨.value, .entry before key :: stack⟩ := by
  have opened : step floats ⟨mode, stack⟩ '"' = .ok (inString (.key before) [] stack) := by
    rcases begins with ⟨rfl, rfl⟩ | rfl <;> rfl
  have literal : Json.quote Json.ascii key ++ ':' :: ' ' :: rest =
      '"' :: ((key.toList.flatMap Json.escapeAscii ++ ['"']) ++ ':' :: ' ' :: rest) := rfl
  rw [literal, read_cons opened, read_append_of_ok (run_quote floats (.key before) stack key)]
  rfl

mutual

/-- The text of a value is read as the value: the induction is on the value, with the open lists
    and dictionaries as they are. -/
theorem reads_render [LawfulFloatText N] (roundTrips : floats.RoundTrips f) :
    ∀ v : Json N, v.Distinct → v.shortInts = true →
      Reads floats (v.render Json.ascii) (v.mapFloats f)
  | .null => fun _ _ => reads_of_run fun _ => rfl
  | .bool b => fun _ _ => reads_bool floats b
  | .int _ => fun _ short => reads_int floats (natAbs_lt_of_shortInts short)
  | .float x => by
    intro _ _
    obtain ⟨part, numeral, float⟩ := roundTrips.numeral x
    have reads := reads_float floats numeral float
    rw [roundTrips.ofText] at reads
    exact reads
  | .str s => fun _ _ => reads_quote floats s
  | .arr items => by
    intro distinct short rest stack _
    have text : Json.render Json.ascii (.arr items) ++ rest =
        '[' :: (Json.renderItems Json.ascii items ++ ']' :: rest) := by
      simp [Json.render]
    have opened : step floats ⟨.value, stack⟩ '[' = .ok ⟨.firstItem, stack⟩ := rfl
    rw [text, read_cons opened]
    exact read_items roundTrips items distinct short rest stack
  | .obj fields => by
    intro distinct short rest stack _
    have text : Json.render Json.ascii (.obj fields) ++ rest =
        '\x7b' :: (Json.renderFields Json.ascii fields ++ '\x7d' :: rest) := by
      simp [Json.render]
    have opened : step floats ⟨.value, stack⟩ '\x7b' = .ok ⟨.firstKey, stack⟩ := rfl
    rw [text, read_cons opened]
    exact read_fields roundTrips fields distinct.1 distinct.2 short rest stack

theorem read_items [LawfulFloatText N] (roundTrips : floats.RoundTrips f) :
    ∀ items : List (Json N), Json.DistinctItems items → Json.shortIntsItems items = true →
      ∀ rest stack, read floats (Json.renderItems Json.ascii items ++ ']' :: rest)
        ⟨.firstItem, stack⟩ =
          read floats rest ⟨.after (.arr (Json.mapFloatsItems f items)), stack⟩
  | [], _, _, rest, stack => rfl
  | item :: items, distinct, short, rest, stack => by
    rw [Json.shortIntsItems, Bool.and_eq_true] at short
    have stops := stops_moreItems items rest
    rw [Json.renderItems, List.append_assoc, read_firstItem,
      reads_render roundTrips item distinct.1 short.1 _ _ stops,
      read_moreItems roundTrips items distinct.2 short.2]
    rfl

theorem read_moreItems [LawfulFloatText N] (roundTrips : floats.RoundTrips f) :
    ∀ items : List (Json N), Json.DistinctItems items → Json.shortIntsItems items = true →
      ∀ rest stack before value, read floats (Json.renderMoreItems Json.ascii items ++ ']' :: rest)
        ⟨.after value, .items before :: stack⟩ =
          read floats rest
            ⟨.after (.arr (before ++ value :: Json.mapFloatsItems f items)), stack⟩
  | [], _, _, rest, stack, before, value => rfl
  | item :: items, distinct, short, rest, stack, before, value => by
    rw [Json.shortIntsItems, Bool.and_eq_true] at short
    have stops := stops_moreItems items rest
    have text : Json.renderMoreItems Json.ascii (item :: items) ++ ']' :: rest =
        ',' :: ' ' :: (item.render Json.ascii ++
          (Json.renderMoreItems Json.ascii items ++ ']' :: rest)) := by
      simp [Json.renderMoreItems, Json.ascii]
    have comma : step floats ⟨.after value, .items before :: stack⟩ ',' =
        .ok ⟨.value, .items (before ++ [value]) :: stack⟩ := rfl
    have blank : step floats ⟨.value, .items (before ++ [value]) :: stack⟩ ' ' =
        .ok ⟨.value, .items (before ++ [value]) :: stack⟩ := rfl
    rw [text, read_cons comma, read_cons blank,
      reads_render roundTrips item distinct.1 short.1 _ _ stops,
      read_moreItems roundTrips items distinct.2 short.2, List.append_assoc]
    rfl

theorem read_fields [LawfulFloatText N] (roundTrips : floats.RoundTrips f) :
    ∀ fields : List (String × Json N), (fields.map Prod.fst).Nodup → Json.DistinctFields fields →
      Json.shortIntsFields fields = true →
      ∀ rest stack, read floats (Json.renderFields Json.ascii fields ++ '\x7d' :: rest)
        ⟨.firstKey, stack⟩ =
          read floats rest ⟨.after (.obj (Json.mapFloatsFields f fields)), stack⟩
  | [], _, _, _, rest, stack => rfl
  | (key, value) :: fields, keys, distinct, short, rest, stack => by
    rw [Json.shortIntsFields, Bool.and_eq_true] at short
    have stops := stops_moreFields fields rest
    have text : Json.renderFields Json.ascii ((key, value) :: fields) ++ '\x7d' :: rest =
        Json.quote Json.ascii key ++ ':' :: ' ' :: (value.render Json.ascii ++
          (Json.renderMoreFields Json.ascii fields ++ '\x7d' :: rest)) := by
      simp [Json.renderFields, Json.ascii]
    rw [text, read_key [] key _ stack .firstKey (Or.inl ⟨rfl, rfl⟩),
      reads_render roundTrips value distinct.1 short.1 _ _ stops,
      read_moreFields roundTrips fields distinct.2 short.2 rest stack [] key _ keys]
    rfl

theorem read_moreFields [LawfulFloatText N] (roundTrips : floats.RoundTrips f) :
    ∀ fields : List (String × Json N), Json.DistinctFields fields →
      Json.shortIntsFields fields = true →
      ∀ rest stack before key value, (before.map Prod.fst ++ key :: fields.map Prod.fst).Nodup →
        read floats (Json.renderMoreFields Json.ascii fields ++ '\x7d' :: rest)
          ⟨.after value, .entry before key :: stack⟩ =
            read floats rest
              ⟨.after (.obj (before ++ (key, value) :: Json.mapFloatsFields f fields)), stack⟩
  | [], _, _, rest, stack, before, key, value, keys => by
    have fresh : key ∉ before.map Prod.fst :=
      fun stored => (List.nodup_append.mp keys).2.2 key stored key List.mem_cons_self rfl
    have closed : step floats ⟨.after value, .entry before key :: stack⟩ '\x7d' =
        .ok ⟨.after (.obj (before ++ [(key, value)])), stack⟩ := by
      rw [← store_fresh fresh]
      rfl
    exact read_cons closed
  | (key', value') :: fields, distinct, short, rest, stack, before, key, value, keys => by
    rw [Json.shortIntsFields, Bool.and_eq_true] at short
    have stops := stops_moreFields fields rest
    have fresh : key ∉ before.map Prod.fst :=
      fun stored => (List.nodup_append.mp keys).2.2 key stored key List.mem_cons_self rfl
    have comma : step floats ⟨.after value, .entry before key :: stack⟩ ',' =
        .ok ⟨.nextKey (before ++ [(key, value)]), stack⟩ := by
      rw [← store_fresh fresh]
      rfl
    have blank : step floats ⟨.nextKey (before ++ [(key, value)]), stack⟩ ' ' =
        .ok ⟨.nextKey (before ++ [(key, value)]), stack⟩ := rfl
    have keys' :
        ((before ++ [(key, value)]).map Prod.fst ++ key' :: fields.map Prod.fst).Nodup := by
      simpa using keys
    have text : Json.renderMoreFields Json.ascii ((key', value') :: fields) ++ '\x7d' :: rest =
        ',' :: ' ' :: (Json.quote Json.ascii key' ++ ':' :: ' ' :: (value'.render Json.ascii ++
          (Json.renderMoreFields Json.ascii fields ++ '\x7d' :: rest))) := by
      simp [Json.renderMoreFields, Json.ascii]
    rw [text, read_cons comma, read_cons blank, read_key _ key' _ stack _ (Or.inr rfl),
      reads_render roundTrips value' distinct.1 short.1 _ _ stops,
      read_moreFields roundTrips fields distinct.2 short.2 rest stack _ key' _ keys',
      List.append_assoc]
    rfl

end

/-- `json.loads(json.dumps(v))` is the value, up to the text of its floats. -/
theorem loads_render [LawfulFloatText N] (roundTrips : floats.RoundTrips f) {v : Json N}
    (distinct : v.Distinct) (short : v.shortInts = true) :
    loads floats (v.render Json.ascii) = .ok (v.mapFloats f) := by
  have reads := reads_render roundTrips v distinct short [] [] stops_nil
  rw [List.append_nil] at reads
  rw [loads, reads]
  rfl

end RoundTrip

end Loads

end Python
