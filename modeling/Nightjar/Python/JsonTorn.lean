import Nightjar.Python.JsonLoads

/-!
# Dictionaries that are cut short

What `json.loads` does with the beginning of the text of a dictionary, and with a text that goes on
with another dictionary: it refuses them. The measure is how deep the machine is within values that
are open.
-/

namespace Python

namespace Loads

variable {F : Type} {floats : Floats F}

/-- What is open without a place on the stack. -/
def Mode.depth : Mode F → Nat
  | .firstItem | .firstKey | .nextKey _ | .colon _ _ | .literal (.key _) _ => 1
  | .value | .after _ | .literal .value _ | .number _ _ | .word _ _ => 0

/-- How many lists and dictionaries are open. -/
def Config.depth (config : Config F) : Nat := config.stack.length + config.mode.depth

/-- A value has been read, and nothing is open. -/
def Config.Closed (config : Config F) : Prop := ∃ value, config = ⟨.after value, []⟩

theorem depth_over (config : Config F) (below : List (Frame F)) :
    (config.over below).depth = config.depth + below.length := by
  simp only [Config.depth, Config.over, List.length_append]
  omega

/-! ## One character -/

theorem depth_startValue {c : Char} {stack : List (Frame F)} {after : Config F}
    (started : startValue floats c stack = .ok after) : stack.length ≤ after.depth := by
  unfold startValue at started
  cases first : firstMode floats c with
  | none =>
    rw [first] at started
    cases started
  | some mode =>
    rw [first] at started
    cases started
    exact Nat.le_add_right _ _

theorem depth_startKey {before : List (String × Json F)} {c : Char} {stack : List (Frame F)}
    {after : Config F} (started : startKey before c stack = .ok after) : 0 < after.depth := by
  unfold startKey at started
  split_ifs at started
  cases started
  simp [Config.depth, Mode.depth]

/-- After a value, a character closes at most one dictionary or list. -/
theorem depth_afterValue {value : Json F} {c : Char} {stack : List (Frame F)} {after : Config F}
    (opened : stack ≠ []) (went : afterValue value c stack = .ok after) :
    0 < after.depth ∨ after.Closed := by
  cases stack with
  | nil => exact absurd rfl opened
  | cons frame stack =>
    have left : ∀ value', 0 < (⟨.after value', stack⟩ : Config F).depth ∨
        (⟨.after value', stack⟩ : Config F).Closed := by
      intro value'
      cases stack with
      | nil => exact Or.inr ⟨value', rfl⟩
      | cons frame' stack => exact Or.inl (by simp [Config.depth])
    cases frame <;> simp only [afterValue] at went <;> split_ifs at went <;> cases went
    · exact Or.inl (by simp [Config.depth])
    · exact Or.inl (by simp [Config.depth])
    · exact left _
    · exact Or.inl (by simp [Config.depth])
    · exact Or.inl (by simp [Config.depth, Mode.depth])
    · exact left _

/-- A step within open values stays in one or closes the last: the cases are those of the mode. -/
theorem depth_of_step {c : Char} {config after : Config F}
    (stepped : step floats config c = .ok after) (opened : 0 < config.depth) :
    0 < after.depth ∨ after.Closed := by
  obtain ⟨mode, stack⟩ := config
  have nonempty : mode.depth = 0 → 0 < stack.length := by
    intro flat
    simp only [Config.depth, flat] at opened
    exact opened
  have closes : ∀ value : Json F, 0 < (⟨.after value, stack⟩ : Config F).depth ∨
      (⟨.after value, stack⟩ : Config F).Closed := by
    intro value
    cases stack with
    | nil => exact Or.inr ⟨value, rfl⟩
    | cons frame stack => exact Or.inl (by simp [Config.depth])
  cases mode with
  | value =>
    simp only [step] at stepped
    split_ifs at stepped
    · cases stepped
      exact Or.inl opened
    · exact Or.inl ((nonempty rfl).trans_le (depth_startValue stepped))
  | firstItem =>
    simp only [step] at stepped
    split_ifs at stepped
    · cases stepped
      exact Or.inl opened
    · cases stepped
      exact closes _
    · exact Or.inl ((Nat.succ_pos _).trans_le (depth_startValue stepped))
  | firstKey =>
    simp only [step] at stepped
    split_ifs at stepped
    · cases stepped
      exact Or.inl opened
    · cases stepped
      exact closes _
    · exact Or.inl (depth_startKey stepped)
  | nextKey before =>
    simp only [step] at stepped
    split_ifs at stepped
    · cases stepped
      exact Or.inl opened
    · exact Or.inl (depth_startKey stepped)
  | colon before key =>
    simp only [step] at stepped
    split_ifs at stepped <;> cases stepped
    · exact Or.inl opened
    · exact Or.inl (by simp [Config.depth])
  | after value => exact depth_afterValue (List.length_pos_iff.mp (nonempty rfl)) stepped
  | literal purpose s =>
    simp only [step] at stepped
    cases read : s.step c with
    | none =>
      rw [read] at stepped
      cases stepped
    | some reading =>
      rw [read] at stepped
      cases reading with
      | more s' =>
        cases stepped
        cases purpose <;> exact Or.inl opened
      | done text =>
        cases purpose with
        | value =>
          cases stepped
          exact closes _
        | key before =>
          cases stepped
          exact Or.inl (by simp [Config.depth, Mode.depth])
  | number part text =>
    have inside := nonempty rfl
    simp only [step] at stepped
    cases next : part.step c with
    | some part' =>
      rw [next] at stepped
      cases stepped
      exact Or.inl opened
    | none =>
      rw [next] at stepped
      simp only at stepped
      split_ifs at stepped
      · cases stepped
        exact Or.inl opened
      · cases value : numberOf floats part text with
        | error e =>
          rw [value] at stepped
          cases stepped
        | ok value' =>
          rw [value] at stepped
          exact depth_afterValue (List.length_pos_iff.mp inside) stepped
  | word rest value =>
    have inside := nonempty rfl
    obtain ⟨letters, alpha⟩ := rest
    cases letters with
    | nil => exact depth_afterValue (List.length_pos_iff.mp inside) stepped
    | cons d rest =>
      simp only [step] at stepped
      split_ifs at stepped <;> cases stepped
      · exact closes _
      · exact Or.inl opened

/-! ## A text -/

/-- Only blanks may follow a value that has been read. -/
theorem blank_of_closed (text : List Char) {config after : Config F} (closed : config.Closed)
    (ran : run floats text config = .ok after) :
    (∀ c ∈ text, isBlank c = true) ∧ after = config := by
  obtain ⟨value, rfl⟩ := closed
  induction text with
  | nil =>
    cases ran
    exact ⟨fun c member => absurd member List.not_mem_nil, rfl⟩
  | cons c text ih =>
    simp only [run, step, afterValue] at ran
    by_cases blank : isBlank c = true
    · rw [if_pos blank] at ran
      obtain ⟨blanks, same⟩ := ih ran
      exact ⟨List.forall_mem_cons.mpr ⟨blank, blanks⟩, same⟩
    · rw [if_neg blank] at ran
      cases ran

theorem depth_of_run (text : List Char) : ∀ {config after : Config F},
    run floats text config = .ok after → 0 < config.depth → 0 < after.depth ∨ after.Closed := by
  induction text with
  | nil =>
    intro config after ran opened
    cases ran
    exact Or.inl opened
  | cons c text ih =>
    intro config after ran opened
    obtain ⟨next, stepped, went⟩ := run_of_cons ran
    rcases depth_of_step stepped opened with deep | closed
    · exact ih went deep
    · rw [(blank_of_closed text closed went).2]
      exact Or.inr closed

theorem finish_of_depth {config : Config F} (opened : 0 < config.depth) :
    ∃ e, finish floats config = .error e := by
  have flat : ∀ mode : Mode F, mode.depth = 0 → ¬ 0 < (⟨mode, []⟩ : Config F).depth := by
    intro mode none
    simp [Config.depth, none]
  obtain ⟨mode, stack⟩ := config
  cases stack with
  | nil =>
    cases mode with
    | after value => exact absurd opened (flat _ rfl)
    | number part text => exact absurd opened (flat _ rfl)
    | _ => exact ⟨_, rfl⟩
  | cons frame stack =>
    cases mode with
    | number part text =>
      cases value : numberOf floats part text with
      | error e => exact ⟨e, by simp [finish, value]⟩
      | ok v => exact ⟨.syntax_, by simp [finish, value]⟩
    | _ => exact ⟨_, rfl⟩

/-! ## Dictionaries -/

/-- The text of a dictionary with nothing around it, whose first key begins with a letter. -/
structure Entry (floats : Floats F) (text : List Char) (value : Json F) : Prop where
  begins : ∃ letter rest, text = '\x7b' :: '"' :: letter :: rest ∧ letter.isAlpha = true
  ends : '\x7d' ∈ text.getLast?
  read : loads floats text = .ok value

/-- The text may stand wherever a value may. -/
theorem run_entry {text : List Char} {value : Json F} (entry : Entry floats text value)
    (stack : List (Frame F)) :
    run floats text ⟨.value, stack⟩ = .ok ⟨.after value, stack⟩ := by
  obtain ⟨letter, rest, rfl, -⟩ := entry.begins
  have whole := entry.read
  rw [loads, Loads.read] at whole
  cases ran : run floats ('\x7b' :: '"' :: letter :: rest) ⟨.value, []⟩ with
  | error e =>
    rw [ran] at whole
    cases whole
  | ok after =>
    rw [ran] at whole
    have inside : run floats ('"' :: letter :: rest) ⟨.firstKey, []⟩ = .ok after := ran
    rcases depth_of_run _ inside (by simp [Config.depth, Mode.depth]) with deep | ⟨value', rfl⟩
    · obtain ⟨e, refused⟩ := finish_of_depth deep
      have ended : finish floats after = .ok value := whole
      rw [refused] at ended
      cases ended
    · cases whole
      exact run_below stack _ ran

/-- The beginning of the text leaves the dictionary open. -/
theorem depth_of_beginning {before after : List Char} {value : Json F}
    (entry : Entry floats (before ++ after) value) (some : before ≠ []) (cut : after ≠ [])
    (stack : List (Frame F)) :
    ∃ between, run floats before ⟨.value, stack⟩ = .ok between ∧ stack.length < between.depth := by
  obtain ⟨between, ran, went⟩ := run_of_append (run_entry entry [])
  have deep : 0 < between.depth := by
    obtain ⟨letter, rest, begins, -⟩ := entry.begins
    obtain ⟨c, before, rfl⟩ := List.exists_cons_of_ne_nil some
    cases (List.cons.inj begins).1
    have inside : run floats before ⟨.firstKey, []⟩ = .ok between := ran
    rcases depth_of_run _ inside (by simp [Config.depth, Mode.depth]) with deep | closed
    · exact deep
    · have blanks := (blank_of_closed after closed went).1
      have ends := entry.ends
      rw [List.getLast?_append_of_ne_nil _ cut] at ends
      exact absurd (blanks _ (List.mem_of_getLast? ends)) (by decide)
  refine ⟨between.over stack, run_below stack before ran, ?_⟩
  rw [depth_over]
  omega

/-- Some of the text of a dictionary, from its beginning. -/
structure Piece (floats : Floats F) (piece : List Char) : Prop where
  nonempty : piece ≠ []
  ofEntry : ∃ text value, Entry floats text value ∧ piece <+: text

theorem Piece.head {piece : List Char} (isPiece : Piece floats piece) :
    ∃ rest, piece = '\x7b' :: rest ∧
      (rest = [] ∨ rest = ['"'] ∨
        ∃ letter more, rest = '"' :: letter :: more ∧ letter.isAlpha = true) := by
  obtain ⟨text, value, entry, rest, whole⟩ := isPiece.ofEntry
  obtain ⟨letter, more, rfl, alpha⟩ := entry.begins
  match piece, isPiece.nonempty with
  | [c], _ =>
    cases whole
    exact ⟨[], rfl, Or.inl rfl⟩
  | [c, d], _ =>
    cases whole
    exact ⟨['"'], rfl, Or.inr (Or.inl rfl)⟩
  | c :: d :: e :: piece, _ =>
    cases whole
    exact ⟨_, rfl, Or.inr (Or.inr ⟨letter, piece, rfl, alpha⟩)⟩

theorem Piece.depth_value {piece : List Char} (isPiece : Piece floats piece)
    {stack : List (Frame F)} {after : Config F} (opened : stack ≠ [])
    (ran : run floats piece ⟨.value, stack⟩ = .ok after) : 0 < after.depth := by
  obtain ⟨text, value, entry, rest, rfl⟩ := isPiece.ofEntry
  have inside : 0 < stack.length := List.length_pos_iff.mpr opened
  by_cases all : rest = []
  · subst all
    rw [List.append_nil] at entry
    rw [run_entry entry stack] at ran
    cases ran
    exact Nat.lt_of_lt_of_le inside (Nat.le_add_right _ _)
  · obtain ⟨between, went, deep⟩ := depth_of_beginning entry isPiece.nonempty all stack
    rw [went] at ran
    cases ran
    omega

/-- No letter stands after a value. -/
theorem afterValue_of_isAlpha {c : Char} (alpha : c.isAlpha = true) (value : Json F)
    (stack : List (Frame F)) : afterValue value c stack = .error .syntax_ := by
  have other : ∀ d : Char, d.isAlpha = false → c ≠ d := by
    rintro d mark rfl
    rw [alpha] at mark
    cases mark
  have nonblank : isBlank c = false := by
    simp [isBlank, other ' ' rfl, other '\n' rfl, other '\r' rfl, other '\t' rfl]
  cases stack with
  | nil => simp [afterValue, nonblank]
  | cons frame stack =>
    cases frame <;>
      simp [afterValue, nonblank, other ',' rfl, other ']' rfl, other '\x7d' rfl]

/-- No dictionary begins after a value. -/
theorem afterValue_brace (value : Json F) (stack : List (Frame F)) :
    afterValue value '\x7b' stack = .error .syntax_ := by
  cases stack with
  | nil => rfl
  | cons frame stack => cases frame <;> rfl

theorem step_after_brace (value : Json F) (stack : List (Frame F)) {after : Config F} :
    step floats ⟨.after value, stack⟩ '\x7b' ≠ .ok after := by
  intro stepped
  have refused : afterValue value '\x7b' stack = .ok after := stepped
  rw [afterValue_brace] at refused
  cases refused

/-- A brace within a string is text. -/
theorem step_literal_brace {purpose : Purpose F} {s : Literal} {stack : List (Frame F)}
    {after : Config F} (stepped : step floats ⟨.literal purpose s, stack⟩ '\x7b' = .ok after) :
    ∃ text, after = ⟨.literal purpose ⟨text, none, .none⟩, stack⟩ := by
  obtain ⟨text, high, escape⟩ := s
  cases escape with
  | none =>
    cases stepped
    exact ⟨_, rfl⟩
  | backslash => cases stepped
  | hex digits => cases stepped

/-- Within a string, a dictionary is text up to its first quote, which ends the string. -/
theorem Piece.depth_literal {piece : List Char} (isPiece : Piece floats piece)
    {purpose : Purpose F} {s : Literal} {stack : List (Frame F)} {after : Config F}
    (opened : 0 < (⟨.literal purpose s, stack⟩ : Config F).depth)
    (ran : run floats piece ⟨.literal purpose s, stack⟩ = .ok after) : 0 < after.depth := by
  obtain ⟨rest, rfl, shape⟩ := isPiece.head
  obtain ⟨next, stepped, inside⟩ := run_of_cons ran
  obtain ⟨text, rfl⟩ := step_literal_brace stepped
  rcases shape with rfl | rfl | ⟨letter, more, rfl, alpha⟩
  · cases inside
    cases purpose <;> exact opened
  · cases purpose <;> cases inside <;> exact opened
  · have other : ∀ d : Char, d.isAlpha = false → letter ≠ d := by
      rintro d mark rfl
      rw [alpha] at mark
      cases mark
    obtain ⟨closed, quote, beyond⟩ := run_of_cons inside
    cases purpose with
    | value =>
      cases quote
      simp only [run, step, afterValue_of_isAlpha alpha] at beyond
      cases beyond
    | key before =>
      cases quote
      have nonblank : isBlank letter = false := by
        simp [isBlank, other ' ' rfl, other '\n' rfl, other '\r' rfl, other '\t' rfl]
      simp only [run, step, nonblank, other ':' rfl, if_false] at beyond
      cases beyond

/-- A dictionary that follows an open value, or a value that has been read, closes nothing. -/
theorem Piece.depth {piece : List Char} (isPiece : Piece floats piece) {config after : Config F}
    (reached : 0 < config.depth ∨ config.Closed) (ran : run floats piece config = .ok after) :
    0 < after.depth := by
  have starts : ∃ rest, piece = '\x7b' :: rest := by
    obtain ⟨rest, whole, -⟩ := isPiece.head
    exact ⟨rest, whole⟩
  have goes : ∃ next, step floats config '\x7b' = .ok next := by
    obtain ⟨rest, rfl⟩ := starts
    obtain ⟨next, stepped, -⟩ := run_of_cons ran
    exact ⟨next, stepped⟩
  obtain ⟨next, stepped⟩ := goes
  rcases reached with opened | ⟨value, rfl⟩
  · obtain ⟨mode, stack⟩ := config
    cases mode with
    | value =>
      refine isPiece.depth_value ?_ ran
      rintro rfl
      exact absurd opened (lt_irrefl 0)
    | firstItem =>
      have item : run floats piece ⟨.value, .items [] :: stack⟩ = .ok after := by
        obtain ⟨rest, rfl⟩ := starts
        exact ran
      exact isPiece.depth_value (List.cons_ne_nil _ _) item
    | firstKey => cases stepped
    | nextKey before => cases stepped
    | colon before key => cases stepped
    | after value => exact absurd stepped (step_after_brace value stack)
    | literal purpose s => exact isPiece.depth_literal opened ran
    | number part text =>
      have ended : part.step '\x7b' = none := by cases part <;> rfl
      simp only [step, ended, afterValue_brace] at stepped
      split_ifs at stepped with infinite
      · exact absurd infinite.2 (by decide)
      · cases value : numberOf floats part text <;> rw [value] at stepped <;> cases stepped
    | word rest value =>
      obtain ⟨letters, alpha⟩ := rest
      cases letters with
      | nil =>
        have refused : step floats ⟨.after value, stack⟩ '\x7b' = .ok next := stepped
        exact absurd refused (step_after_brace value stack)
      | cons d letters =>
        have letter : '\x7b' ≠ d := by
          rintro rfl
          exact absurd (alpha _ List.mem_cons_self) (by decide)
        simp only [step, if_neg letter] at stepped
        cases stepped
  · exact absurd stepped (step_after_brace value [])

/-! ## Texts that are refused -/

/-- The text leaves something open, or is refused before its end. -/
def Torn (floats : Floats F) (text : List Char) : Prop :=
  ∀ after, run floats text ⟨.value, []⟩ = .ok after → 0 < after.depth

theorem loads_of_torn {text : List Char} (torn : Torn floats text) :
    ∃ e, loads floats text = .error e := by
  rw [loads, Loads.read]
  cases ran : run floats text ⟨.value, []⟩ with
  | error e => exact ⟨e, rfl⟩
  | ok after => exact finish_of_depth (torn after ran)

/-- The beginning of a dictionary is refused. -/
theorem torn_of_beginning {before after : List Char} {value : Json F}
    (entry : Entry floats (before ++ after) value) (some : before ≠ []) (cut : after ≠ []) :
    Torn floats before := by
  intro reached ran
  obtain ⟨between, went, deep⟩ := depth_of_beginning entry some cut []
  rw [went] at ran
  cases ran
  exact deep

/-- So is what goes on with a dictionary, after a whole one or one that is cut short. -/
theorem torn_append {text piece : List Char}
    (begun : Torn floats text ∨ ∃ value, Entry floats text value) (isPiece : Piece floats piece) :
    Torn floats (text ++ piece) := by
  intro after ran
  obtain ⟨between, went, ran⟩ := run_of_append ran
  rcases begun with torn | ⟨value, entry⟩
  · exact isPiece.depth (Or.inl (torn between went)) ran
  · rw [run_entry entry []] at went
    cases went
    exact isPiece.depth (Or.inr ⟨value, rfl⟩) ran

end Loads

end Python
