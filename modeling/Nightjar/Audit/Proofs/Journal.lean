import Mathlib.Data.List.DropRight
import Nightjar.Audit.Journal
import Nightjar.JsonReader
import Nightjar.Python.JsonTorn

/-!
# The audit file is read back

The records of the calls that returned a path, read from the file: all of them when every call did,
and otherwise just when what the failed calls left makes no line of its own or of another.
-/

namespace Nightjar

open Python

namespace Journal

section Text

variable {N : Type} {missionId : UUID} {entry : JournalEntry N}

/-- What is read is the record. -/
theorem isRecord_sortKeys (record : Json N) : IsRecord record (loaded record.sortKeys) := by
  rw [IsRecord, loaded_eq_mapFloats, loaded_eq_mapFloats]
  exact Json.same_sortKeys _ record

variable [PyText N]

/-- The text of a record. -/
def IsText (missionId : UUID) (entry : JournalEntry N) (text : List Char) : Prop :=
  dumps? (recordOf missionId entry) = some text

theorem eq_render_of_isText {text : List Char} (isText : IsText missionId entry text) :
    (recordOf missionId entry).shortInts = true ∧
      text = (recordOf missionId entry).sortKeys.render Json.ascii := by
  unfold IsText dumps? at isText
  split_ifs at isText with short
  exact ⟨short, (Option.some.inj isText).symm⟩

/-- A record begins with a brace and the first of its keys, and ends with a brace. -/
theorem shape_of_isText {text : List Char} (isText : IsText missionId entry text) :
    ∃ middle, text = '\x7b' :: '"' :: 'd' :: (middle ++ ['\x7d']) := by
  obtain ⟨-, same⟩ := eq_render_of_isText isText
  rw [recordOf_sortKeys] at same
  exact ⟨_, same⟩

variable [LawfulFloatText N]

theorem printable_of_isText {text : List Char} (isText : IsText missionId entry text) :
    ∀ c ∈ text, Json.Printable c := by
  obtain ⟨-, rfl⟩ := eq_render_of_isText isText
  exact Json.printable_render _

variable {floats : Loads.Floats (Reading N)}

/-- The text of a record is that of a dictionary, the record with its keys sorted. -/
theorem entry_of_isText (roundTrips : floats.RoundTrips .finite) {text : List Char}
    (isText : IsText missionId entry text) :
    Loads.Entry floats text (loaded (recordOf missionId entry).sortKeys) := by
  obtain ⟨short, same⟩ := eq_render_of_isText isText
  obtain ⟨middle, shape⟩ := shape_of_isText isText
  refine ⟨⟨'d', _, shape, rfl⟩, ?_, ?_⟩
  · have last : text = ('\x7b' :: '"' :: 'd' :: middle) ++ ['\x7d'] := shape
    rw [last]
    exact List.getLast?_concat
  · rw [same, loaded_eq_mapFloats]
    apply Loads.loads_render roundTrips
    · exact Json.distinct_sortKeys _ (distinct_recordOf missionId entry)
    · rw [Json.shortInts_sortKeys]
      exact short

end Text

section Bytes

variable {N : Type} [PyText N] {logDirectory : String} {missionId : UUID}

/-- The characters that a call appends. -/
def Attempt.chars (missionId : UUID) (attempt : Attempt N) : List Char :=
  match dumps? (recordOf missionId attempt.entry) with
  | none => []
  | some text => (text ++ ['\n']).take attempt.room

/-- The best-effort writer appends what the strict one does. -/
theorem write_fst (attempt : Attempt N) :
    (attempt.write logDirectory missionId).1 =
      (writeAuditRecord logDirectory missionId attempt.entry attempt.room).1 := by
  obtain ⟨writer, entry, room⟩ := attempt
  cases writer with
  | strict => rfl
  | bestEffort =>
    simp only [Attempt.write, writeAuditRecordBestEffort]
    rcases writeAuditRecord logDirectory missionId entry room with ⟨bytes, exc | path⟩
    · by_cases caught : exc.cls.isException = true <;> simp [caught]
    · rfl

/-- And it returns a path when the strict one does. -/
theorem returned_iff_isOk (attempt : Attempt N) :
    attempt.returned logDirectory missionId = true ↔
      (writeAuditRecord logDirectory missionId attempt.entry attempt.room).2.isOk = true := by
  obtain ⟨writer, entry, room⟩ := attempt
  cases writer with
  | strict =>
    simp only [Attempt.returned, Attempt.write]
    rcases writeAuditRecord logDirectory missionId entry room with ⟨bytes, exc | path⟩ <;>
      simp [Except.map, Except.isOk, Except.toBool]
  | bestEffort =>
    simp only [Attempt.returned, Attempt.write, writeAuditRecordBestEffort]
    rcases writeAuditRecord logDirectory missionId entry room with ⟨bytes, exc | path⟩
    · by_cases caught : exc.cls.isException = true <;> simp [caught, Except.isOk, Except.toBool]
    · simp [Except.isOk, Except.toBool]

variable [LawfulFloatText N]

theorem ascii_line {entry : JournalEntry N} {text : List Char}
    (isText : IsText missionId entry text) : ∀ c ∈ text ++ ['\n'], c.toNat < 128 := by
  intro c member
  rcases List.mem_append.mp member with inside | last
  · exact (printable_of_isText isText c inside).2.trans (by decide)
  · rw [List.mem_singleton.mp last]
    decide

omit [LawfulFloatText N] in
theorem line_of_isText {attempt : Attempt N} {text : List Char}
    (isText : IsText missionId attempt.entry text) :
    attempt.line missionId = encodeUtf8 (String.ofList (text ++ ['\n'])) := by
  rw [Attempt.line, show dumps? (recordOf missionId attempt.entry) = some text from isText]

theorem length_line {attempt : Attempt N} {text : List Char}
    (isText : IsText missionId attempt.entry text) :
    (attempt.line missionId).length = text.length + 1 := by
  rw [line_of_isText isText, length_encodeUtf8 (ascii_line isText), List.length_append]
  rfl

/-- How a line ends, by the length of the record's text. -/
theorem ending_eq {attempt : Attempt N} {text : List Char}
    (isText : IsText missionId attempt.entry text) :
    attempt.ending missionId =
      if attempt.room = 0 then .nothing
      else if text.length + 1 ≤ attempt.room then .whole
      else if text.length + 1 = attempt.room + 1 then .unended
      else .torn := by
  have length := length_line isText
  have nonempty : attempt.line missionId ≠ [] := by
    intro empty
    rw [empty] at length
    cases length
  simp only [Attempt.ending, nonempty, false_or, length]

/-- What a call appends. -/
theorem write_eq (attempt : Attempt N) :
    (attempt.write logDirectory missionId).1 =
      encodeUtf8 (String.ofList (attempt.chars missionId)) := by
  rw [write_fst, writeAuditRecord, Attempt.chars]
  cases dumped : dumps? (recordOf missionId attempt.entry) with
  | none => rfl
  | some text => exact take_encodeUtf8 (ascii_line dumped) attempt.room

/-- A call returned a path just when its line is whole. -/
theorem returned_iff (attempt : Attempt N) :
    attempt.returned logDirectory missionId = true ↔ attempt.ending missionId = .whole := by
  rw [returned_iff_isOk, writeAuditRecord]
  cases dumped : dumps? (recordOf missionId attempt.entry) with
  | none =>
    have empty : attempt.line missionId = [] := by rw [Attempt.line, dumped]
    simp [Attempt.ending, empty, Except.isOk, Except.toBool]
  | some text =>
    rw [ending_eq dumped]
    simp only [← line_of_isText dumped, length_line dumped]
    by_cases fits : text.length + 1 ≤ attempt.room
    · have some : attempt.room ≠ 0 := by omega
      simp [fits, some, Except.isOk, Except.toBool]
    · simp only [fits, if_false, Except.isOk, Except.toBool]
      split_ifs <;> simp

/-- How the characters of a call end. -/
theorem chars_cases (missionId : UUID) (attempt : Attempt N) :
    (attempt.ending missionId = .nothing ∧ attempt.chars missionId = []) ∨
    ∃ text, IsText missionId attempt.entry text ∧
      (attempt.ending missionId = .whole ∧ attempt.chars missionId = text ++ ['\n'] ∨
       attempt.ending missionId = .unended ∧ attempt.chars missionId = text ∨
       attempt.ending missionId = .torn ∧ ∃ before after, text = before ++ after ∧ before ≠ [] ∧
         after ≠ [] ∧ attempt.chars missionId = before) := by
  cases dumped : dumps? (recordOf missionId attempt.entry) with
  | none =>
    have empty : attempt.line missionId = [] := by rw [Attempt.line, dumped]
    exact Or.inl ⟨by simp [Attempt.ending, empty], by simp [Attempt.chars, dumped]⟩
  | some text =>
    have chars : attempt.chars missionId = (text ++ ['\n']).take attempt.room := by
      rw [Attempt.chars, dumped]
    rw [ending_eq dumped]
    by_cases none : attempt.room = 0
    · exact Or.inl ⟨if_pos none, by rw [chars, none, List.take_zero]⟩
    refine Or.inr ⟨text, dumped, ?_⟩
    rw [if_neg none]
    by_cases fits : text.length + 1 ≤ attempt.room
    · refine Or.inl ⟨if_pos fits, ?_⟩
      rw [chars, List.take_of_length_le]
      simpa using fits
    rw [if_neg fits]
    by_cases most : text.length + 1 = attempt.room + 1
    · refine Or.inr (Or.inl ⟨if_pos most, ?_⟩)
      rw [chars, ← Nat.succ.inj most, List.take_left]
    · have short : attempt.room < text.length := by omega
      refine Or.inr (Or.inr ⟨if_neg most, text.take attempt.room, text.drop attempt.room,
        (List.take_append_drop _ _).symm, ?_, ?_, ?_⟩)
      · rw [Ne, ← List.length_eq_zero_iff, List.length_take]
        omega
      · rw [Ne, ← List.length_eq_zero_iff, List.length_drop]
        omega
      · rw [chars, List.take_append_of_le_length (Nat.le_of_lt short)]

end Bytes

section Lines

variable {N : Type} {reader : Reader N}

/-- The values on the lines of a text. -/
def readLines (reader : Reader N) (text : List Char) : Except PyExc (List (Loaded N)) :=
  (AcceptanceChecks.auditLines (String.ofList text)).mapM reader.loads

theorem auditLines_cons {line : List Char} (printable : ∀ c ∈ line, Json.Printable c)
    (some : strip line ≠ []) (rest : List Char) :
    AcceptanceChecks.auditLines (String.ofList (line ++ '\n' :: rest)) =
      String.ofList (strip line) :: AcceptanceChecks.auditLines (String.ofList rest) := by
  have chars : ∀ text : List Char, (String.ofList text).toList = text :=
    fun _ => String.toList_ofList
  simp [AcceptanceChecks.auditLines, chars, splitlines_append_newline printable, some]

theorem splitlines_printable {line : List Char} (printable : ∀ c ∈ line, Json.Printable c)
    (some : line ≠ []) : splitlines line = [line] := by
  induction line with
  | nil => exact absurd rfl some
  | cons c line ih =>
    rw [List.forall_mem_cons] at printable
    have unbroken := not_isLineBreak_of_printable printable.1
    have other : c ≠ '\r' := by
      rintro rfl
      cases unbroken
    rw [splitlines]
    · by_cases last : line = []
      · subst last
        simp [splitlines, unbroken]
      · rw [ih printable.2 last]
        simp [unbroken]
    · exact fun _ same _ => other same

theorem auditLines_last {line : List Char} (printable : ∀ c ∈ line, Json.Printable c)
    (some : strip line ≠ []) :
    AcceptanceChecks.auditLines (String.ofList line) = [String.ofList (strip line)] := by
  have chars : (String.ofList line).toList = line := String.toList_ofList
  have nonempty : line ≠ [] := by
    rintro rfl
    exact some rfl
  simp [AcceptanceChecks.auditLines, chars, splitlines_printable printable nonempty, some]

/-- A line that is a value, before others. -/
theorem readLines_cons {line : List Char} {value : Loaded N}
    (printable : ∀ c ∈ line, Json.Printable c) (some : strip line ≠ [])
    (read : reader.loads (String.ofList (strip line)) = .ok value) (rest : List Char) :
    readLines reader (line ++ '\n' :: rest) = (readLines reader rest).map (value :: ·) := by
  rw [readLines, auditLines_cons printable some, List.mapM_cons, read, readLines]
  cases (AcceptanceChecks.auditLines (String.ofList rest)).mapM reader.loads <;> rfl

/-- A line that is refused, before others. -/
theorem readLines_error {line : List Char} {e : PyExc}
    (printable : ∀ c ∈ line, Json.Printable c) (some : strip line ≠ [])
    (refused : reader.loads (String.ofList (strip line)) = .error e) (rest : List Char) :
    readLines reader (line ++ '\n' :: rest) = .error e := by
  rw [readLines, auditLines_cons printable some, List.mapM_cons, refused]
  rfl

theorem readLines_last {line : List Char} (printable : ∀ c ∈ line, Json.Printable c)
    (some : strip line ≠ []) :
    readLines reader line = (reader.loads (String.ofList (strip line))).map ([·]) := by
  rw [readLines, auditLines_last printable some, List.mapM_cons]
  cases reader.loads (String.ofList (strip line)) <;> rfl

end Lines

section Refused

variable {N : Type} {floats : Loads.Floats (Reading N)}
  {describe : Loads.Failure → String → String} {decodeError : List UInt8 → String}

/-- What is stripped from a text that goes on with a dictionary is stripped from the dictionary. -/
theorem strip_append (text : List Char) {piece : List Char} {first second : Char}
    {rest more : List Char}
    (starts : text ++ piece = first :: rest) (goes : piece = second :: more)
    (solid : isSpace first = false) (solid' : isSpace second = false) :
    ∃ kept, kept ≠ [] ∧ kept <+: piece ∧ strip (text ++ piece) = text ++ kept := by
  have some : piece.rdropWhile isSpace ≠ [] := by
    intro none
    have space := List.rdropWhile_eq_nil_iff.mp none second (by rw [goes]; exact List.mem_cons_self)
    rw [solid'] at space
    cases space
  refine ⟨piece.rdropWhile isSpace, some, List.rdropWhile_prefix _ _, ?_⟩
  have stripped : strip (text ++ piece) = (text ++ piece).rdropWhile isSpace := by
    rw [starts, strip, List.dropWhile_cons_of_neg (by simp [solid])]
    rfl
  have left : (piece.reverse.dropWhile isSpace).isEmpty = false := by
    rw [List.isEmpty_eq_false_iff]
    exact fun none => some (congrArg List.reverse none)
  rw [stripped, List.rdropWhile, List.reverse_append, List.dropWhile_append, left]
  simp [List.rdropWhile]

/-- A line that is refused, however it goes on. -/
structure Spoiled (floats : Loads.Floats (Reading N)) (pending : List Char) : Prop where
  printable : ∀ c ∈ pending, Json.Printable c
  starts : ∃ rest, pending = '\x7b' :: rest
  torn : Loads.Torn floats pending
  stripped : Loads.Torn floats (strip pending)
  some : strip pending ≠ []

theorem Spoiled.error {pending : List Char} (spoiled : Spoiled floats pending)
    (describe : Loads.Failure → String → String) (decodeError : List UInt8 → String) :
    ∃ e, (jsonReader floats describe decodeError).loads (String.ofList (strip pending)) =
      .error e := by
  obtain ⟨e, refused⟩ := Loads.loads_of_torn spoiled.stripped
  exact jsonReader_error refused

theorem readLines_error_of_spoiled (describe : Loads.Failure → String → String)
    (decodeError : List UInt8 → String) {line : List Char} (spoiled : Spoiled floats line)
    (rest : List Char) :
    ∃ e, readLines (jsonReader floats describe decodeError) (line ++ '\n' :: rest) = .error e := by
  obtain ⟨e, refused⟩ := spoiled.error describe decodeError
  exact ⟨e, readLines_error spoiled.printable spoiled.some refused rest⟩

/-- A line is spoiled when a dictionary follows another, or one that is cut short. -/
theorem spoiled_append {pending piece : List Char} (printable : ∀ c ∈ pending ++ piece,
      Json.Printable c) (starts : ∃ rest, pending = '\x7b' :: rest)
    (begun : Loads.Torn floats pending ∨ ∃ value, Loads.Entry floats pending value)
    (isPiece : Loads.Piece floats piece) : Spoiled floats (pending ++ piece) := by
  obtain ⟨rest, begins⟩ := starts
  obtain ⟨more, goes, -⟩ := isPiece.head
  have whole : pending ++ piece = '\x7b' :: (rest ++ piece) := by rw [begins]; rfl
  obtain ⟨kept, some, isPrefix, stripped⟩ := strip_append pending whole goes (by decide) (by decide)
  obtain ⟨text, value, entry, within⟩ := isPiece.ofEntry
  have keptPiece : Loads.Piece floats kept := ⟨some, text, value, entry, isPrefix.trans within⟩
  refine ⟨printable, ⟨_, whole⟩, Loads.torn_append begun isPiece, ?_, ?_⟩
  · rw [stripped]
    exact Loads.torn_append begun keptPiece
  · rw [stripped]
    exact List.append_ne_nil_of_right_ne_nil _ some

/-- And when a dictionary is cut short. -/
theorem spoiled_of_beginning {before after : List Char} {value : Loaded N}
    (printable : ∀ c ∈ before ++ after, Json.Printable c)
    (entry : Loads.Entry floats (before ++ after) value) (nonempty : before ≠ [])
    (cut : after ≠ []) : Spoiled floats before := by
  have isPiece : Loads.Piece floats before :=
    ⟨nonempty, _, value, entry, List.prefix_append before after⟩
  obtain ⟨more, goes, -⟩ := isPiece.head
  obtain ⟨kept, some, ⟨dropped, same⟩, stripped⟩ :=
    strip_append [] goes goes (by decide) (by decide)
  rw [List.nil_append, List.nil_append] at stripped
  have keptEntry : Loads.Entry floats (kept ++ (dropped ++ after)) value := by
    rw [← List.append_assoc, same]
    exact entry
  refine ⟨fun c member => printable c (List.mem_append_left _ member), ⟨_, goes⟩,
    Loads.torn_of_beginning entry nonempty cut, ?_, ?_⟩
  · rw [stripped]
    exact Loads.torn_of_beginning keptEntry some (List.append_ne_nil_of_right_ne_nil _ cut)
  · rw [stripped]
    exact some

end Refused

section Runs

variable {N : Type} [PyText N] [LawfulFloatText N] {floats : Loads.Floats (Reading N)}
  {logDirectory : String} {missionId : UUID}

/-- The characters that some calls append. -/
def charsOf (missionId : UUID) (attempts : List (Attempt N)) : List Char :=
  attempts.flatMap (Attempt.chars missionId)

omit [LawfulFloatText N] in
theorem charsOf_cons (attempt : Attempt N) (attempts : List (Attempt N)) :
    charsOf missionId (attempt :: attempts) =
      attempt.chars missionId ++ charsOf missionId attempts := List.flatMap_cons

theorem chars_nothing {attempt : Attempt N} (nothing : attempt.ending missionId = .nothing) :
    attempt.chars missionId = [] := by
  rcases chars_cases missionId attempt with ⟨-, none⟩ | ⟨text, -, cases⟩
  · exact none
  · rw [nothing] at cases
    simp at cases

theorem charsOf_nothing {attempts : List (Attempt N)}
    (nothing : ∀ attempt ∈ attempts, attempt.ending missionId = .nothing) :
    charsOf missionId attempts = [] := by
  induction attempts with
  | nil => rfl
  | cons attempt attempts ih =>
    rw [List.forall_mem_cons] at nothing
    rw [charsOf_cons, chars_nothing nothing.1, ih nothing.2]
    rfl

/-- What some calls leave in a file. -/
theorem fileAfter_some (attempts : List (Attempt N)) :
    ∀ bytes, fileAfter logDirectory missionId attempts (some bytes) =
      some (bytes ++ encodeUtf8 (String.ofList (charsOf missionId attempts))) := by
  induction attempts with
  | nil =>
    intro bytes
    rw [fileAfter, charsOf, List.flatMap_nil]
    exact congrArg some (List.append_nil bytes).symm
  | cons attempt attempts ih =>
    intro bytes
    rw [fileAfter, ih, charsOf_cons, String.ofList_append, encodeUtf8_append, write_eq,
      Option.getD_some, List.append_assoc]

/-- What `_read_audit` makes of the file is decided by its lines. -/
theorem readAudit_fileAfter (reader : Reader N) (attempts : List (Attempt N)) :
    AcceptanceChecks.readAudit reader (fileAfter logDirectory missionId attempts none) =
      match readLines reader (charsOf missionId attempts) with
      | .ok values => .ok (.ok values)
      | .error e =>
        if AcceptanceChecks.isParseError e.cls then
          .ok (.error ("audit could not be parsed: " ++ e.text))
        else .error e := by
  cases attempts with
  | nil => rfl
  | cons attempt attempts =>
    have file : fileAfter logDirectory missionId (attempt :: attempts) none =
        some (encodeUtf8 (String.ofList (charsOf missionId (attempt :: attempts)))) :=
      fileAfter_some (attempt :: attempts) []
    rw [file, AcceptanceChecks.readAudit, AcceptanceChecks.readRecords, decodeUtf8_encodeUtf8]
    rfl

/-- What a call appends to a dictionary, whole or cut short, spoils the line, and may end it. -/
theorem spoils (roundTrips : floats.RoundTrips .finite) {pending : List Char}
    (printable : ∀ c ∈ pending, Json.Printable c) (starts : ∃ rest, pending = '\x7b' :: rest)
    (begun : Loads.Torn floats pending ∨ ∃ value, Loads.Entry floats pending value)
    {attempt : Attempt N} (something : attempt.ending missionId ≠ .nothing) :
    ∃ line, Spoiled floats line ∧ (pending ++ attempt.chars missionId = line ∨
      pending ++ attempt.chars missionId = line ++ ['\n']) := by
  have longer : ∀ text before after, IsText missionId attempt.entry text →
      text = before ++ after → before ≠ [] → Spoiled floats (pending ++ before) := by
    intro text before after isText whole nonempty
    refine spoiled_append ?_ starts begun
      ⟨nonempty, text, _, entry_of_isText roundTrips isText, after, whole.symm⟩
    intro c member
    rcases List.mem_append.mp member with inside | inside
    · exact printable c inside
    · apply printable_of_isText isText
      rw [whole]
      exact List.mem_append_left _ inside
  rcases chars_cases missionId attempt with ⟨nothing, -⟩ | ⟨text, isText, ending⟩
  · exact absurd nothing something
  have nonempty : text ≠ [] := by
    obtain ⟨middle, shape⟩ := shape_of_isText isText
    rw [shape]
    exact List.cons_ne_nil _ _
  have spoiled := longer text text [] isText (List.append_nil text).symm nonempty
  rcases ending with ⟨-, line⟩ | ⟨-, most⟩ | ⟨-, before, after, whole, some, -, part⟩
  · refine ⟨_, spoiled, Or.inr ?_⟩
    rw [line, List.append_assoc]
  · exact ⟨_, spoiled, Or.inl (by rw [most])⟩
  · exact ⟨_, longer text before after isText whole some, Or.inl (by rw [part])⟩

/-- Once a line is spoiled, the file is refused whatever follows: the induction is on the later
    calls, which end the line or make it longer. -/
theorem readLines_spoiled (roundTrips : floats.RoundTrips .finite)
    (describe : Loads.Failure → String → String) (decodeError : List UInt8 → String)
    (attempts : List (Attempt N)) :
    ∀ {pending : List Char}, Spoiled floats pending →
      ∃ e, readLines (jsonReader floats describe decodeError)
        (pending ++ charsOf missionId attempts) = .error e := by
  induction attempts with
  | nil =>
    intro pending spoiled
    obtain ⟨e, refused⟩ := spoiled.error describe decodeError
    refine ⟨e, ?_⟩
    rw [charsOf, List.flatMap_nil, List.append_nil, readLines_last spoiled.printable spoiled.some,
      refused]
    rfl
  | cons attempt attempts ih =>
    intro pending spoiled
    rw [charsOf_cons, ← List.append_assoc]
    by_cases nothing : attempt.ending missionId = .nothing
    · rw [chars_nothing nothing, List.append_nil]
      exact ih spoiled
    · obtain ⟨line, spoiled', same | same⟩ :=
        spoils roundTrips spoiled.printable spoiled.starts (Or.inl spoiled.torn) nothing
      · rw [same]
        exact ih spoiled'
      · rw [same, List.append_assoc, List.singleton_append]
        exact readLines_error_of_spoiled describe decodeError spoiled' _

/-- A record without its line break is spoiled by the first call that appends something. -/
theorem readLines_unended (roundTrips : floats.RoundTrips .finite)
    (describe : Loads.Failure → String → String) (decodeError : List UInt8 → String)
    {pending : List Char} {value : Loaded N} (printable : ∀ c ∈ pending, Json.Printable c)
    (starts : ∃ rest, pending = '\x7b' :: rest) (entry : Loads.Entry floats pending value)
    {attempts : List (Attempt N)}
    (something : ¬ ∀ attempt ∈ attempts, attempt.ending missionId = .nothing) :
    ∃ e, readLines (jsonReader floats describe decodeError)
      (pending ++ charsOf missionId attempts) = .error e := by
  induction attempts with
  | nil => exact absurd (fun attempt member => absurd member List.not_mem_nil) something
  | cons attempt attempts ih =>
    rw [charsOf_cons, ← List.append_assoc]
    by_cases nothing : attempt.ending missionId = .nothing
    · rw [chars_nothing nothing, List.append_nil]
      apply ih
      intro all
      exact something (List.forall_mem_cons.mpr ⟨nothing, all⟩)
    · obtain ⟨line, spoiled, same | same⟩ :=
        spoils roundTrips printable starts (Or.inr ⟨value, entry⟩) nothing
      · rw [same]
        exact readLines_spoiled roundTrips describe decodeError attempts spoiled
      · rw [same, List.append_assoc, List.singleton_append]
        exact readLines_error_of_spoiled describe decodeError spoiled _

omit [LawfulFloatText N] in
theorem strip_of_isText {entry : JournalEntry N} {text : List Char}
    (isText : IsText missionId entry text) : strip text = text ∧ text ≠ [] := by
  obtain ⟨middle, rfl⟩ := shape_of_isText isText
  have stripped : strip ('\x7b' :: (('"' :: 'd' :: middle) ++ ['\x7d'])) =
      '\x7b' :: (('"' :: 'd' :: middle) ++ ['\x7d']) := strip_eq_self (by decide) (by decide)
  exact ⟨stripped, List.cons_ne_nil _ _⟩

/-- The line of a record is read as the record. -/
theorem loads_strip_of_isText (roundTrips : floats.RoundTrips .finite)
    (describe : Loads.Failure → String → String) (decodeError : List UInt8 → String)
    {entry : JournalEntry N} {text : List Char} (isText : IsText missionId entry text) :
    (jsonReader floats describe decodeError).loads (String.ofList (strip text)) =
      .ok (loaded (recordOf missionId entry).sortKeys) := by
  rw [(strip_of_isText isText).1]
  exact jsonReader_ok (entry_of_isText roundTrips isText).read

theorem written_cons (attempt : Attempt N) (attempts : List (Attempt N)) :
    written logDirectory missionId (attempt :: attempts) =
      if attempt.ending missionId = .whole then
        recordOf missionId attempt.entry :: written logDirectory missionId attempts
      else written logDirectory missionId attempts := by
  by_cases whole : attempt.ending missionId = .whole
  · rw [written, List.filter_cons_of_pos ((returned_iff attempt).mpr whole), if_pos whole]
    rfl
  · have lost : ¬ attempt.returned logDirectory missionId = true :=
      fun returned => whole ((returned_iff attempt).mp returned)
    rw [written, List.filter_cons_of_neg lost, if_neg whole, written]

theorem written_eq_nil_iff (logDirectory : String) (attempts : List (Attempt N)) :
    written logDirectory missionId attempts = [] ↔
      ∀ attempt ∈ attempts, attempt.ending missionId ≠ .whole := by
  induction attempts with
  | nil => simp [written]
  | cons attempt attempts ih =>
    rw [written_cons, List.forall_mem_cons, ← ih]
    split_ifs with whole <;> simp [whole]

/-- A file without torn lines is read: a value for each line, among them the records of the calls
    that returned a path. -/
theorem readLines_of_clean (roundTrips : floats.RoundTrips .finite)
    (describe : Loads.Failure → String → String) (decodeError : List UInt8 → String)
    (logDirectory : String) {attempts : List (Attempt N)}
    (clean : Clean missionId attempts) :
    ∃ values, readLines (jsonReader floats describe decodeError) (charsOf missionId attempts) =
        .ok values ∧
      List.SublistForall₂ IsRecord (written logDirectory missionId attempts) values ∧
      ((∀ attempt ∈ attempts, attempt.ending missionId = .whole) →
        List.Forall₂ (fun attempt => IsRecord (recordOf missionId attempt.entry)) attempts
          values) := by
  induction attempts with
  | nil => exact ⟨[], rfl, .nil, fun _ => .nil⟩
  | cons attempt attempts ih =>
    have only : attempt.ending missionId ≠ .whole →
        ¬ ∀ other ∈ attempt :: attempts, other.ending missionId = .whole :=
      fun other all => other (all attempt List.mem_cons_self)
    rw [charsOf_cons, written_cons]
    rcases chars_cases missionId attempt with ⟨nothing, none⟩ |
      ⟨text, isText, ⟨whole, line⟩ | ⟨unended, most⟩ | ⟨torn, -⟩⟩
    · have other : attempt.ending missionId ≠ .whole := by rw [nothing]; decide
      rw [Clean, nothing] at clean
      obtain ⟨values, read, among, -⟩ := ih clean
      refine ⟨values, by rw [none]; exact read, ?_, fun all => absurd all (only other)⟩
      rw [if_neg other]
      exact among
    · rw [Clean, whole] at clean
      obtain ⟨values, read, among, each⟩ := ih clean
      have value := isRecord_sortKeys (recordOf missionId attempt.entry)
      refine ⟨loaded (recordOf missionId attempt.entry).sortKeys :: values, ?_, ?_, ?_⟩
      · have some : strip text ≠ [] := by
          rw [(strip_of_isText isText).1]
          exact (strip_of_isText isText).2
        rw [line, List.append_assoc, List.singleton_append,
          readLines_cons (printable_of_isText isText) some
            (loads_strip_of_isText roundTrips describe decodeError isText), read]
        rfl
      · rw [if_pos whole]
        exact .cons value among
      · intro all
        exact .cons value (each (List.forall_mem_cons.mp all).2)
    · have other : attempt.ending missionId ≠ .whole := by rw [unended]; decide
      rw [Clean, unended] at clean
      refine ⟨[loaded (recordOf missionId attempt.entry).sortKeys], ?_, ?_,
        fun all => absurd all (only other)⟩
      · have some : strip text ≠ [] := by
          rw [(strip_of_isText isText).1]
          exact (strip_of_isText isText).2
        rw [most, charsOf_nothing clean, List.append_nil,
          readLines_last (printable_of_isText isText) some,
          loads_strip_of_isText roundTrips describe decodeError isText]
        rfl
      · have lost : written logDirectory missionId attempts = [] := by
          rw [written_eq_nil_iff]
          intro later member
          rw [clean later member]
          decide
        rw [if_neg other, lost]
        exact .nil
    · rw [Clean, torn] at clean
      exact clean.elim

/-- A file with a torn line is refused. -/
theorem readLines_of_not_clean (roundTrips : floats.RoundTrips .finite)
    (describe : Loads.Failure → String → String) (decodeError : List UInt8 → String)
    {attempts : List (Attempt N)} (dirty : ¬ Clean missionId attempts) :
    ∃ e, readLines (jsonReader floats describe decodeError) (charsOf missionId attempts) =
      .error e := by
  induction attempts with
  | nil => exact absurd trivial dirty
  | cons attempt attempts ih =>
    rw [charsOf_cons]
    rcases chars_cases missionId attempt with ⟨nothing, none⟩ |
      ⟨text, isText, ⟨whole, line⟩ | ⟨unended, most⟩ | ⟨-, before, after, same, some, cut, part⟩⟩
    · rw [Clean, nothing] at dirty
      rw [none]
      exact ih dirty
    · rw [Clean, whole] at dirty
      obtain ⟨e, refused⟩ := ih dirty
      have some : strip text ≠ [] := by
        rw [(strip_of_isText isText).1]
        exact (strip_of_isText isText).2
      refine ⟨e, ?_⟩
      rw [line, List.append_assoc, List.singleton_append,
        readLines_cons (printable_of_isText isText) some
          (loads_strip_of_isText roundTrips describe decodeError isText), refused]
      rfl
    · rw [Clean, unended] at dirty
      obtain ⟨middle, shape⟩ := shape_of_isText isText
      rw [most]
      exact readLines_unended roundTrips describe decodeError (printable_of_isText isText)
        ⟨_, shape⟩ (entry_of_isText roundTrips isText) dirty
    · subst same
      rw [part]
      exact readLines_spoiled roundTrips describe decodeError attempts (spoiled_of_beginning
        (printable_of_isText isText) (entry_of_isText roundTrips isText) some cut)

end Runs

section Executors

variable {N : Type} [Field N] [LinearOrder N] [FloorRing N] [PyText N] [LawfulFloatText N]
  {logDirectory : String} {missionId : UUID}

/-- The file of a run whose writes have all returned a path is the file that the checks are
    given. -/
theorem auditFile_fileAfter {trace : List (Event N)} {attempts : List (Attempt N)}
    (each : List.Forall₂ (fun record (attempt : Attempt N) => record.missionId = missionId ∧
      ∃ timestamp, attempt.entry = entryOf record timestamp) (auditLog trace) attempts)
    (returned : ∀ attempt ∈ attempts, attempt.returned logDirectory missionId = true) :
    AuditFile trace (fileAfter logDirectory missionId attempts none) := by
  have lines : ∃ lines : List String, List.Forall₂ (fun record line =>
        ∃ timestamp, line = AuditRecord.line record timestamp) (auditLog trace) lines ∧
      charsOf missionId attempts = lines.flatMap fun line => line.toList ++ ['\n'] := by
    generalize auditLog trace = records at each ⊢
    induction each with
    | nil => exact ⟨[], .nil, rfl⟩
    | @cons record attempt records attempts first rest ih =>
      rw [List.forall_mem_cons] at returned
      obtain ⟨lines, written, chars⟩ := ih returned.2
      obtain ⟨rfl, timestamp, same⟩ := first
      have whole := (returned_iff attempt).mp returned.1
      rcases chars_cases record.missionId attempt with ⟨nothing, -⟩ | ⟨text, isText, ending⟩
      · rw [whole] at nothing
        cases nothing
      · have line : attempt.chars record.missionId = text ++ ['\n'] := by
          rw [whole] at ending
          simpa using ending
        rw [same] at isText
        have written' : (record.line timestamp).toList = text := by
          rw [(eq_render_of_isText isText).2, recordOf_entryOf]
          exact String.toList_ofList
        refine ⟨record.line timestamp :: lines, .cons ⟨timestamp, rfl⟩ written, ?_⟩
        rw [charsOf_cons, line, chars, List.flatMap_cons, written']
  obtain ⟨lines, written, chars⟩ := lines
  refine ⟨lines, written, ?_⟩
  cases attempts with
  | nil =>
    cases lines with
    | nil => exact Or.inr ⟨rfl, rfl⟩
    | cons line lines => simp [charsOf] at chars
  | cons attempt attempts =>
    left
    rw [← chars]
    exact fileAfter_some (attempt :: attempts) []

end Executors

section Sample

/-- The mission of the samples. -/
def sampleMissionId : UUID := (mavsdkSimulationMission ℚ).missionId

/-- A record with line boundaries and a character beyond the basic plane in it. -/
def sampleEntry : JournalEntry ℚ where
  timestamp := "2026-01-01T00:00:00+00:00"
  event := "mission_failed"
  details := .obj [("error", .str "lost\nlink\u2028\x1d🛩"), ("altitude_m", .float 5)]
  distinct := ⟨by decide, trivial, trivial, trivial⟩

/-- A call of which the disk takes so much. -/
def sampleAttempt (writer : Writer) (room : Nat) : Attempt ℚ := ⟨writer, sampleEntry, room⟩

theorem length_sampleEntry :
    ∃ text, IsText sampleMissionId sampleEntry text ∧ 2 ≤ text.length ∧ text.length < 400 := by
  refine ⟨_, if_pos rfl, ?_⟩
  decide +kernel

theorem ending_sample (writer : Writer) :
    (sampleAttempt writer 400).ending sampleMissionId = .whole ∧
      (sampleAttempt writer 1).ending sampleMissionId = .torn ∧
      (sampleAttempt writer 0).ending sampleMissionId = .nothing := by
  obtain ⟨text, isText, long, short⟩ := length_sampleEntry
  have above : ¬ text.length + 1 ≤ 1 := by omega
  have other : ¬ text.length + 1 = 1 + 1 := by omega
  refine ⟨?_, ?_, ?_⟩
  · exact (ending_eq isText).trans ((if_neg (Nat.succ_ne_zero 399)).trans (if_pos short))
  · exact (ending_eq isText).trans ((if_neg one_ne_zero).trans
      ((if_neg above).trans (if_neg other)))
  · exact (ending_eq isText).trans (if_pos rfl)

end Sample

section Claims

variable {N : Type} [PyText N] [LawfulFloatText N] {floats : Loads.Floats (Reading N)}

/-- The audit format round-trips (`audit.py:24-54`, `acceptance_checks.py:17-29`): when every call
    has returned a path, the file is read without an error, and each value is the record of its
    call. -/
theorem readAudit_of_returned (roundTrips : floats.RoundTrips .finite)
    (describe : Loads.Failure → String → String) (decodeError : List UInt8 → String)
    (logDirectory : String) (missionId : UUID) (attempts : List (Attempt N))
    (returned : ∀ attempt ∈ attempts, attempt.returned logDirectory missionId = true) :
    ∃ values, AcceptanceChecks.readAudit (jsonReader floats describe decodeError)
        (fileAfter logDirectory missionId attempts none) = .ok (.ok values) ∧
      List.Forall₂ (fun attempt => IsRecord (recordOf missionId attempt.entry)) attempts
        values := by
  have whole : ∀ attempt ∈ attempts, attempt.ending missionId = .whole :=
    fun attempt member => (returned_iff attempt).mp (returned attempt member)
  have clean : Clean missionId attempts := by
    clear returned
    induction attempts with
    | nil => trivial
    | cons attempt attempts ih =>
      rw [List.forall_mem_cons] at whole
      rw [Clean, whole.1]
      exact ih whole.2
  obtain ⟨values, read, -, each⟩ := readLines_of_clean roundTrips describe decodeError
    logDirectory clean
  refine ⟨values, ?_, each whole⟩
  rw [readAudit_fileAfter, read]

/-- Two records are read back. -/
theorem readAudit_of_returned_sample :
    (∀ attempt ∈ [sampleAttempt .strict 400, sampleAttempt .strict 400],
      attempt.returned "/audit" sampleMissionId = true) ∧
    ∃ values, AcceptanceChecks.readAudit (jsonReader sampleFloats sampleDescribe fun _ => "")
        (fileAfter "/audit" sampleMissionId
          [sampleAttempt .strict 400, sampleAttempt .strict 400] none) = .ok (.ok values) ∧
      List.Forall₂ (fun attempt => IsRecord (recordOf sampleMissionId attempt.entry))
        [sampleAttempt .strict 400, sampleAttempt .strict 400] values := by
  have returned : ∀ attempt ∈ [sampleAttempt .strict 400, sampleAttempt .strict 400],
      attempt.returned "/audit" sampleMissionId = true := by
    intro attempt member
    have same : attempt = sampleAttempt .strict 400 := by simpa using member
    rw [same, returned_iff]
    exact (ending_sample .strict).1
  exact ⟨returned, readAudit_of_returned sampleFloats_roundTrips sampleDescribe _
    "/audit" sampleMissionId _ returned⟩

/-- The records whose calls returned a path are read from the file, in order, just when there are
    none or no failed call has left a part of its line, but all of it at the end of the file
    (`audit.py:24-84`, `acceptance_checks.py:17-29`). -/
theorem recovers_iff (roundTrips : floats.RoundTrips .finite)
    (describe : Loads.Failure → String → String) (decodeError : List UInt8 → String)
    (logDirectory : String) (missionId : UUID) (attempts : List (Attempt N)) :
    List.SublistForall₂ IsRecord (written logDirectory missionId attempts)
        (recovered (jsonReader floats describe decodeError)
          (fileAfter logDirectory missionId attempts none)) ↔
      (∀ attempt ∈ attempts, attempt.ending missionId ≠ .whole) ∨ Clean missionId attempts := by
  rw [← written_eq_nil_iff logDirectory]
  constructor
  · intro found
    by_cases clean : Clean missionId attempts
    · exact Or.inr clean
    · left
      obtain ⟨e, refused⟩ := readLines_of_not_clean roundTrips describe decodeError clean
      have nothing : recovered (jsonReader floats describe decodeError)
          (fileAfter logDirectory missionId attempts none) = [] := by
        rw [recovered, readAudit_fileAfter, refused]
        by_cases caught : AcceptanceChecks.isParseError e.cls = true <;> simp [caught]
      rw [nothing] at found
      cases lost : written logDirectory missionId attempts with
      | nil => rfl
      | cons record records =>
        rw [lost] at found
        cases found
  · rintro (none | clean)
    · rw [none]
      exact .nil
    · obtain ⟨values, read, among, -⟩ := readLines_of_clean roundTrips describe decodeError
        logDirectory clean
      have all : recovered (jsonReader floats describe decodeError)
          (fileAfter logDirectory missionId attempts none) = values := by
        rw [recovered, readAudit_fileAfter, read]
      rw [all]
      exact among

/-- One byte of a record that a full disk took spoils the record after it, whose call returned a
    path. -/
theorem not_recovers_torn :
    ¬ List.SublistForall₂ IsRecord
      (written "/audit" sampleMissionId [sampleAttempt .bestEffort 1, sampleAttempt .strict 400])
      (recovered (jsonReader sampleFloats sampleDescribe fun _ => "")
        (fileAfter "/audit" sampleMissionId
          [sampleAttempt .bestEffort 1, sampleAttempt .strict 400] none)) := by
  have dirty : ¬ Clean sampleMissionId
      [sampleAttempt .bestEffort 1, sampleAttempt .strict 400] := by
    rw [Clean, (ending_sample .bestEffort).2.1]
    exact not_false
  obtain ⟨e, refused⟩ :=
    readLines_of_not_clean sampleFloats_roundTrips sampleDescribe (fun _ => "") dirty
  have nothing : recovered (jsonReader sampleFloats sampleDescribe fun _ => "")
      (fileAfter "/audit" sampleMissionId
        [sampleAttempt .bestEffort 1, sampleAttempt .strict 400] none) = [] := by
    rw [recovered, readAudit_fileAfter, refused]
    by_cases caught : AcceptanceChecks.isParseError e.cls = true <;> simp [caught]
  have one : written "/audit" sampleMissionId
      [sampleAttempt .bestEffort 1, sampleAttempt .strict 400] ≠ [] := by
    rw [Ne, written_eq_nil_iff]
    intro none
    exact none (sampleAttempt .strict 400) (by simp) (ending_sample .strict).1
  intro found
  rw [nothing] at found
  cases lost : written "/audit" sampleMissionId
      [sampleAttempt .bestEffort 1, sampleAttempt .strict 400] with
  | nil => exact one lost
  | cons record records =>
    rw [lost] at found
    cases found

/-- Nothing of the failed record is left: the other is read back. -/
theorem recovers_iff_sample :
    List.SublistForall₂ IsRecord
      (written "/audit" sampleMissionId [sampleAttempt .bestEffort 0, sampleAttempt .strict 400])
      (recovered (jsonReader sampleFloats sampleDescribe fun _ => "")
        (fileAfter "/audit" sampleMissionId
          [sampleAttempt .bestEffort 0, sampleAttempt .strict 400] none)) := by
  apply (recovers_iff sampleFloats_roundTrips sampleDescribe _ "/audit"
    sampleMissionId _).mpr
  right
  rw [Clean, (ending_sample .bestEffort).2.2, Clean, (ending_sample .strict).1]
  trivial

end Claims

end Journal

end Nightjar
