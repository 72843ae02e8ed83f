import Nightjar.AcceptanceChecks.Observed
import Nightjar.Python.JsonKeys

/-!
# The audit file, byte by byte

What the two writers leave in the file of a mission, when the disk takes some bytes of an append and
refuses the others, and what is read of the file. A write that finds no directory or no file is one
of which the disk takes nothing.
-/

namespace Nightjar

open Python

/-- What a writer is given besides the mission, and the time of the call (`audit.py:24-30`). -/
structure JournalEntry (N : Type) where
  timestamp : String
  event : String
  details : Json N
  /-- A dictionary has each of its keys once. -/
  distinct : details.Distinct

namespace Journal

section Write

variable {N : Type} (logDirectory : String) (missionId : UUID)

/-- The record (`audit.py:43-48`). -/
def recordOf (entry : JournalEntry N) : Json N :=
  .obj [("timestamp_utc", .str entry.timestamp), ("mission_id", .str missionId.text),
    ("event", .str entry.event), ("details", entry.details)]

/-- The entries of a record, in the order of their keys. -/
theorem recordOf_sortKeys (entry : JournalEntry N) :
    (recordOf missionId entry).sortKeys =
      .obj [("details", entry.details.sortKeys), ("event", .str entry.event),
        ("mission_id", .str missionId.text), ("timestamp_utc", .str entry.timestamp)] := by
  simp [recordOf, Json.sortKeys, Json.sortFields, List.insertionSort, List.orderedInsert]

theorem distinct_recordOf (entry : JournalEntry N) :
    (recordOf missionId entry).Distinct := by
  refine ⟨?_, trivial, trivial, trivial, entry.distinct, trivial⟩
  simp

/-- The `OSError` of a full disk. -/
def diskFull : PyExc := ⟨.osError, "[Errno 28] No space left on device"⟩

variable [PyText N]

/-- `json.dumps(value, sort_keys=True)`; `none` is the `ValueError` of an `int` with too many
    digits. -/
def dumps? (value : Json N) : Option (List Char) :=
  if value.shortInts then some (value.sortKeys.render Json.ascii) else none

/-- `write_audit_record` (`audit.py:24-54`) on a disk that takes so many bytes: the bytes that are
    appended, and the path or the exception. -/
def writeAuditRecord (entry : JournalEntry N) (room : Nat) : List UInt8 × Except PyExc String :=
  match dumps? (recordOf missionId entry) with
  | none => ([], .error .intDigits)
  | some text =>
    let line := encodeUtf8 (String.ofList (text ++ ['\n']))
    (line.take room,
      if line.length ≤ room then .ok (auditPath logDirectory missionId) else .error diskFull)

/-- `write_audit_record_best_effort` (`audit.py:57-84`), but for what it prints. -/
def writeAuditRecordBestEffort (entry : JournalEntry N) (room : Nat) :
    List UInt8 × Except PyExc (Option String) :=
  match writeAuditRecord logDirectory missionId entry room with
  | (bytes, .ok path) => (bytes, .ok (some path))
  | (bytes, .error exc) =>
    if exc.cls.isException then (bytes, .ok none) else (bytes, .error exc)

/-- The two writers. -/
inductive Writer where
  | strict
  | bestEffort
  deriving DecidableEq, Repr

/-- A call of a writer, and how many bytes the disk takes of it. -/
structure Attempt (N : Type) where
  writer : Writer
  entry : JournalEntry N
  room : Nat

/-- What the call appends and what it returns. -/
def Attempt.write (attempt : Attempt N) : List UInt8 × Except PyExc (Option String) :=
  match attempt.writer with
  | .strict =>
    let (bytes, result) := writeAuditRecord logDirectory missionId attempt.entry attempt.room
    (bytes, result.map some)
  | .bestEffort => writeAuditRecordBestEffort logDirectory missionId attempt.entry attempt.room

/-- The call returned a path. -/
def Attempt.returned (attempt : Attempt N) : Bool :=
  match (attempt.write logDirectory missionId).2 with
  | .ok (some _) => true
  | _ => false

/-- The line that the call is to append; nothing when the record has no text. -/
def Attempt.line (attempt : Attempt N) : List UInt8 :=
  match dumps? (recordOf missionId attempt.entry) with
  | none => []
  | some text => encodeUtf8 (String.ofList (text ++ ['\n']))

/-- How much of a line is appended. -/
inductive Ending where
  | nothing
  /-- A part of the record. -/
  | torn
  /-- The record without the line break. -/
  | unended
  | whole
  deriving DecidableEq, Repr

/-- How much the disk takes of the call's line. -/
def Attempt.ending (attempt : Attempt N) : Ending :=
  let line := attempt.line missionId
  if line = [] ∨ attempt.room = 0 then .nothing
  else if line.length ≤ attempt.room then .whole
  else if line.length = attempt.room + 1 then .unended
  else .torn

/-- Of a line whose call fails nothing is left, or all but the line break at the end of the file. -/
def Clean : List (Attempt N) → Prop
  | [] => True
  | attempt :: attempts =>
    match attempt.ending missionId with
    | .nothing | .whole => Clean attempts
    | .unended => ∀ later ∈ attempts, later.ending missionId = .nothing
    | .torn => False

/-- The records whose calls returned a path. -/
def written (attempts : List (Attempt N)) : List (Json N) :=
  (attempts.filter fun attempt => attempt.returned logDirectory missionId).map fun attempt =>
    recordOf missionId attempt.entry

/-- The file after some calls; the first opens it. -/
def fileAfter : List (Attempt N) → Option (List UInt8) → Option (List UInt8)
  | [], file => file
  | attempt :: attempts, file =>
    fileAfter attempts (some (file.getD [] ++ (attempt.write logDirectory missionId).1))

end Write

section Entries

variable {N : Type} [Field N] [LinearOrder N] [FloorRing N]

theorem distinct_details (event : AuditEvent N) : event.details.Distinct := by
  cases event with
  | actionStarted sequence action =>
    cases action <;> simp [AuditEvent.details, MissionAction.dump, Json.Distinct,
      Json.DistinctFields]
  | actionSimulated sequence action =>
    cases action <;> simp [AuditEvent.details, MissionAction.dump, Json.Distinct,
      Json.DistinctFields]
  | missionFailed error status errorType =>
    cases errorType <;> simp [AuditEvent.details, Json.Distinct, Json.DistinctFields]
  | _ =>
    simp [AuditEvent.details, HomeSnapshot.canonical, Json.Distinct, Json.DistinctFields]

/-- A record of the executors, with its time stamp. -/
def entryOf (record : AuditRecord N) (timestamp : String) : JournalEntry N where
  timestamp := timestamp
  event := record.event.name
  details := record.event.details
  distinct := distinct_details record.event

theorem recordOf_entryOf (record : AuditRecord N) (timestamp : String) :
    recordOf record.missionId (entryOf record timestamp) = record.stamped timestamp := rfl

end Entries

section Read

variable {N : Type}

/-- What `_read_audit` returns for a file; nothing when it fails. -/
def recovered (reader : Reader N) (file : Option (List UInt8)) : List (Loaded N) :=
  match AcceptanceChecks.readAudit reader file with
  | .ok (.ok values) => values
  | _ => []

/-- A value that was read is the record. -/
def IsRecord (record : Json N) (value : Loaded N) : Prop := value.Same (loaded record)

end Read

end Journal

end Nightjar
