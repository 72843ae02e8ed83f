import Nightjar.AcceptanceChecks
import Nightjar.Flight.Proofs.AuditLog
import Nightjar.Python.Ascii

/-!
# What the harness observes of a run

The standard output of a run and the audit file that it leaves when there was none before: the
records that were written, each on a line of its own.
-/

namespace Nightjar

open Python

section Stdout

variable {N : Type}

/-- The line that an event printed. -/
def Event.line? : Event N → Option String
  | .stdout line => some line
  | _ => none

/-- The lines printed in a trace. -/
def stdoutLines (trace : List (Event N)) : List String := trace.filterMap Event.line?

/-- The standard output of a trace. -/
def stdoutText (trace : List (Event N)) : String :=
  String.ofList ((stdoutLines trace).flatMap fun line => line.toList ++ ['\n'])

/-- A part without line breaks is in the output just when it is in a line. -/
theorem occursIn_stdoutText {part : String} (some : part.toList ≠ [])
    (absent : '\n' ∉ part.toList) (trace : List (Event N)) :
    occursIn part (stdoutText trace) ↔ ∃ line ∈ stdoutLines trace, occursIn part line := by
  rw [stdoutText, occursIn_ofList, infix_lines_iff some absent]
  rfl

end Stdout

section File

variable {N : Type} [Field N] [LinearOrder N] [FloorRing N] [PyText N]

omit [PyText N] in
/-- The record as it is written, with its time stamp (`audit.py:43-48`). -/
def AuditRecord.stamped (record : AuditRecord N) (timestamp : String) : Json N :=
  .obj [("timestamp_utc", .str timestamp), ("mission_id", .str record.missionId.text),
    ("event", .str record.event.name), ("details", record.event.details)]

/-- `json.dumps(record, sort_keys=True)` (`audit.py:52`). -/
def AuditRecord.line (record : AuditRecord N) (timestamp : String) : String :=
  String.ofList ((record.stamped timestamp).sortKeys.render Json.ascii)

/-- The file that a trace leaves where there was none: the lines of the records that were written,
    each at some time. When there are none the file may be missing. -/
def AuditFile (trace : List (Event N)) (file : Option (List UInt8)) : Prop :=
  ∃ lines : List String,
    List.Forall₂ (fun record line => ∃ timestamp, line = record.line timestamp) (auditLog trace)
      lines ∧
    (file = some (encodeUtf8 (String.ofList (lines.flatMap fun line => line.toList ++ ['\n']))) ∨
      file = none ∧ lines = [])

end File

section Reading

variable {N : Type}

/-- `json.loads` reads back what `json.dumps` wrote for the records, at any time. -/
def Reader.ReadsBack [Field N] [LinearOrder N] [FloorRing N] [PyText N] (reader : Reader N)
    (records : List (AuditRecord N)) : Prop :=
  ∀ record ∈ records, ∀ timestamp : String,
    reader.loads (record.line timestamp) = .ok (loaded (record.stamped timestamp).sortKeys)

end Reading

end Nightjar
