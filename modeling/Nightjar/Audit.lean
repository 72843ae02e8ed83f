import Nightjar.Runtime

/-!
# The audit writers

`audit.py`: the strict writer, which raises when a record cannot be written, and the best-effort
writer, which reports the loss to stderr and goes on.
-/

namespace Nightjar

open Interact Exec

variable {N : Type}

/-- The file of a mission's records (`audit.py:50`). -/
def auditPath (logDirectory : String) (missionId : Python.UUID) : String :=
  logDirectory ++ "/" ++ missionId.text ++ ".jsonl"

/-- `write_audit_record` (`audit.py:24-54`). -/
def writeAuditRecord (env : Env N) (logDirectory : String) (record : AuditRecord N) :
    Exec N String := do
  let failure ← ask fun trace => env.audit trace record
  emit (.audit record failure)
  Prog.raiseOption failure
  pure (auditPath logDirectory record.missionId)

/-- The line of `_emit_audit_fallback` (`audit.py:96-99`). -/
def auditFallbackLine (record : AuditRecord N) (exc : PyExc) : String :=
  "nightjar-audit-fallback mission_id=" ++ record.missionId.text ++ " event=" ++
    record.event.name ++ " error_type=" ++ exc.cls.name

/-- `_emit_audit_fallback` (`audit.py:87-103`). -/
def emitAuditFallback (env : Env N) (record : AuditRecord N) (exc : PyExc) : Exec N Unit :=
  Prog.handle (printStderr env (auditFallbackLine record exc)) fun e =>
    if e.cls.isException then pure () else Prog.raise e

/-- `write_audit_record_best_effort` (`audit.py:57-84`). -/
def writeAuditRecordBestEffort (env : Env N) (logDirectory : String) (record : AuditRecord N) :
    Exec N (Option String) :=
  Prog.handle
    (do
      let path ← writeAuditRecord env logDirectory record
      pure (some path))
    fun exc =>
      if exc.cls.isException then do
        emitAuditFallback env record exc
        pure none
      else Prog.raise exc

end Nightjar
