import Nightjar.Audit

/-!
# The dry-run executor

`executor.py`: the result of an execution, and the executor that only writes the audit records.
-/

namespace Nightjar

open Interact

/-- `ExecutionResult` (`executor.py:10-13`). -/
structure ExecutionResult where
  completed : Bool
  logPath : String
  deriving DecidableEq, Repr

namespace DryRunExecutor

variable {N : Type} (env : Env N) (logDirectory : String)

/-- The loop of `execute` (`executor.py:30-39`). -/
def simulateActions (missionId : Python.UUID) : Nat → List (MissionAction N) → Exec N Unit
  | _, [] => pure ()
  | sequence, action :: actions => do
      let _ ← writeAuditRecord env logDirectory ⟨missionId, .actionSimulated sequence action⟩
      simulateActions missionId (sequence + 1) actions

/-- `DryRunExecutor.execute` (`executor.py:22-48`). -/
def execute [Zero N] [LT N] (mission : Mission N) : Exec N ExecutionResult := do
  let logPath ← writeAuditRecord env logDirectory
    ⟨mission.missionId, .dryRunStarted mission.description⟩
  simulateActions env logDirectory mission.missionId 1 mission.actions
  let _ ← writeAuditRecord env logDirectory ⟨mission.missionId, .dryRunCompleted⟩
  pure { completed := true, logPath := logPath }

end DryRunExecutor

end Nightjar
