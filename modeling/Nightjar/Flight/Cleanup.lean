import Nightjar.MavsdkExecutor

/-!
# The cleanup after a mission

The `finally` of `execute` (`mavsdk_executor.py:124-141`) over any number of systems, whose stop
functions and whose diagnostic lines may fail in any way. An exception is kept with where it comes
from, so that the one of the mission can be told from another that looks the same.
-/

namespace Nightjar

open Interact

/-- Where an exception comes from. -/
inductive RaisedBy where
  | mission
  | cleanup
  deriving DecidableEq, Repr

/-- An exception object. -/
structure Thrown where
  exc : PyExc
  raisedBy : RaisedBy
  deriving DecidableEq

/-- `getattr(drone, "_stop_mavsdk_server", None)`. -/
inductive StopAttribute where
  | absent
  | notCallable
  /-- Calling it returns or raises. -/
  | callable (raises : Option PyExc)
  deriving DecidableEq

/-- `callable(stop)`. -/
def StopAttribute.isCallable : StopAttribute → Bool
  | callable _ => true
  | absent | notCallable => false

/-- What the cleanup did: the systems whose stop function was called, by their index in
    `drone_holder`, and the lines given to stderr. -/
structure CleanupState where
  calls : List Nat
  lines : List String
  deriving DecidableEq

namespace Cleanup

/-- The diagnostic line (`mavsdk_executor.py:138-141`). -/
def diagnostic (exc : PyExc) : String := "MAVSDK server stop failed: " ++ exc.cls.name

variable (stderr : List String → String → Option PyExc)

/-- `print(line, file=sys.stderr)`; what it raises may depend on the lines before. -/
def printDiagnostic (line : String) : Prog CleanupState Thrown Unit := do
  let s ← Prog.read
  Prog.modify fun s => { s with lines := s.lines ++ [line] }
  Prog.raiseOption ((stderr s.lines line).map (Thrown.mk · .cleanup))

/-- One pass of the loop (`mavsdk_executor.py:130-141`). -/
def stopServer (index : Nat) : StopAttribute → Prog CleanupState Thrown Unit
  | .absent => pure ()
  | .notCallable => pure ()
  | .callable raises => do
      Prog.modify fun s => { s with calls := s.calls ++ [index] }
      Prog.handle (Prog.raiseOption (raises.map (Thrown.mk · .cleanup))) fun thrown =>
        if thrown.exc.cls.isException then printDiagnostic stderr (diagnostic thrown.exc)
        else Prog.raise thrown

/-- The loop over `drone_holder`. -/
def stopServers : Nat → List StopAttribute → Prog CleanupState Thrown Unit
  | _, [] => pure ()
  | index, drone :: drones => do
      stopServer stderr index drone
      stopServers (index + 1) drones

/-- What the awaited mission comes to. -/
def missionOutcome (outcome : Except PyExc ExecutionResult) : Except Thrown ExecutionResult :=
  outcome.mapError (Thrown.mk · .mission)

/-- The `try` and the `finally`, the mission having come to an outcome. -/
def finish (drones : List StopAttribute) (outcome : Except PyExc ExecutionResult) :
    Prog CleanupState Thrown ExecutionResult :=
  Prog.finally_ (Prog.lift (missionOutcome outcome)) (stopServers stderr 0 drones)

end Cleanup

end Nightjar
