import Nightjar.MavsdkExecutor

/-!
# `nightjar home snapshot`

The command that captures the home for an approval (`cli.py:222-271`). Its effects are those of the
executor, and the file that it writes.
-/

namespace Nightjar

open Python Interact Exec

/-- What the command depends on besides the vehicle. -/
structure CaptureHost (N : Type) where
  /-- The text of the `ImportError` of `mavsdk`. -/
  importError : Option String
  systemAddress : String
  /-- `args.output`. -/
  output : String
  /-- What `args.output.write_text` raises for a snapshot. -/
  writeText : HomeSnapshot N → Option PyExc

/-- The state of a run, and the snapshot that was written to the file. -/
structure CaptureState (N : Type) where
  exec : ExecState N
  file : Option (HomeSnapshot N)

namespace Cli

variable {N : Type}

/-- A part of the command that writes no file. -/
def outside {α : Type} (p : Exec N α) : Prog (CaptureState N) PyExc α :=
  Prog.zoom CaptureState.exec (fun exec s => { s with exec := exec }) p

/-- `except (HomeUnavailableError, MavsdkExecutorError, asyncio.TimeoutError)` (`cli.py:256`). -/
def isHomeUnavailable (c : ExcClass) : Bool := c.isMavsdkExecutorError || c = .timeoutError

variable (host : CaptureHost N) (env : Env N)

/-- `drone = System()` (`cli.py:236`). -/
def createDrone : Exec N Unit := do
  emit .systemFactoryCalled
  let failure ← ask env.systemFactory
  Prog.raiseOption failure
  emit .systemCreated

/-- The `AttributeError` of an item of the `health` stream. -/
def healthLacks (name : String) : PyExc :=
  ⟨.other "AttributeError", "'Health' object has no attribute '" ++ name ++ "'"⟩

/-- `health.is_home_position_ok and health.is_global_position_ok` (`cli.py:243`): an attribute that
    is read must be there. -/
def readHealth (health : Health) : Except PyExc Bool :=
  match health.isHomePositionOk with
  | none => .error (healthLacks "is_home_position_ok")
  | some false => .ok false
  | some true =>
    match health.isGlobalPositionOk with
    | none => .error (healthLacks "is_global_position_ok")
    | some ok => .ok ok

/-- The loop over the health items and its `else` (`cli.py:242-246`). -/
def awaitHealth : Exec N Unit := do
  let healthStream ← ask env.health
  let good ← Prog.forStream
    (fun health => do
      emit (.health health)
      let ok ← Prog.lift (readHealth health)
      pure (if ok then some () else none))
    healthStream.items healthStream.ending
  match good with
  | some _ => pure ()
  | none => Prog.raise (.homeUnavailable "Health stream ended before home was OK.")

/-- The telemetry of the `try` (`cli.py:238-255`). The loop over the connection states has no
    `else`. -/
def captureHome : Exec N (HomeSnapshot N) := do
  command env (.connect host.systemAddress)
  let states ← ask env.connectionState
  let _ ← Prog.forStream
    (fun isConnected => do
      emit (.connection isConnected)
      pure (if isConnected then some () else none))
    states.items states.ending
  awaitHealth env
  let homeStream ← ask env.home
  let home ← awaitItem .home (fun _ => true) homeStream
    (.homeUnavailable "Home stream ended before a position arrived.")
  let now ← ask env.utcNow
  Prog.lift (snapshotFromTelemetry home.latitudeDeg home.longitudeDeg home.absoluteAltitudeM none
    now)

/-- The `finally` (`cli.py:259-265`). -/
def stopDrone : Exec N Unit := do
  let stop ← ask env.stop
  match stop with
  | none => pure ()
  | some failure => do
      emit .serverStopped
      Prog.handle (Prog.raiseOption failure) fun exc =>
        if exc.cls.isException then
          printStdout env ("MAVSDK server stop failed: " ++ exc.cls.name)
        else Prog.raise exc

/-- The `try` of `capture`: the snapshot, or the exit code. -/
def tryCapture : Exec N (Except Nat (HomeSnapshot N)) :=
  Prog.finally_
    (Prog.handle
      (do
        let snapshot ← captureHome host env
        pure (.ok snapshot))
      fun exc =>
        if isHomeUnavailable exc.cls then do
          printStdout env s!"Home unavailable: {exc.text}"
          pure (.error 6)
        else Prog.raise exc)
    (stopDrone env)

/-- `args.output.write_text(...)` (`cli.py:267`). -/
def writeOutput (snapshot : HomeSnapshot N) : Prog (CaptureState N) PyExc Unit := do
  Prog.raiseOption (host.writeText snapshot)
  Prog.modify fun s => { s with file := some snapshot }

/-- `_home_snapshot` (`cli.py:222-271`). -/
def homeSnapshot : Prog (CaptureState N) PyExc Nat :=
  match host.importError with
  | some text => do
      outside (printStdout env s!"MAVSDK is not installed: {text}")
      pure 5
  | none => do
      outside (createDrone env)
      match ← outside (tryCapture host env) with
      | .error code => pure code
      | .ok snapshot => do
          writeOutput host snapshot
          outside (printStdout env s!"Home snapshot written to {host.output}")
          pure 0

end Cli

end Nightjar
