import Nightjar.Audit.Record
import Nightjar.Authorization

/-!
# The world of a mission

What the executor calls and reads, and how it answers. The history of a run is its trace of
events, newest last; the vehicle, the audit writer and the clocks are functions of the trace, so
they may behave in any way that depends on what happened before.

An awaited call either returns or raises, and a cancellation is one of the exceptions it may
raise. A telemetry stream yields finitely many items before it ends, raises, or is cut off by a
time-out, which raises `TimeoutError` where the stream is awaited. An item whose attributes cannot
be read is a stream that raises there.
-/

namespace Nightjar

open Interact

/-- A vehicle command, or a call of `sleep_function`. -/
inductive Command (N : Type) where
  | connect (systemAddress : String)
  | setTakeoffAltitude (altitudeM : N)
  | arm
  | disarm
  | takeoff
  | land
  | sleep (seconds : Int)
  deriving DecidableEq

/-- An item of the `armed` or `in_air` stream. -/
inductive Flag where
  | exactTrue
  | exactFalse
  /-- Not a `bool`, such as `None`. -/
  | invalid (truthy : Bool)
  deriving DecidableEq, Repr

/-- `bool(item)`. -/
def Flag.truthy : Flag → Bool
  | exactTrue => true
  | exactFalse => false
  | invalid truthy => truthy

/-- An item of the `health` stream; an attribute that it lacks is `none`. -/
structure Health where
  isHomePositionOk : Option Bool
  isGlobalPositionOk : Option Bool
  deriving DecidableEq, Repr

namespace Health

/-- An item whose flags are both true. -/
abbrev good : Health := ⟨some true, some true⟩

/-- `getattr(health, "is_home_position_ok", False) and getattr(health, "is_global_position_ok",
    False)`: an attribute that the item lacks counts as false. -/
def isOk (health : Health) : Bool :=
  health.isHomePositionOk.getD false && health.isGlobalPositionOk.getD false

theorem isOk_iff {health : Health} : health.isOk = true ↔ health = good := by
  obtain ⟨home, global⟩ := health
  cases home with
  | none => simp [isOk, good]
  | some home => cases global <;> simp [isOk, good]

end Health

/-- An item of the `home` stream. -/
structure HomeReading (N : Type) where
  latitudeDeg : Reading N
  longitudeDeg : Reading N
  absoluteAltitudeM : Reading N
  deriving DecidableEq

/-- The bounded waits of the executor. -/
inductive Wait where
  | connection
  | home
  | armed
  | altitude
  | landing
  deriving DecidableEq, Repr

/-- What happens in a run. -/
inductive Event (N : Type) where
  /-- `verify_and_consume_approval` returned. -/
  | approvalConsumed (payload : ApprovalPayload)
  | systemFactoryCalled
  | systemCreated
  | issued (command : Command N)
  | returned (command : Command N)
  | connection (isConnected : Bool)
  | health (item : Health)
  | home (item : HomeReading N)
  | armed (item : Flag)
  /-- An item read by the landing wait. -/
  | inAir (item : Flag)
  /-- An `in_air` item read by the recovery to choose the cleanup. -/
  | cleanupInAir (item : Flag)
  | position (relativeAltitudeM : Reading N)
  /-- A bounded wait returned. -/
  | confirmed (wait : Wait)
  | recoveryStarted
  /-- A record was given to the writer, which raised `failure` or wrote it. -/
  | audit (record : AuditRecord N) (failure : Option PyExc)
  | stdout (line : String)
  | stderr (line : String)
  | serverStopped

/-- The flags of `_execute` (`mavsdk_executor.py:170-172`). -/
structure Flags where
  flightCommitted : Bool
  recoveryRequired : Bool
  takeoffAttempted : Bool
  deriving DecidableEq, Repr

/-- The flags at the start of the mission. -/
def Flags.initial : Flags := ⟨false, false, false⟩

/-- The state of a run: what happened, the flags, the number of systems in `drone_holder`, and the
    nonce table. -/
structure ExecState (N : Type) where
  trace : List (Event N)
  flags : Flags
  droneHolder : Nat
  nonces : NonceTable

/-- The start of a run over a nonce table. -/
def ExecState.init (N : Type) (nonces : NonceTable) : ExecState N := ⟨[], .initial, 0, nonces⟩

/-- A telemetry stream, as far as it is read. -/
structure Stream (ι : Type) where
  items : List ι
  ending : Prog.Ending PyExc

/-- The vehicle, its telemetry, the timers and the cancellations. -/
structure Vehicle (N : Type) where
  /-- What awaiting a command raises. -/
  command : List (Event N) → Command N → Option PyExc
  connectionState : List (Event N) → Stream Bool
  /-- `telemetry` has the attribute. -/
  exposesHealth : List (Event N) → Bool
  exposesHome : List (Event N) → Bool
  exposesArmed : List (Event N) → Bool
  health : List (Event N) → Stream Health
  home : List (Event N) → Stream (HomeReading N)
  armed : List (Event N) → Stream Flag
  inAir : List (Event N) → Stream Flag
  position : List (Event N) → Stream (Reading N)
  /-- What a bounded wait raises although the awaited body is done. -/
  interrupt : List (Event N) → Option PyExc
  /-- `datetime.now(timezone.utc).isoformat()`. -/
  utcNow : List (Event N) → Timestamp

/-- Everything a run depends on besides its arguments. -/
structure Env (N : Type) extends Vehicle N where
  systemFactory : List (Event N) → Option PyExc
  /-- What writing an audit record raises. -/
  audit : List (Event N) → AuditRecord N → Option PyExc
  /-- What printing a line to stdout raises. -/
  stdout : List (Event N) → String → Option PyExc
  /-- What printing a line to stderr raises. -/
  stderr : List (Event N) → String → Option PyExc
  /-- `int(time.time())` at the verification. -/
  clock : Int
  sqlite : SqliteFaults
  /-- `drone._stop_mavsdk_server`: `none` when it is not callable, else what calling it raises. -/
  stop : List (Event N) → Option (Option PyExc)

/-- A program of the executor. -/
abbrev Exec (N : Type) (α : Type) : Type := Prog (ExecState N) PyExc α

namespace Exec

variable {N : Type}

/-- Record an event. -/
def emit (event : Event N) : Exec N Unit :=
  Prog.modify fun s => { s with trace := s.trace ++ [event] }

/-- Assign flags. -/
def setFlags (f : Flags → Flags) : Exec N Unit :=
  Prog.modify fun s => { s with flags := f s.flags }

/-- Ask the environment, which sees the trace. -/
def ask {α : Type} (answer : List (Event N) → α) : Exec N α := do
  let s ← Prog.read
  pure (answer s.trace)

/-- `await` a command. -/
def command (env : Env N) (c : Command N) : Exec N Unit := do
  emit (.issued c)
  let failure ← ask fun trace => env.command trace c
  Prog.raiseOption failure
  emit (.returned c)

/-- `async for item in stream: if accept(item): return item`, then `raise ended`. -/
def awaitItem {ι : Type} (record : ι → Event N) (accept : ι → Bool) (stream : Stream ι)
    (ended : PyExc) : Exec N ι := do
  let found ← Prog.forStream
    (fun item => do
      emit (record item)
      pure (if accept item then some item else none))
    stream.items stream.ending
  match found with
  | some item => pure item
  | none => Prog.raise ended

/-- `asyncio.wait_for`: with a timeout that is not positive the body is not started. -/
def waitFor {α : Type} [Zero N] [LE N] [DecidableRel (α := N) (· ≤ ·)] (env : Env N)
    (timeout : N) (body : Exec N α) : Exec N α :=
  if timeout ≤ 0 then do
    let interrupted ← ask env.interrupt
    Prog.raiseOption interrupted
    Prog.raise ⟨.timeoutError, ""⟩
  else do
    let result ← body
    let interrupted ← ask env.interrupt
    Prog.raiseOption interrupted
    pure result

/-- `except asyncio.TimeoutError as exc: raise replacement from exc`. -/
def onTimeout {α : Type} (replacement : PyExc) (body : Exec N α) : Exec N α :=
  Prog.handle body fun e => if e.cls = .timeoutError then Prog.raise replacement else Prog.raise e

/-- `print(line)`. -/
def printStdout (env : Env N) (line : String) : Exec N Unit := do
  let failure ← ask fun trace => env.stdout trace line
  emit (.stdout line)
  Prog.raiseOption failure

/-- `print(line, file=sys.stderr)`. -/
def printStderr (env : Env N) (line : String) : Exec N Unit := do
  let failure ← ask fun trace => env.stderr trace line
  emit (.stderr line)
  Prog.raiseOption failure

end Exec

end Nightjar
