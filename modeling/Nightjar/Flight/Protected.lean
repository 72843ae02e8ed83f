import Nightjar.Interact.Coroutine
import Nightjar.Interact.Transition
import Nightjar.MavsdkExecutor

/-!
# Recovery and cancellation

`_recover_protected` as two `asyncio` tasks (`mavsdk_executor.py:253-280, 298-333`): the mission
task, which may be cancelled any number of times, and the recovery task, which runs `_recover` under
`wait_for` with a positive timeout. A schedule is a list of labels, one for each step of a task, of
the event loop or of its surroundings. An operation that raises `KeyboardInterrupt` or `SystemExit`
stops the event loop, so there is no step for it.
-/

namespace Nightjar

open Interact

/-- What `_recover` awaits. -/
inductive RecoveryOp where
  /-- The next item of `telemetry.in_air()`; `none` is its end. -/
  | nextInAir
  | disarm
  | land
  /-- `_wait_until_landed`. -/
  | waitUntilLanded
  deriving DecidableEq, Repr

/-- The value of an operation. -/
def RecoveryOp.Value : RecoveryOp → Type
  | nextInAir => Option Flag
  | disarm | land | waitUntilLanded => Unit

/-- A coroutine of the recovery. -/
abbrev Recovering (α : Type) : Type := Coro RecoveryOp RecoveryOp.Value PyExc α

namespace Protected

/-- The landing of `_recover` (`mavsdk_executor.py:331-333`). -/
def landing : Recovering RecoveryStatus := do
  let _ ← Coro.perform RecoveryOp.land
  let _ ← Coro.perform RecoveryOp.waitUntilLanded
  pure .landingConfirmed

/-- `_recover` (`mavsdk_executor.py:316-333`). The loop over the stream looks at one item. -/
def recover (takeoffAttempted : Bool) : Recovering RecoveryStatus :=
  if takeoffAttempted = false then do
    let item ← Coro.perform RecoveryOp.nextInAir
    match (item : Option Flag) with
    | some .exactFalse => do
        let _ ← Coro.perform RecoveryOp.disarm
        pure .disarmAccepted
    | some .exactTrue => landing
    | some (.invalid _) => .raised (.mavsdk "Invalid in-air telemetry during arm recovery.")
    | none =>
        .raised (.mavsdk "In-air telemetry ended before arm recovery could choose cleanup.")
  else landing

/-- Where the recovery task is. -/
inductive Point where
  | created
  | awaiting (op : RecoveryOp)
      (resume : Except PyExc op.Value → Recovering RecoveryStatus)
  | done (outcome : Except PyExc RecoveryStatus)

/-- The recovery task. It counts how often the body of `_recover` was entered, and lists what was
    awaited in it. -/
structure Recovery where
  point : Point
  expired : Bool
  entered : Nat
  awaited : List RecoveryOp

namespace Recovery

/-- `asyncio.create_task(...)`. -/
def new : Recovery := ⟨.created, false, 0, []⟩

/-- `wait_for` turns a cancellation that its timeout caused into a `TimeoutError`. -/
def deadline (expired : Bool) : Except PyExc RecoveryStatus → Except PyExc RecoveryStatus
  | .ok status => .ok status
  | .error e =>
    if expired = true ∧ e.cls = .cancelledError then .error ⟨.timeoutError, ""⟩ else .error e

/-- The task runs to the next operation, or to its end. -/
def advance (r : Recovery) : Recovering RecoveryStatus → Recovery
  | .returned status => { r with point := .done (deadline r.expired (.ok status)) }
  | .raised e => { r with point := .done (deadline r.expired (.error e)) }
  | .await op resume => { r with point := .awaiting op resume, awaited := r.awaited ++ [op] }

/-- A step of the recovery task: its first, one in which an operation replies, or the expiry of the
    timeout, which cancels the operation. What a cancelled operation replies is up to it. -/
inductive Label where
  | begin_
  | reply (op : RecoveryOp) (value : Except PyExc op.Value)
  | expire

/-- The steps of the recovery task. -/
inductive Step (takeoffAttempted : Bool) : Recovery → Label → Recovery → Prop
  | begin_ {r : Recovery} (created : r.point = .created) :
      Step takeoffAttempted r .begin_
        (advance { r with entered := r.entered + 1 } (recover takeoffAttempted))
  | reply {r : Recovery} {op : RecoveryOp}
      {resume : Except PyExc op.Value → Recovering RecoveryStatus}
      (value : Except PyExc op.Value) (awaiting : r.point = .awaiting op resume)
      (caught : ∀ e, value = .error e → e.cls.isExceptionOrCancelled = true) :
      Step takeoffAttempted r (.reply op value) (advance r (resume value))
  | expire {r : Recovery} {op : RecoveryOp}
      {resume : Except PyExc op.Value → Recovering RecoveryStatus}
      (awaiting : r.point = .awaiting op resume) (running : r.expired = false) :
      Step takeoffAttempted r .expire { r with expired := true }

end Recovery

/-- The future that `asyncio.shield` returns. -/
inductive Shield where
  | pending
  | cancelled
  | result (status : RecoveryStatus)
  | exception (e : PyExc)
  deriving DecidableEq

/-- Where the mission task is: the handler of `_execute` has caught an exception and is about to
    recover; `_recover_protected` awaits a shield; or `_recover_protected` has ended with an
    outcome, and `_execute` by raising. -/
inductive Mission where
  | failed
  | shielding (shield : Shield)
  | ended (outcome : Except PyExc RecoveryStatus) (raised : PyExc)

/-- The two tasks. -/
structure Tasks where
  mission : Mission
  /-- A cancellation is to be thrown at the next step of the mission task. -/
  mustCancel : Bool
  recovery : Option Recovery
  /-- How many recovery tasks were created. -/
  created : Nat

namespace Tasks

/-- The handler is about to recover. -/
def start : Tasks := ⟨.failed, false, none, 0⟩

/-- What the handler raises after `_recover_protected` (`mavsdk_executor.py:257-280`). -/
def handlerRaises (origin : PyExc) : Except PyExc RecoveryStatus → PyExc
  | .ok _ => origin
  | .error e => if e.cls.isExceptionOrCancelled then origin else e

/-- `_recover_protected` ends, and then the handler. -/
def finish (origin : PyExc) (outcome : Except PyExc RecoveryStatus) (s : Tasks) : Tasks :=
  { s with mission := .ended outcome (handlerRaises origin outcome) }

/-- `while not recovery_task.done(): await asyncio.shield(recovery_task)`, up to the await. A
    cancellation that is due reaches the shield at once. -/
def loop (origin : PyExc) (s : Tasks) : Tasks :=
  match s.recovery.map Recovery.point with
  | some (.done outcome) => s.finish origin outcome
  | _ =>
    { s with
      mission := .shielding (if s.mustCancel then .cancelled else .pending)
      mustCancel := false }

/-- `asyncio.create_task(...)`, and then the loop. -/
def create (origin : PyExc) (s : Tasks) : Tasks :=
  { s with recovery := some .new, created := s.created + 1 }.loop origin

/-- What the await of a shield does, when it is not pending. A cancellation that is due replaces
    what the shield holds, and every cancellation continues the loop. -/
def resume (origin : PyExc) (shield : Shield) (s : Tasks) : Tasks :=
  let due := s.mustCancel
  let s := { s with mustCancel := false }
  match due, shield with
  | false, .exception e => s.finish origin (.error e)
  | _, _ => s.loop origin

/-- What the done callback of the shield puts into it. -/
def shieldOf : Except PyExc RecoveryStatus → Shield
  | .ok status => .result status
  | .error e => if e.cls = .cancelledError then .cancelled else .exception e

/-- `mission_task.cancel()`: it cancels the shield that the task awaits, unless that is done. -/
def cancel (s : Tasks) : Tasks :=
  match s.mission with
  | .failed => { s with mustCancel := true }
  | .shielding .pending => { s with mission := .shielding .cancelled }
  | .shielding _ => { s with mustCancel := true }
  | .ended _ _ => s

end Tasks

/-- A step of the mission task, of the event loop, of someone who cancels, or of the recovery. -/
inductive Label where
  | create
  | wake
  | notify
  | cancel
  | recovery (label : Recovery.Label)

/-- The steps of the two tasks. -/
inductive Step (takeoffAttempted : Bool) (origin : PyExc) : Tasks → Label → Tasks → Prop
  | create {s : Tasks} (failed : s.mission = .failed) :
      Step takeoffAttempted origin s .create (s.create origin)
  | wake {s : Tasks} {shield : Shield} (shielding : s.mission = .shielding shield)
      (done : shield ≠ .pending) :
      Step takeoffAttempted origin s .wake (s.resume origin shield)
  | notify {s : Tasks} {r : Recovery} {outcome : Except PyExc RecoveryStatus}
      (shielding : s.mission = .shielding .pending) (created : s.recovery = some r)
      (done : r.point = .done outcome) :
      Step takeoffAttempted origin s .notify
        { s with mission := .shielding (Tasks.shieldOf outcome) }
  | cancel {s : Tasks} : Step takeoffAttempted origin s .cancel s.cancel
  | recovery {s : Tasks} {r r' : Recovery} {label : Recovery.Label} (created : s.recovery = some r)
      (step : Recovery.Step takeoffAttempted r label r') :
      Step takeoffAttempted origin s (.recovery label) { s with recovery := some r' }

end Protected

end Nightjar
