import Nightjar.Exceptions
import Nightjar.Models

/-!
# The policy engine

`PolicyEngine.evaluate` (`policy.py:49-168`): one pass over the actions with a four-state flight
state, a look at the remaining actions after every return or landing, and five accumulators. The
loop goes on after a violation, and the mission is approved when no reason was collected.

A reason is kept with its data; `Reason.text` is its message. Formatting a message fails on an
`int` of more than 4300 digits, and then `evaluate` raises.
-/

namespace Nightjar

open Python

/-- `FlightState` (`policy.py:16-20`). -/
inductive FlightState where
  | disarmed
  | airborne
  | returning
  | landed
  deriving DecidableEq, Repr

/-- `PolicyLimits` (`policy.py:23-36`), a plain dataclass: no field is coerced. -/
structure PolicyLimits (N : Type) where
  maxAltitudeM : PyNum N
  maxDistanceFromHomeM : PyNum N
  maxHoldSeconds : PyNum N
  maxMissionActions : PyNum N
  maxTotalHoldSeconds : PyNum N
  maxTotalHorizontalDistanceM : PyNum N
  maxGotoActions : PyNum N
  homeHorizontalToleranceM : PyNum N
  homeVerticalToleranceM : PyNum N
  deriving DecidableEq

/-- `PolicyLimits()`. -/
def PolicyLimits.default (N : Type) [NatCast N] : PolicyLimits N where
  maxAltitudeM := .float (Nat.cast 10)
  maxDistanceFromHomeM := .float (Nat.cast 30)
  maxHoldSeconds := .int 60
  maxMissionActions := .int 10
  maxTotalHoldSeconds := .int 120
  maxTotalHorizontalDistanceM := .float (Nat.cast 120)
  maxGotoActions := .int 5
  homeHorizontalToleranceM := .float (Nat.cast 2)
  homeVerticalToleranceM := .float (Nat.cast 3)

/-- `PolicyDecision` (`policy.py:39-42`). -/
structure PolicyDecision where
  approved : Bool
  reasons : List String
  deriving DecidableEq, Repr

/-- Why a mission is rejected. `index` counts from 1. -/
inductive Reason (N : Type) where
  | missionActions (count : Nat) (limit : PyNum N)
  | takeoffState (index : Nat)
  | altitude (index : Nat) (type : ActionType) (altitudeM : N) (limit : PyNum N)
  | holdState (index : Nat)
  | holdDuration (index : Nat) (durationSeconds : Int) (limit : PyNum N)
  | gotoState (index : Nat)
  | gotoDistance (index : Nat) (distance : N) (limit : PyNum N)
  | returnHomeState (index : Nat)
  | landState (index : Nat)
  | afterLanding (index : Nat) (type : ActionType) (found : List ActionType)
  | afterReturnHome (index : Nat) (type : ActionType) (found : List ActionType)
  | totalHold (totalHoldSeconds : Int) (limit : PyNum N)
  | totalDistance (totalHorizontalDistanceM : N) (limit : PyNum N)
  | gotoActions (count : Nat) (limit : PyNum N)
  | firstAction

namespace Reason

variable {N : Type} [PyText N]

/-- The local `prefix` of the loop (`policy.py:66`). -/
def header (index : Nat) (type : ActionType) : String :=
  "Action " ++ toString index ++ " (" ++ type.value ++ ")"

/-- The message of a reason; `none` when a number in it cannot be written. -/
def text : Reason N → Option String
  | .missionActions count limit => do
      let limit ← limit.str?
      some s!"Mission has {count} actions; maximum is {limit}."
  | .takeoffState index =>
      some s!"{header index .takeoff}: takeoff is only allowed from disarmed state."
  | .altitude index type altitudeM limit => do
      let limit ← limit.str?
      some s!"{header index type}: altitude {PyText.repr altitudeM} m exceeds {limit} m."
  | .holdState index => some s!"{header index .hold}: hold requires airborne state."
  | .holdDuration index durationSeconds limit => do
      let duration ← intStr? durationSeconds
      let limit ← limit.str?
      some s!"{header index .hold}: duration {duration} s exceeds {limit} s."
  | .gotoState index => some s!"{header index .goto}: goto requires airborne state."
  | .gotoDistance index distance limit => do
      let limit ← limit.str?
      some s!"{header index .goto}: distance {PyText.fixed1 distance} m exceeds {limit} m."
  | .returnHomeState index =>
      some s!"{header index .returnHome}: return_home requires airborne state."
  | .landState index =>
      some s!"{header index .land}: land requires airborne or returning state."
  | .afterLanding index type found =>
      let nextTypes := ", ".intercalate (found.map ActionType.str)
      some s!"{header index type}: no actions are allowed after landing; found {nextTypes}."
  | .afterReturnHome index type found =>
      let nextTypes := ", ".intercalate (found.map ActionType.str)
      some s!"{header index type}: only land may follow return_home; found {nextTypes}."
  | .totalHold totalHoldSeconds limit => do
      let total ← intStr? totalHoldSeconds
      let limit ← limit.str?
      some s!"Mission total hold time {total} s exceeds {limit} s."
  | .totalDistance totalHorizontalDistanceM limit => do
      let limit ← limit.str?
      let total := PyText.fixed1 totalHorizontalDistanceM
      some s!"Mission total horizontal distance {total} m exceeds {limit} m."
  | .gotoActions count limit => do
      let limit ← limit.str?
      some s!"Mission has {count} goto actions; maximum is {limit}."
  | .firstAction => some "The first action must be takeoff."

end Reason

/-- The local variables of `evaluate` (`policy.py:50-57`). -/
structure EvalState (N : Type) where
  reasons : List (Reason N)
  state : FlightState
  totalHoldSeconds : Int
  totalHorizontalDistanceM : N
  gotoActions : Nat
  currentNorthM : N
  currentEastM : N

section Evaluate

variable {N : Type} [Field N] [LinearOrder N] [PyMath N]

/-- Append a reason under a condition, as every check of `evaluate` does. -/
def EvalState.check (st : EvalState N) (violated : Prop) [Decidable violated]
    (reason : Reason N) : EvalState N :=
  if violated then { st with reasons := st.reasons ++ [reason] } else st

namespace PolicyEngine

/-- The branch of the loop body for the action's type (`policy.py:68-129`). -/
def evaluateAction (limits : PolicyLimits N) (index : Nat) (action : MissionAction N)
    (st : EvalState N) : EvalState N :=
  match action with
  | .takeoff altitudeM =>
      let st := st.check (st.state ≠ .disarmed) (.takeoffState index)
      let st := st.check (limits.maxAltitudeM.val < altitudeM)
        (.altitude index .takeoff altitudeM limits.maxAltitudeM)
      { st with state := .airborne }
  | .hold durationSeconds =>
      let st := st.check (st.state ≠ .airborne) (.holdState index)
      let st := st.check (limits.maxHoldSeconds.val < (durationSeconds : N))
        (.holdDuration index durationSeconds limits.maxHoldSeconds)
      { st with totalHoldSeconds := st.totalHoldSeconds + durationSeconds }
  | .goto northM eastM altitudeM =>
      let st := st.check (st.state ≠ .airborne) (.gotoState index)
      let st := st.check (limits.maxAltitudeM.val < altitudeM)
        (.altitude index .goto altitudeM limits.maxAltitudeM)
      let distance := PyMath.hypot northM eastM
      let st := st.check (limits.maxDistanceFromHomeM.val < distance)
        (.gotoDistance index distance limits.maxDistanceFromHomeM)
      let legDistance := PyMath.hypot (northM - st.currentNorthM) (eastM - st.currentEastM)
      { st with
        gotoActions := st.gotoActions + 1
        totalHorizontalDistanceM := st.totalHorizontalDistanceM + legDistance
        currentNorthM := northM
        currentEastM := eastM }
  | .returnHome =>
      let st := st.check (st.state ≠ .airborne) (.returnHomeState index)
      { st with
        totalHorizontalDistanceM :=
          st.totalHorizontalDistanceM + PyMath.hypot st.currentNorthM st.currentEastM
        currentNorthM := 0
        currentEastM := 0
        state := .returning }
  | .land =>
      let st := st.check (st.state ≠ .airborne ∧ st.state ≠ .returning) (.landState index)
      { st with state := .landed }

/-- The look at the remaining actions (`policy.py:131-142`). -/
def evaluateRemaining (index : Nat) (type : ActionType) (remaining : List (MissionAction N))
    (st : EvalState N) : EvalState N :=
  let found := remaining.map MissionAction.type
  match st.state with
  | .landed => st.check (remaining ≠ []) (.afterLanding index type found)
  | .returning =>
      st.check (∃ item ∈ remaining, item.type ≠ .land) (.afterReturnHome index type found)
  | .disarmed => st
  | .airborne => st

/-- The loop (`policy.py:65-142`). -/
def evaluateLoop (limits : PolicyLimits N) :
    Nat → List (MissionAction N) → EvalState N → EvalState N
  | _, [], st => st
  | index, action :: remaining, st =>
      evaluateLoop limits (index + 1) remaining
        (evaluateRemaining index action.type remaining (evaluateAction limits index action st))

/-- All the reasons of `evaluate`, in order. -/
def evaluateReasons (limits : PolicyLimits N) (actions : List (MissionAction N)) :
    List (Reason N) :=
  let st : EvalState N :=
    { reasons := [], state := .disarmed, totalHoldSeconds := 0, totalHorizontalDistanceM := 0,
      gotoActions := 0, currentNorthM := 0, currentEastM := 0 }
  let st := st.check (limits.maxMissionActions.val < (actions.length : N))
    (.missionActions actions.length limits.maxMissionActions)
  let st := evaluateLoop limits 1 actions st
  let st := st.check (limits.maxTotalHoldSeconds.val < (st.totalHoldSeconds : N))
    (.totalHold st.totalHoldSeconds limits.maxTotalHoldSeconds)
  let st := st.check (limits.maxTotalHorizontalDistanceM.val < st.totalHorizontalDistanceM)
    (.totalDistance st.totalHorizontalDistanceM limits.maxTotalHorizontalDistanceM)
  let st := st.check (limits.maxGotoActions.val < (st.gotoActions : N))
    (.gotoActions st.gotoActions limits.maxGotoActions)
  let st := st.check (actions.head?.map MissionAction.type ≠ some .takeoff) .firstAction
  st.reasons

variable [PyText N]

/-- `PolicyEngine.evaluate` on an action list. It raises `IndexError` on an empty one, and
    `ValueError` when a message cannot be formatted; equal messages are reported once. -/
def evaluateActions (limits : PolicyLimits N) (actions : List (MissionAction N)) :
    Except PyExc PolicyDecision :=
  let reasons := evaluateReasons limits actions
  match reasons.mapM Reason.text with
  | none => .error .intDigits
  | some texts =>
    if actions = [] then .error ⟨.indexError, "tuple index out of range"⟩
    else .ok { approved := reasons.isEmpty, reasons := texts.eraseDups }

/-- `PolicyEngine(limits).evaluate(mission)`. -/
def evaluate (limits : PolicyLimits N) (mission : Mission N) : Except PyExc PolicyDecision :=
  evaluateActions limits mission.actions

/-- The engine approves the actions: `evaluate` returns a decision with `approved` set. -/
def Approves (limits : PolicyLimits N) (actions : List (MissionAction N)) : Prop :=
  ∃ decision, evaluateActions limits actions = .ok decision ∧ decision.approved = true

end PolicyEngine

end Evaluate

end Nightjar
