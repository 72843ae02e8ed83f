import Nightjar.Geometry.Polyline
import Nightjar.Policy

/-!
# What the policy engine is for

The accepted missions, said without a loop: the action types form `takeoff (hold | goto)*`
followed by `land`, `return_home` or `return_home land` (`Shape`), every action is within its own
limits (`WithinLimits`), and the totals are within the budgets. The horizontal distance is the
length of the polygonal path through the waypoints.
-/

namespace Nightjar

open Python Geometry

namespace MissionAction

variable {N : Type}

/-- `hold` and `goto`: what a mission does between takeoff and its end. -/
def Cruises : MissionAction N → Prop
  | .hold _ => True
  | .goto _ _ _ => True
  | _ => False

/-- The duration of a hold, nothing otherwise. -/
def holdSeconds : MissionAction N → Int
  | .hold duration => duration
  | _ => 0

/-- An action is a `goto`. -/
def isGoto : MissionAction N → Bool
  | .goto _ _ _ => true
  | _ => false

/-- An action is a `return_home`. -/
def isReturnHome : MissionAction N → Bool
  | .returnHome => true
  | _ => false

end MissionAction

namespace PolicySpec

/-- The admitted endings. -/
def Ending {N : Type} (actions : List (MissionAction N)) : Prop :=
  actions = [.land] ∨ actions = [.returnHome] ∨ actions = [.returnHome, .land]

/-- The grammar of accepted missions. -/
def Shape {N : Type} (actions : List (MissionAction N)) : Prop :=
  ∃ altitude cruise ending, actions = .takeoff altitude :: (cruise ++ ending) ∧
    (∀ action ∈ cruise, action.Cruises) ∧ Ending ending

/-- An action respects the limits on single actions. -/
def WithinLimits {N : Type} [IntCast N] [LE N] [PyMath N] (limits : PolicyLimits N) :
    MissionAction N → Prop
  | .takeoff altitude => altitude ≤ limits.maxAltitudeM.val
  | .hold duration => (duration : N) ≤ limits.maxHoldSeconds.val
  | .goto north east altitude =>
      altitude ≤ limits.maxAltitudeM.val ∧
        PyMath.hypot north east ≤ limits.maxDistanceFromHomeM.val
  | .returnHome => True
  | .land => True

/-- The targets of the `goto` actions, in order. -/
noncomputable def gotoTargets (actions : List (MissionAction ℝ)) : List Plane :=
  actions.filterMap fun
    | .goto north east _ => some (point north east)
    | _ => none

/-- The waypoints after the origin: the targets, and the origin again after a return. -/
noncomputable def waypoints (actions : List (MissionAction ℝ)) : List Plane :=
  gotoTargets actions ++ if actions.any MissionAction.isReturnHome then [point 0 0] else []

/-- The accepted missions. -/
structure Accepted (limits : PolicyLimits ℝ) (actions : List (MissionAction ℝ)) : Prop where
  shape : Shape actions
  count : (actions.length : ℝ) ≤ limits.maxMissionActions.val
  within : ∀ action ∈ actions, WithinLimits limits action
  hold : ((actions.map MissionAction.holdSeconds).sum : ℝ) ≤ limits.maxTotalHoldSeconds.val
  gotos : ((actions.countP MissionAction.isGoto : ℕ) : ℝ) ≤ limits.maxGotoActions.val
  distance : polylineLength (point 0 0) (waypoints actions) ≤
    limits.maxTotalHorizontalDistanceM.val

end PolicySpec

end Nightjar
