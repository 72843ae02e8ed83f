import Nightjar.Python.Json
import Nightjar.Python.Uuid

/-!
# Missions

The mission schema (`models.py`). A `Mission` carries what its validation guarantees as fields,
so a mission outside the schema cannot be built; the policy engine and the executor also run on
bare action lists.
-/

namespace Nightjar

open Python

/-- `ActionType` (`models.py:20-25`). -/
inductive ActionType where
  | takeoff
  | hold
  | goto
  | returnHome
  | land
  deriving DecidableEq, Repr

namespace ActionType

/-- The value of the enumeration member, which is what an f-string inserts for it. -/
def value : ActionType → String
  | takeoff => "takeoff"
  | hold => "hold"
  | goto => "goto"
  | returnHome => "return_home"
  | land => "land"

/-- `str(member)`. -/
def str : ActionType → String
  | takeoff => "ActionType.TAKEOFF"
  | hold => "ActionType.HOLD"
  | goto => "ActionType.GOTO"
  | returnHome => "ActionType.RETURN_HOME"
  | land => "ActionType.LAND"

end ActionType

/-- `MissionAction`: the five action models (`models.py:28-56`). -/
inductive MissionAction (N : Type) where
  | takeoff (altitudeM : N)
  | hold (durationSeconds : Int)
  | goto (northM eastM altitudeM : N)
  | returnHome
  | land
  deriving DecidableEq

namespace MissionAction

variable {N : Type}

/-- The discriminator `type`. -/
def type : MissionAction N → ActionType
  | .takeoff _ => .takeoff
  | .hold _ => .hold
  | .goto _ _ _ => .goto
  | .returnHome => .returnHome
  | .land => .land

/-- The `gt=0` constraints of the action models. -/
def Positive [Zero N] [LT N] : MissionAction N → Prop
  | .takeoff altitude => 0 < altitude
  | .hold duration => 0 < duration
  | .goto _ _ altitude => 0 < altitude
  | .returnHome => True
  | .land => True

/-- `action.model_dump(mode="json")`. -/
def dump : MissionAction N → Json N
  | .takeoff altitude => .obj [("type", .str "takeoff"), ("altitude_m", .float altitude)]
  | .hold duration => .obj [("type", .str "hold"), ("duration_seconds", .int duration)]
  | .goto north east altitude =>
      .obj [("type", .str "goto"), ("north_m", .float north), ("east_m", .float east),
        ("altitude_m", .float altitude)]
  | .returnHome => .obj [("type", .str "return_home")]
  | .land => .obj [("type", .str "land")]

end MissionAction

/-- `Mission` (`models.py:59-69`). -/
structure Mission (N : Type) [Zero N] [LT N] where
  missionId : UUID
  description : String
  actions : List (MissionAction N)
  description_length : 1 ≤ description.length ∧ description.length ≤ 300
  actions_length : 1 ≤ actions.length ∧ actions.length ≤ 10
  positive : ∀ action ∈ actions, action.Positive
  /-- `requires_safe_termination`. -/
  safe_termination : ∃ last, actions.getLast? = some last ∧
    (last.type = .returnHome ∨ last.type = .land)

namespace Mission

variable {N : Type} [Zero N] [LT N]

/-- `mission.model_dump(mode="json")`. -/
def dump (m : Mission N) : Json N :=
  .obj [("mission_id", .str m.missionId.text), ("description", .str m.description),
    ("actions", .arr (m.actions.map MissionAction.dump))]

theorem actions_ne_nil (m : Mission N) : m.actions ≠ [] := by
  intro empty
  have long := m.actions_length.1
  rw [empty] at long
  cases long

/-- A mission is its three fields; the rest of the structure is proofs. -/
theorem eq_of_fields {m n : Mission N} (id : m.missionId = n.missionId)
    (text : m.description = n.description) (actions : m.actions = n.actions) : m = n := by
  cases m
  cases n
  cases id
  cases text
  cases actions
  rfl

end Mission

end Nightjar
