import Nightjar.Loaded
import Nightjar.Models
import Nightjar.Python.Pydantic

/-!
# The mission schema

`Mission.model_validate` (`models.py`) on a value that was read from JSON text: the discriminated
union of the actions, the constraints of the fields, the default of the mission id, the ban on
other fields and the validator of the model. pydantic's readers of single values are the parameter
`Pydantic`.
-/

namespace Nightjar

open Python

/-- pydantic: the texts of its errors, and its readers of values of the declared types. A reader
    gives the text of its error, or the value that it coerces to. -/
structure Pydantic (N : Type) where
  message : ErrorKind → String
  /-- The text for a tag that is not expected. -/
  tagMessage : Loaded N → String
  uuid : Loaded N → Except String UUID
  str : Loaded N → Except String String
  /-- `float`, with `allow_inf_nan=False`. -/
  float : Loaded N → Except String N
  int : Loaded N → Except String Int

/-- A value of a declared type is read from its JSON-mode dump. -/
structure Pydantic.Lawful {N : Type} (P : Pydantic N) : Prop where
  uuid : ∀ id : UUID, P.uuid (.str id.text) = .ok id
  str : ∀ text, P.str (.str text) = .ok text
  float : ∀ x, P.float (.float (.finite x)) = .ok x
  int : ∀ i, P.int (.int i) = .ok i

namespace Schema

section Fields

variable {N : Type} (P : Pydantic N) {α : Type}

/-- A value of a declared type. -/
def scalar (read : Loaded N → Except String α) (value : Loaded N) : Validated α :=
  match read value with
  | .ok a => .ok a
  | .error msg => .fail msg

/-- A required field. -/
def field (name : String) (read : Loaded N → Validated α) (fields : List (String × Loaded N)) :
    Validated α :=
  .under name
    (match fields.lookup name with
    | some value => read value
    | none => .fail (P.message .missing))

/-- `extra="forbid"`: an error for each other field. -/
def forbidExtra (names : List String) (fields : List (String × Loaded N)) : Validated Unit :=
  match fields.filter fun entry => !names.contains entry.1 with
  | [] => .ok ()
  | extra => .error (extra.map fun entry => ⟨[entry.1], P.message .extraForbidden⟩)

/-- `Field(gt=0)`. -/
def positive [Zero α] [LT α] [DecidableRel (α := α) (· < ·)] (read : Loaded N → Except String α)
    (value : Loaded N) : Validated { a : α // 0 < a } :=
  match scalar read value with
  | .error errors => .error errors
  | .ok a => if above : 0 < a then .ok ⟨a, above⟩ else .fail (P.message (.greaterThan 0))

/-- A `str` with `Field(min_length=…, max_length=…)`. -/
def text (minLength maxLength : Nat) (value : Loaded N) :
    Validated { text : String // minLength ≤ text.length ∧ text.length ≤ maxLength } :=
  match scalar P.str value with
  | .error errors => .error errors
  | .ok text =>
    if enough : minLength ≤ text.length then
      if few : text.length ≤ maxLength then .ok ⟨text, enough, few⟩
      else .fail (P.message (.stringTooLong maxLength))
    else .fail (P.message (.stringTooShort minLength))

/-- A `tuple[…, ...]` with `Field(min_length=…, max_length=…)`. It accepts what pydantic
    accepts; for a sequence of a wrong length with invalid items its list of errors is not
    pydantic's. -/
def tuple (minLength maxLength : Nat) (read : Loaded N → Validated α) :
    Loaded N → Validated { items : List α // minLength ≤ items.length ∧ items.length ≤ maxLength }
  | .arr values =>
    if values.length > maxLength then .fail (P.message (.tooLong maxLength values.length))
    else
      match Validated.each read 0 values with
      | .error errors => .error errors
      | .ok items =>
        if length : minLength ≤ items.length ∧ items.length ≤ maxLength then .ok ⟨items, length⟩
        else .fail (P.message (.tooShort minLength items.length))
  | _ => .fail (P.message .tupleType)

end Fields

end Schema

namespace MissionAction

variable {N : Type} [Zero N] [LT N] [DecidableRel (α := N) (· < ·)] (P : Pydantic N)

/-- An action that is valid. -/
abbrev Valid (N : Type) [Zero N] [LT N] : Type := { action : MissionAction N // action.Positive }

open Schema

/-- `TakeoffAction` (`models.py:28-30`). -/
def takeoffAction (fields : List (String × Loaded N)) : Validated (Valid N) :=
  ((field P "altitude_m" (positive P P.float) fields).both
    (forbidExtra P ["type", "altitude_m"] fields)).map
    fun (altitude, _) => ⟨.takeoff altitude.1, altitude.2⟩

/-- `HoldAction` (`models.py:33-35`). -/
def holdAction (fields : List (String × Loaded N)) : Validated (Valid N) :=
  ((field P "duration_seconds" (positive P P.int) fields).both
    (forbidExtra P ["type", "duration_seconds"] fields)).map
    fun (duration, _) => ⟨.hold duration.1, duration.2⟩

/-- `GotoAction` (`models.py:38-42`). -/
def gotoAction (fields : List (String × Loaded N)) : Validated (Valid N) :=
  ((field P "north_m" (scalar P.float) fields).both
    ((field P "east_m" (scalar P.float) fields).both
      ((field P "altitude_m" (positive P P.float) fields).both
        (forbidExtra P ["type", "north_m", "east_m", "altitude_m"] fields)))).map
    fun (north, east, altitude, _) => ⟨.goto north east altitude.1, altitude.2⟩

/-- `ReturnHomeAction` (`models.py:45-46`). -/
def returnHomeAction (fields : List (String × Loaded N)) : Validated (Valid N) :=
  (forbidExtra P ["type"] fields).map fun _ => ⟨.returnHome, trivial⟩

/-- `LandAction` (`models.py:49-50`). -/
def landAction (fields : List (String × Loaded N)) : Validated (Valid N) :=
  (forbidExtra P ["type"] fields).map fun _ => ⟨.land, trivial⟩

/-- The union that `type` discriminates (`models.py:53-56`). -/
def modelValidate : Loaded N → Validated (Valid N)
  | .obj fields =>
    match fields.lookup "type" with
    | none => .fail (P.message (.unionTagNotFound "type"))
    | some (.str "takeoff") => .under "takeoff" (takeoffAction P fields)
    | some (.str "hold") => .under "hold" (holdAction P fields)
    | some (.str "goto") => .under "goto" (gotoAction P fields)
    | some (.str "return_home") => .under "return_home" (returnHomeAction P fields)
    | some (.str "land") => .under "land" (landAction P fields)
    | some tag => .fail (P.tagMessage tag)
  | _ => .fail (P.message .modelAttributesType)

end MissionAction

namespace Mission

variable {N : Type} [Zero N] [LT N] [DecidableRel (α := N) (· < ·)] (P : Pydantic N)

open Schema

/-- `mission_id`, which defaults to `uuid4()` (`models.py:60`). -/
def missionIdOf (fresh : UUID) (fields : List (String × Loaded N)) : Validated UUID :=
  match fields.lookup "mission_id" with
  | none => .ok fresh
  | some value => .under "mission_id" (scalar P.uuid value)

/-- The fields of `Mission` (`models.py:60-62`). -/
def fieldsOf (fresh : UUID) (fields : List (String × Loaded N)) :=
  (missionIdOf P fresh fields).both
    ((field P "description" (text P 1 300) fields).both
      ((field P "actions" (tuple P 1 10 (MissionAction.modelValidate P)) fields).both
        (forbidExtra P ["mission_id", "description", "actions"] fields)))

/-- `Mission.model_validate` (`models.py:59-69`). `fresh` is `uuid4()` at the call. -/
def modelValidate (fresh : UUID) : Loaded N → Validated (Mission N)
  | .obj fields =>
    match fieldsOf P fresh fields with
    | .error errors => .error errors
    | .ok (missionId, description, actions, _) =>
      let actionList := actions.1.map Subtype.val
      if safe : ∃ last, actionList.getLast? = some last ∧
          (last.type = .returnHome ∨ last.type = .land) then
        .ok
          { missionId := missionId
            description := description.1
            actions := actionList
            description_length := description.2
            actions_length := by simpa [actionList] using actions.2
            positive := fun action member => by
              obtain ⟨valid, -, rfl⟩ := List.mem_map.mp member
              exact valid.2
            safe_termination := safe }
      else
        .fail (P.message (.valueError "Mission must end with return_home or land."))
  | _ => .fail (P.message (.modelType "Mission"))

/-- `Mission.model_validate` as it raises. `errorText` is `str` of the `ValidationError`. -/
def validated (errorText : List FieldError → String) (fresh : UUID) (payload : Loaded N) :
    Except PyExc (Mission N) :=
  match modelValidate P fresh payload with
  | .ok mission => .ok mission
  | .error errors => .error ⟨.validationError, errorText errors⟩

end Mission

end Nightjar
