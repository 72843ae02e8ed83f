import Nightjar.Schema
import Nightjar.Security

/-!
# The validation service

`validate_mission_payload` (`service.py`): the pure part of the service, which answers a proposal
with a status and a body. A body is JSON, with its entries in the order of the source.
-/

namespace Nightjar

open Python

namespace Service

/-- `SERVICE_VERSION`. -/
def serviceVersion : String := "0.1.0-phase0"

/-- `VALIDATE_PATH`. -/
def validatePath : String := "/v1/missions/validate"

/-- `MAX_REQUEST_BYTES`. -/
def maxRequestBytes : Int := 64 * 1024

/-- `AUTHORIZATION_STATUS`. -/
def authorizationStatus : String := "REQUIRED_NOT_GRANTED"

/-- `EXECUTION_STATUS`. -/
def executionStatus : String := "NOT_AVAILABLE_IN_THIS_SERVICE"

section Bodies

variable {N : Type}

/-- A list of texts. -/
def texts (lines : List String) : Json N := .arr (lines.map .str)

/-- The entries that end every body. -/
def closing : List (String × Json N) :=
  [("authorization", .str authorizationStatus), ("execution", .str executionStatus)]

/-- A body that reports an error. -/
def errorBody (error : String) (reasons : List String) (more : List (String × Json N)) : Json N :=
  .obj ([("service_version", .str serviceVersion), ("error", .str error),
    ("reasons", texts reasons)] ++ more ++ closing)

end Bodies

/-- The line for an entry of `exc.errors()` (`service.py:67`). -/
def errorLine (error : FieldError) : String :=
  let path := ".".intercalate error.loc
  (if path = "" then "mission" else path) ++ ": " ++ error.msg

variable {N : Type} [Field N] [LinearOrder N] [PyMath N] [PyText N] [Crypto]

/-- The body of an answer of 200 (`service.py:77-87`). -/
def decidedBody (limits : PolicyLimits N) (mission : Mission N) (decision : PolicyDecision) :
    Json N :=
  .obj ([("service_version", .str serviceVersion), ("approved", .bool decision.approved),
    ("reasons", texts decision.reasons), ("mission_sha256", .str (missionSha256 mission)),
    ("policy_sha256", .str (policySha256 limits)), ("policy_limits", limits.asdict),
    ("normalized_mission", mission.dump)] ++ closing)

/-- `validate_mission_payload` (`service.py:39-87`). `fresh` is `uuid4()` at the call. -/
def validateMissionPayload (P : Pydantic N) (fresh : UUID) (payload : Loaded N)
    (limits : Option (PolicyLimits N)) : Except PyExc (Nat × Json N) :=
  let activeLimits := limits.getD (.default N)
  match payload with
  | .obj fields =>
    match fields.lookup "mission" with
    | some proposal =>
      match Mission.modelValidate P fresh proposal with
      | .error errors =>
        .ok (422, errorBody "schema" (errors.map errorLine)
          [("policy_limits", activeLimits.asdict)])
      | .ok mission => do
        let decision ← PolicyEngine.evaluate activeLimits mission
        .ok (200, decidedBody activeLimits mission decision)
    | none => .ok (422, errorBody "schema"
        ["Request body must be an object containing a 'mission' key."] [])
  | _ => .ok (422, errorBody "schema"
      ["Request body must be an object containing a 'mission' key."] [])

end Service

end Nightjar
