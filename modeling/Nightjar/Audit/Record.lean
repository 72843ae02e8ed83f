import Nightjar.Home

/-!
# Audit records

The records that the two executors write, as data: the event and its details, with the texts and
keys of the source. The time stamp of a record is left out; nothing reads it.
-/

namespace Nightjar

open Python

/-- `MAVSDK_EXECUTOR_NAME` (`mavsdk_executor.py:27`). -/
def mavsdkExecutorName : String := "mavsdk"

/-- The `phase` argument of `_verify_home`. -/
inductive HomePhase where
  | preArm
  | postArm
  deriving DecidableEq, Repr

/-- The text of a phase. -/
def HomePhase.value : HomePhase → String
  | preArm => "pre_arm"
  | postArm => "post_arm"

/-- `recovery_status` (`mavsdk_executor.py:254-265`). -/
inductive RecoveryStatus where
  | notRequired
  | disarmAccepted
  | landingConfirmed
  | failed
  deriving DecidableEq, Repr

/-- The text of a recovery status. -/
def RecoveryStatus.value : RecoveryStatus → String
  | notRequired => "not_required"
  | disarmAccepted => "disarm_accepted"
  | landingConfirmed => "landing_confirmed"
  | failed => "failed"

/-- An audit event and what its details hold. -/
inductive AuditEvent (N : Type) where
  | missionStarted (description systemAddress : String)
  | homeCheck (phase : HomePhase) (homeSha256 : String) (withinTolerance : Bool)
      (bound live : HomeSnapshot N)
  | actionStarted (sequence : Nat) (action : MissionAction N)
  | actionCompleted (sequence : Nat) (type : ActionType)
  | missionFailed (error : String) (recoveryStatus : RecoveryStatus)
      (recoveryErrorType : Option String)
  | missionCompleted
  /-- The three records of `DryRunExecutor`. -/
  | dryRunStarted (description : String)
  | actionSimulated (sequence : Nat) (action : MissionAction N)
  | dryRunCompleted

namespace AuditEvent

variable {N : Type}

/-- The `event` of the record. -/
def name : AuditEvent N → String
  | missionStarted _ _ => "mission_started"
  | homeCheck _ _ _ _ _ => "home_check"
  | actionStarted _ _ => "action_started"
  | actionCompleted _ _ => "action_completed"
  | missionFailed _ _ _ => "mission_failed"
  | missionCompleted => "mission_completed"
  | dryRunStarted _ => "mission_started"
  | actionSimulated _ _ => "action_simulated"
  | dryRunCompleted => "mission_completed"

/-- The `details` of the record. -/
def details [Field N] [LinearOrder N] [FloorRing N] : AuditEvent N → Json N
  | missionStarted description systemAddress =>
      .obj [("description", .str description), ("executor", .str mavsdkExecutorName),
        ("system_address", .str systemAddress)]
  | homeCheck phase homeSha256 withinTolerance bound live =>
      .obj [("phase", .str phase.value), ("frame_id", .str frameId),
        ("home_sha256", .str homeSha256), ("within_tolerance", .bool withinTolerance),
        ("bound", bound.canonical), ("live", live.canonical)]
  | actionStarted sequence action =>
      .obj [("sequence", .int sequence), ("action", action.dump),
        ("executor", .str mavsdkExecutorName)]
  | actionCompleted sequence type =>
      .obj [("sequence", .int sequence), ("action_type", .str type.value),
        ("executor", .str mavsdkExecutorName)]
  | missionFailed error recoveryStatus recoveryErrorType =>
      .obj [("executor", .str mavsdkExecutorName), ("error", .str error),
        ("recovery_status", .str recoveryStatus.value),
        ("recovery_error_type", match recoveryErrorType with
          | none => .null
          | some name => .str name)]
  | missionCompleted => .obj [("executor", .str mavsdkExecutorName)]
  | dryRunStarted description => .obj [("description", .str description)]
  | actionSimulated sequence action =>
      .obj [("sequence", .int sequence), ("action", action.dump)]
  | dryRunCompleted => .obj [("executor", .str "dry_run")]

end AuditEvent

/-- What `write_audit_record` is given: the mission and the event. -/
structure AuditRecord (N : Type) where
  missionId : UUID
  event : AuditEvent N

/-- The record as it is written (`audit.py:43-48`), but for its time stamp. -/
def AuditRecord.dump {N : Type} [Field N] [LinearOrder N] [FloorRing N]
    (record : AuditRecord N) : Json N :=
  .obj [("mission_id", .str record.missionId.text), ("event", .str record.event.name),
    ("details", record.event.details)]

end Nightjar
