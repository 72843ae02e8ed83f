import Nightjar.Executor

/-!
# The MAVSDK executor

`MavsdkExecutor` (`mavsdk_executor.py`): the launch gate (`validateMission`, `execute`), the
flight (`execute'`, the source's `_execute`), its bounded waits and the recovery. The mission task
and the recovery task run one after the other; the shield of `_recover_protected` means that a
cancellation of the mission task does not reach the recovery.
-/

namespace Nightjar

open Python Interact Exec

/-- `MavsdkExecutor` (`mavsdk_executor.py:61-75`). The collaborators that are called, the system
    factory, the sleep function and the nonce store, are part of the environment. -/
structure MavsdkExecutor (N : Type) [Crypto] where
  publicKey : Crypto.PublicKey
  systemAddress : String
  connectionTimeoutSeconds : N
  takeoffTimeoutSeconds : N
  takeoffAltitudeToleranceM : N
  landingTimeoutSeconds : N
  /-- The resolved directory of the audit log. -/
  logDirectory : String
  limits : PolicyLimits N

/-- The actions the executor translates: takeoff, hold and land. -/
def MissionAction.Supported {N : Type} (action : MissionAction N) : Prop :=
  action.type = .takeoff ∨ action.type = .hold ∨ action.type = .land

instance {N : Type} (action : MissionAction N) : Decidable action.Supported :=
  inferInstanceAs (Decidable (_ ∨ _ ∨ _))

/-- `position.relative_altitude_m >= minimum` (`mavsdk_executor.py:466`). -/
def Reading.atLeast {N : Type} [LE N] [DecidableRel (α := N) (· ≤ ·)] (minimum : N) :
    Reading N → Bool
  | .finite x => decide (minimum ≤ x)
  | .posInf => true
  | .negInf => false
  | .nan => false

/-- `_bound_home` (`mavsdk_executor.py:335-348`). The capture time is given, so no clock is
    read. -/
def boundHome {N : Type} [Field N] [LinearOrder N] [FloorRing N] [PyMath N] [PyText N] [Crypto]
    (approval : SignedApproval) : Except PyExc (HomeSnapshot N) :=
  let payload := approval.payload
  if payload.frameId ≠ frameId then
    .error (.homeMismatch ("Approval frame " ++ Json.strRepr payload.frameId ++ " is not " ++
      Json.strRepr frameId ++ "."))
  else
    match trueDiv? payload.homeLatitudeE7 latLonScale, trueDiv? payload.homeLongitudeE7 latLonScale,
      trueDiv? payload.homeAltitudeMm altitudeScale with
    | some latitude, some longitude, some altitude => do
      let snapshot ← snapshotFromTelemetry (N := N) (.finite latitude) (.finite longitude)
        (.finite altitude) (some "bound") ⟨"bound", by decide⟩
      let hash ← homeSha256? snapshot
      if hash ≠ payload.homeSha256 then
        .error (.homeMismatch "Approval home_sha256 does not match the signed home integers.")
      else .ok snapshot
    | _, _, _ => .error .divOverflow

namespace MavsdkExecutor

variable {N : Type} [Field N] [LinearOrder N] [FloorRing N] [PyMath N] [PyText N] [Crypto]
  (x : MavsdkExecutor N) (env : Env N)

/-- `validate_mission` (`mavsdk_executor.py:77-94`). -/
def validateMission (mission : Mission N) : Except PyExc Unit := do
  let decision ← PolicyEngine.evaluate x.limits mission
  if decision.approved = false then
    .error ⟨.mavsdkPolicyRejectedError,
      "Mission rejected by policy: " ++ "; ".intercalate decision.reasons⟩
  else
    let unsupported :=
      (mission.actions.filter fun action => ¬ action.Supported).map fun action => action.type.value
    if unsupported ≠ [] then
      .error ⟨.unsupportedMavsdkActionError,
        "MAVSDK executor does not support these mission actions yet: " ++
          ", ".intercalate unsupported.eraseDups ++ "."⟩
    else .ok ()

/-- `_audit_writer` and its call (`mavsdk_executor.py:185-194, 242-251, 293-296`). -/
def auditPhase (missionId : UUID) (event : AuditEvent N) : Exec N Unit := do
  let s ← Prog.read
  if s.flags.flightCommitted then do
    let _ ← writeAuditRecordBestEffort env x.logDirectory ⟨missionId, event⟩
    pure ()
  else do
    let _ ← writeAuditRecord env x.logDirectory ⟨missionId, event⟩
    pure ()

/-- `_wait_for_connection` (`mavsdk_executor.py:436-452`). -/
def waitForConnection : Exec N Unit := do
  onTimeout
    (.mavsdk s!"Timed out waiting {PyText.general x.connectionTimeoutSeconds} seconds for PX4.")
    (waitFor env x.connectionTimeoutSeconds do
      let stream ← ask env.connectionState
      let _ ← awaitItem .connection id stream
        (.mavsdk "MAVSDK connection-state stream ended before PX4 connected.")
      pure ())
  emit (.confirmed .connection)

/-- `_read_home` (`mavsdk_executor.py:350-378`). -/
def readHome : Exec N (HomeSnapshot N) := do
  let snapshot ← onTimeout
    (.homeUnavailable
      s!"Timed out waiting {PyText.general x.connectionTimeoutSeconds} seconds for home.")
    (waitFor env x.connectionTimeoutSeconds do
      let exposed ← ask fun trace => env.exposesHealth trace && env.exposesHome trace
      if exposed = false then
        Prog.raise (.homeUnavailable "MAVSDK telemetry does not expose health or home.")
      else do
        let healthStream ← ask env.health
        let _ ← awaitItem .health Health.isOk healthStream
          (.homeUnavailable "Health stream ended before home was OK.")
        let homeStream ← ask env.home
        let home ← awaitItem .home (fun _ => true) homeStream
          (.homeUnavailable "Home stream ended before a position arrived.")
        let now ← ask env.utcNow
        Prog.lift (snapshotFromTelemetry home.latitudeDeg home.longitudeDeg
          home.absoluteAltitudeM none now))
  emit (.confirmed .home)
  pure snapshot

/-- What `_verify_home` computes for its record (`mavsdk_executor.py:388-405`): the comparison, the
    hash, and the integers of both homes. -/
def checkHome (bound live : HomeSnapshot N) : Except PyExc (Bool × String) := do
  let ok ← withinTolerance bound live x.limits.homeHorizontalToleranceM
    x.limits.homeVerticalToleranceM
  let hash ← homeSha256? bound
  let _ ← bound.canonical?
  let _ ← live.canonical?
  .ok (ok, hash)

/-- `_verify_home` (`mavsdk_executor.py:380-410`). -/
def verifyHome (missionId : UUID) (bound live : HomeSnapshot N) (phase : HomePhase) :
    Exec N Unit := do
  let (ok, hash) ← Prog.lift (x.checkHome bound live)
  let _ ← writeAuditRecord env x.logDirectory
    ⟨missionId, .homeCheck phase hash ok bound live⟩
  if ok = false then
    Prog.raise (.homeMismatch
      ("Home mismatch at " ++ phase.value ++ ": live home exceeds policy tolerance."))
  else pure ()

/-- `_wait_until_armed` (`mavsdk_executor.py:412-434`). -/
def waitUntilArmed : Exec N Unit := do
  onTimeout
    (.mavsdk (s!"Timed out waiting {PyText.general x.takeoffTimeoutSeconds} seconds " ++
      "for armed telemetry after arm()."))
    (waitFor env x.takeoffTimeoutSeconds do
      let exposed ← ask env.exposesArmed
      if exposed = false then
        Prog.raise
          (.mavsdk "MAVSDK telemetry does not expose armed state; cannot confirm arming.")
      else do
        let stream ← ask env.armed
        let _ ← awaitItem .armed (fun item => item = .exactTrue) stream
          (.mavsdk "MAVSDK armed telemetry ended before the vehicle reported armed.")
        pure ())
  emit (.confirmed .armed)

/-- `minimum_altitude_m` (`mavsdk_executor.py:459-462`). -/
def minimumAltitudeM (targetAltitudeM : N) : N :=
  max (targetAltitudeM * (9 / 10)) (targetAltitudeM - x.takeoffAltitudeToleranceM)

/-- `_wait_until_takeoff_altitude` (`mavsdk_executor.py:454-482`). -/
def waitUntilTakeoffAltitude (targetAltitudeM : N) : Exec N Unit := do
  onTimeout
    (.mavsdk (s!"Timed out waiting {PyText.general x.takeoffTimeoutSeconds} seconds " ++
      s!"to reach takeoff altitude {PyText.general targetAltitudeM} m."))
    (waitFor env x.takeoffTimeoutSeconds do
      let stream ← ask env.position
      let _ ← awaitItem .position (Reading.atLeast (x.minimumAltitudeM targetAltitudeM)) stream
        (.mavsdk "MAVSDK position telemetry ended before takeoff altitude was reached.")
      pure ())
  emit (.confirmed .altitude)

/-- `_wait_until_landed` (`mavsdk_executor.py:484-500`). -/
def waitUntilLanded : Exec N Unit := do
  onTimeout
    (.mavsdk s!"Timed out waiting {PyText.general x.landingTimeoutSeconds} seconds for landing.")
    (waitFor env x.landingTimeoutSeconds do
      let stream ← ask env.inAir
      let _ ← awaitItem .inAir (fun isInAir => ¬ isInAir.truthy) stream
        (.mavsdk "MAVSDK in-air telemetry ended before landing was confirmed.")
      pure ())
  emit (.confirmed .landing)

/-- The choice of `_recover` before a takeoff was attempted (`mavsdk_executor.py:318-329`): the
    loop looks at one item. `some` is the status to return, `none` goes on to land. -/
def chooseCleanup : Exec N (Option RecoveryStatus) := do
  let stream ← ask env.inAir
  let chosen ← Prog.forStream
    (fun inAir => do
      emit (.cleanupInAir inAir)
      match inAir with
      | .exactFalse => do
          command env .disarm
          pure (some (some RecoveryStatus.disarmAccepted))
      | .exactTrue => pure (some none)
      | .invalid _ => Prog.raise (.mavsdk "Invalid in-air telemetry during arm recovery."))
    stream.items stream.ending
  match chosen with
  | some choice => pure choice
  | none =>
      Prog.raise (.mavsdk "In-air telemetry ended before arm recovery could choose cleanup.")

/-- `_recover` (`mavsdk_executor.py:316-333`). -/
def recover (takeoffAttempted : Bool) : Exec N RecoveryStatus := do
  let choice ← if takeoffAttempted = false then chooseCleanup env else pure none
  match choice with
  | some status => pure status
  | none => do
      command env .land
      waitUntilLanded x env
      pure .landingConfirmed

/-- `_recover_protected` (`mavsdk_executor.py:298-314`), without other tasks and without a clock: a
    landing wait that times out ends here with its own error (see `Protected.recover_eq_run`). -/
def recoverProtected (takeoffAttempted : Bool) : Exec N RecoveryStatus := do
  emit .recoveryStarted
  waitFor env x.landingTimeoutSeconds (recover x env takeoffAttempted)

/-- The branch of the loop body for the action's class (`mavsdk_executor.py:196-240`). -/
def executeAction (missionId : UUID) (bound : HomeSnapshot N) :
    MissionAction N → Exec N Unit
  | .takeoff altitudeM => do
      command env (.setTakeoffAltitude altitudeM)
      setFlags fun flags => { flags with takeoffAttempted := false, recoveryRequired := true }
      command env .arm
      waitUntilArmed x env
      let postArmHome ← readHome x env
      verifyHome x env missionId bound postArmHome .postArm
      setFlags fun flags => { flags with takeoffAttempted := true }
      command env .takeoff
      setFlags fun flags => { flags with flightCommitted := true }
      waitUntilTakeoffAltitude x env altitudeM
  | .hold durationSeconds => command env (.sleep durationSeconds)
  | .land => do
      command env .land
      waitUntilLanded x env
      setFlags fun flags => { flags with recoveryRequired := false }
  | .goto _ _ _ => pure ()
  | .returnHome => pure ()

/-- The loop over the actions (`mavsdk_executor.py:184-251`). -/
def executeActions (missionId : UUID) (bound : HomeSnapshot N) :
    Nat → List (MissionAction N) → Exec N Unit
  | _, [] => pure ()
  | sequence, action :: actions => do
      auditPhase x env missionId (.actionStarted sequence action)
      executeAction x env missionId bound action
      auditPhase x env missionId (.actionCompleted sequence action.type)
      executeActions missionId bound (sequence + 1) actions

/-- The body of the `try` of `_execute` (`mavsdk_executor.py:174-251`). -/
def fly (mission : Mission N) (approval : SignedApproval) : Exec N Unit := do
  command env (.connect x.systemAddress)
  waitForConnection x env
  let bound ← Prog.lift (boundHome approval)
  let live ← readHome x env
  verifyHome x env mission.missionId bound live .preArm
  executeActions x env mission.missionId bound 1 mission.actions

/-- The recovery of the handler of `_execute` (`mavsdk_executor.py:254-265`). -/
def recoverStatus : Exec N (RecoveryStatus × Option String) := do
  let s ← Prog.read
  if s.flags.recoveryRequired then
    Prog.handle
      (do
        let status ← recoverProtected x env s.flags.takeoffAttempted
        pure (status, none))
      fun recoveryExc =>
        if recoveryExc.cls.isExceptionOrCancelled then
          pure (.failed, some recoveryExc.cls.name)
        else Prog.raise recoveryExc
  else pure (.notRequired, none)

/-- The handler of `_execute` (`mavsdk_executor.py:253-280`). -/
def onFailure (missionId : UUID) (exc : PyExc) : Exec N Unit :=
  if exc.cls.isMissionFailure then do
    let outcome ← recoverStatus x env
    let _ ← writeAuditRecordBestEffort env x.logDirectory
      ⟨missionId, .missionFailed exc.text outcome.1 outcome.2⟩
    Prog.raise exc
  else Prog.raise exc

/-- `drone = self.system_factory()` and `drone_holder.append(drone)`
    (`mavsdk_executor.py:149-151`). -/
def createSystem : Exec N Unit := do
  emit .systemFactoryCalled
  let failure ← ask env.systemFactory
  Prog.raiseOption failure
  emit .systemCreated
  Prog.modify fun s => { s with droneHolder := s.droneHolder + 1 }

/-- `_execute` (`mavsdk_executor.py:143-291`). -/
def execute' (mission : Mission N) (approval : SignedApproval) : Exec N ExecutionResult := do
  createSystem env
  let logPath ← writeAuditRecord env x.logDirectory
    ⟨mission.missionId, .missionStarted mission.description x.systemAddress⟩
  setFlags fun _ => .initial
  Prog.handle (fly x env mission approval) (onFailure x env mission.missionId)
  let _ ← writeAuditRecordBestEffort env x.logDirectory ⟨mission.missionId, .missionCompleted⟩
  pure { completed := true, logPath := logPath }

/-- The `finally` of `execute` (`mavsdk_executor.py:126-141`): stop the server of the system that
    was created, if there is one. -/
def stopServers : Exec N Unit := do
  let s ← Prog.read
  match s.droneHolder, env.stop s.trace with
  | 0, _ => pure ()
  | _, none => pure ()
  | _, some failure => do
      emit .serverStopped
      Prog.handle (Prog.raiseOption failure) fun exc =>
        if exc.cls.isException then
          printStderr env ("MAVSDK server stop failed: " ++ exc.cls.name)
        else Prog.raise exc

/-- `execute` (`mavsdk_executor.py:96-141`). -/
def execute (mission : Mission N) (approval : SignedApproval) : Exec N ExecutionResult := do
  Prog.lift (x.validateMission mission)
  let payload ← Prog.zoom ExecState.nonces (fun nonces s => { s with nonces := nonces })
    (verifyAndConsumeApproval env.sqlite approval x.publicKey mission x.limits
      mavsdkExecutorName env.clock maxClockSkewSeconds maxLifetimeSeconds)
  emit (.approvalConsumed payload)
  Prog.finally_ (execute' x env mission approval) (stopServers env)

end MavsdkExecutor

end Nightjar
