import Nightjar.MavsdkExecutor

/-!
# The command line

`nightjar run` (`cli.py`): loading of the mission and of the authorization material, the policy
decision, and the exit codes of the two executors. What lies outside the program (files, the JSON
and PEM readers, pydantic's reading of a mission) is the parameter `Host`.
-/

namespace Nightjar

open Python Interact Exec

/-- The files named on the command line and the libraries that read them. -/
structure Host (N : Type) [Zero N] [LT N] [Crypto] where
  /-- `args.mission.read_text(encoding="utf-8")`. -/
  missionText : Except PyExc String
  /-- `args.approval_file.read_text(encoding="utf-8")`. -/
  approvalText : Except PyExc String
  /-- `args.public_key_file.read_bytes()`. -/
  publicKeyBytes : Except PyExc (List UInt8)
  /-- `SQLiteNonceStore(args.nonce_db)`: making the directory, the table, the file mode. -/
  openStore : Except PyExc Unit
  /-- `json.loads`. -/
  loads : String → Except PyExc (Json N)
  /-- `Mission.model_validate`. -/
  missionOfJson : Json N → Except PyExc (Mission N)
  /-- pydantic's reading of an `int`. -/
  intOfJson : Json N → Option Int
  /-- `load_pem_public_key`; `none` is a key that is not an Ed25519 key. -/
  loadPemPublicKey : List UInt8 → Except PyExc (Option Crypto.PublicKey)
  /-- The resolved default directory of the audit log. -/
  auditDirectory : String

/-- The `--executor` argument. -/
inductive ExecutorChoice where
  | dryRun
  | mavsdk
  deriving DecidableEq, Repr

/-- The text of the choice. -/
def ExecutorChoice.value : ExecutorChoice → String
  | dryRun => "dry-run"
  | mavsdk => "mavsdk"

namespace Cli

variable {N : Type} [Field N] [LinearOrder N] [FloorRing N] [PyMath N] [PyText N] [Crypto]
  (host : Host N) (env : Env N)

/-- `load_mission` (`cli.py:21-23`). -/
def loadMission : Except PyExc (Mission N) := do
  let text ← host.missionText
  let payload ← host.loads text
  host.missionOfJson payload

/-- `load_signed_approval` (`cli.py:26-28`). -/
def loadSignedApproval : Except PyExc SignedApproval := do
  let text ← host.approvalText
  let payload ← host.loads text
  SignedApproval.modelValidate host.intOfJson payload

/-- `load_ed25519_public_key` (`cli.py:31-37`). -/
def loadEd25519PublicKey : Except PyExc Crypto.PublicKey := do
  let bytes ← host.publicKeyBytes
  match ← host.loadPemPublicKey bytes with
  | some key => .ok key
  | none => .error ⟨.typeError, "Approval key must be an Ed25519 public key."⟩

/-- The authorization material (`cli.py:140-143`). -/
def loadMaterial : Except PyExc (SignedApproval × Crypto.PublicKey) := do
  let envelope ← loadSignedApproval host
  let publicKey ← loadEd25519PublicKey host
  host.openStore
  .ok (envelope, publicKey)

/-- `except (OSError, json.JSONDecodeError, ValidationError)` (`cli.py:127`). -/
def isMissionLoadError (c : ExcClass) : Bool :=
  c.isOSError || c = .jsonDecodeError || c = .validationError

/-- The `except` clause of the authorization material (`cli.py:144-152`). -/
def isMaterialLoadError (c : ExcClass) : Bool :=
  c.isOSError || c.isValueError || c = .typeError || c = .unsupportedAlgorithm || c.isSqliteError

/-- `except (ApprovalError, ApprovalReplayError, sqlite3.Error)` (`cli.py:166, 195`). -/
def isBlocked (c : ExcClass) : Bool :=
  c = .approvalError || c = .approvalReplayError || c.isSqliteError

/-- Print the lines of a list. -/
def printLines : List String → Exec N Unit
  | [] => pure ()
  | line :: lines => do
      printStdout env line
      printLines lines

/-- `print_decision` (`cli.py:40-53`). -/
def printDecision (mission : Mission N) (limits : PolicyLimits N) : Exec N Bool := do
  let decision ← Prog.lift (PolicyEngine.evaluate limits mission)
  printLines env
    ([s!"Mission: {mission.missionId.text}", s!"Description: {mission.description}",
        "Policy decision: " ++ if decision.approved then "APPROVED" else "REJECTED"] ++
      decision.reasons.map fun reason => s!"  - {reason}")
  pure decision.approved

/-- The executor of the `mavsdk` path, with its defaults (`cli.py:189-193`). -/
def mavsdkExecutor (publicKey : Crypto.PublicKey) (limits : PolicyLimits N) :
    MavsdkExecutor N where
  publicKey := publicKey
  systemAddress := "udpin://127.0.0.1:14540"
  connectionTimeoutSeconds := 20
  takeoffTimeoutSeconds := 30
  takeoffAltitudeToleranceM := 1 / 2
  landingTimeoutSeconds := 30
  logDirectory := host.auditDirectory
  limits := limits

/-- Print a line and return an exit code. -/
def exitWith (line : String) (code : Nat) : Exec N Nat := do
  printStdout env line
  pure code

/-- The `except` clauses of the `mavsdk` path, in order (`cli.py:195-212`). -/
def mavsdkFailure (exc : PyExc) : Exec N Nat :=
  if isBlocked exc.cls then exitWith env s!"Execution blocked: {exc.text}" 4
  else if exc.cls = .unsupportedMavsdkActionError ∨ exc.cls = .mavsdkPolicyRejectedError then
    exitWith env s!"Execution blocked: {exc.text}" 4
  else if exc.cls = .homeUnavailableError then exitWith env s!"Home unavailable: {exc.text}" 6
  else if exc.cls = .homeMismatchError then exitWith env s!"Home mismatch: {exc.text}" 7
  else if exc.cls.isMavsdkExecutorError then exitWith env s!"Execution failed: {exc.text}" 5
  else if exc.cls.isException then exitWith env s!"Execution failed: {exc.text}" 5
  else Prog.raise exc

/-- The `mavsdk` path (`cli.py:176-216`); the imports succeed. -/
def runMavsdk (mission : Mission N) (limits : PolicyLimits N) (envelope : SignedApproval)
    (publicKey : Crypto.PublicKey) : Exec N Nat := do
  let result ← Prog.handle
    (do
      let result ← (mavsdkExecutor host publicKey limits).execute env mission envelope
      pure (Sum.inl result))
    (fun exc => do
      let code ← mavsdkFailure env exc
      pure (Sum.inr code))
  match result with
  | .inr code => pure code
  | .inl result => do
      printStdout env "Signed approval verified and consumed."
      printStdout env s!"MAVSDK simulation complete. Audit log: {result.logPath}"
      pure 0

/-- The `dry-run` path (`cli.py:156-174`). -/
def runDryRun (mission : Mission N) (limits : PolicyLimits N) (envelope : SignedApproval)
    (publicKey : Crypto.PublicKey) : Exec N Nat := do
  let blocked ← Prog.handle
    (do
      let payload ← Prog.zoom ExecState.nonces (fun nonces s => { s with nonces := nonces })
        (verifyAndConsumeApproval env.sqlite envelope publicKey mission limits
          ExecutorChoice.dryRun.value env.clock maxClockSkewSeconds maxLifetimeSeconds)
      emit (.approvalConsumed payload)
      pure none)
    (fun exc =>
      if isBlocked exc.cls then do
        let code ← exitWith env s!"Execution blocked: {exc.text}" 4
        pure (some code)
      else Prog.raise exc)
  match blocked with
  | some code => pure code
  | none => do
      printStdout env "Signed approval verified and consumed."
      let result ← DryRunExecutor.execute env host.auditDirectory mission
      printStdout env s!"Dry run complete. Audit log: {result.logPath}"
      pure 0

/-- `main` for `nightjar run` (`cli.py:119-219`). -/
def run (executor : ExecutorChoice) : Exec N Nat :=
  match loadMission host with
  | .error exc =>
    if isMissionLoadError exc.cls then exitWith env s!"Mission could not be loaded: {exc.text}" 2
    else Prog.raise exc
  | .ok mission => do
    let limits : PolicyLimits N := .default N
    let approved ← printDecision env mission limits
    if approved = false then pure 1
    else
      match loadMaterial host with
      | .error exc =>
        if isMaterialLoadError exc.cls then
          exitWith env s!"Authorization material could not be loaded: {exc.text}" 3
        else Prog.raise exc
      | .ok (envelope, publicKey) =>
        match executor with
        | .dryRun => runDryRun host env mission limits envelope publicKey
        | .mavsdk => runMavsdk host env mission limits envelope publicKey

end Cli

end Nightjar
