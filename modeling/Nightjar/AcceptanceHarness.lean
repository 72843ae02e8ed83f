import Nightjar.AcceptanceChecks
import Nightjar.Approval
import Nightjar.Interact.Prog
import Nightjar.Python.Newlines
import Nightjar.Replay.Location

/-!
# The acceptance harness

`px4_acceptance_harness.py`: three commands are run, each with its own state directory, and their
exit codes, outputs and audit files are judged and kept as evidence. What the machine supplies (the
clock, the key, the files, the processes) is the parameter `Setting`; the harness adds files to the
evidence bundle and prints lines, and may be stopped by an exception at any point.
-/

namespace Nightjar

open Python Interact

namespace AcceptanceHarness

/-- `SYSTEM_ADDRESS`. -/
def systemAddress : String := "udpin://127.0.0.1:14540"

/-! ## The processes -/

/-- `SCENARIO_TIMEOUT_SECONDS`. -/
def scenarioTimeoutSeconds : Nat := 180

/-- A process that was started, as `communicate` shows it. -/
structure Process where
  /-- Within the timeout: the return code and the two outputs. `none` is `TimeoutExpired`. -/
  communicate : Option (Option Int × String × String)
  /-- Within ten seconds of `SIGTERM`: the two outputs. -/
  terminated : Option (String × String)
  /-- After `SIGKILL`. -/
  killed : String × String

/-- What `run_command` returns. -/
structure Finished where
  exitCode : Int
  stdout : String
  stderr : String
  timedOut : Bool
  deriving DecidableEq

/-- What is added to the output of a process that was ended. -/
def timeoutNote : String :=
  s!"\n[harness] scenario timed out after {scenarioTimeoutSeconds}s; process group terminated.\n"

/-- `run_command` (`px4_acceptance_harness.py:173-223`). -/
def runCommand (process : Process) : Finished :=
  match process.communicate with
  | some (returncode, stdout, stderr) => ⟨returncode.getD 1, stdout, stderr, false⟩
  | none =>
    let outputs := process.terminated.getD process.killed
    ⟨124, outputs.1 ++ timeoutNote, outputs.2, true⟩

/-! ## The state directories -/

/-- The key directory: `tempfile` gives absolute paths. -/
def keyPath (keyDir : Directory) (names : List String) : PosixPath :=
  PosixPath.join ⟨true, keyDir.parts⟩ names

/-- `isolated_env` (`px4_acceptance_harness.py:145-159`). -/
def isolatedEnv (env : Environment) (stateHome : PosixPath) : Environment :=
  { env with xdgStateHome := some stateHome.text }

/-- `expected_audit_dir` (`px4_acceptance_harness.py:162-165`). -/
def expectedAuditDir (stateHome : PosixPath) (cwd : Directory) : PosixPath :=
  (stateHome.join ["nightjar", "audit"]).resolve cwd

/-- The files of a machine. -/
abbrev Disk : Type := PosixPath → Option (List UInt8)

/-- The audit file of a mission in a directory. -/
def auditFile (directory : PosixPath) (missionId : UUID) : PosixPath :=
  directory.join [missionId.text ++ ".jsonl"]

/-- `collect_audit` (`px4_acceptance_harness.py:226-228`): the file, if it exists. -/
def collectAudit (disk : Disk) (stateHome : PosixPath) (cwd : Directory) (missionId : UUID) :
    Option (List UInt8) :=
  disk (auditFile (expectedAuditDir stateHome cwd) missionId)

/-! ## The bundle -/

/-- What is written to a file. -/
inductive Content (N : Type) where
  | text (s : String)
  | bytes (data : List UInt8)
  | json (value : Json N)

/-- The files of the bundle, in the order in which they were written, and the lines printed. -/
structure Bundle (N : Type) where
  files : List (String × Content N)
  printed : List String

/-- A part of the harness. -/
abbrev Harness (N : Type) (α : Type) : Type := Prog (Bundle N) PyExc α

section Writing

variable {N : Type}

/-- A file is written. -/
def write (path : String) (content : Content N) : Harness N Unit :=
  Prog.modify fun b => { b with files := b.files ++ [(path, content)] }

/-- `print`. -/
def print (line : String) : Harness N Unit :=
  Prog.modify fun b => { b with printed := b.printed ++ [line] }

/-- The dictionary of a scenario. -/
structure Scenario where
  name : String
  exitCode : Int
  command : List String
  auditPresent : Bool
  passed : Bool
  detail : String
  notes : String
  deriving DecidableEq

/-- The entries of the manifest. -/
def Scenario.dump (s : Scenario) : Json N :=
  .obj [("name", .str s.name), ("exit_code", .int s.exitCode),
    ("command", .arr (s.command.map .str)), ("audit_present", .bool s.auditPresent),
    ("passed", .bool s.passed), ("detail", .str s.detail), ("notes", .str s.notes)]

/-- `'PASS' if passed else 'FAIL'`. -/
def label (passed : Bool) : String := if passed then "PASS" else "FAIL"

/-- `shutil.copy2` of the audit file, if there is one. -/
def copyAudit (name : String) : Option (List UInt8) → Harness N Unit
  | some data => write (name ++ "/audit.jsonl") (.bytes data)
  | none => pure ()

/-- `write_scenario` (`px4_acceptance_harness.py:231-268`). -/
def writeScenario (name : String) (command : List String) (result : Finished)
    (audit : Option (List UInt8)) (notes : String) (passed : Bool) (detail : String) :
    Harness N Scenario := do
  write (name ++ "/command.txt") (.text (" ".intercalate command ++ "\n"))
  write (name ++ "/exit_code.txt") (.text (toString result.exitCode ++ "\n"))
  write (name ++ "/stdout.txt") (.text result.stdout)
  write (name ++ "/stderr.txt") (.text result.stderr)
  write (name ++ "/notes.txt") (.text (notes ++ "\n"))
  write (name ++ "/result.txt") (.text (label passed ++ ": " ++ detail ++ "\n"))
  copyAudit name audit
  pure ⟨name, result.exitCode, command, audit.isSome, passed, detail, notes⟩

/-- What a check decides about an exit code, an output and an audit file. -/
abbrev Check : Type := Int → String → Option (List UInt8) → Except PyExc (Bool × String)

/-- `detail_prefix`. -/
def timedOutPrefix (timedOut : Bool) : String := if timedOut then "TIMED OUT — " else ""

/-- A scenario of `main`: the process is waited for, judged, recorded and printed
    (`px4_acceptance_harness.py:328-348`, `353-373`, `427-451`). -/
def runScenario (name notes : String) (command : List String) (check : Check) (process : Process)
    (audit : Option (List UInt8)) : Harness N Scenario := do
  let result := runCommand process
  let verdict ← Prog.lift (check result.exitCode result.stdout audit)
  let scenario ← writeScenario name command result audit notes (verdict.1 && !result.timedOut)
    (timedOutPrefix result.timedOut ++ verdict.2)
  print s!"  {label verdict.1}: {verdict.2}"
  let output := String.ofList (strip result.stdout.toList)
  print (if output = "" then "(no stdout)" else output)
  pure scenario

end Writing

/-! ## The versions -/

/-- `git_sha` (`px4_acceptance_harness.py:70-78`). -/
def gitSha (output : Option String) : String :=
  match output with
  | some text => String.ofList (strip text.toList)
  | none => "unknown"

/-- An entry of `package_versions` (`px4_acceptance_harness.py:81-98`), from the output of
    `pip show`. -/
def packageVersion (output : Option String) : String :=
  match output with
  | none => "unknown"
  | some text =>
    match (splitlines text.toList).find? fun line => "Version:".toList.isPrefixOf line with
    | some line => String.ofList (strip (line.drop "Version:".length))
    | none => "not installed"

section Main

variable {N : Type} [Field N] [LinearOrder N] [FloorRing N] [PyMath N] [PyText N] [Crypto]

/-- What the machine supplies. A process is known by the scenario that starts it, and so is the disk
    after it. -/
structure Setting (N : Type) [Zero N] [LT N] [Crypto] where
  timestamp : String
  root : String
  executable : String
  /-- `MISSION_PATH`, and its bytes. -/
  missionPath : String
  missionBytes : List UInt8
  /-- `load_mission(MISSION_PATH)`. -/
  loadMission : Except PyExc (Mission N)
  adapterPath : String
  keyDir : Directory
  privateKey : Crypto.PrivateKey
  /-- `NIGHTJAR_HOME_SNAPSHOT`, and its bytes if the file exists. -/
  homePath : String
  homeFile : Option (List UInt8)
  /-- `HomeSnapshot.model_validate_json` on its text. -/
  readHome : List UInt8 → Except PyExc (HomeSnapshot N)
  /-- `int(time.time())` when the approval of a scenario is issued. -/
  clock : Nat → Int
  env : Environment
  /-- The working directory of the harness. -/
  cwd : Directory
  process : Nat → Process
  disk : Nat → Disk
  /-- `NIGHTJAR_PX4_RESTART_CMD`, and the code and the outputs of that command. -/
  restartCommand : Option String
  restarted : Int × String × String
  gitOutput : Option String
  pipOutput : String → Option String
  pythonVersion : String
  platform : String
  reader : Reader N
  /-- `str.lower`. -/
  lower : String → String

namespace Setting

variable (set : Setting N)

/-- The state directory of a scenario. -/
def stateHome (name : String) : PosixPath := keyPath set.keyDir [name]

/-- `collect_audit` after a scenario. -/
def audit (index : Nat) (stateName : String) (mission : Mission N) : Option (List UInt8) :=
  collectAudit (set.disk index) (set.stateHome stateName) set.cwd mission.missionId

/-- The payload and the envelope of `issue_approval` (`px4_acceptance_harness.py:122-142`). -/
def issueApproval (nonce : String) (home : HomeSnapshot N) (index : Nat) :
    Except PyExc SignedApproval := do
  let mission ← set.loadMission
  let payload ← buildApprovalPayload mission (.default N) "mavsdk" home 300 (some (set.clock index))
    (some nonce) 0 ""
  signApproval? set.privateKey payload

/-- The command of the first two scenarios (`px4_acceptance_harness.py:313-327`). -/
def runCommandLine : List String :=
  [set.executable, "-m", "nightjar.cli", "run", set.missionPath, "--executor", "mavsdk",
    "--approval-file", (keyPath set.keyDir ["approval-success.json"]).text,
    "--public-key-file", (keyPath set.keyDir ["approver-public.pem"]).text,
    "--nonce-db", (keyPath set.keyDir ["success.sqlite3"]).text]

/-- The command of the third scenario (`px4_acceptance_harness.py:416-426`). -/
def adapterCommandLine : List String :=
  [set.executable, set.adapterPath, set.missionPath,
    "--approval-file", (keyPath set.keyDir ["approval-failure.json"]).text,
    "--public-key-file", (keyPath set.keyDir ["approver-public.pem"]).text,
    "--nonce-db", (keyPath set.keyDir ["failure.sqlite3"]).text]

/-- `replay_rejected` looks at the audit file for its existence only. -/
def replayCheck : Check := fun exitCode stdout file =>
  .ok (AcceptanceChecks.replayRejected set.lower exitCode stdout file.isSome)

/-- The restart of PX4 before the third scenario (`px4_acceptance_harness.py:381-408`). -/
def restart : Harness N Unit :=
  match set.restartCommand with
  | none | some "" =>
    write "px4_restart.txt" (.text ("No NIGHTJAR_PX4_RESTART_CMD set. Recovery scenario used " ++
      "the existing PX4 instance. For isolation, set " ++
      "NIGHTJAR_PX4_RESTART_CMD to a command that stops and " ++
      "restarts PX4 SIH before this scenario.\n"))
  | some command => do
    print s!"  Restarting PX4: {command}"
    write "px4_restart.txt" (.text (s!"command: {command}\n" ++ s!"exit: {set.restarted.1}\n" ++
      s!"--- stdout ---\n{set.restarted.2.1}\n" ++ s!"--- stderr ---\n{set.restarted.2.2}\n"))

/-- The manifest (`px4_acceptance_harness.py:454-472`). -/
def manifest (mission : Mission N) (overall : Bool) (scenarios : List Scenario) : Json N :=
  .obj [("timestamp_utc", .str set.timestamp), ("git_sha", .str (gitSha set.gitOutput)),
    ("system_address", .str systemAddress),
    ("mission", .str "missions/mavsdk_simulation_mission.json"),
    ("mission_id", .str mission.missionId.text), ("python", .str set.pythonVersion),
    ("platform", .str set.platform),
    ("package_versions", .obj (("python", .str set.pythonVersion) ::
      ["mavsdk", "cryptography", "pydantic"].map fun name =>
        (name, .str (packageVersion (set.pipOutput name))))),
    ("overall", .str (label overall)), ("scenarios", .arr (scenarios.map Scenario.dump)),
    ("notes", .str ("Private signing keys were generated in a temporary directory " ++
      "and were not included in this bundle. The mission, approvals, " ++
      "and public key are included."))]

/-- A line of the summary about a scenario. -/
def summaryLine (title : String) (s : Scenario) : String :=
  s!"- {title}: {label s.passed} — {s.detail}"

/-- The summary (`px4_acceptance_harness.py:479-512`). -/
def summary (overall : Bool) (success replay failure : Scenario) : List String :=
  ["# PX4 Acceptance Evidence", "", s!"**Overall: {label overall}**", "",
    s!"- Timestamp (UTC): {set.timestamp}", s!"- Git SHA: {gitSha set.gitOutput}",
    s!"- System address: {systemAddress}", "- Mission: missions/mavsdk_simulation_mission.json",
    "", "## Results", "", "CLI validation (via `nightjar run --executor mavsdk`):",
    summaryLine "Signed mission" success, summaryLine "Replay rejection" replay, "",
    "Executor recovery validation (via acceptance-only adapter, not `nightjar run`):",
    summaryLine "Controlled failure" failure, "",
    "Absence of an audit on replay is supporting evidence that the " ++
      "executor did not reach mission_started. Direct proof that MAVSDK " ++
      "system creation never occurs on a rejected replay is provided by " ++
      "the existing regression tests, because the executor creates the " ++
      "system before writing the first audit record.", "",
    "See each scenario directory for the exact command, exit code, " ++
      "stdout, stderr, and audit log (when produced).", "",
    "Private keys were not included in this bundle."]

/-- The three scenarios (`px4_acceptance_harness.py:305-451`). -/
def runScenarios (mission : Mission N) (home : HomeSnapshot N) :
    Harness N (Scenario × Scenario × Scenario) := do
  print "=== Signed mission ==="
  let approval ← Prog.lift (set.issueApproval (String.ofList (List.replicate 32 's')) home 0)
  write "approval-success.json" (.json approval.dump)
  let success ← runScenario "signed_mission"
    "Expected: exit 0, success message, mission_completed audit." set.runCommandLine
    (AcceptanceChecks.signedMissionPassed set.reader) (set.process 0)
    (set.audit 0 "state-success" mission)
  print "\n=== Replay rejection ==="
  let replay ← runScenario "replay_rejection"
    "Expected: exit 4, already-used rejection, no audit (supporting evidence)." set.runCommandLine
    set.replayCheck (set.process 1) (set.audit 1 "state-replay" mission)
  print "\n=== Controlled failure during hold ==="
  set.restart
  let approvalFail ← Prog.lift (set.issueApproval (String.ofList (List.replicate 32 'f')) home 2)
  write "approval-failure.json" (.json approvalFail.dump)
  let failure ← runScenario "controlled_failure"
    ("Expected: exit 5, 'Acceptance-only injected failure during hold.' visible, " ++
      "recovery_status=landing_confirmed, no recovery error. " ++
      "Uses the acceptance-only adapter, not nightjar run.") set.adapterCommandLine
    (AcceptanceChecks.controlledFailureRecovered set.reader) (set.process 2)
    (set.audit 2 "state-failure" mission)
  pure (success, replay, failure)

/-- `main` (`px4_acceptance_harness.py:271-517`). -/
def main : Harness N Nat := do
  print s!"Evidence bundle: {set.root}/evidence/px4-acceptance-{set.timestamp}"
  print s!"Expecting PX4 at {systemAddress}"
  print ""
  let mission ← Prog.lift set.loadMission
  write "mission.json" (.bytes set.missionBytes)
  match set.homeFile with
  | none => do
    print (s!"Home snapshot not found at {set.homePath}. " ++
      "Run `nightjar home snapshot --output home_snapshot.json` " ++
      "against the live PX4 first, or set NIGHTJAR_HOME_SNAPSHOT.")
    pure 2
  | some bytes => do
    let home ← Prog.lift (set.readHome bytes)
    write "home_snapshot.json" (.bytes bytes)
    let scenarios ← set.runScenarios mission home
    let (success, replay, failure) := scenarios
    let overall := success.passed && replay.passed && failure.passed
    write "manifest.json" (.json (set.manifest mission overall [success, replay, failure]))
    write "SUMMARY.md"
      (.text ("\n".intercalate (set.summary overall success replay failure) ++ "\n"))
    print s!"\nOverall: {label overall}"
    print s!"Evidence written to {set.root}/evidence/px4-acceptance-{set.timestamp}"
    pure (if overall then 0 else 1)

end Setting

end Main

end AcceptanceHarness

end Nightjar
