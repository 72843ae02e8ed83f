import Nightjar.AcceptanceChecks.Proofs.Flights
import Nightjar.AcceptanceChecks.Proofs.Replay
import Nightjar.AcceptanceHarness.Proofs.Evidence
import Nightjar.AcceptanceHarness.Proofs.Location
import Nightjar.Interact.Outcome

/-!
# What an accepted run of the harness demonstrates

The processes of the scenarios are runs of the commands: the first two of `nightjar run` with the
same approval and nonce database, the third of the failure adapter. When the harness returns 0, the
mission was flown and landed, its replay was refused before any system was created, and the injected
failure was recovered by a landing.
-/

namespace Nightjar

open Python Interact Prog Cli

namespace AcceptanceHarness

section Returns

variable {N : Type} {check : Check} {process : Process} {audit : Option (List UInt8)}
  {name notes : String} {command : List String}

theorem ends_write (path : String) (content : Content N) :
    Ends (write path content) (· = .ok ()) := ends_modify _

theorem ends_print (line : String) : Ends (print (N := N) line) (· = .ok ()) := ends_modify _

theorem ends_copyAudit : Ends (copyAudit (N := N) name audit) (· = .ok ()) := by
  cases audit with
  | none => exact ends_pure rfl
  | some data => exact ends_write _ _

theorem ends_writeScenario (result : Finished) (passed : Bool) (detail : String) :
    Ends (writeScenario (N := N) name command result audit notes passed detail)
      (· = .ok ⟨name, result.exitCode, command, audit.isSome, passed, detail, notes⟩) := by
  refine ends_bind_ok (ends_write _ _) ?_
  refine ends_bind_ok (ends_write _ _) ?_
  refine ends_bind_ok (ends_write _ _) ?_
  refine ends_bind_ok (ends_write _ _) ?_
  refine ends_bind_ok (ends_write _ _) ?_
  refine ends_bind_ok (ends_write _ _) ?_
  refine ends_bind_ok ends_copyAudit ?_
  exact ends_pure rfl

/-- The process ended by itself, and the check accepts it. -/
def Accepts (check : Check) (process : Process) (audit : Option (List UInt8)) : Prop :=
  ∃ returncode stdout stderr detail, process.communicate = some (returncode, stdout, stderr) ∧
    check (returncode.getD 1) stdout audit = .ok (true, detail)

/-- A scenario that the check accepts passes. -/
theorem ends_runScenario (accepts : Accepts check process audit) :
    Ends (runScenario (N := N) name notes command check process audit)
      fun outcome => ∃ s, outcome = .ok s ∧ s.passed = true := by
  obtain ⟨returncode, stdout, stderr, detail, in_time, judged⟩ := accepts
  have finished : runCommand process = ⟨returncode.getD 1, stdout, stderr, false⟩ := by
    rw [runCommand, in_time]
  unfold runScenario
  rw [finished]
  refine ends_bind_ok (ends_lift judged) ?_
  refine ends_bind_ok (ends_writeScenario _ _ _) ?_
  refine ends_bind_ok (ends_print _) ?_
  refine ends_bind_ok (ends_print _) ?_
  exact ends_pure ⟨_, rfl, rfl⟩

end Returns

section Zero

variable {N : Type} [Field N] [LinearOrder N] [FloorRing N] [PyMath N] [PyText N] [Crypto]

/-- The three processes are accepted. -/
structure AllAccepted (set : Setting N) (mission : Mission N) : Prop where
  signed : Accepts (AcceptanceChecks.signedMissionPassed set.reader) (set.process 0)
    (set.audit 0 "state-success" mission)
  replayed : Accepts set.replayCheck (set.process 1) (set.audit 1 "state-replay" mission)
  controlled : Accepts (AcceptanceChecks.controlledFailureRecovered set.reader) (set.process 2)
    (set.audit 2 "state-failure" mission)

/-- What the harness needs to start: a mission, a home snapshot, and approvals that can be
    issued. -/
structure Prepared (set : Setting N) (mission : Mission N) : Prop where
  loaded : set.loadMission = .ok mission
  issued : ∃ bytes home first second, set.homeFile = some bytes ∧ set.readHome bytes = .ok home ∧
    set.issueApproval (String.ofList (List.replicate 32 's')) home 0 = .ok first ∧
    set.issueApproval (String.ofList (List.replicate 32 'f')) home 2 = .ok second

variable {set : Setting N} {mission : Mission N}

theorem issueApproval_of_loaded {nonce : String} {home : HomeSnapshot N} {index : Nat}
    (loaded : set.loadMission = .ok mission) :
    set.issueApproval nonce home index = issueApproval? set.privateKey mission (.default N) "mavsdk"
      home 300 (set.clock index) 0 nonce "" := by
  simp only [Setting.issueApproval, loaded, issueApproval?, bind, Except.bind]

omit [FloorRing N] [PyMath N] [PyText N] in
theorem ends_restart : Ends set.restart (· = .ok ()) := by
  unfold Setting.restart
  split
  · exact ends_write _ _
  · exact ends_write _ _
  · exact ends_bind_ok (ends_print _) (ends_write _ _)

theorem ends_main (prepared : Prepared set mission) (accepted : AllAccepted set mission) :
    Ends set.main (· = .ok 0) := by
  obtain ⟨loaded, bytes, home, first, second, file, is_home, issued, issued'⟩ := prepared
  have scenarios : Ends (set.runScenarios mission home) fun outcome => ∃ all,
      outcome = .ok all ∧ (all.1.passed && all.2.1.passed && all.2.2.passed) = true := by
    refine ends_bind_ok (ends_print _) ?_
    refine ends_bind_ok (ends_lift issued) ?_
    refine ends_bind_ok (ends_write _ _) ?_
    refine ends_bind_where (ends_runScenario accepted.signed) fun success passed => ?_
    refine ends_bind_ok (ends_print _) ?_
    refine ends_bind_where (ends_runScenario accepted.replayed) fun replay passed' => ?_
    refine ends_bind_ok (ends_print _) ?_
    refine ends_bind_ok ends_restart ?_
    refine ends_bind_ok (ends_lift issued') ?_
    refine ends_bind_ok (ends_write _ _) ?_
    refine ends_bind_where (ends_runScenario accepted.controlled) fun failure passed'' => ?_
    exact ends_pure ⟨_, rfl, by rw [passed, passed', passed'']; rfl⟩
  unfold Setting.main
  rw [file]
  refine ends_bind_ok (ends_print _) ?_
  refine ends_bind_ok (ends_print _) ?_
  refine ends_bind_ok (ends_print _) ?_
  refine ends_bind_ok (ends_lift loaded) ?_
  refine ends_bind_ok (ends_write _ _) ?_
  refine ends_bind_ok (ends_lift is_home) ?_
  refine ends_bind_ok (ends_write _ _) ?_
  refine ends_bind_where scenarios fun all passed => ?_
  refine ends_bind_ok (ends_write _ _) ?_
  refine ends_bind_ok (ends_write _ _) ?_
  refine ends_bind_ok (ends_print _) ?_
  refine ends_bind_ok (ends_print _) ?_
  exact ends_pure (congrArg Except.ok (if_pos passed))

/-- Without them it does not get to the end. -/
theorem allAccepted_of_main {b : Bundle N} (returned : set.main ⟨[], []⟩ = (.ok 0, b)) :
    ∃ mission, set.loadMission = .ok mission ∧ AllAccepted set mission := by
  rcases main_returned returned with ⟨zero, -⟩ | ⟨mission, success, replay, failure, overall,
    loaded, ran, is_overall, is_code, -⟩
  · cases zero
  · have passed : overall = true := by
      cases overall with
      | true => rfl
      | false => cases is_code
    rw [passed, eq_comm, Bool.and_eq_true, Bool.and_eq_true] at is_overall
    obtain ⟨⟨first, second⟩, third⟩ := is_overall
    exact ⟨mission, loaded, ran.signed first, ran.replayed second, ran.controlled third⟩

end Zero

section Children

variable {N : Type} [Field N] [LinearOrder N] [FloorRing N] [PyMath N] [PyText N] [Crypto]

/-- The process of a scenario is a run of a command: when it is not ended by the harness, its exit
    code and its output are those of the run, and the run has left its audit file in the default
    directory of its environment. No exception that the command lets through has the code 4. -/
def Child (set : Setting N) (index : Nat) (stateName : String) (mission : Mission N)
    (launcher : Launcher) (host : Host N) (env : Env N) (table : NonceTable)
    (outcome : Except PyExc Nat) (s : ExecState N) : Prop :=
  ∀ returncode stdout stderr,
    (set.process index).communicate = some (returncode, stdout, stderr) →
    launcher.run host env (.init N table) = (outcome, s) ∧ stdout = stdoutText s.trace ∧
      (∃ exitCode, returncode = some exitCode ∧ Exits outcome exitCode ∧
        (exitCode = 4 → ∃ code, outcome = .ok code)) ∧
      ∃ directory cwd, defaultAuditDirectory (isolatedEnv set.env (set.stateHome stateName)) cwd =
          some directory ∧
        AuditFile s.trace (set.disk index (auditFile directory mission.missionId))

variable {set : Setting N} {index : Nat} {stateName : String} {mission : Mission N}
  {launcher : Launcher} {host : Host N} {env : Env N} {table : NonceTable}
  {outcome : Except PyExc Nat} {s : ExecState N}

/-- A check that accepts a process accepts a run: the harness looks at the file that it has left. -/
theorem Child.accepted (child : Child set index stateName mission launcher host env table outcome s)
    (down : GoesDown stateName) {check : Check}
    (accepts : Accepts check (set.process index) (set.audit index stateName mission)) :
    ∃ exitCode file detail, launcher.run host env (.init N table) = (outcome, s) ∧
      Exits outcome exitCode ∧ (exitCode = 4 → ∃ code, outcome = .ok code) ∧
      AuditFile s.trace file ∧ check exitCode (stdoutText s.trace) file = .ok (true, detail) := by
  obtain ⟨returncode, stdout, stderr, detail, in_time, judged⟩ := accepts
  obtain ⟨ran, rfl, ⟨exitCode, rfl, exits, returned⟩, directory, cwd, located, file⟩ :=
    child returncode stdout stderr in_time
  have expected := defaultAuditDirectory_isolated rfl
    (fun part member => (goesDown_keyPath set.keyDir down part member).1) set.env
    set.cwd cwd
  have same : directory = expectedAuditDir (set.stateHome stateName) set.cwd :=
    Option.some.inj (located.symm.trans expected)
  refine ⟨exitCode, set.audit index stateName mission, detail, ran, exits, returned, ?_, judged⟩
  rw [same] at file
  exact file

/-- A run that ends by itself. -/
theorem child_of_run (down : GoesDown stateName) {code : Nat} {stderr : String}
    {file : Option (List UInt8)} (in_time : (set.process index).communicate =
      some (some (code : Int), stdoutText s.trace, stderr))
    (ran : launcher.run host env (.init N table) = (.ok code, s))
    (there : ∀ path, set.disk index path = file) (written : AuditFile s.trace file) :
    Child set index stateName mission launcher host env table (.ok code) s := by
  intro returncode stdout stderr' again
  rw [in_time] at again
  cases again
  have located := defaultAuditDirectory_isolated rfl
    (fun part member => (goesDown_keyPath set.keyDir down part member).1) set.env set.cwd set.cwd
  refine ⟨ran, rfl, ⟨code, rfl, rfl, fun _ => ⟨code, rfl⟩⟩, _, set.cwd, located, ?_⟩
  rw [there]
  exact written

/-- What the three runs were. -/
structure Demonstrated (mission : Mission N) (host host' : Host N) (env env' env'' : Env N)
    (s s' s'' : ExecState N) : Prop where
  /-- The first flew the mission to its end and landed, and its approval was consumed. -/
  flown : FlownToTheEnd mission s.trace ∧ .recoveryStarted ∉ s.trace ∧
    [.returned .land, .confirmed .landing].Sublist s.trace
  consumed : ∃ envelope, loadSignedApproval host = .ok envelope ∧
    s.nonces.rows = [envelope.payload.row env.clock]
  /-- The second ended by the replay of that approval: nothing was consumed, and no system was
      created. -/
  replayed : EndedByReplay host env' s.nonces ∧ s'.nonces = s.nonces ∧
    .systemFactoryCalled ∉ s'.trace
  /-- In the third the injected error failed the mission, and the recovery landed the vehicle. -/
  recovered : ∃ e, ExecutionRaised host' env'' .adapter .empty e ∧ occursIn injectedError e.text ∧
    RecoveryLanded s''.trace

variable {host' : Host N} {env' env'' : Env N} {outcome' outcome'' : Except PyExc Nat}
  {s' s'' : ExecState N} {b : Bundle N}

/-- **A harness that returns 0 has shown all three.** The first two processes have the same files on
    their command line and the same nonce database, which is new; the third has its own. -/
theorem main_demonstrates [LawfulFloatText N] (lowers : Lowers set.lower)
    (back : set.reader.ReadsBack (auditLog s.trace))
    (back'' : set.reader.ReadsBack (auditLog s''.trace)) (loaded : set.loadMission = .ok mission)
    (unsaid : ¬ SaysUsed set.lower mission.description) (given : loadMission host = .ok mission)
    (unambiguous : env.Unambiguous) (unambiguous' : env'.Unambiguous)
    (silent : SqliteSilent set.lower env'.sqlite) (stdout : ∀ t line, env''.stdout t line = none)
    (stderr : ∀ t line, env''.stderr t line = none)
    (first : Child set 0 "state-success" mission .commandLine host env .empty outcome s)
    (second : Child set 1 "state-replay" mission .commandLine host env' s.nonces outcome' s')
    (third : Child set 2 "state-failure" mission .adapter host' env'' .empty outcome'' s'')
    (returned : set.main ⟨[], []⟩ = (.ok 0, b)) :
    Demonstrated mission host host' env env' env'' s s' s'' := by
  obtain ⟨mission', same, accepted⟩ := allAccepted_of_main returned
  rw [loaded] at same
  cases same
  obtain ⟨exitCode, file, detail, ran, exits, -, written, signed⟩ :=
    first.accepted (by decide) accepted.signed
  obtain ⟨rfl, -⟩ := (run_signed unambiguous.stdout ran exits written back).mp ⟨detail, signed⟩
  obtain ⟨flew, given', flown, unrecovered, landed⟩ := run_completed unambiguous.stdout ran
  rw [given] at given'
  cases given'
  obtain ⟨spender, ⟨-, envelope, approval, rows⟩, -⟩ :=
    ((triple_run host unambiguous .empty).returned rfl ran).completed rfl
  obtain ⟨exitCode', file', detail', ran', exits', handled, written', checked⟩ :=
    second.accepted (by decide) accepted.replayed
  have positive := Except.ok.inj checked
  obtain ⟨four, -, -⟩ := replayRejected_true_iff.mp ⟨detail', positive⟩
  obtain ⟨code, rfl⟩ := handled four
  have is_code : exitCode' = code := exits'
  rw [is_code] at positive four
  have is_four : code = 4 := by exact_mod_cast four
  have replay := acceptsOnlyReplays_of_description lowers unsaid host env' s.nonces code s' file'
    detail' given unambiguous' silent ran' written' positive
  obtain ⟨kept, uncreated⟩ := ((triple_run host unambiguous' s.nonces).returned rfl ran').refused
    (by omega) (by omega)
  obtain ⟨exitCode'', file'', detail'', ran'', exits'', -, written'', controlled⟩ :=
    third.accepted (by decide) accepted.controlled
  obtain ⟨e, raised, injected, recovered, -⟩ :=
    run_recovered stdout stderr ran'' exits'' written'' back'' ⟨detail'', controlled⟩
  exact ⟨⟨flown, unrecovered, landed⟩, ⟨envelope, approval, rows⟩,
    ⟨replay, kept, uncreated⟩, e, raised, injected, recovered⟩

end Children

section Sample

attribute [local instance] Crypto.keyless

/-- The events that show a landing by the recovery. -/
def Event.landingMark {N : Type} : Event N → Option Bool
  | .recoveryStarted => some false
  | .confirmed .landing => some true
  | _ => none

theorem landedByRecovery_of_marks {N : Type} {env : Env N} {trace : List (Event N)}
    (quiet : ∀ t, env.interrupt t = none)
    (marks : trace.filterMap Event.landingMark = [false, true]) : LandedByRecovery env trace := by
  obtain ⟨before, started, after, rfl, -, is_started, rest⟩ := List.filterMap_eq_cons_iff.mp marks
  obtain ⟨between, landed, last, rfl, -, is_landed, -⟩ := List.filterMap_eq_cons_iff.mp rest
  have start : started = .recoveryStarted := by
    cases started with
    | recoveryStarted => rfl
    | confirmed wait => cases wait <;> cases is_started
    | _ => cases is_started
  have landing : landed = .confirmed .landing := by
    cases landed with
    | confirmed wait =>
      cases wait with
      | landing => rfl
      | _ => cases is_landed
    | recoveryStarted => cases is_landed
    | _ => cases is_landed
  refine ⟨before ++ started :: between, last, by rw [landing]; simp, ?_, quiet _⟩
  rw [start]
  simp

/-- The record of the end of a mission. -/
def Event.isEnd {N : Type} (completed : Bool) : Event N → Bool
  | .audit record none =>
    match record.event with
    | .missionCompleted => completed
    | .missionFailed _ _ _ => !completed
    | _ => false
  | _ => false

theorem wrote_of_any {N : Type} {trace : List (Event N)} {completed : Bool}
    (found : trace.any (Event.isEnd completed) = true) :
    Wrote trace (if completed then "mission_completed" else "mission_failed") := by
  obtain ⟨event, member, is_end⟩ := List.any_eq_true.mp found
  cases event with
  | audit record failure =>
    obtain ⟨id, event⟩ := record
    cases failure with
    | some e => cases is_end
    | none =>
      cases event with
      | missionCompleted =>
        have same : completed = true := is_end
        rw [same]
        exact ⟨_, member, rfl⟩
      | missionFailed text status errorType =>
        have same : completed = false := by
          cases completed with
          | false => rfl
          | true => cases is_end
        rw [same]
        exact ⟨_, member, rfl⟩
      | _ => cases is_end
  | _ => cases is_end

/-- The first process. -/
theorem run_signedSample :
    ∃ s, Launcher.commandLine.run sampleHost harnessEnv (.init ℚ .empty) = (.ok 0, s) ∧
      s.nonces.rows = spentTable.rows ∧ Wrote s.trace "mission_completed" ∧
      sampleJson.ReadsBack (auditLog s.trace) := by
  have returned : (flownSample .commandLine).1 = simulationResult := by decide +kernel
  have found : (flownSample .commandLine).2.trace.any (Event.isEnd true) = true := by
    decide +kernel
  have flown : flownSample .commandLine = (simulationResult, (flownSample .commandLine).2) :=
    Prod.ext returned rfl
  have ran := run_sample .commandLine
  rw [flown, simulationResult, Launcher.report] at ran
  obtain ⟨mission, ⟨-, envelope, loaded, rows⟩, -⟩ := ((triple_run sampleHost
    (Env.unambiguous_calm _ _) .empty).returned rfl ran).completed rfl
  have same : signApproval () (samplePayload ℚ) = envelope :=
    Except.ok.inj ((loadMaterial_eq_ok loadMaterial_sample).symm.trans loaded)
  rw [← same] at rows
  obtain ⟨record, member, named⟩ := wrote_of_any found
  exact ⟨_, ran, rows, ⟨record, List.mem_append_left _ member, named⟩,
    readsBack_printed (readsBack_sample .commandLine) _⟩

/-- The error of a replay. -/
def replayed : PyExc := ⟨.approvalReplayError, "Approval nonce has already been used."⟩

/-- The second process. -/
theorem run_replayedSample {table : NonceTable} (spent : table.rows = spentTable.rows) :
    ∃ s, Launcher.commandLine.run sampleHost harnessEnv (.init ℚ table) = (.ok 4, s) ∧
      SaysUsed asciiLower (stdoutText s.trace) ∧ AuditFile s.trace none := by
  obtain ⟨decision, evaluated, approved⟩ := approves_sample
  let shown := (ExecState.init ℚ table).printed
    (decisionLines (mavsdkSimulationMission ℚ) decision)
  have refused : table.insert ((samplePayload ℚ).row 1000) = none := by
    have member : ((samplePayload ℚ).row 1000).nonce ∈ table.rows.map NonceRow.nonce := by
      rw [spent]
      exact List.mem_cons_self
    exact dif_neg (not_not_intro member)
  have consumed : verifyAndConsumeApproval .none (signApproval () (samplePayload ℚ)) ()
      (mavsdkSimulationMission ℚ) (.default ℚ) mavsdkExecutorName 1000 maxClockSkewSeconds
      maxLifetimeSeconds shown.nonces = (.error replayed, shown.nonces) := by
    have same : shown.nonces = table := rfl
    rw [same]
    exact replayed_of_verified verifyApproval_sampleHost refused
  have executed := execute_unauthorized (mavsdkExecutor sampleHost () (.default ℚ)) harnessEnv
    (mavsdkSimulationMission ℚ) (signApproval () (samplePayload ℚ)) shown
    (validateMission_sample ()) consumed
  have ran : Launcher.commandLine.run sampleHost harnessEnv (.init ℚ table) =
      (.ok 4, shown.printed ["Execution blocked: " ++ replayed.text]) := by
    rw [run_eq_executing (fun _ _ => rfl) loadMission_sample evaluated approved loadMaterial_sample,
      Launcher.executing, show Launcher.commandLine.environment harnessEnv = harnessEnv from rfl,
      executed]
    rfl
  refine ⟨_, ran, ?_, [], ?_, Or.inr ⟨rfl, rfl⟩⟩
  · rw [saysUsed_stdoutText asciiLower_lowers, stdoutLines_printed]
    refine ⟨_, List.mem_append_right _ List.mem_cons_self, ?_⟩
    exact (saysUsed_blocked asciiLower_lowers _).mpr (Or.inl (by decide))
  · rw [ExecState.printed_append, auditLog_printed]
    exact .nil

/-- The third process. -/
theorem run_injectedSample :
    ∃ s, Launcher.adapter.run sampleHost harnessEnv (.init ℚ .empty) = (.ok 5, s) ∧
      ExecutionRaised sampleHost harnessEnv .adapter .empty injectedFailure ∧
      LandedByRecovery harnessEnv s.trace ∧ Wrote s.trace "mission_failed" ∧
      sampleJson.ReadsBack (auditLog s.trace) := by
  have found : (flownSample .adapter).2.trace.any (Event.isEnd false) = true := by
    decide +kernel
  have marks : (flownSample .adapter).2.trace.filterMap Event.landingMark = [false, true] := by
    decide +kernel
  have uninterrupted : ∀ t, harnessEnv.interrupt t = none := fun _ => rfl
  obtain ⟨past, rest, split, started, quiet⟩ := landedByRecovery_of_marks uninterrupted marks
  obtain ⟨record, member, named⟩ := wrote_of_any found
  refine ⟨_, run_adapterSample, ?_,
    ⟨past, rest ++ [.stdout (Launcher.adapter.verdict injectedFailure).2], ?_, started, quiet⟩,
    ⟨record, List.mem_append_left _ member, named⟩,
    readsBack_printed (readsBack_sample .adapter) _⟩
  · obtain ⟨decision, evaluated, approved⟩ := approves_sample
    exact ⟨_, _, _, decision, _, loadMission_sample, evaluated, approved, loadMaterial_sample,
      (execute_sample .adapter evaluated approved).trans flownSample_adapter⟩
  · rw [ExecState.printed, split]
    simp

/-- A machine on which the three processes are those. -/
def sampleSetting (process : Nat → Process) (disk : Nat → Disk) : Setting ℚ where
  timestamp := "20260101T000000Z"
  root := "/root"
  executable := "python"
  missionPath := "/root/missions/mavsdk_simulation_mission.json"
  missionBytes := []
  loadMission := .ok (mavsdkSimulationMission ℚ)
  adapterPath := "/root/scripts/acceptance_failure_adapter.py"
  keyDir := PosixPath.nested "tmp" 1 (by decide)
  privateKey := ()
  homePath := "home_snapshot.json"
  homeFile := some []
  readHome _ := .ok (sampleSnapshot ℚ)
  clock _ := 1000
  env := ⟨"/home/pilot", by decide, none, fun _ => none⟩
  cwd := PosixPath.nested "root" 1 (by decide)
  process := process
  disk := disk
  restartCommand := none
  restarted := (0, "", "")
  gitOutput := none
  pipOutput _ := none
  pythonVersion := "3"
  platform := "Linux"
  reader := sampleJson
  lower := asciiLower

/-- An approval of the sample can be issued with any nonce of a good length. -/
theorem issueApproval_sample (process : Nat → Process) (disk : Nat → Disk) {nonce : String}
    (length : 32 ≤ nonce.length ∧ nonce.length ≤ 128) (index : Nat) :
    ∃ envelope, (sampleSetting process disk).issueApproval nonce (sampleSnapshot ℚ) index =
      .ok envelope := by
  have executor : 1 ≤ "mavsdk".length ∧ "mavsdk".length ≤ 64 := by decide
  obtain ⟨payload, -, -, issued⟩ := issueApproval?_returns () hashable_sample.scales writable_sample
    executor rfl length (by decide) (by decide) 0 ""
  exact ⟨_, (issueApproval_of_loaded rfl).trans issued⟩

/-- Three processes that end by themselves. -/
def sampleProcess (code code' code'' : Int) (stdout stdout' stdout'' : String) : Nat → Process
  | 0 => ⟨some (some code, stdout, ""), none, ("", "")⟩
  | 1 => ⟨some (some code', stdout', ""), none, ("", "")⟩
  | _ => ⟨some (some code'', stdout'', ""), none, ("", "")⟩

/-- The files that they leave. -/
def sampleDisk (file file' file'' : Option (List UInt8)) : Nat → Disk
  | 0 => fun _ => file
  | 1 => fun _ => file'
  | _ => fun _ => file''

/-- The setting of the sample, and its three processes. -/
structure SampleRuns (set : Setting ℚ) (s s' s'' : ExecState ℚ) : Prop where
  lowers : Lowers set.lower
  reads : set.reader.ReadsBack (auditLog s.trace)
  reads'' : set.reader.ReadsBack (auditLog s''.trace)
  prepared : Prepared set (mavsdkSimulationMission ℚ)
  accepted : AllAccepted set (mavsdkSimulationMission ℚ)
  first : Child set 0 "state-success" (mavsdkSimulationMission ℚ) .commandLine sampleHost harnessEnv
    .empty (.ok 0) s
  second : Child set 1 "state-replay" (mavsdkSimulationMission ℚ) .commandLine sampleHost harnessEnv
    s.nonces (.ok 4) s'
  third : Child set 2 "state-failure" (mavsdkSimulationMission ℚ) .adapter sampleHost harnessEnv
    .empty (.ok 5) s''

theorem exists_sampleRuns : ∃ set s s' s'', SampleRuns set s s' s'' := by
  obtain ⟨s, ran, spent, wrote, back⟩ := run_signedSample
  obtain ⟨s', ran', said, unwritten⟩ := run_replayedSample spent
  obtain ⟨s'', ran'', raised, landed, wrote', back''⟩ := run_injectedSample
  obtain ⟨file, written⟩ := exists_auditFile s.trace
  obtain ⟨file'', written''⟩ := exists_auditFile s''.trace
  let set := sampleSetting
    (sampleProcess 0 4 5 (stdoutText s.trace) (stdoutText s'.trace) (stdoutText s''.trace))
    (sampleDisk file none file'')
  have length (c : Char) : 32 ≤ (String.ofList (List.replicate 32 c)).length ∧
      (String.ofList (List.replicate 32 c)).length ≤ 128 := by
    simp
  obtain ⟨first, issued⟩ := issueApproval_sample set.process set.disk (length 's') 0
  obtain ⟨second, issued'⟩ := issueApproval_sample set.process set.disk (length 'f') 2
  obtain ⟨detail, signed⟩ := (run_signed (fun _ _ => rfl) ran rfl written back).mpr ⟨rfl, wrote⟩
  obtain ⟨detail', replayed⟩ := replayRejected_true_iff.mpr ⟨(rfl : (4 : Int) = 4), said, rfl⟩
  obtain ⟨detail'', controlled⟩ := run_accepts (fun _ _ => rfl) (fun _ _ => rfl) ran'' rfl written''
    back'' raised landed wrote'
  exact ⟨set, s, s', s'',
    { lowers := asciiLower_lowers
      reads := back
      reads'' := back''
      prepared := ⟨rfl, [], sampleSnapshot ℚ, first, second, rfl, rfl, issued, issued'⟩
      accepted := ⟨⟨some 0, _, _, detail, rfl, signed⟩,
        ⟨some 4, _, _, detail', rfl, congrArg Except.ok replayed⟩,
        ⟨some 5, _, _, detail'', rfl, controlled⟩⟩
      first := child_of_run (by decide) rfl ran (fun _ => rfl) written
      second := child_of_run (by decide) rfl ran' (fun _ => rfl) unwritten
      third := child_of_run (by decide) rfl ran'' (fun _ => rfl) written'' }⟩

/-- The harness accepts the three processes of the sample, which were what it says. -/
theorem main_demonstrates_sample :
    ∃ (set : Setting ℚ) (b : Bundle ℚ) (s s' s'' : ExecState ℚ),
      set.main ⟨[], []⟩ = (.ok 0, b) ∧
      Demonstrated (mavsdkSimulationMission ℚ) sampleHost sampleHost harnessEnv harnessEnv
        harnessEnv s s' s'' := by
  obtain ⟨set, s, s', s'', runs⟩ := exists_sampleRuns
  have returned : set.main ⟨[], []⟩ = (.ok 0, (set.main ⟨[], []⟩).2) :=
    run_eq (ends_main runs.prepared runs.accepted ⟨[], []⟩)
  have unsaid : ¬ SaysUsed set.lower (mavsdkSimulationMission ℚ).description :=
    not_saysUsed_of_letter (c := 'y') runs.lowers (by decide) (by decide) (by decide)
      (List.all_iff_forall_prop.mp rfl)
  have silent : SqliteSilent set.lower harnessEnv.sqlite := by
    intro e raised
    rcases raised with h | h | h | h <;> cases h
  exact ⟨set, _, s, s', s'', returned, main_demonstrates runs.lowers runs.reads runs.reads''
    runs.prepared.loaded unsaid loadMission_sample (Env.unambiguous_calm _ _)
    (Env.unambiguous_calm _ _) silent (fun _ _ => rfl) (fun _ _ => rfl) runs.first runs.second
    runs.third returned⟩

/-- Its bundle says so. -/
theorem main_evidence_sample :
    ∃ (set : Setting ℚ) (b : Bundle ℚ) (mission : Mission ℚ) (success replay failure : Scenario),
      set.main ⟨[], []⟩ = (.ok 0, b) ∧ Concluded set mission 0 b success replay failure := by
  obtain ⟨set, s, s', s'', runs⟩ := exists_sampleRuns
  have returned : set.main ⟨[], []⟩ = (.ok 0, (set.main ⟨[], []⟩).2) :=
    run_eq (ends_main runs.prepared runs.accepted ⟨[], []⟩)
  rcases main_evidence returned with ⟨zero, -⟩ | ⟨mission, success, replay, failure, -, concluded⟩
  · cases zero
  · exact ⟨set, _, mission, success, replay, failure, returned, concluded⟩

end Sample

end AcceptanceHarness

end Nightjar
