import Nightjar.AcceptanceChecks.Proofs.Records
import Nightjar.AcceptanceChecks.Proofs.Replay
import Nightjar.Cli.Proofs.ExitCodes
import Nightjar.Flight.Proofs.Failure

/-!
# The flight checks and the flights

What the checks of a signed mission and of a controlled failure accept is what happened in the run
that left the exit code, the output and the audit file: of the command line and of the failure
adapter, whatever the vehicle does and whichever records are lost.
-/

namespace Nightjar

open Interact Prog Exec Python Cli AcceptanceChecks

section Written

variable {N : Type} {trace : List (Event N)}

theorem mem_auditLog {record : AuditRecord N} :
    record ∈ auditLog trace ↔ Event.audit record none ∈ trace := by
  rw [auditLog, List.mem_filterMap]
  constructor
  · rintro ⟨event, member, wrote⟩
    cases event with
    | audit filed failure =>
      cases failure with
      | none =>
        cases wrote
        exact member
      | some e => cases wrote
    | _ => cases wrote
  · exact fun member => ⟨_, member, rfl⟩

/-- A record of the event was written. -/
def Wrote (trace : List (Event N)) (event : String) : Prop :=
  ∃ record, .audit record none ∈ trace ∧ record.event.name = event

/-- Only a failed mission is recorded under that name. -/
theorem AuditEvent.eq_missionFailed {event : AuditEvent N} (named : event.name = "mission_failed") :
    ∃ text status errorType, event = .missionFailed text status errorType := by
  cases event with
  | missionFailed text status errorType => exact ⟨text, status, errorType, rfl⟩
  | homeCheck phase => cases phase <;> simp [AuditEvent.name] at named
  | _ => simp [AuditEvent.name] at named

variable [Field N] [LinearOrder N] [FloorRing N] {values : List (Loaded N)}

/-- A record that was written is read, and what is read was written. -/
theorem wrote_iff (read : List.Forall₂ ReadAs (auditLog trace) values) (event : String) :
    Wrote trace event ↔ ∃ value ∈ values, HasEvent event value = true := by
  constructor
  · rintro ⟨record, member, named⟩
    obtain ⟨value, among, same⟩ := exists_right_of_mem read (mem_auditLog.mpr member)
    exact ⟨value, among, (same.hasEvent_iff event).mpr named⟩
  · rintro ⟨value, member, has⟩
    obtain ⟨record, among, same⟩ := exists_left_of_mem read member
    exact ⟨record, mem_auditLog.mp among, (same.hasEvent_iff event).mp has⟩

end Written

section Statement

variable {N : Type} [Field N] [LinearOrder N] [FloorRing N] [PyMath N] [PyText N] [Crypto]

/-- The execution of a command raised an exception: the one that failed the mission. -/
def ExecutionRaised (host : Host N) (env : Env N) (launcher : Launcher) (table : NonceTable)
    (e : PyExc) : Prop :=
  ∃ mission envelope publicKey decision s, loadMission host = .ok mission ∧
    PolicyEngine.evaluate (.default N) mission = .ok decision ∧ decision.approved = true ∧
    loadMaterial host = .ok (envelope, publicKey) ∧
    (mavsdkExecutor host publicKey (.default N)).execute (launcher.environment env) mission envelope
      ((ExecState.init N table).printed (decisionLines mission decision)) = (.error e, s)

/-- The sleep of a hold raised the injected failure, before any recovery. -/
def InjectedInHold (env : Env N) (trace : List (Event N)) : Prop :=
  ∃ past rest durationSeconds, trace = past ++ .issued (.sleep durationSeconds) :: rest ∧
    .recoveryStarted ∉ past ∧
    (AcceptanceFailureAdapter.failingSleep env).command (past ++ [.issued (.sleep durationSeconds)])
      (.sleep durationSeconds) = some injectedFailure

/-- The exit code of a process: what `main` returned. An exception that `main` lets through ends
    the interpreter otherwise, neither with success nor with the code of a failed execution. -/
def Exits (outcome : Except PyExc Nat) (exitCode : Int) : Prop :=
  match outcome with
  | .ok code => exitCode = code
  | .error _ => exitCode ≠ 0 ∧ exitCode ≠ 5

/-- What the two checks say of a run. -/
structure ChecksSound (host : Host N) (env : Env N) (launcher : Launcher) (table : NonceTable)
    (reader : Reader N) (outcome : Except PyExc Nat) (s : ExecState N) (exitCode : Int)
    (file : Option (List UInt8)) : Prop where
  /-- The first accepts the runs that returned 0 and wrote the completion. -/
  signed : (∃ detail, signedMissionPassed reader exitCode (stdoutText s.trace) file =
      .ok (true, detail)) ↔ outcome = .ok 0 ∧ Wrote s.trace "mission_completed"
  /-- In these every action completed, without a recovery, and the landing was waited for. -/
  completed : (∃ detail, signedMissionPassed reader exitCode (stdoutText s.trace) file =
      .ok (true, detail)) → ∃ mission, loadMission host = .ok mission ∧
        FlownToTheEnd mission s.trace ∧ .recoveryStarted ∉ s.trace ∧
        [.returned .land, .confirmed .landing].Sublist s.trace
  /-- In what the second accepts, the exception that failed the mission has the injected text, and
      the recovery landed the vehicle without an error. -/
  recovered : (∃ detail, controlledFailureRecovered reader exitCode (stdoutText s.trace) file =
      .ok (true, detail)) → ∃ e, ExecutionRaised host env launcher table e ∧
        occursIn injectedError e.text ∧ RecoveryLanded s.trace ∧
        ∃ record, .audit record none ∈ s.trace ∧
          record.event = .missionFailed e.text .landingConfirmed none
  /-- The failure that the adapter injects fails the mission. -/
  injected : launcher = .adapter → (∃ code, outcome = .ok code) → InjectedInHold env s.trace →
    ExecutionRaised host env launcher table injectedFailure
  /-- The second accepts the runs that fail with it, recover by landing and write the failure. -/
  accepts : ExecutionRaised host env launcher table injectedFailure →
    LandedByRecovery env s.trace → Wrote s.trace "mission_failed" →
    ∃ detail, controlledFailureRecovered reader exitCode (stdoutText s.trace) file =
      .ok (true, detail)

end Statement

section Flights

variable {N : Type} [Field N] [LinearOrder N] [FloorRing N] [PyMath N] [PyText N] [Crypto]
  {host : Host N} {env : Env N} {launcher : Launcher} {table : NonceTable}

omit [Field N] [LinearOrder N] [FloorRing N] [PyMath N] [PyText N] [Crypto] in
/-- Printed lines are no part of a flight. -/
theorem later_of_printed {lines : List String} :
    ∀ event ∈ lines.map (Event.stdout (N := N)), event.Later := by
  intro event member
  obtain ⟨line, -, rfl⟩ := List.mem_map.mp member
  exact Event.Aside.later trivial

omit [Field N] [LinearOrder N] [FloorRing N] [PyMath N] [PyText N] [Crypto] in
/-- A command that has printed its decision has not flown. -/
theorem inFlight_printed (lines : List String) :
    InFlight (launcher.environment env) ((ExecState.init N table).printed lines).trace := by
  have start : InFlight (launcher.environment env) [] :=
    ⟨fun past rest c split => by simp at split, fun event member => nomatch member⟩
  exact start.append fun event member => (later_of_printed event member).1.1

omit [Field N] [LinearOrder N] [FloorRing N] [PyMath N] [PyText N] [Crypto] in
theorem stderr_environment (env : Env N) (launcher : Launcher) :
    (launcher.environment env).stderr = env.stderr := by
  cases launcher <;> rfl

omit [Field N] [LinearOrder N] [FloorRing N] [PyMath N] [PyText N] [Crypto] in
theorem landedByRecovery_environment {trace : List (Event N)} :
    LandedByRecovery (launcher.environment env) trace ↔ LandedByRecovery env trace := by
  cases launcher <;> rfl

/-- The course of a command whose execution raised. -/
theorem raised_of_executionRaised {outcome : Except PyExc Nat} {s : ExecState N} {e : PyExc}
    (prints : ∀ t line, env.stdout t line = none)
    (ran : launcher.run host env (.init N table) = (outcome, s))
    (raised : ExecutionRaised host env launcher table e) (ordinary : e.cls.isException = true) :
    outcome = .ok (launcher.verdict e).1 ∧ ∃ mission envelope publicKey decision s',
      s = s'.printed [(launcher.verdict e).2] ∧
      (mavsdkExecutor host publicKey (.default N)).execute (launcher.environment env) mission
        envelope ((ExecState.init N table).printed (decisionLines mission decision)) =
          (.error e, s') := by
  obtain ⟨mission, envelope, publicKey, decision, s', loaded, evaluated, approved, material,
    executed⟩ := raised
  rw [run_eq_executing prints loaded evaluated approved material, Launcher.executing, executed,
    Launcher.report, if_pos ordinary] at ran
  cases ran
  exact ⟨rfl, mission, envelope, publicKey, decision, s', rfl, executed⟩

/-- A command whose execution raised has a faithful trace. -/
theorem reported_of_raised {s : ExecState N} {e : PyExc} {mission : Mission N}
    {envelope : SignedApproval} {publicKey : Crypto.PublicKey} {decision : PolicyDecision}
    (line : String) (prints : ∀ t line, env.stderr t line = none)
    (executed : (mavsdkExecutor host publicKey (.default N)).execute (launcher.environment env)
      mission envelope ((ExecState.init N table).printed (decisionLines mission decision)) =
        (.error e, s)) (ordinary : e.cls.isException = true) :
    Reported (launcher.environment env) e (s.printed [line]).trace := by
  have course := (triple_execute _ _ mission envelope _).raised rfl executed
  have reported := course.reported (by rwa [stderr_environment]) ordinary (inFlight_printed _)
  exact reported.append later_of_printed

/-- A command whose execution returned has flown the mission to its end. -/
theorem flown_of_returned {s : ExecState N} {mission : Mission N} {envelope : SignedApproval}
    {publicKey : Crypto.PublicKey} {decision : PolicyDecision} {result : ExecutionResult}
    (lines : List String)
    (executed : (mavsdkExecutor host publicKey (.default N)).execute (launcher.environment env)
      mission envelope ((ExecState.init N table).printed (decisionLines mission decision)) =
        (.ok result, s)) :
    InFlight (launcher.environment env) (s.printed lines).trace ∧
      FlownToTheEnd mission (s.printed lines).trace ∧
      [.returned .land, .confirmed .landing].Sublist (s.printed lines).trace := by
  have course := (triple_execute _ _ mission envelope _).returned rfl executed
  have before : InFlight (launcher.environment env)
      ((ExecState.init N table).printed (decisionLines mission decision)).trace :=
    inFlight_printed _
  have flight := course.inFlight before
  have quiet : Event.recoveryStarted ∉
      ((ExecState.init N table).printed (decisionLines mission decision)).trace :=
    fun member => before.unfailed _ member
  obtain ⟨-, flown⟩ := course.returned quiet
  have whole : FlownToTheEnd mission (s.printed lines).trace :=
    flown.trans (beforeRecovery_isPrefix _ _).sublist
  refine ⟨flight.append fun event member => (later_of_printed event member).1.1, whole, ?_⟩
  obtain ⟨altitude, holds, plan, -⟩ := plan_of_validateMission course.validated
  have landing : [Event.returned .land, .confirmed .landing].Sublist
      (mission.actions.flatMap MissionAction.completion) := by
    rw [plan, List.flatMap_cons, List.flatMap_append, List.flatMap_singleton]
    exact (List.sublist_append_right _ _).trans (List.sublist_append_right _ _)
  exact landing.trans (whole.trans (List.takeWhile_sublist _))

variable {reader : Reader N} {outcome : Except PyExc Nat} {s : ExecState N} {exitCode : Int}
  {file : Option (List UInt8)}

omit [Field N] [LinearOrder N] [FloorRing N] [PyMath N] [PyText N] [Crypto] in
/-- The success line of a command that returned. -/
theorem success_shown (result : ExecutionResult) (s : ExecState N) :
    occursIn "MAVSDK simulation complete" (stdoutText (s.printed (successLines result)).trace) := by
  rw [occursIn_stdoutText (by decide) (by decide), stdoutLines_printed]
  refine ⟨"MAVSDK simulation complete. Audit log: " ++ result.logPath, by simp [successLines], ?_⟩
  rw [occursIn, String.toList_append]
  have starts : "MAVSDK simulation complete".toList <:+:
      "MAVSDK simulation complete. Audit log: ".toList := by decide
  exact starts.trans (List.prefix_append _ _).isInfix

omit [Field N] [LinearOrder N] [FloorRing N] [PyMath N] [PyText N] [Crypto] in
/-- The line of an execution that failed with the injected error. -/
theorem injected_shown (s : ExecState N) :
    occursIn injectedError
      (stdoutText (s.printed [(launcher.verdict injectedFailure).2]).trace) := by
  rw [occursIn_stdoutText (by decide) (by decide), stdoutLines_printed]
  refine ⟨_, List.mem_append_right _ List.mem_cons_self, ?_⟩
  cases launcher <;> decide

variable [LawfulFloatText N]

/-- What the check of a signed mission accepts. -/
theorem run_signed (stdout : ∀ t line, env.stdout t line = none)
    (ran : launcher.run host env (.init N table) = (outcome, s)) (exits : Exits outcome exitCode)
    (written : AuditFile s.trace file) (back : reader.ReadsBack (auditLog s.trace)) :
    (∃ detail, signedMissionPassed reader exitCode (stdoutText s.trace) file =
      .ok (true, detail)) ↔ outcome = .ok 0 ∧ Wrote s.trace "mission_completed" := by
  obtain ⟨values, read, found⟩ := contents_of_auditFile back written
  have objects : ∀ value ∈ values, value.isObject = true := fun value member => by
    obtain ⟨record, -, same⟩ := exists_left_of_mem read member
    exact same.isObject
  rw [signed_true_iff found objects, wrote_iff read]
  constructor
  · rintro ⟨rfl, -, completed⟩
    cases outcome with
    | error e => exact absurd rfl exits.1
    | ok code =>
      have zero : code = 0 := by exact_mod_cast exits.symm
      exact ⟨by rw [zero], completed⟩
  · rintro ⟨rfl, completed⟩
    refine ⟨exits, ?_, completed⟩
    have course := course_of_run stdout ran
    generalize zero : 0 = code at course
    cases course with
    | unexecuted code lines some_code => omega
    | raised mission envelope publicKey decision e =>
      unfold Launcher.verdict at zero
      split_ifs at zero
    | returned mission envelope publicKey decision result => exact success_shown result _

omit [LawfulFloatText N] in
/-- A mission that the check of a signed mission accepts was flown to its end. -/
theorem run_completed (stdout : ∀ t line, env.stdout t line = none)
    (ran : launcher.run host env (.init N table) = (.ok 0, s)) :
    ∃ mission, loadMission host = .ok mission ∧ FlownToTheEnd mission s.trace ∧
      .recoveryStarted ∉ s.trace ∧ [.returned .land, .confirmed .landing].Sublist s.trace := by
  have course := course_of_run stdout ran
  generalize zero : 0 = code at course
  cases course with
  | unexecuted code lines some_code => omega
  | raised mission envelope publicKey decision e =>
    unfold Launcher.verdict at zero
    split_ifs at zero
  | returned mission envelope publicKey decision result s' loaded _ _ _ executed =>
    obtain ⟨flight, flown, landed⟩ := flown_of_returned (successLines result) executed
    exact ⟨mission, loaded, flown, fun started => flight.unfailed _ started, landed⟩

omit [PyMath N] [PyText N] [Crypto] [LawfulFloatText N] in
/-- The record that decides the check of a controlled failure. -/
theorem failed_of_last {values : List (Loaded N)} {value : Loaded N}
    (read : List.Forall₂ ReadAs (auditLog s.trace) values)
    (last : (values.filter (HasEvent "mission_failed")).getLast? = some value) :
    ∃ record text status errorType, .audit record none ∈ s.trace ∧ ReadAs record value ∧
      record.event = .missionFailed text status errorType := by
  obtain ⟨member, has⟩ := List.mem_filter.mp (List.mem_of_getLast? last)
  obtain ⟨record, among, same⟩ := exists_left_of_mem read member
  obtain ⟨text, status, errorType, event⟩ :=
    AuditEvent.eq_missionFailed ((same.hasEvent_iff _).mp has)
  exact ⟨record, text, status, errorType, mem_auditLog.mp among, same, event⟩

/-- What the check of a controlled failure accepts was recovered. -/
theorem run_recovered (stdout : ∀ t line, env.stdout t line = none)
    (stderr : ∀ t line, env.stderr t line = none)
    (ran : launcher.run host env (.init N table) = (outcome, s)) (exits : Exits outcome exitCode)
    (written : AuditFile s.trace file) (back : reader.ReadsBack (auditLog s.trace))
    (accepted : ∃ detail, controlledFailureRecovered reader exitCode (stdoutText s.trace) file =
      .ok (true, detail)) :
    ∃ e, ExecutionRaised host env launcher table e ∧ occursIn injectedError e.text ∧
      RecoveryLanded s.trace ∧ ∃ record, .audit record none ∈ s.trace ∧
        record.event = .missionFailed e.text .landingConfirmed none := by
  obtain ⟨values, read, found⟩ := contents_of_auditFile back written
  have objects : ∀ value ∈ values, value.isObject = true := fun value member => by
    obtain ⟨record, -, same⟩ := exists_left_of_mem read member
    exact same.isObject
  obtain ⟨five, -, value, last, recovered⟩ := (controlled_true_iff found objects).mp accepted
  obtain ⟨record, text, status, errorType, member, same, event⟩ := failed_of_last read last
  obtain ⟨rfl, rfl, injected⟩ := (same.recovered_iff event).mp recovered
  cases outcome with
  | error e => exact absurd five exits.2
  | ok code =>
    have five : code = 5 := by exact_mod_cast exits.symm.trans five
    have course := course_of_run stdout ran
    cases course with
    | unexecuted code lines some_code low => omega
    | returned => cases five
    | raised mission envelope publicKey decision e s' loaded evaluated approved material executed
        ordinary =>
      have reported := reported_of_raised (launcher.verdict e).2 stderr executed ordinary
      obtain ⟨rfl, -, landed⟩ := reported.record record none _ _ _ member event
      exact ⟨e, ⟨mission, envelope, publicKey, decision, s', loaded, evaluated, approved, material,
        executed⟩, injected, (landed rfl).2, record, member, event⟩

omit [LawfulFloatText N] in
/-- The failure that the adapter injects in a hold is the one that fails the mission. -/
theorem run_injected (stdout : ∀ t line, env.stdout t line = none)
    (stderr : ∀ t line, env.stderr t line = none) {code : Nat}
    (ran : Launcher.adapter.run host env (.init N table) = (.ok code, s))
    (injected : InjectedInHold env s.trace) :
    ExecutionRaised host env .adapter table injectedFailure := by
  obtain ⟨past, rest, duration, split, before, raised⟩ := injected
  have course := course_of_run stdout ran
  cases course with
  | unexecuted code lines =>
    have member : Event.issued (Command.sleep duration) ∈
        ((ExecState.init N table).printed lines).trace := by
      rw [split]
      simp
    exact (later_of_printed _ member).1.1.elim
  | returned mission envelope publicKey decision result s' _ _ _ _ executed =>
    have flight := (flown_of_returned (successLines result) executed).1
    have none := flight.returned past rest _ split
    rw [Launcher.environment, raised] at none
    cases none
  | raised mission envelope publicKey decision e s' loaded evaluated approved material executed
      ordinary =>
    have reported := reported_of_raised (Launcher.adapter.verdict e).2 stderr executed ordinary
    have same : injectedFailure = e := reported.flight past rest _ _ split before raised
    rw [same]
    exact ⟨mission, envelope, publicKey, decision, s', loaded, evaluated, approved, material,
      executed⟩

/-- A run that fails with the injected failure, recovers by landing and writes the failure is
    accepted. -/
theorem run_accepts (stdout : ∀ t line, env.stdout t line = none)
    (stderr : ∀ t line, env.stderr t line = none)
    (ran : launcher.run host env (.init N table) = (outcome, s)) (exits : Exits outcome exitCode)
    (written : AuditFile s.trace file) (back : reader.ReadsBack (auditLog s.trace))
    (raised : ExecutionRaised host env launcher table injectedFailure)
    (landed : LandedByRecovery env s.trace) (wrote : Wrote s.trace "mission_failed") :
    ∃ detail, controlledFailureRecovered reader exitCode (stdoutText s.trace) file =
      .ok (true, detail) := by
  obtain ⟨values, read, found⟩ := contents_of_auditFile back written
  have objects : ∀ value ∈ values, value.isObject = true := fun value member => by
    obtain ⟨record, -, same⟩ := exists_left_of_mem read member
    exact same.isObject
  obtain ⟨rfl, mission, envelope, publicKey, decision, s', rfl, executed⟩ :=
    raised_of_executionRaised stdout ran raised rfl
  have five : (launcher.verdict injectedFailure).1 = 5 := by cases launcher <;> rfl
  rw [controlled_true_iff found objects]
  refine ⟨exits.trans (by rw [five]; rfl), injected_shown _, ?_⟩
  obtain ⟨value, member, has⟩ := (wrote_iff read _).mp wrote
  have some : values.filter (HasEvent "mission_failed") ≠ [] :=
    List.ne_nil_of_mem (List.mem_filter.mpr ⟨member, has⟩)
  obtain ⟨last, is_last⟩ := Option.isSome_iff_exists.mp (List.getLast?_isSome.mpr some)
  refine ⟨last, is_last, ?_⟩
  obtain ⟨record, text, status, errorType, among, same, event⟩ := failed_of_last read is_last
  have reported := reported_of_raised (launcher.verdict injectedFailure).2 stderr executed rfl
  obtain ⟨rfl, landing, confirmed⟩ := reported.record record none _ _ _ among event
  have status_eq := landing (landedByRecovery_environment.mpr landed)
  exact (same.recovered_iff event).mpr
    ⟨status_eq, (confirmed status_eq).1, List.infix_rfl⟩

/-- **The flight checks are sound and complete** for every run of the two commands: on its exit
    code, its output and the audit file that it leaves. -/
theorem run_checksSound (stdout : ∀ t line, env.stdout t line = none)
    (stderr : ∀ t line, env.stderr t line = none)
    (ran : launcher.run host env (.init N table) = (outcome, s)) (exits : Exits outcome exitCode)
    (written : AuditFile s.trace file) (back : reader.ReadsBack (auditLog s.trace)) :
    ChecksSound host env launcher table reader outcome s exitCode file where
  signed := run_signed stdout ran exits written back
  completed passed := by
    obtain ⟨rfl, -⟩ := (run_signed stdout ran exits written back).mp passed
    exact run_completed stdout ran
  recovered := run_recovered stdout stderr ran exits written back
  injected adapter returned hold := by
    subst adapter
    obtain ⟨code, rfl⟩ := returned
    exact run_injected stdout stderr ran hold
  accepts := run_accepts stdout stderr ran exits written back

end Flights

section Sample

attribute [local instance] Crypto.keyless

/-- The environment of the sample. -/
def harnessEnv : Env ℚ := .calm (sampleTelemetry ℚ [.exactFalse]) 1000

/-- The row of the sample's approval. -/
def spentTable : NonceTable := ⟨[(samplePayload ℚ).row 1000], List.nodup_singleton _⟩

/-- The state of the sample when its mission is executed. -/
def shownSample : ExecState ℚ :=
  (ExecState.init ℚ .empty).printed
    ["Mission: " ++ (mavsdkSimulationMission ℚ).missionId.text,
      "Description: " ++ (mavsdkSimulationMission ℚ).description, "Policy decision: APPROVED"]

/-- The execution of the sample under a command. -/
noncomputable def flownSample (launcher : Launcher) : Except PyExc ExecutionResult × ExecState ℚ :=
  (mavsdkExecutor sampleHost () (.default ℚ)).execute' (launcher.environment harnessEnv)
    (mavsdkSimulationMission ℚ) (signApproval () (samplePayload ℚ))
    (shownSample.authorized (samplePayload ℚ) spentTable)

theorem execute_sample (launcher : Launcher) {decision : PolicyDecision}
    (evaluated : PolicyEngine.evaluate (.default ℚ) (mavsdkSimulationMission ℚ) = .ok decision)
    (approved : decision.approved = true) :
    (mavsdkExecutor sampleHost () (.default ℚ)).execute (launcher.environment harnessEnv)
      (mavsdkSimulationMission ℚ) (signApproval () (samplePayload ℚ))
      ((ExecState.init ℚ .empty).printed (decisionLines (mavsdkSimulationMission ℚ) decision)) =
        flownSample launcher := by
  have shown : (ExecState.init ℚ .empty).printed
      (decisionLines (mavsdkSimulationMission ℚ) decision) = shownSample := by
    rw [decisionLines_approved evaluated approved]
    rfl
  have inserted : shownSample.nonces.insert ((samplePayload ℚ).row 1000) = some spentTable := rfl
  have consumed := returned_of_verified verifyApproval_sampleHost inserted
  have flown : flownSample launcher = ((flownSample launcher).1, (flownSample launcher).2) := rfl
  rw [shown]
  exact execute_returns (mavsdkExecutor sampleHost () (.default ℚ))
    (launcher.environment harnessEnv) (mavsdkSimulationMission ℚ)
    (signApproval () (samplePayload ℚ)) shownSample (validateMission_sample ())
    (by cases launcher <;> exact consumed) flown (by cases launcher <;> rfl)

theorem run_sample (launcher : Launcher) :
    launcher.run sampleHost harnessEnv (.init ℚ .empty) =
      launcher.report (flownSample launcher) := by
  obtain ⟨decision, evaluated, approved⟩ := approves_sample
  rw [run_eq_executing (fun _ _ => rfl) loadMission_sample evaluated approved loadMaterial_sample,
    Launcher.executing, execute_sample launcher evaluated approved]

/-- What is printed later is no record. -/
theorem readsBack_printed {N : Type} [Field N] [LinearOrder N] [FloorRing N] [PyMath N] [PyText N]
    {reader : Reader N} {s : ExecState N} (back : reader.ReadsBack (auditLog s.trace))
    (lines : List String) : reader.ReadsBack (auditLog (s.printed lines).trace) := by
  rw [auditLog_printed]
  exact back

/-- The records of the sample are read back. -/
theorem readsBack_sample (launcher : Launcher) :
    sampleJson.ReadsBack (auditLog (flownSample launcher).2.trace) := by
  have short : (auditLog (flownSample launcher).2.trace).all
      (fun record => record.event.details.shortInts) = true := by
    cases launcher <;> decide +kernel
  exact jsonReader_readsBack sampleFloats_roundTrips (List.all_eq_true.mp short)

/-- Under the adapter the injected failure is raised. -/
theorem flownSample_adapter :
    flownSample .adapter = (.error injectedFailure, (flownSample .adapter).2) :=
  Prod.ext (by decide +kernel) rfl

theorem run_adapterSample :
    Launcher.adapter.run sampleHost harnessEnv (.init ℚ .empty) =
      (.ok 5, (flownSample .adapter).2.printed
        [(Launcher.adapter.verdict injectedFailure).2]) := by
  have ran := run_sample .adapter
  rw [flownSample_adapter, Launcher.report] at ran
  exact ran

/-- The failure adapter on the simulation mission, with a vehicle that is on the ground when its
    landing is waited for. -/
theorem run_checksSound_injected :
    ∃ s file, Launcher.adapter.run sampleHost harnessEnv (.init ℚ .empty) = (.ok 5, s) ∧
      AuditFile s.trace file ∧
      ChecksSound sampleHost harnessEnv .adapter .empty sampleJson (.ok 5) s 5 file := by
  have back := readsBack_printed (readsBack_sample .adapter)
    [(Launcher.adapter.verdict injectedFailure).2]
  obtain ⟨file, written⟩ := exists_auditFile ((flownSample .adapter).2.printed
    [(Launcher.adapter.verdict injectedFailure).2]).trace
  exact ⟨_, file, run_adapterSample, written, run_checksSound (fun _ _ => rfl) (fun _ _ => rfl)
    run_adapterSample (rfl : (5 : Int) = (5 : Nat)) written back⟩

end Sample

end Nightjar
