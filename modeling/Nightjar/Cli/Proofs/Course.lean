import Nightjar.AcceptanceFailureAdapter
import Nightjar.Cli.Proofs.ExitCodes

/-!
# The course of a command

What the two commands that launch a mission do when printing does not fail: the lines they print,
the execution in between, and the exit code. The failure adapter differs from the command line in
the environment of the execution and in the codes it gives to a home that is missing or elsewhere.
-/

namespace Nightjar

open Interact Prog Exec Python Cli

section Printed

variable {N : Type} {env : Env N}

/-- Some lines were printed. -/
def ExecState.printed (s : ExecState N) (lines : List String) : ExecState N :=
  { s with trace := s.trace ++ lines.map .stdout }

@[simp] theorem ExecState.printed_nil (s : ExecState N) : s.printed [] = s := by
  simp [ExecState.printed]

theorem ExecState.printed_append (s : ExecState N) (lines more : List String) :
    (s.printed lines).printed more = s.printed (lines ++ more) := by
  simp [ExecState.printed, List.append_assoc]

theorem printStdout_eq (prints : ∀ t line, env.stdout t line = none) (line : String)
    (s : ExecState N) : printStdout env line s = (.ok (), s.printed [line]) := by
  simp [printStdout, ask, bind, Prog.read, pure, prints, emit, Prog.modify, raiseOption,
    ExecState.printed]

theorem printLines_eq (prints : ∀ t line, env.stdout t line = none) (lines : List String) :
    ∀ s : ExecState N, printLines env lines s = (.ok (), s.printed lines) := by
  induction lines with
  | nil => exact fun s => by rw [ExecState.printed_nil]; rfl
  | cons line lines ih =>
    intro s
    simp only [printLines, bind, printStdout_eq prints, ih, ExecState.printed_append]
    rfl

theorem exitWith_eq (prints : ∀ t line, env.stdout t line = none) (line : String) (code : Nat)
    (s : ExecState N) : exitWith env line code s = (.ok code, s.printed [line]) := by
  simp only [exitWith, bind, printStdout_eq prints]
  rfl

end Printed

section Report

variable {N : Type} {env : Env N}

/-- The two commands that launch a mission. -/
inductive Launcher where
  | commandLine
  | adapter
  deriving DecidableEq, Repr

namespace Launcher

/-- The exit code and the line for an exception of the execution. -/
def verdict (launcher : Launcher) (exc : PyExc) : Nat × String :=
  if isBlocked exc.cls ∨ exc.cls = .unsupportedMavsdkActionError ∨
      exc.cls = .mavsdkPolicyRejectedError then (4, "Execution blocked: " ++ exc.text)
  else if launcher = commandLine ∧ exc.cls = .homeUnavailableError then
    (6, "Home unavailable: " ++ exc.text)
  else if launcher = commandLine ∧ exc.cls = .homeMismatchError then
    (7, "Home mismatch: " ++ exc.text)
  else (5, "Execution failed: " ++ exc.text)

end Launcher

/-- Exit code 4 is that of the refusals. -/
theorem verdict_eq_four_iff (launcher : Launcher) (exc : PyExc) :
    (launcher.verdict exc).1 = 4 ↔ exc.cls.isAuthorization = true := by
  rw [isAuthorization_iff, Launcher.verdict]
  split_ifs with refused unavailable mismatch <;> simp_all

/-- The lines of a successful run. -/
def successLines (result : ExecutionResult) : List String :=
  ["Signed approval verified and consumed.",
    "MAVSDK simulation complete. Audit log: " ++ result.logPath]

/-- The `except` clauses of the command line. -/
theorem mavsdkFailure_eq (prints : ∀ t line, env.stdout t line = none) (exc : PyExc)
    (s : ExecState N) :
    mavsdkFailure env exc s =
      if exc.cls.isException = true then
        (.ok (Launcher.commandLine.verdict exc).1,
          s.printed [(Launcher.commandLine.verdict exc).2])
      else (.error exc, s) := by
  obtain ⟨cls, text⟩ := exc
  unfold mavsdkFailure
  cases cls <;> simp [Launcher.verdict, isBlocked, ExcClass.isSqliteError, ExcClass.isException,
    ExcClass.isMavsdkExecutorError, exitWith_eq prints, raise] <;> rfl

/-- The `except` clauses of the adapter. -/
theorem failure_eq (prints : ∀ t line, env.stdout t line = none) (exc : PyExc)
    (s : ExecState N) :
    AcceptanceFailureAdapter.failure env exc s =
      if exc.cls.isException = true then
        (.ok (Launcher.adapter.verdict exc).1, s.printed [(Launcher.adapter.verdict exc).2])
      else (.error exc, s) := by
  obtain ⟨cls, text⟩ := exc
  unfold AcceptanceFailureAdapter.failure
  cases cls <;> simp [Launcher.verdict, isBlocked, ExcClass.isSqliteError, ExcClass.isException,
    ExcClass.isMavsdkExecutorError, exitWith_eq prints, raise] <;> rfl

/-- What a command does with the outcome of its execution: report the exception, or the success. -/
def Launcher.report (launcher : Launcher) :
    Except PyExc ExecutionResult × ExecState N → Except PyExc Nat × ExecState N
  | (.error e, s) =>
    if e.cls.isException = true then
      (.ok (launcher.verdict e).1, s.printed [(launcher.verdict e).2])
    else (.error e, s)
  | (.ok result, s) => (.ok 0, s.printed (successLines result))

/-- The part that the two commands share: the execution in its `try`, and the lines of success. -/
theorem report_eq {launcher : Launcher} {failure : PyExc → Exec N Nat}
    (prints : ∀ t line, env.stdout t line = none)
    (failure_eq : ∀ exc s, failure exc s =
      if exc.cls.isException = true then
        (.ok (launcher.verdict exc).1, s.printed [(launcher.verdict exc).2])
      else (.error exc, s))
    (execution : Exec N ExecutionResult) (s : ExecState N) :
    (do
      let result ← Prog.handle
        (do
          let result ← execution
          pure (Sum.inl result))
        (fun exc => do
          let code ← failure exc
          pure (Sum.inr code))
      match result with
      | .inr code => pure code
      | .inl result => do
          printStdout env "Signed approval verified and consumed."
          printStdout env s!"MAVSDK simulation complete. Audit log: {result.logPath}"
          pure 0 : Exec N Nat) s = launcher.report (execution s) := by
  cases executed : execution s with
  | mk outcome s' =>
  cases outcome with
  | error e =>
    by_cases ordinary : e.cls.isException = true <;>
      simp [bind, handle, executed, failure_eq, ordinary, pure, Launcher.report]
  | ok result =>
    simp only [bind, handle, executed, pure, printStdout_eq prints, ExecState.printed_append]
    rfl

end Report

section Course

variable {N : Type} [Field N] [LinearOrder N] [FloorRing N] [PyMath N] [PyText N] [Crypto]
  {host : Host N} {env : Env N}

/-- The lines of `print_decision`. -/
def decisionLines (mission : Mission N) (decision : PolicyDecision) : List String :=
  [s!"Mission: {mission.missionId.text}", s!"Description: {mission.description}",
      "Policy decision: " ++ if decision.approved then "APPROVED" else "REJECTED"] ++
    decision.reasons.map fun reason => s!"  - {reason}"

omit [FloorRing N] [Crypto] in
theorem printDecision_eq (prints : ∀ t line, env.stdout t line = none) (mission : Mission N)
    (limits : PolicyLimits N) (s : ExecState N) :
    printDecision env mission limits s =
      match PolicyEngine.evaluate limits mission with
      | .error e => (.error e, s)
      | .ok decision => (.ok decision.approved, s.printed (decisionLines mission decision)) := by
  cases evaluated : PolicyEngine.evaluate limits mission with
  | error e => simp [printDecision, bind, lift, evaluated]
  | ok decision =>
    simp only [printDecision, bind, lift, evaluated, printLines_eq prints]
    rfl

namespace Launcher

/-- The command. -/
def run (host : Host N) (env : Env N) : Launcher → Exec N Nat
  | commandLine => Cli.run host env .mavsdk
  | adapter => AcceptanceFailureAdapter.run host env

/-- The environment of the execution. -/
def environment (env : Env N) : Launcher → Env N
  | commandLine => env
  | adapter => AcceptanceFailureAdapter.failingSleep env

end Launcher

omit [FloorRing N] [Crypto] in
/-- An approval gives no reasons. -/
theorem decisionLines_approved {mission : Mission N} {limits : PolicyLimits N}
    {decision : PolicyDecision} (evaluated : PolicyEngine.evaluate limits mission = .ok decision)
    (approved : decision.approved = true) :
    decisionLines mission decision = ["Mission: " ++ mission.missionId.text,
      "Description: " ++ mission.description, "Policy decision: APPROVED"] := by
  have none : decision.reasons = [] := by
    unfold PolicyEngine.evaluate PolicyEngine.evaluateActions at evaluated
    dsimp only at evaluated
    split at evaluated
    · cases evaluated
    · rename_i texts formatted
      split_ifs at evaluated
      cases evaluated
      rw [List.isEmpty_iff.mp approved] at formatted
      cases formatted
      rfl
  rw [decisionLines, none, approved]
  rfl

/-- How a command goes that returns an exit code: it executes nothing, or its execution raises or
    returns. -/
inductive Course (host : Host N) (env : Env N) (launcher : Launcher) (s₀ : ExecState N) :
    Nat → ExecState N → Prop
  | unexecuted (code : Nat) (lines : List String) (some_code : 1 ≤ code) (low : code ≤ 3) :
      Course host env launcher s₀ code (s₀.printed lines)
  | raised (mission : Mission N) (envelope : SignedApproval) (publicKey : Crypto.PublicKey)
      (decision : PolicyDecision) (e : PyExc) (s : ExecState N)
      (loaded : loadMission host = .ok mission)
      (evaluated : PolicyEngine.evaluate (.default N) mission = .ok decision)
      (approved : decision.approved = true)
      (material : loadMaterial host = .ok (envelope, publicKey))
      (executed : (mavsdkExecutor host publicKey (.default N)).execute (launcher.environment env)
        mission envelope (s₀.printed (decisionLines mission decision)) = (.error e, s))
      (ordinary : e.cls.isException = true) :
      Course host env launcher s₀ (launcher.verdict e).1 (s.printed [(launcher.verdict e).2])
  | returned (mission : Mission N) (envelope : SignedApproval) (publicKey : Crypto.PublicKey)
      (decision : PolicyDecision) (result : ExecutionResult) (s : ExecState N)
      (loaded : loadMission host = .ok mission)
      (evaluated : PolicyEngine.evaluate (.default N) mission = .ok decision)
      (approved : decision.approved = true)
      (material : loadMaterial host = .ok (envelope, publicKey))
      (executed : (mavsdkExecutor host publicKey (.default N)).execute (launcher.environment env)
        mission envelope (s₀.printed (decisionLines mission decision)) = (.ok result, s)) :
      Course host env launcher s₀ 0 (s.printed (successLines result))

/-- The execution of a command, reported. -/
def Launcher.executing (host : Host N) (env : Env N) (launcher : Launcher) (mission : Mission N)
    (envelope : SignedApproval) (publicKey : Crypto.PublicKey) (s : ExecState N) :
    Except PyExc Nat × ExecState N :=
  launcher.report ((mavsdkExecutor host publicKey (.default N)).execute (launcher.environment env)
    mission envelope s)

/-- A command, once the mission is loaded and evaluated. -/
theorem run_eq_of_evaluated {launcher : Launcher} {s₀ : ExecState N} {mission : Mission N}
    {decision : PolicyDecision} (prints : ∀ t line, env.stdout t line = none)
    (loaded : loadMission host = .ok mission)
    (evaluated : PolicyEngine.evaluate (.default N) mission = .ok decision) :
    launcher.run host env s₀ =
      (if decision.approved = false then pure 1
      else
        match loadMaterial host with
        | .error exc =>
          if isMaterialLoadError exc.cls then
            exitWith env s!"Authorization material could not be loaded: {exc.text}" 3
          else Prog.raise exc
        | .ok (envelope, publicKey) =>
          launcher.executing host env mission envelope publicKey : Exec N Nat)
        (s₀.printed (decisionLines mission decision)) := by
  cases launcher with
  | commandLine =>
    simp only [Launcher.run, Cli.run, loaded, bind, printDecision_eq prints, evaluated]
    split
    · rfl
    · cases loadMaterial host with
      | error exc => rfl
      | ok both => exact report_eq prints (mavsdkFailure_eq prints) _ _
  | adapter =>
    simp only [Launcher.run, AcceptanceFailureAdapter.run, loaded, bind, printDecision_eq prints,
      evaluated]
    split
    · rfl
    · cases loadMaterial host with
      | error exc => rfl
      | ok both => exact report_eq prints (failure_eq prints) _ _

/-- A command that comes to its execution. -/
theorem run_eq_executing {launcher : Launcher} {s₀ : ExecState N} {mission : Mission N}
    {envelope : SignedApproval} {publicKey : Crypto.PublicKey} {decision : PolicyDecision}
    (prints : ∀ t line, env.stdout t line = none) (loaded : loadMission host = .ok mission)
    (evaluated : PolicyEngine.evaluate (.default N) mission = .ok decision)
    (approved : decision.approved = true)
    (material : loadMaterial host = .ok (envelope, publicKey)) :
    launcher.run host env s₀ = launcher.executing host env mission envelope publicKey
      (s₀.printed (decisionLines mission decision)) := by
  rw [run_eq_of_evaluated prints loaded evaluated, approved, material]
  rfl

/-- A command that returns an exit code goes in one of the three ways. -/
theorem course_of_run {launcher : Launcher} {s₀ s : ExecState N} {code : Nat}
    (prints : ∀ t line, env.stdout t line = none)
    (returned : launcher.run host env s₀ = (.ok code, s)) :
    Course host env launcher s₀ code s := by
  have unexecuted : ∀ (line : String) (lines : List String) (low : Nat), 1 ≤ low → low ≤ 3 →
      exitWith env line low (s₀.printed lines) = (.ok code, s) →
      Course host env launcher s₀ code s := by
    intro line lines low some_code small exited
    rw [exitWith_eq prints, ExecState.printed_append] at exited
    cases exited
    exact .unexecuted _ _ some_code small
  cases loaded : loadMission host with
  | error exc =>
    have exited : (if isMissionLoadError exc.cls then
        exitWith env s!"Mission could not be loaded: {exc.text}" 2 else Prog.raise exc) s₀ =
          (.ok code, s) := by
      cases launcher <;>
        simpa only [Launcher.run, Cli.run, AcceptanceFailureAdapter.run, loaded] using returned
    split_ifs at exited
    · exact unexecuted _ [] 2 (by omega) (by omega) (by rwa [ExecState.printed_nil])
    · cases exited
  | ok mission =>
    cases evaluated : PolicyEngine.evaluate (.default N) mission with
    | error e =>
      cases launcher <;> simp [Launcher.run, Cli.run, AcceptanceFailureAdapter.run, loaded, bind,
        printDecision_eq prints, evaluated] at returned
    | ok decision =>
      cases approved : decision.approved with
      | false =>
        rw [run_eq_of_evaluated prints loaded evaluated, approved] at returned
        cases returned
        exact .unexecuted 1 _ (by omega) (by omega)
      | true =>
        cases material : loadMaterial host with
        | error exc =>
          rw [run_eq_of_evaluated prints loaded evaluated, approved, material] at returned
          simp only [Bool.true_eq_false, if_false] at returned
          split_ifs at returned
          · exact unexecuted _ _ 3 (by omega) (by omega) returned
          · cases returned
        | ok both =>
          rw [run_eq_executing prints loaded evaluated approved material] at returned
          unfold Launcher.executing at returned
          cases executed : (mavsdkExecutor host both.2 (.default N)).execute
              (launcher.environment env) mission both.1
              (s₀.printed (decisionLines mission decision)) with
          | mk outcome s' =>
          rw [executed] at returned
          cases outcome with
          | error e =>
            by_cases ordinary : e.cls.isException = true
            · simp only [Launcher.report, ordinary, if_true] at returned
              cases returned
              exact .raised mission both.1 both.2 decision e s' loaded evaluated approved material
                executed ordinary
            · simp [Launcher.report, ordinary] at returned
          | ok result =>
            cases returned
            exact .returned mission both.1 both.2 decision result s' loaded evaluated approved
              material executed

end Course

end Nightjar
