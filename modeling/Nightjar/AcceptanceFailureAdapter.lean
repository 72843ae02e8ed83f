import Nightjar.AcceptanceChecks
import Nightjar.Cli

/-!
# The failure adapter

`acceptance_failure_adapter.py`: the `mavsdk` path of the command line with a sleep function that
raises. The adapter writes out what `print_decision` prints, and has no exit codes of its own for a
home that is missing or elsewhere.
-/

namespace Nightjar

open Python Interact Exec

/-- `MavsdkExecutorError(INJECTED_ERROR)`. -/
def injectedFailure : PyExc := .mavsdk injectedError

namespace AcceptanceFailureAdapter

variable {N : Type} [Field N] [LinearOrder N] [FloorRing N] [PyMath N] [PyText N] [Crypto]
  (host : Host N) (env : Env N)

omit [Field N] [LinearOrder N] [FloorRing N] [PyMath N] [PyText N] [Crypto] in
/-- `sleep_function=_failing_sleep` (`acceptance_failure_adapter.py:48-51`): the injected failure
    is raised unless `asyncio.sleep` raised before, as the environment says. -/
def failingSleep : Env N :=
  { env with
    command := fun trace c =>
      match c with
      | .sleep _ => some ((env.command trace c).getD injectedFailure)
      | _ => env.command trace c }

omit [Field N] [LinearOrder N] [FloorRing N] [PyMath N] [PyText N] [Crypto] in
/-- The `except` clauses, in order (`acceptance_failure_adapter.py:105-116`). -/
def failure (exc : PyExc) : Exec N Nat :=
  if Cli.isBlocked exc.cls then Cli.exitWith env s!"Execution blocked: {exc.text}" 4
  else if exc.cls = .unsupportedMavsdkActionError ∨ exc.cls = .mavsdkPolicyRejectedError then
    Cli.exitWith env s!"Execution blocked: {exc.text}" 4
  else if exc.cls.isMavsdkExecutorError then
    Cli.exitWith env s!"Execution failed: {exc.text}" 5
  else if exc.cls.isException then Cli.exitWith env s!"Execution failed: {exc.text}" 5
  else Prog.raise exc

/-- The execution (`acceptance_failure_adapter.py:97-120`). -/
def execute (mission : Mission N) (limits : PolicyLimits N) (envelope : SignedApproval)
    (publicKey : Crypto.PublicKey) : Exec N Nat := do
  let result ← Prog.handle
    (do
      let result ← (Cli.mavsdkExecutor host publicKey limits).execute (failingSleep env) mission
        envelope
      pure (Sum.inl result))
    (fun exc => do
      let code ← failure env exc
      pure (Sum.inr code))
  match result with
  | .inr code => pure code
  | .inl result => do
      printStdout env "Signed approval verified and consumed."
      printStdout env s!"MAVSDK simulation complete. Audit log: {result.logPath}"
      pure 0

/-- `main` (`acceptance_failure_adapter.py:54-120`). -/
def run : Exec N Nat :=
  match Cli.loadMission host with
  | .error exc =>
    if Cli.isMissionLoadError exc.cls then
      Cli.exitWith env s!"Mission could not be loaded: {exc.text}" 2
    else Prog.raise exc
  | .ok mission => do
    let limits : PolicyLimits N := .default N
    let approved ← Cli.printDecision env mission limits
    if approved = false then pure 1
    else
      match Cli.loadMaterial host with
      | .error exc =>
        if Cli.isMaterialLoadError exc.cls then
          Cli.exitWith env s!"Authorization material could not be loaded: {exc.text}" 3
        else Prog.raise exc
      | .ok (envelope, publicKey) => execute host env mission limits envelope publicKey

end AcceptanceFailureAdapter

end Nightjar
