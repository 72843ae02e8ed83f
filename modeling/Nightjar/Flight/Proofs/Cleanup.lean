import Nightjar.Flight.Cleanup
import Nightjar.Flight.Proofs.Execute

/-!
# When the cleanup keeps the mission's result

The exception of a stop function is caught, but the line that reports it is printed in the handler,
where nothing catches what printing raises. So the result is kept just when no diagnostic line
fails; a failing one also leaves the later systems running.
-/

namespace Nightjar

open Interact Prog Exec

namespace Cleanup

section Loop

variable {stderr : List String → String → Option PyExc}

/-- Nothing leaves the loop: a stop function raises an `Exception` or nothing, and every
    diagnostic line is printed, each after those before it. -/
def Quiet (stderr : List String → String → Option PyExc) :
    List String → List StopAttribute → Prop
  | _, [] => True
  | lines, .callable (some exc) :: drones =>
      exc.cls.isException = true ∧ stderr lines (diagnostic exc) = none ∧
        Quiet stderr (lines ++ [diagnostic exc]) drones
  | lines, _ :: drones => Quiet stderr lines drones

/-- The indices of the systems with a stop function, counted from `index`. -/
def stoppable (index : Nat) (drones : List StopAttribute) : List Nat :=
  ((drones.zipIdx index).filter fun drone => drone.1.isCallable).map Prod.snd

/-- The diagnostic lines. -/
def diagnostics (drones : List StopAttribute) : List String :=
  drones.filterMap fun
    | .callable (some exc) => some (diagnostic exc)
    | _ => none

theorem stopServer_quiet {index : Nat} {drone : StopAttribute} {s : CleanupState}
    (quiet : Quiet stderr s.lines [drone]) :
    stopServer stderr index drone s =
      (.ok (), ⟨s.calls ++ stoppable index [drone], s.lines ++ diagnostics [drone]⟩) := by
  cases drone with
  | absent => simp [stopServer, pure, stoppable, diagnostics, StopAttribute.isCallable]
  | notCallable => simp [stopServer, pure, stoppable, diagnostics, StopAttribute.isCallable]
  | callable raises =>
    cases raises with
    | none =>
      simp [stopServer, bind, pure, Prog.modify, handle, raiseOption, stoppable, diagnostics,
        StopAttribute.isCallable]
    | some exc =>
      obtain ⟨ordinary, printed, -⟩ := quiet
      simp [stopServer, bind, pure, Prog.modify, handle, raiseOption, raise, ordinary,
        printDiagnostic, Prog.read, printed, stoppable, diagnostics, StopAttribute.isCallable]

theorem quiet_cons (drone : StopAttribute) (drones : List StopAttribute) (lines : List String) :
    Quiet stderr lines (drone :: drones) ↔
      Quiet stderr lines [drone] ∧ Quiet stderr (lines ++ diagnostics [drone]) drones := by
  cases drone with
  | absent => simp [Quiet, diagnostics]
  | notCallable => simp [Quiet, diagnostics]
  | callable raises =>
    cases raises with
    | none => simp [Quiet, diagnostics]
    | some exc => simp [Quiet, diagnostics, and_assoc]

theorem stopServer_raises (index : Nat) {drone : StopAttribute} {s : CleanupState}
    (loud : ¬ Quiet stderr s.lines [drone]) :
    ∃ exc s', stopServer stderr index drone s = (.error ⟨exc, .cleanup⟩, s') := by
  cases drone with
  | absent => exact absurd trivial loud
  | notCallable => exact absurd trivial loud
  | callable raises =>
    cases raises with
    | none => exact absurd trivial loud
    | some exc =>
      by_cases ordinary : exc.cls.isException = true
      · cases printed : stderr s.lines (diagnostic exc) with
        | none => exact absurd ⟨ordinary, printed, trivial⟩ loud
        | some failure =>
          simp [stopServer, bind, Prog.modify, handle, raiseOption, raise, ordinary,
            printDiagnostic, Prog.read, printed]
      · simp [stopServer, bind, Prog.modify, handle, raiseOption, raise, ordinary]

/-- A loop that nothing leaves calls every stop function and prints every line. -/
theorem stopServers_quiet (drones : List StopAttribute) :
    ∀ (index : Nat) (s : CleanupState), Quiet stderr s.lines drones →
      stopServers stderr index drones s =
        (.ok (), ⟨s.calls ++ stoppable index drones, s.lines ++ diagnostics drones⟩) := by
  induction drones with
  | nil =>
    intro index s _
    simp [stopServers, pure, stoppable, diagnostics]
  | cons drone drones ih =>
    intro index s quiet
    obtain ⟨first, rest⟩ := (quiet_cons drone drones s.lines).mp quiet
    have calls : stoppable index (drone :: drones) =
        stoppable index [drone] ++ stoppable (index + 1) drones := by
      rw [stoppable, stoppable, stoppable, ← List.map_append, ← List.filter_append]
      rfl
    have lines : diagnostics (drone :: drones) = diagnostics [drone] ++ diagnostics drones :=
      List.filterMap_append (l := [drone])
    rw [stopServers, bind_of_returns (stopServer_quiet first), ih _ _ rest, calls, lines,
      List.append_assoc, List.append_assoc]

/-- Otherwise the loop raises an exception of its own. -/
theorem stopServers_raises (drones : List StopAttribute) :
    ∀ (index : Nat) (s : CleanupState), ¬ Quiet stderr s.lines drones →
      ∃ exc s', stopServers stderr index drones s = (.error ⟨exc, .cleanup⟩, s') := by
  induction drones with
  | nil => exact fun _ _ loud => absurd trivial loud
  | cons drone drones ih =>
    intro index s loud
    rw [quiet_cons] at loud
    by_cases first : Quiet stderr s.lines [drone]
    · obtain ⟨exc, s', raised⟩ := ih (index + 1)
        ⟨s.calls ++ stoppable index [drone], s.lines ++ diagnostics [drone]⟩
        fun rest => loud ⟨first, rest⟩
      exact ⟨exc, s', by rw [stopServers, bind_of_returns (stopServer_quiet first), raised]⟩
    · obtain ⟨exc, s', raised⟩ := stopServer_raises index first
      exact ⟨exc, s', bind_of_raises raised⟩

/-- Every stop function is called once. -/
theorem count_stoppable (drones : List StopAttribute) (index : Nat) :
    (stoppable 0 drones).count index =
      if (drones[index]?).any StopAttribute.isCallable then 1 else 0 := by
  have distinct : (stoppable 0 drones).Nodup := by
    have sublist : (stoppable 0 drones).Sublist (drones.zipIdx.map Prod.snd) :=
      List.filter_sublist.map _
    rw [List.zipIdx_map_snd] at sublist
    exact sublist.nodup List.nodup_range'
  have member : index ∈ stoppable 0 drones ↔
      (drones[index]?).any StopAttribute.isCallable = true := by
    simp [stoppable, List.mk_mem_zipIdx_iff_getElem?, Option.any_eq_true]
  rw [distinct.count]
  exact if_congr member rfl rfl

theorem finish_quiet {drones : List StopAttribute} (quiet : Quiet stderr [] drones)
    (outcome : Except PyExc ExecutionResult) :
    finish stderr drones outcome ⟨[], []⟩ =
      (missionOutcome outcome, ⟨stoppable 0 drones, diagnostics drones⟩) := by
  have stopped := stopServers_quiet drones 0 ⟨[], []⟩ quiet
  simp only [finish, finally_, Prog.lift, stopped, List.nil_append]

/-- The cleanup keeps the mission's result: `execute` returns it or raises its exception, and the
    stop function of each system that has one is called exactly once. -/
structure Keeps (stderr : List String → String → Option PyExc) (drones : List StopAttribute)
    (outcome : Except PyExc ExecutionResult) : Prop where
  result : (finish stderr drones outcome ⟨[], []⟩).1 = missionOutcome outcome
  calls : ∀ index, (finish stderr drones outcome ⟨[], []⟩).2.calls.count index =
    if (drones[index]?).any StopAttribute.isCallable then 1 else 0

/-- **The cleanup cannot replace the mission's result** just when nothing leaves its loop: every
    stop function raises an `Exception` or nothing, and every diagnostic line is printed. -/
theorem keeps_iff (stderr : List String → String → Option PyExc) (drones : List StopAttribute)
    (outcome : Except PyExc ExecutionResult) :
    Keeps stderr drones outcome ↔ Quiet stderr [] drones := by
  constructor
  · intro keeps
    by_contra loud
    obtain ⟨exc, s', raised⟩ := stopServers_raises drones 0 ⟨[], []⟩ loud
    have replaced := keeps.result
    simp only [finish, finally_, Prog.lift, raised] at replaced
    cases outcome with
    | ok result => cases replaced
    | error e => cases replaced
  · intro quiet
    constructor
    · rw [finish_quiet quiet]
    · intro index
      rw [finish_quiet quiet]
      exact count_stoppable drones index

/-- A completed mission, a stop function that raises, and a stderr that is closed. -/
theorem not_keeps_closed_stderr :
    ¬ Keeps (fun _ _ => some ⟨.osError, "[Errno 32] Broken pipe"⟩)
      [.callable (some ⟨.other "RuntimeError", "stop failed"⟩)] (.ok ⟨true, "logs/m.jsonl"⟩) := by
  intro keeps
  have replaced := keeps.result
  cases replaced

end Loop

end Cleanup

section Execute

variable {N : Type}

/-- The stop attribute of the vehicle after a trace. -/
def stopAttribute (env : Env N) (trace : List (Event N)) : StopAttribute :=
  match env.stop trace with
  | none => .notCallable
  | some raises => .callable raises

/-- The systems in `drone_holder`. -/
def ExecState.drones (env : Env N) (s : ExecState N) : List StopAttribute :=
  List.replicate s.droneHolder (stopAttribute env s.trace)

/-- What a cleanup does to the state of the run. -/
def ExecState.cleaned (s : ExecState N) (done : CleanupState) : ExecState N :=
  { s with trace := s.trace ++ done.calls.map (fun _ => .serverStopped) ++ done.lines.map .stderr }

/-- What printing a diagnostic line raises, once the stop function was called. -/
def ExecState.stderr (env : Env N) (s : ExecState N) : List String → String → Option PyExc :=
  fun _ line => env.stderr (s.trace ++ [.serverStopped]) line

theorem printStderr_of_failure {env : Env N} {line : String} {s : ExecState N}
    {failure : Option PyExc} (fails : env.stderr s.trace line = failure) :
    printStderr env line s =
      (raiseOption failure { s with trace := s.trace ++ [.stderr line] }) := by
  simp only [printStderr, ask, bind, Prog.read, pure, fails, emit, Prog.modify]

theorem printDiagnostic_of_failure {stderr : List String → String → Option PyExc} {line : String}
    {s : CleanupState} {failure : Option PyExc} (fails : stderr s.lines line = failure) :
    Cleanup.printDiagnostic stderr line s =
      raiseOption (failure.map (Thrown.mk · .cleanup)) { s with lines := s.lines ++ [line] } := by
  simp only [Cleanup.printDiagnostic, bind, Prog.read, fails, Prog.modify]

/-- One system whose stop function is called. -/
theorem stopServers_eq_of_callable {env : Env N} {s : ExecState N} {raises : Option PyExc}
    (created : s.droneHolder = 1) (stop : env.stop s.trace = some raises) :
    MavsdkExecutor.stopServers env s =
      ((Cleanup.stopServer (s.stderr env) 0 (.callable raises) ⟨[], []⟩).1.mapError Thrown.exc,
        s.cleaned (Cleanup.stopServer (s.stderr env) 0 (.callable raises) ⟨[], []⟩).2) := by
  have called : s.cleaned ⟨[0], []⟩ = { s with trace := s.trace ++ [.serverStopped] } := by
    simp [ExecState.cleaned]
  have left : MavsdkExecutor.stopServers env s = handle (raiseOption raises) (fun exc =>
      if exc.cls.isException then printStderr env (Cleanup.diagnostic exc)
      else Prog.raise exc) (s.cleaned ⟨[0], []⟩) := by
    rw [called]
    simp only [MavsdkExecutor.stopServers, bind, Prog.read, created, stop, emit, Prog.modify]
    rfl
  cases raises with
  | none => exact left
  | some exc =>
    have raises : raiseOption (some exc) (s.cleaned ⟨[0], []⟩) =
        ((.error exc, s.cleaned ⟨[0], []⟩) : Except PyExc Unit × ExecState N) := rfl
    rw [left, handle_of_raises raises]
    by_cases ordinary : exc.cls.isException = true
    · have printed : ∀ failure, env.stderr (s.cleaned ⟨[0], []⟩).trace (Cleanup.diagnostic exc) =
          failure → Cleanup.stopServer (s.stderr env) 0 (.callable (some exc)) ⟨[], []⟩ =
            raiseOption (failure.map (Thrown.mk · .cleanup)) ⟨[0], [Cleanup.diagnostic exc]⟩ := by
        intro failure fails
        have same : s.stderr env [] (Cleanup.diagnostic exc) = failure := by
          rw [← fails, called]
          rfl
        refine (bind_of_returns rfl).trans ((handle_of_raises rfl).trans ?_)
        rw [if_pos ordinary]
        exact printDiagnostic_of_failure same
      have trace : (s.cleaned ⟨[0], [Cleanup.diagnostic exc]⟩) =
          { s.cleaned ⟨[0], []⟩ with
            trace := (s.cleaned ⟨[0], []⟩).trace ++ [.stderr (Cleanup.diagnostic exc)] } := by
        simp [ExecState.cleaned]
      rw [if_pos ordinary, printStderr_of_failure rfl, printed _ rfl]
      cases env.stderr (s.cleaned ⟨[0], []⟩).trace (Cleanup.diagnostic exc) with
      | none => exact congrArg _ trace.symm
      | some failure => exact congrArg _ trace.symm
    · have raised : Cleanup.stopServer (s.stderr env) 0 (.callable (some exc)) ⟨[], []⟩ =
          (.error ⟨exc, .cleanup⟩, ⟨[0], []⟩) := by
        refine (bind_of_returns rfl).trans ((handle_of_raises rfl).trans ?_)
        exact congrFun (if_neg ordinary) _
      rw [if_neg ordinary, raised]
      rfl

/-- The cleanup of `execute` is the loop, over at most one system. -/
theorem stopServers_eq_loop (env : Env N) (s : ExecState N) (one : s.droneHolder ≤ 1) :
    MavsdkExecutor.stopServers env s =
      ((Cleanup.stopServers (s.stderr env) 0 (s.drones env) ⟨[], []⟩).1.mapError Thrown.exc,
        s.cleaned (Cleanup.stopServers (s.stderr env) 0 (s.drones env) ⟨[], []⟩).2) := by
  have unstopped : s.cleaned ⟨[], []⟩ = s := by simp [ExecState.cleaned]
  rcases Nat.le_one_iff_eq_zero_or_eq_one.mp one with none_created | created
  · have nothing : s.drones env = [] := by rw [ExecState.drones, none_created]; rfl
    rw [nothing]
    simp only [MavsdkExecutor.stopServers, bind, Prog.read, none_created]
    exact congrArg _ unstopped.symm
  · have single : s.drones env = [stopAttribute env s.trace] := by
      rw [ExecState.drones, created]
      rfl
    have last : ∀ drone t, Cleanup.stopServers (s.stderr env) 0 [drone] t =
        Cleanup.stopServer (s.stderr env) 0 drone t := by
      intro drone t
      simp only [Cleanup.stopServers, bind]
      cases Cleanup.stopServer (s.stderr env) 0 drone t with
      | mk stopped t' => cases stopped <;> rfl
    rw [single, last]
    cases stop : env.stop s.trace with
    | none =>
      simp only [MavsdkExecutor.stopServers, bind, Prog.read, created, stop, stopAttribute]
      exact congrArg _ unstopped.symm
    | some raises =>
      rw [stopAttribute, stop]
      exact stopServers_eq_of_callable created stop

variable [Field N] [LinearOrder N] [FloorRing N] [Python.PyMath N] [Python.PyText N] [Crypto]

/-- After the mission, `execute` is the `finally` over the systems that were created. -/
theorem execute_eq_finish (x : MavsdkExecutor N) (env : Env N) (mission : Mission N)
    (approval : SignedApproval) (s₀ s : ExecState N) (table' : NonceTable)
    (outcome : Except PyExc ExecutionResult) (accepted : x.validateMission mission = .ok ())
    (consumed : verifyAndConsumeApproval env.sqlite approval x.publicKey mission x.limits
      mavsdkExecutorName env.clock maxClockSkewSeconds maxLifetimeSeconds s₀.nonces =
        (.ok approval.payload, table'))
    (run : x.execute' env mission approval (s₀.authorized approval.payload table') = (outcome, s))
    (one : s.droneHolder ≤ 1) :
    x.execute env mission approval s₀ =
      ((Cleanup.finish (s.stderr env) (s.drones env) outcome ⟨[], []⟩).1.mapError Thrown.exc,
        s.cleaned (Cleanup.finish (s.stderr env) (s.drones env) outcome ⟨[], []⟩).2) := by
  have stopping := stopServers_eq_loop env s one
  unfold ExecState.authorized at run
  simp only [MavsdkExecutor.execute, bind, Prog.lift, accepted, zoom, consumed, emit, Prog.modify,
    finally_, run, stopping, Cleanup.finish]
  cases ran : Cleanup.stopServers (s.stderr env) 0 (s.drones env) ⟨[], []⟩ with
  | mk stopped done =>
    cases stopped with
    | ok _ => cases outcome <;> rfl
    | error _ => rfl

/-- When nothing leaves the loop, `execute` ends as its mission did. -/
theorem execute_outcome_of_quiet (x : MavsdkExecutor N) (env : Env N) (mission : Mission N)
    (approval : SignedApproval) (s₀ s : ExecState N) (table' : NonceTable)
    (outcome : Except PyExc ExecutionResult) (accepted : x.validateMission mission = .ok ())
    (consumed : verifyAndConsumeApproval env.sqlite approval x.publicKey mission x.limits
      mavsdkExecutorName env.clock maxClockSkewSeconds maxLifetimeSeconds s₀.nonces =
        (.ok approval.payload, table'))
    (run : x.execute' env mission approval (s₀.authorized approval.payload table') = (outcome, s))
    (one : s.droneHolder ≤ 1) (quiet : Cleanup.Quiet (s.stderr env) [] (s.drones env)) :
    (x.execute env mission approval s₀).1 = outcome := by
  rw [execute_eq_finish x env mission approval s₀ s table' outcome accepted consumed run one,
    Cleanup.finish_quiet quiet]
  cases outcome <;> rfl

end Execute

end Nightjar
