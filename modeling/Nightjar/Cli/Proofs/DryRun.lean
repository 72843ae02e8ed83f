import Nightjar.Authorization.Proofs.Binding
import Nightjar.Cli.Proofs.Course
import Nightjar.Flight.Proofs.AuditLog

/-!
# What the exit status of a dry run tells

After the approval is consumed, the dry run prints a line, writes one record after the other with
the strict writer, and prints another line. Each of these may raise, and nothing catches it: the
process then ends with status 1, like after a rejection.

A program that only prints and writes sends its outputs in order until one fails (`Sends`).
-/

namespace Nightjar

open Interact Prog Exec Python Cli

section Sends

variable {N : Type}

/-- A line for stdout, or a record for the strict writer. -/
inductive Output (N : Type) where
  | line (text : String)
  | entry (record : AuditRecord N)

/-- The event of an output that did not fail. -/
def Output.event : Output N → Event N
  | line text => .stdout text
  | entry record => .audit record none

/-- What an output raises. -/
def Output.failure (env : Env N) (trace : List (Event N)) : Output N → Option PyExc
  | line text => env.stdout trace text
  | entry record => env.audit trace record

/-- None of the outputs fails, each sent after those before it. -/
def Undisturbed (env : Env N) : List (Event N) → List (Output N) → Prop
  | _, [] => True
  | trace, output :: outputs =>
      output.failure env trace = none ∧ Undisturbed env (trace ++ [output.event]) outputs

theorem undisturbed_append (env : Env N) (outputs later : List (Output N)) :
    ∀ trace, Undisturbed env trace (outputs ++ later) ↔
      Undisturbed env trace outputs ∧
        Undisturbed env (trace ++ outputs.map Output.event) later := by
  induction outputs with
  | nil =>
    intro trace
    simp [Undisturbed]
  | cons output outputs ih =>
    intro trace
    simp only [List.cons_append, Undisturbed, ih, List.map_cons, and_assoc, List.append_assoc,
      List.nil_append]

/-- The state after outputs. -/
def ExecState.sent (s : ExecState N) (outputs : List (Output N)) : ExecState N :=
  { s with trace := s.trace ++ outputs.map Output.event }

theorem ExecState.sent_append (s : ExecState N) (outputs later : List (Output N)) :
    (s.sent outputs).sent later = s.sent (outputs ++ later) := by
  simp [ExecState.sent]

/-- The program sends the outputs and returns the value, or raises when one of them fails. In
    either case the nonces stay. -/
structure Sends {α : Type} (env : Env N) (p : Exec N α) (outputs : List (Output N)) (a : α) :
    Prop where
  returns : ∀ s : ExecState N, Undisturbed env s.trace outputs → p s = (.ok a, s.sent outputs)
  raises : ∀ s : ExecState N, ¬ Undisturbed env s.trace outputs →
    ∃ e s', p s = (.error e, s') ∧ s'.nonces = s.nonces

variable {α β : Type} {env : Env N}

theorem sends_pure (a : α) : Sends env (pure a) [] a where
  returns s _ := by
    rw [ExecState.sent, List.map_nil, List.append_nil]
    rfl
  raises _ disturbed := absurd trivial disturbed

/-- Outputs one after the other. -/
theorem sends_bind {p : Exec N α} {f : α → Exec N β} {outputs later : List (Output N)} {a : α}
    {b : β} (first : Sends env p outputs a) (second : Sends env (f a) later b) :
    Sends env (p >>= f) (outputs ++ later) b where
  returns s undisturbed := by
    obtain ⟨before, after⟩ := (undisturbed_append env outputs later s.trace).mp undisturbed
    rw [bind_of_returns (first.returns s before), second.returns _ after, ExecState.sent_append]
  raises s disturbed := by
    by_cases before : Undisturbed env s.trace outputs
    · have after : ¬ Undisturbed env (s.sent outputs).trace later := fun after =>
        disturbed ((undisturbed_append env outputs later s.trace).mpr ⟨before, after⟩)
      obtain ⟨e, s', raised, same⟩ := second.raises _ after
      exact ⟨e, s', by rw [bind_of_returns (first.returns s before), raised], same⟩
    · obtain ⟨e, s', raised, same⟩ := first.raises s before
      exact ⟨e, s', bind_of_raises raised, same⟩

theorem sends_print (line : String) : Sends env (printStdout env line) [.line line] () where
  returns s undisturbed := by
    have prints : env.stdout s.trace line = none := undisturbed.1
    simp [printStdout, ask, bind, Prog.read, pure, prints, emit, Prog.modify, raiseOption,
      ExecState.sent, Output.event]
  raises s disturbed := by
    cases fails : env.stdout s.trace line with
    | none => exact absurd ⟨fails, trivial⟩ disturbed
    | some e =>
      simp [printStdout, ask, bind, Prog.read, pure, fails, emit, Prog.modify, raiseOption, raise]

theorem sends_write (logDirectory : String) (record : AuditRecord N) :
    Sends env (writeAuditRecord env logDirectory record) [.entry record]
      (auditPath logDirectory record.missionId) where
  returns s undisturbed := by
    have writes : env.audit s.trace record = none := undisturbed.1
    simp [writeAuditRecord, ask, bind, Prog.read, pure, writes, emit, Prog.modify, raiseOption,
      ExecState.sent, Output.event]
  raises s disturbed := by
    cases fails : env.audit s.trace record with
    | none => exact absurd ⟨fails, trivial⟩ disturbed
    | some e =>
      simp [writeAuditRecord, ask, bind, Prog.read, pure, fails, emit, Prog.modify, raiseOption,
        raise]

theorem sends_printLines (lines : List String) :
    Sends env (printLines env lines) (lines.map .line) () := by
  induction lines with
  | nil => exact sends_pure ()
  | cons line lines ih => exact sends_bind (sends_print line) ih

theorem sends_exitWith (line : String) (code : Nat) :
    Sends env (exitWith env line code) [.line line] code :=
  sends_bind (sends_print line) (sends_pure code)

/-- The records of the actions, numbered from `sequence`. -/
def simulatedRecords (missionId : UUID) (sequence : Nat) (actions : List (MissionAction N)) :
    List (AuditRecord N) :=
  (actions.zipIdx sequence).map fun (action, index) => ⟨missionId, .actionSimulated index action⟩

theorem sends_simulateActions (logDirectory : String) (missionId : UUID)
    (actions : List (MissionAction N)) :
    ∀ sequence, Sends env
      (DryRunExecutor.simulateActions env logDirectory missionId sequence actions)
      ((simulatedRecords missionId sequence actions).map .entry) () := by
  induction actions with
  | nil => exact fun _ => sends_pure ()
  | cons action actions ih =>
    intro sequence
    exact sends_bind (sends_write logDirectory ⟨missionId, .actionSimulated sequence action⟩)
      (ih (sequence + 1))

/-- The status of the process: what `main` returns, or 1 when an exception escapes. -/
def exitStatus : Except PyExc Nat → Nat
  | .ok code => code
  | .error _ => 1

/-- A run that added no row and does not report success. -/
def Unspent (table : NonceTable) (ran : Except PyExc Nat × ExecState N) : Prop :=
  exitStatus ran.1 ≠ 0 ∧ ran.2.nonces = table

theorem unspent_of_raises {p : Exec N Nat} {s s' : ExecState N} {e : PyExc}
    (raises : p s = (.error e, s')) (same : s'.nonces = s.nonces) : Unspent s.nonces (p s) := by
  rw [raises]
  exact ⟨one_ne_zero, same⟩

/-- A program that prints and returns a failure code. -/
theorem Sends.unspent {p : Exec N Nat} {outputs : List (Output N)} {code : Nat}
    (sends : Sends env p outputs code) (failure : code ≠ 0) (s : ExecState N) :
    Unspent s.nonces (p s) := by
  by_cases undisturbed : Undisturbed env s.trace outputs
  · rw [sends.returns s undisturbed]
    exact ⟨failure, rfl⟩
  · obtain ⟨e, s', raises, same⟩ := sends.raises s undisturbed
    exact unspent_of_raises raises same

/-- The records among outputs. -/
def Output.record? : Output N → Option (AuditRecord N)
  | line _ => none
  | entry record => some record

theorem auditLog_sent (s : ExecState N) (outputs : List (Output N)) :
    auditLog (s.sent outputs).trace = auditLog s.trace ++ outputs.filterMap Output.record? := by
  have written : ∀ output : Output N, output.event.written? = output.record? := by
    intro output
    cases output <;> rfl
  rw [auditLog, ExecState.sent, List.filterMap_append, List.filterMap_map]
  congr 1
  exact List.filterMap_congr fun output _ => written output

variable [Zero N] [LT N]

/-- The records of a dry run: the start, the actions numbered from 1, and the end. -/
def dryRunRecords (mission : Mission N) : List (AuditRecord N) :=
  ⟨mission.missionId, .dryRunStarted mission.description⟩ ::
    (simulatedRecords mission.missionId 1 mission.actions ++
      [⟨mission.missionId, .dryRunCompleted⟩])

theorem sends_dryRunExecutor (logDirectory : String) (mission : Mission N) :
    Sends env (DryRunExecutor.execute env logDirectory mission)
      ((dryRunRecords mission).map .entry) ⟨true, auditPath logDirectory mission.missionId⟩ := by
  have outputs : (dryRunRecords mission).map Output.entry =
      [.entry ⟨mission.missionId, .dryRunStarted mission.description⟩] ++
        ((simulatedRecords mission.missionId 1 mission.actions).map .entry ++
          ([.entry ⟨mission.missionId, .dryRunCompleted⟩] ++ [])) := by
    simp [dryRunRecords]
  rw [outputs]
  unfold DryRunExecutor.execute
  refine sends_bind (sends_write logDirectory _) ?_
  refine sends_bind (sends_simulateActions logDirectory _ _ 1) ?_
  exact sends_bind (sends_write logDirectory _) (sends_pure _)

end Sends

section Status

variable {N : Type} [Field N] [LinearOrder N] [FloorRing N] [PyMath N] [PyText N] [Crypto]
  {host : Host N} {env : Env N}

omit [FloorRing N] [Crypto] in
theorem sends_printDecision {mission : Mission N} {limits : PolicyLimits N}
    {decision : PolicyDecision} (evaluated : PolicyEngine.evaluate limits mission = .ok decision) :
    Sends env (printDecision env mission limits) ((decisionLines mission decision).map .line)
      decision.approved := by
  have decided : Sends env (Prog.lift (PolicyEngine.evaluate limits mission)) [] decision := by
    rw [evaluated]
    exact sends_pure decision
  have outputs : (decisionLines mission decision).map (Output.line (N := N)) =
      [] ++ ((decisionLines mission decision).map .line ++ []) := by simp
  rw [outputs]
  unfold printDecision
  exact sends_bind decided (sends_bind (sends_printLines _) (sends_pure _))

/-- What a dry run sends after the approval is consumed. -/
def dryRunOutputs (host : Host N) (mission : Mission N) : List (Output N) :=
  .line "Signed approval verified and consumed." :: ((dryRunRecords mission).map .entry ++
    [.line ("Dry run complete. Audit log: " ++ auditPath host.auditDirectory mission.missionId)])

/-- The part of `runDryRun` after the approval is consumed (`cli.py:170-174`). -/
def dryRunRest (host : Host N) (env : Env N) (mission : Mission N) : Exec N Nat := do
  printStdout env "Signed approval verified and consumed."
  let result ← DryRunExecutor.execute env host.auditDirectory mission
  printStdout env s!"Dry run complete. Audit log: {result.logPath}"
  pure 0

omit [FloorRing N] [PyMath N] [PyText N] in
theorem sends_dryRunRest (mission : Mission N) :
    Sends env (dryRunRest host env mission) (dryRunOutputs host mission) 0 := by
  have outputs : dryRunOutputs host mission =
      [.line "Signed approval verified and consumed."] ++ ((dryRunRecords mission).map .entry ++
        ([.line ("Dry run complete. Audit log: " ++
          auditPath host.auditDirectory mission.missionId)] ++ [])) := by
    simp [dryRunOutputs]
  rw [outputs]
  unfold dryRunRest
  refine sends_bind (sends_print _) ?_
  refine sends_bind (sends_dryRunExecutor host.auditDirectory mission) ?_
  exact sends_bind (sends_print _) (sends_pure 0)

omit [FloorRing N] [PyMath N] in
/-- `runDryRun` by the outcome of `verify_and_consume_approval`. -/
theorem runDryRun_eq (mission : Mission N) (envelope : SignedApproval)
    (publicKey : Crypto.PublicKey) (s : ExecState N) :
    runDryRun host env mission (.default N) envelope publicKey s =
      match verifyAndConsumeApproval env.sqlite envelope publicKey mission (.default N)
          ExecutorChoice.dryRun.value env.clock maxClockSkewSeconds maxLifetimeSeconds s.nonces with
      | (.ok payload, table) => dryRunRest host env mission (s.authorized payload table)
      | (.error e, table) =>
        if isBlocked e.cls then
          exitWith env s!"Execution blocked: {e.text}" 4 { s with nonces := table }
        else (.error e, { s with nonces := table }) := by
  cases run : verifyAndConsumeApproval env.sqlite envelope publicKey mission (.default N)
      ExecutorChoice.dryRun.value env.clock maxClockSkewSeconds maxLifetimeSeconds s.nonces with
  | mk outcome table =>
    have zoomed : zoom ExecState.nonces
        (fun nonces (s : ExecState N) => { s with nonces := nonces })
        (verifyAndConsumeApproval env.sqlite envelope publicKey mission (.default N)
          ExecutorChoice.dryRun.value env.clock maxClockSkewSeconds maxLifetimeSeconds) s =
        (outcome, { s with nonces := table }) := zoom_of_run run
    unfold runDryRun
    cases outcome with
    | ok payload =>
      exact (bind_of_returns (handle_of_returns ((bind_of_returns zoomed).trans rfl))).trans rfl
    | error e =>
      have raised := handle_of_raises (h := fun exc =>
        if isBlocked exc.cls then do
          let code ← exitWith env s!"Execution blocked: {exc.text}" 4
          pure (some code)
        else Prog.raise exc) (bind_of_raises (f := fun payload => do
          emit (.approvalConsumed payload)
          pure none) zoomed)
      by_cases blocked : isBlocked e.cls = true
      · simp only [if_pos blocked] at raised ⊢
        cases exited :
          exitWith env s!"Execution blocked: {e.text}" 4 { s with nonces := table } with
        | mk code s' =>
          cases code with
          | ok code => exact (bind_of_returns (raised.trans (bind_of_returns exited))).trans rfl
          | error e' => exact bind_of_raises (raised.trans (bind_of_raises exited))
      · simp only [if_neg blocked] at raised ⊢
        exact bind_of_raises raised

/-- The dry run comes to the point where it spends the approval. -/
structure Spends (host : Host N) (env : Env N) (table : NonceTable) (mission : Mission N)
    (decision : PolicyDecision) (envelope : SignedApproval) (publicKey : Crypto.PublicKey)
    (table' : NonceTable) : Prop where
  loaded : loadMission host = .ok mission
  evaluated : PolicyEngine.evaluate (.default N) mission = .ok decision
  approved : decision.approved = true
  /-- The decision is printed. -/
  told : Undisturbed env [] ((decisionLines mission decision).map .line)
  material : loadMaterial host = .ok (envelope, publicKey)
  consumed : verifyAndConsumeApproval env.sqlite envelope publicKey mission (.default N)
    ExecutorChoice.dryRun.value env.clock maxClockSkewSeconds maxLifetimeSeconds table =
      (.ok envelope.payload, table')

/-- The state at that point. -/
def spentState (table' : NonceTable) (mission : Mission N) (decision : PolicyDecision)
    (envelope : SignedApproval) : ExecState N :=
  ((ExecState.init N table').sent ((decisionLines mission decision).map .line)).authorized
    envelope.payload table'

theorem Spends.run_eq {table table' : NonceTable} {mission : Mission N}
    {decision : PolicyDecision} {envelope : SignedApproval} {publicKey : Crypto.PublicKey}
    (spends : Spends host env table mission decision envelope publicKey table') :
    Cli.run host env .dryRun (.init N table) =
      dryRunRest host env mission (spentState table' mission decision envelope) := by
  have printed := (sends_printDecision spends.evaluated).returns (.init N table) spends.told
  unfold Cli.run
  simp only [spends.loaded, spends.material]
  rw [bind_of_returns printed, if_neg (by simp [spends.approved]), runDryRun_eq]
  have consumed := spends.consumed
  simp only [ExecState.sent, ExecState.init, consumed]
  rfl

/-- A dry run spends the approval, or adds no row and does not report success. -/
theorem spends_or_unspent (host : Host N) (env : Env N) (table : NonceTable) :
    (∃ mission decision envelope publicKey table',
      Spends host env table mission decision envelope publicKey table') ∨
      Unspent table (Cli.run host env .dryRun (.init N table)) := by
  unfold Cli.run
  cases loaded : loadMission host with
  | error exc =>
    right
    by_cases declared : isMissionLoadError exc.cls = true
    · simp only [declared, if_true]
      exact (sends_exitWith _ 2).unspent two_ne_zero _
    · simp only [declared]
      exact ⟨one_ne_zero, rfl⟩
  | ok mission =>
  cases evaluated : PolicyEngine.evaluate (PolicyLimits.default N) mission with
  | error e =>
    right
    have raised : printDecision env mission (.default N) (.init N table) =
        (.error e, .init N table) := by
      unfold printDecision
      rw [evaluated]
      exact bind_of_raises rfl
    exact unspent_of_raises (bind_of_raises raised) rfl
  | ok decision =>
  have sends : Sends env (printDecision env mission (.default N))
      ((decisionLines mission decision).map .line) decision.approved :=
    sends_printDecision evaluated
  by_cases told : Undisturbed env [] ((decisionLines mission decision).map .line)
  · have printed := sends.returns (.init N table) told
    by_cases approved : decision.approved = true
    · cases material : loadMaterial host with
      | error exc =>
        right
        simp only [bind_of_returns printed, approved, Bool.true_eq_false, if_false]
        by_cases declared : isMaterialLoadError exc.cls = true
        · rw [if_pos declared]
          exact (sends_exitWith _ 3).unspent three_ne_zero _
        · rw [if_neg declared]
          exact ⟨one_ne_zero, rfl⟩
      | ok loadedMaterial =>
        obtain ⟨envelope, publicKey⟩ := loadedMaterial
        cases run : verifyAndConsumeApproval env.sqlite envelope publicKey mission (.default N)
            ExecutorChoice.dryRun.value env.clock maxClockSkewSeconds maxLifetimeSeconds table with
        | mk outcome table' =>
        cases outcome with
        | ok payload =>
          left
          obtain ⟨verified, -⟩ := verified_of_returned run
          obtain rfl := (verifyApproval_eq_ok_iff.mp verified).1
          exact ⟨mission, decision, envelope, publicKey, table', loaded, evaluated, approved, told,
            material, run⟩
        | error e =>
          right
          obtain rfl := unchanged_of_raised run
          simp only [bind_of_returns printed, approved, Bool.true_eq_false, if_false]
          rw [runDryRun_eq]
          simp only [ExecState.sent, ExecState.init, run]
          by_cases blocked : isBlocked e.cls = true
          · rw [if_pos blocked]
            exact (sends_exitWith _ 4).unspent four_ne_zero _
          · rw [if_neg blocked]
            exact ⟨one_ne_zero, rfl⟩
    · right
      simp only [bind_of_returns printed, approved]
      exact ⟨one_ne_zero, rfl⟩
  · right
    obtain ⟨e, s', raises, same⟩ := sends.raises (.init N table) told
    exact unspent_of_raises (bind_of_raises raises) same

/-- The status tells whether the approval was spent: a failure status only without a new row, and
    status 0 only with the row of the envelope and with all the records of the run. -/
def ExitTells (host : Host N) (env : Env N) (table : NonceTable) : Prop :=
  ∀ outcome s, Cli.run host env .dryRun (.init N table) = (outcome, s) →
    (exitStatus outcome ∈ [1, 2, 3, 4] → s.nonces = table) ∧
    (exitStatus outcome = 0 → ∃ mission envelope publicKey, loadMission host = .ok mission ∧
      loadMaterial host = .ok (envelope, publicKey) ∧
      s.nonces.rows = table.rows ++ [envelope.payload.row env.clock] ∧
      auditLog s.trace = dryRunRecords mission)

omit [FloorRing N] [PyMath N] [PyText N] in
theorem records_dryRunOutputs (host : Host N) (mission : Mission N) :
    (dryRunOutputs host mission).filterMap Output.record? = dryRunRecords mission := by
  have entries : ((dryRunRecords mission).map Output.entry).filterMap Output.record? =
      dryRunRecords mission := by
    rw [List.filterMap_map]
    exact List.filterMap_some
  rw [dryRunOutputs, List.filterMap_cons_none rfl, List.filterMap_append, entries]
  exact List.append_nil _

omit [FloorRing N] [PyMath N] [PyText N] [Crypto] in
theorem auditLog_spentState (table' : NonceTable) (mission : Mission N)
    (decision : PolicyDecision) (envelope : SignedApproval) :
    auditLog (spentState table' mission decision envelope).trace = [] := by
  have lines : ((decisionLines mission decision).map (Output.line (N := N))).filterMap
      Output.record? = [] := by
    rw [List.filterMap_map]
    exact List.filterMap_eq_nil_iff.mpr fun _ _ => rfl
  have before := auditLog_sent (ExecState.init N table')
    ((decisionLines mission decision).map .line)
  rw [lines, List.append_nil] at before
  rw [spentState, ExecState.authorized, auditLog, List.filterMap_append]
  exact List.append_eq_nil_iff.mpr ⟨before, rfl⟩

section Spent

variable {table table' : NonceTable} {mission : Mission N} {decision : PolicyDecision}
  {envelope : SignedApproval} {publicKey : Crypto.PublicKey}

omit [FloorRing N] in
theorem Spends.rows (spends : Spends host env table mission decision envelope publicKey table') :
    table'.rows = table.rows ++ [envelope.payload.row env.clock] :=
  (NonceTable.insert_eq_some (verified_of_returned spends.consumed).2).2

/-- A failure after the approval is spent ends with status 1, and the row stays. -/
theorem not_exitTells_of_disturbed
    (spends : Spends host env table mission decision envelope publicKey table')
    (disturbed : ¬ Undisturbed env (spentState table' mission decision envelope).trace
      (dryRunOutputs host mission)) : ¬ ExitTells host env table := by
  intro tells
  obtain ⟨e, s', raises, same⟩ := (sends_dryRunRest mission).raises _ disturbed
  have unchanged : s'.nonces = table :=
    (tells _ _ (spends.run_eq.trans raises)).1 (by simp [exitStatus])
  have spent : s'.nonces = table' := same
  have rows := spends.rows
  rw [← spent, unchanged] at rows
  have longer := congrArg List.length rows
  simp at longer

/-- Without a failure the dry run ends with status 0, the row and the records. -/
theorem Spends.run_completed
    (spends : Spends host env table mission decision envelope publicKey table')
    (undisturbed : Undisturbed env (spentState table' mission decision envelope).trace
      (dryRunOutputs host mission)) :
    ∃ s, Cli.run host env .dryRun (.init N table) = (.ok 0, s) ∧
      s.nonces.rows = table.rows ++ [envelope.payload.row env.clock] ∧
      auditLog s.trace = dryRunRecords mission := by
  refine ⟨_, spends.run_eq.trans ((sends_dryRunRest mission).returns _ undisturbed),
    spends.rows, ?_⟩
  rw [auditLog_sent, auditLog_spentState, records_dryRunOutputs, List.nil_append]

end Spent

omit [FloorRing N] [PyMath N] [PyText N] in
/-- A host whose files decode gives the approval and the key in them. -/
theorem loadMaterial_of_files {host : Host N} {text : String} {payload : Json N}
    {envelope : SignedApproval} {bytes : List UInt8} {key : Crypto.PublicKey}
    (approval : host.approvalText = .ok text) (decoded : host.loads text = .ok payload)
    (valid : SignedApproval.modelValidate host.intOfJson payload = .ok envelope)
    (publicKey : host.publicKeyBytes = .ok bytes)
    (ed25519 : host.loadPemPublicKey bytes = .ok (some key)) (opened : host.openStore = .ok ()) :
    loadMaterial host = .ok (envelope, key) := by
  have approved : loadSignedApproval host = .ok envelope := by
    rw [loadSignedApproval, approval]
    simp only [bind, Except.bind, decoded, valid]
  have loaded : loadEd25519PublicKey host = .ok key := by
    rw [loadEd25519PublicKey, publicKey]
    simp only [bind, Except.bind, ed25519]
  rw [loadMaterial, approved, loaded, opened]
  rfl

/-- **The exit status of a dry run tells whether the approval was spent**, just when no output
    after the approval is spent fails: neither one of the records nor one of the two lines. -/
theorem exitTells_iff (host : Host N) (env : Env N) (table : NonceTable) :
    ExitTells host env table ↔
      ∀ mission decision envelope publicKey table',
        Spends host env table mission decision envelope publicKey table' →
          Undisturbed env (spentState table' mission decision envelope).trace
            (dryRunOutputs host mission) := by
  constructor
  · intro tells mission decision envelope publicKey table' spends
    by_contra disturbed
    exact not_exitTells_of_disturbed spends disturbed tells
  · intro undisturbed outcome s ran
    rcases spends_or_unspent host env table with
      ⟨mission, decision, envelope, publicKey, table', spends⟩ | ⟨failed, same⟩
    · obtain ⟨s', completed, rows, log⟩ :=
        spends.run_completed (undisturbed _ _ _ _ _ spends)
      rw [completed] at ran
      cases ran
      exact ⟨fun failure => by simp [exitStatus] at failure, fun _ =>
        ⟨mission, envelope, publicKey, spends.loaded, spends.material, rows, log⟩⟩
    · rw [ran] at failed same
      exact ⟨fun _ => same, fun success => absurd success failed⟩

end Status

section Sample

section Payload

variable (N : Type) [Field N] [LinearOrder N] [IsStrictOrderedRing N] [FloorRing N] [PyText N]
variable [crypto : Crypto]

/-- The approval of the sample for a dry run. -/
def dryRunPayload : ApprovalPayload where
  toPayloadFields := { samplePayloadFields N with executor := ExecutorChoice.dryRun.value }
  valid :=
    { (samplePayload N).valid with
      executor_length := (by decide :
        1 ≤ ExecutorChoice.dryRun.value.length ∧ ExecutorChoice.dryRun.value.length ≤ 64) }

/-- The verifier accepts it at the time it is issued. -/
theorem verifyApproval_dryRun {privateKey : crypto.PrivateKey}
    (correct : Crypto.verify (crypto.publicKey privateKey)
      (Crypto.sign privateKey (approvalSigningBytes (dryRunPayload N))).val
      (approvalSigningBytes (dryRunPayload N)) = true) :
    verifyApproval (signApproval privateKey (dryRunPayload N)) (crypto.publicKey privateKey)
      (mavsdkSimulationMission N) (.default N) ExecutorChoice.dryRun.value 1000 maxClockSkewSeconds
      maxLifetimeSeconds = .ok (dryRunPayload N) :=
  verifyApproval_eq_ok_iff.mpr ⟨rfl, ⟨_, decode_signApproval _ _, correct⟩,
    (by decide : (1000 : Int) ≤ 1000 + 30), (by decide : (1000 : Int) < 1300),
    (by decide : (1300 : Int) - 1000 ≤ 300), rfl, rfl, rfl⟩

end Payload

attribute [local instance] Crypto.keyless

/-- The files of a dry run of the sample. -/
def dryRunHost : Host ℚ where
  missionText := .ok "mission"
  approvalText := .ok "approval"
  publicKeyBytes := .ok []
  openStore := .ok ()
  loads text := .ok (if text = "approval" then (signApproval () (dryRunPayload ℚ)).dump
    else (mavsdkSimulationMission ℚ).dump)
  missionOfJson _ := .ok (mavsdkSimulationMission ℚ)
  intOfJson := intOfInt
  loadPemPublicKey _ := .ok (some ())
  auditDirectory := "logs"

/-- The second record does not fit on the disk. -/
def fullDisk : Env ℚ :=
  { Env.calm (sampleTelemetry ℚ []) 1000 with
    audit := fun trace _ =>
      if (auditLog trace).length = 1 then some ⟨.osError, "[Errno 28] No space left on device"⟩
      else none }

theorem loadMaterial_dryRunHost :
    loadMaterial dryRunHost = .ok (signApproval () (dryRunPayload ℚ), ()) :=
  loadMaterial_of_files rfl rfl (modelValidate_envelope intOfInt_int _) rfl rfl rfl

/-- Its dry run spends the approval. -/
theorem exists_spends_dryRun : ∃ decision table', Spends dryRunHost fullDisk .empty
    (mavsdkSimulationMission ℚ) decision (signApproval () (dryRunPayload ℚ)) () table' := by
  obtain ⟨decision, evaluated, approved⟩ :=
    (validateMission_eq_ok_iff.mp (validateMission_sample (N := ℚ) ())).1
  let table' : NonceTable := ⟨[(dryRunPayload ℚ).row 1000], List.nodup_singleton _⟩
  have inserted : NonceTable.empty.insert ((dryRunPayload ℚ).row 1000) = some table' := rfl
  refine ⟨decision, table', rfl, evaluated, approved, ?_, loadMaterial_dryRunHost,
    returned_of_verified (verifyApproval_dryRun ℚ (verify_sign_reference rfl)) inserted⟩
  induction decisionLines (mavsdkSimulationMission ℚ) decision using List.reverseRecOn with
  | nil => trivial
  | append_singleton lines line ih =>
    rw [List.map_append]
    exact (undisturbed_append _ _ _ _).mpr ⟨ih, rfl, trivial⟩

/-- With a disk that fills up after the first record, the process ends with status 1 and the
    approval is spent. -/
theorem not_exitTells_fullDisk : ¬ ExitTells dryRunHost fullDisk .empty := by
  obtain ⟨decision, table', spends⟩ := exists_spends_dryRun
  apply not_exitTells_of_disturbed spends
  intro undisturbed
  have before := auditLog_spentState table' (mavsdkSimulationMission ℚ) decision
    (signApproval () (dryRunPayload ℚ))
  have second : fullDisk.audit _ _ = none := undisturbed.2.2.1
  have one : ∀ trace : List (Event ℚ), auditLog trace = [] → ∀ line record,
      (auditLog (trace ++ [.stdout line] ++ [.audit record none])).length = 1 := by
    intro trace silent line record
    rw [auditLog] at silent ⊢
    rw [List.filterMap_append, List.filterMap_append, silent]
    rfl
  have full := if_pos (one _ before _ _) |>.symm.trans second
  cases full

end Sample

end Nightjar
