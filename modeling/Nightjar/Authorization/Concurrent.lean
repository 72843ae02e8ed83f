import Nightjar.Cli
import Nightjar.Interact.Transition
import Nightjar.Replay.Transactions

/-!
# Authorized runs side by side

Any number of runs, named by `ι`, share one nonce database. Each run goes through the steps of
`MavsdkExecutor.execute` or of the `dry-run` path of the command line: open the store, check the
policy, verify, connect, `BEGIN IMMEDIATE`, `INSERT`, commit, return, start the execution. A step
of a run may fail, and a run may crash at any point. A schedule is a list of labels `(i, action)`,
one for each step of some run.
-/

namespace Nightjar

open Python Interact

variable {N : Type} [Field N] [LinearOrder N] [PyMath N] [PyText N] [crypto : Crypto]

/-- Who authorizes: the `dry-run` path (`cli.py:156-174`) or `MavsdkExecutor.execute`
    (`mavsdk_executor.py:96-112`). -/
inductive Runner (N : Type) [crypto : Crypto] where
  | dryRun (publicKey : crypto.PublicKey) (limits : PolicyLimits N)
  | mavsdk (x : MavsdkExecutor N)

namespace Runner

/-- The trusted key. -/
def publicKey : Runner N → crypto.PublicKey
  | dryRun publicKey _ => publicKey
  | mavsdk x => x.publicKey

/-- The limits. -/
def limits : Runner N → PolicyLimits N
  | dryRun _ limits => limits
  | mavsdk x => x.limits

/-- The `expected_executor` argument. -/
def expectedExecutor : Runner N → String
  | dryRun _ _ => ExecutorChoice.dryRun.value
  | mavsdk _ => mavsdkExecutorName

/-- The decision taken before the approval is looked at: `print_decision`, or
    `validate_mission`. -/
def check (mission : Mission N) : Runner N → Except PyExc Bool
  | dryRun _ limits => (PolicyEngine.evaluate limits mission).map PolicyDecision.approved
  | mavsdk x => (x.validateMission mission).map fun _ => true

end Runner

/-- One run: who authorizes, the mission, the approval, and its reading of the clock. -/
structure Attempt (N : Type) [Field N] [LinearOrder N] [Crypto] where
  runner : Runner N
  mission : Mission N
  envelope : SignedApproval
  clock : Int

namespace Attempt

/-- Its `verify_approval`. -/
def verify (a : Attempt N) : Except PyExc ApprovalPayload :=
  verifyApproval a.envelope a.runner.publicKey a.mission a.runner.limits a.runner.expectedExecutor
    a.clock maxClockSkewSeconds maxLifetimeSeconds

/-- Its `verify_and_consume_approval`, run alone. -/
def verifyAndConsume (a : Attempt N) (faults : SqliteFaults) :
    Prog NonceTable PyExc ApprovalPayload :=
  verifyAndConsumeApproval faults a.envelope a.runner.publicKey a.mission a.runner.limits
    a.runner.expectedExecutor a.clock maxClockSkewSeconds maxLifetimeSeconds

/-- The nonce of its approval. -/
def nonce (a : Attempt N) : String := a.envelope.payload.nonce

/-- The row of its approval. -/
def row (a : Attempt N) : NonceRow where
  nonce := a.envelope.payload.nonce
  missionSha256 := a.envelope.payload.missionSha256
  policySha256 := a.envelope.payload.policySha256
  executor := a.envelope.payload.executor
  expiresAtUnix := a.envelope.payload.expiresAtUnix
  consumedAtUnix := a.clock

end Attempt

/-- Where a run is. -/
inductive Pc where
  /-- Before `verify_and_consume_approval`; the two preparations come in the order of the path. -/
  | preparing (opened checked : Bool)
  | verified (payload : ApprovalPayload)
  | connected (payload : ApprovalPayload)
  | begun (payload : ApprovalPayload)
  | inserted (payload : ApprovalPayload)
  | committed (payload : ApprovalPayload)
  /-- `verify_and_consume_approval` returned. -/
  | authorized (payload : ApprovalPayload)
  /-- `system_factory` or `DryRunExecutor.execute` was called. -/
  | executing (payload : ApprovalPayload)
  /-- The run ended before the call. -/
  | declined
  /-- The call raised. -/
  | raised (e : PyExc)
  | crashed

/-- A step of a run. -/
inductive Action where
  | initialize_
  | check
  | verify
  | connect
  | beginImmediate
  | insert
  | commit
  | return
  | execute
  /-- SQLite raises at the next point that reaches the database. -/
  | fail (e : PyExc)
  | crash
  deriving DecidableEq

/-- The `except` clause of `consume` (`replay.py:124-125`). -/
def consumeError (e : PyExc) : PyExc :=
  if e.cls = .integrityError then
    ⟨.approvalReplayError, "Approval nonce has already been used."⟩
  else e

section Step

variable {ι : Type} [DecidableEq ι]

/-- Where a run that is still going can be. -/
def Pc.Live : Pc → Prop
  | .declined | .raised _ | .crashed => False
  | _ => True

/-- A step of the run `i` of `a`, on the database and its own position. Opening the store creates
    the table if it does not exist and changes no row. -/
inductive StepRun (a : Attempt N) (i : ι) (db : NonceDatabase ι) :
    Pc → Action → NonceDatabase ι → Pc → Prop
  | initialize_ {checked} :
      StepRun a i db (.preparing false checked) .initialize_ db (.preparing true checked)
  | notOpened {checked e} : StepRun a i db (.preparing false checked) (.fail e) db .declined
  | approve {opened} (approved : a.runner.check a.mission = .ok true) :
      StepRun a i db (.preparing opened false) .check db (.preparing opened true)
  | decline {opened} (declined : a.runner.check a.mission ≠ .ok true) :
      StepRun a i db (.preparing opened false) .check db .declined
  | accept {payload} (accepted : a.verify = .ok payload) :
      StepRun a i db (.preparing true true) .verify db (.verified payload)
  | refuse {e} (refused : a.verify = .error e) :
      StepRun a i db (.preparing true true) .verify db (.raised e)
  | connect {payload} : StepRun a i db (.verified payload) .connect db (.connected payload)
  | notConnected {payload e} :
      StepRun a i db (.verified payload) (.fail e) db (.raised (consumeError e))
  | beginImmediate {payload db'} (begun : db.beginImmediate i = some db') :
      StepRun a i db (.connected payload) .beginImmediate db' (.begun payload)
  | notBegun {payload e} :
      StepRun a i db (.connected payload) (.fail e) db (.raised (consumeError e))
  | insert {payload table table'} (seen : db.view i = some table)
      (inserted : table.insert (payload.row a.clock) = some table') :
      StepRun a i db (.begun payload) .insert (db.update i table') (.inserted payload)
  | duplicate {payload table} (seen : db.view i = some table)
      (refused : table.insert (payload.row a.clock) = none) :
      StepRun a i db (.begun payload) .insert (db.rollback i)
        (.raised (consumeError uniqueViolation))
  | notInserted {payload e} :
      StepRun a i db (.begun payload) (.fail e) (db.rollback i) (.raised (consumeError e))
  | commit {payload db'} (done : db.commit i = some db') :
      StepRun a i db (.inserted payload) .commit db' (.committed payload)
  | notCommitted {payload e} :
      StepRun a i db (.inserted payload) (.fail e) (db.rollback i) (.raised (consumeError e))
  | return {payload} : StepRun a i db (.committed payload) .return db (.authorized payload)
  | execute {payload} : StepRun a i db (.authorized payload) .execute db (.executing payload)
  | crash {pc} (live : pc.Live) : StepRun a i db pc .crash (db.rollback i) .crashed

/-- The runs and their database. -/
structure System (ι : Type) where
  db : NonceDatabase ι
  pc : ι → Pc

namespace System

/-- Every run is about to start. -/
def init (ι : Type) (table : NonceTable) : System ι :=
  ⟨.ofTable ι table, fun _ => .preparing false false⟩

/-- A step of one of the runs; the others stay where they are. -/
def Step (attempts : ι → Attempt N) (s : System ι) (label : ι × Action) (t : System ι) : Prop :=
  StepRun (attempts label.1) label.1 s.db (s.pc label.1) label.2 t.db (t.pc label.1) ∧
    ∀ j, j ≠ label.1 → t.pc j = s.pc j

end System

/-- The runs that commit, in order. -/
def committers (labels : List (ι × Action)) : List ι :=
  labels.filterMap fun label => if label.2 = .commit then some label.1 else none

/-- The runs that start an execution, in order. -/
def executors (labels : List (ι × Action)) : List ι :=
  labels.filterMap fun label => if label.2 = .execute then some label.1 else none

end Step

end Nightjar
