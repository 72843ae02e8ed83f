import Nightjar.Authorization.Concurrent
import Nightjar.Authorization.Proofs.Binding
import Nightjar.Flight.Calm

/-!
# One approval, one execution

Over every schedule of runs that share a nonce database: the committed rows are the initial ones
followed by one row for each commit, a run is counted as committed and as executing according to
where it is, and the open transaction belongs to the run that is inside it. From this invariant,
no nonce is executed twice.
-/

namespace Nightjar

open Python Interact

section Consume

variable {row : NonceRow} {table table' : NonceTable} {faults : SqliteFaults} {e : PyExc}

/-- What the failures of `consume` have in common. -/
theorem consume_of_transaction (failed : consumeTransaction faults row table = (.error e, table)) :
    consume faults row table = (.error (consumeError e), table) := by
  unfold consume consumeError Prog.handle
  rw [failed]
  by_cases duplicate : e.cls = .integrityError <;> simp [duplicate, Prog.raise]

/-- SQLite raises at one of the three first points of `consume`. -/
theorem consume_fault (fault : faults.connect = some e ∨
    (faults.connect = none ∧ faults.beginImmediate = some e) ∨
      (faults.connect = none ∧ faults.beginImmediate = none ∧ faults.insert = some e)) :
    consume faults row table = (.error (consumeError e), table) := by
  refine consume_of_transaction ?_
  rcases fault with connect | ⟨connect, begins⟩ | ⟨connect, begins, insert⟩ <;>
    simp [consumeTransaction, Prog.raiseOption, Prog.raise, bind, pure, *]

/-- Past these points the key and the commit decide. -/
theorem consume_insert (connect : faults.connect = none) (begins : faults.beginImmediate = none)
    (insert : faults.insert = none) :
    consume faults row table =
      match table.insert row, faults.commit with
      | none, _ => (.error (consumeError uniqueViolation), table)
      | some _, some e => (.error (consumeError e), table)
      | some table', none => (.ok (), table') := by
  cases inserted : table.insert row with
  | none =>
    refine consume_of_transaction ?_
    simp [consumeTransaction, Prog.raiseOption, Prog.raise, Prog.read, bind, pure, *]
  | some table' =>
    cases commit : faults.commit with
    | none =>
      simp [consume, Prog.handle, consumeTransaction, Prog.raiseOption, Prog.read, Prog.modify,
        bind, pure, *]
    | some e =>
      refine consume_of_transaction ?_
      simp [consumeTransaction, Prog.raiseOption, Prog.raise, Prog.read, bind, pure, *]

end Consume

section Counting

variable {ι : Type} {labels more : List (ι × Action)} {i : ι} {action : Action}

theorem committers_append :
    committers (labels ++ more) = committers labels ++ committers more :=
  List.filterMap_append

theorem executors_append : executors (labels ++ more) = executors labels ++ executors more :=
  List.filterMap_append

variable [DecidableEq ι]

/-- Another run's label does not count. -/
theorem count_committers_of_ne {j : ι} (other : j ≠ i) :
    (committers (labels ++ [(i, action)])).count j = (committers labels).count j := by
  rw [committers_append, List.count_append]
  by_cases commits : action = .commit <;> simp [committers, commits, other.symm]

theorem count_executors_of_ne {j : ι} (other : j ≠ i) :
    (executors (labels ++ [(i, action)])).count j = (executors labels).count j := by
  rw [executors_append, List.count_append]
  by_cases executes : action = .execute <;> simp [executors, executes, other.symm]

/-- A label of the run counts as what it is. -/
theorem count_committers_self :
    (committers (labels ++ [(i, action)])).count i =
      (committers labels).count i + if action = .commit then 1 else 0 := by
  rw [committers_append, List.count_append]
  by_cases commits : action = .commit <;> simp [committers, commits]

theorem count_executors_self :
    (executors (labels ++ [(i, action)])).count i =
      (executors labels).count i + if action = .execute then 1 else 0 := by
  rw [executors_append, List.count_append]
  by_cases executes : action = .execute <;> simp [executors, executes]

end Counting

section Calls

variable {N : Type} [Field N] [LinearOrder N] [PyText N] [crypto : Crypto]

namespace Attempt

variable {a : Attempt N} {faults : SqliteFaults} {table table' : NonceTable}
  {payload : ApprovalPayload} {e : PyExc}

theorem payload_of_verify (accepted : a.verify = .ok payload) : payload = a.envelope.payload :=
  (verifyApproval_eq_ok_iff.mp accepted).1

theorem row_of_verify (accepted : a.verify = .ok payload) : payload.row a.clock = a.row := by
  rw [payload_of_verify accepted]
  rfl

/-- The call for an approval that is refused. -/
theorem verifyAndConsume_refused (refused : a.verify = .error e) :
    a.verifyAndConsume faults table = (.error e, table) := by
  unfold verify at refused
  simp [verifyAndConsume, verifyAndConsumeApproval, Prog.lift, bind, refused]

/-- The call for an accepted approval, in terms of `consume`. -/
theorem verifyAndConsume_accepted (accepted : a.verify = .ok payload) {result : Except PyExc Unit}
    (consumed : consume faults (payload.row a.clock) table = (result, table')) :
    a.verifyAndConsume faults table = (result.map fun _ => payload, table') := by
  unfold verify at accepted
  cases result <;>
    simp [verifyAndConsume, verifyAndConsumeApproval, Prog.lift, bind, pure, accepted, consumed,
      Except.map]

end Attempt

end Calls

section Schedules

variable {N : Type} [Field N] [LinearOrder N] [PyMath N] [PyText N] [crypto : Crypto]

namespace Pc

/-- The payload that a run has verified. -/
def payload : Pc → Option ApprovalPayload
  | verified payload | connected payload | begun payload | inserted payload | committed payload
  | authorized payload | executing payload => some payload
  | _ => none

/-- What the call of `verify_and_consume_approval` came to, once it is decided. -/
def outcome : Pc → Option (Except PyExc ApprovalPayload)
  | committed payload | authorized payload | executing payload => some (.ok payload)
  | raised e => some (.error e)
  | _ => none

/-- How often a run at this point has committed and started an execution. -/
def Tally : Pc → Nat → Nat → Prop
  | committed _, commits, executions | authorized _, commits, executions =>
      commits = 1 ∧ executions = 0
  | executing _, commits, executions => commits = 1 ∧ executions = 1
  | crashed, commits, executions => executions ≤ commits ∧ commits ≤ 1
  | _, commits, executions => commits = 0 ∧ executions = 0

/-- The run is inside its transaction, which sees `view` when `table` is committed. -/
def Writes (a : Attempt N) (table view : NonceTable) : Pc → Prop
  | begun _ => view = table
  | inserted _ => table.insert a.row = some view
  | _ => False

end Pc

variable {ι : Type} [DecidableEq ι] {attempts : ι → Attempt N} {table₀ : NonceTable}
  {labels more : List (ι × Action)} {s t : System ι} {i : ι} {action : Action}

/-- The outcome of a call is that of the sequential call on the table of some moment of the
    schedule. -/
def Linearized (attempts : ι → Attempt N) (table₀ : NonceTable) (labels : List (ι × Action))
    (i : ι) (outcome : Except PyExc ApprovalPayload) : Prop :=
  ∃ past rest moment faults table, labels = past ++ rest ∧
    Run (System.Step attempts) (.init ι table₀) past moment ∧
    (attempts i).verifyAndConsume faults moment.db.committed = (outcome, table)

/-- The invariant of a schedule. -/
structure System.Inv (attempts : ι → Attempt N) (table₀ : NonceTable)
    (labels : List (ι × Action)) (s : System ι) : Prop where
  rows : s.db.committed.rows =
    table₀.rows ++ (committers labels).map fun i => (attempts i).row
  verified : ∀ i payload, (s.pc i).payload = some payload → (attempts i).verify = .ok payload
  accepted : ∀ i ∈ committers labels, ∃ payload, (attempts i).verify = .ok payload
  writing : ∀ i view, s.db.writer = some (i, view) →
    (s.pc i).Writes (attempts i) s.db.committed view
  tally : ∀ i, (s.pc i).Tally ((committers labels).count i) ((executors labels).count i)
  ended : ∀ i outcome, (s.pc i).outcome = some outcome →
    Linearized attempts table₀ labels i outcome

theorem Linearized.mono {outcome : Except PyExc ApprovalPayload}
    (linearized : Linearized attempts table₀ labels i outcome) :
    Linearized attempts table₀ (labels ++ more) i outcome := by
  obtain ⟨past, rest, moment, faults, table, rfl, ran, run⟩ := linearized
  exact ⟨past, rest ++ more, moment, faults, table, List.append_assoc _ _ _, ran, run⟩

/-- The database before and after a step: only a commit changes what is committed. -/
theorem StepRun.committed {a : Attempt N} {db db' : NonceDatabase ι} {pc pc' : Pc}
    (step : StepRun a i db pc action db' pc') :
    (action = .commit ∧ db.writer = some (i, db'.committed) ∧ ∃ payload, pc = .inserted payload) ∨
      (action ≠ .commit ∧ db'.committed = db.committed) := by
  cases step with
  | commit done =>
    obtain ⟨table, held, rfl⟩ := NonceDatabase.commit_eq_some done
    exact Or.inl ⟨rfl, held, _, rfl⟩
  | beginImmediate begun =>
    obtain ⟨-, rfl⟩ := NonceDatabase.beginImmediate_eq_some begun
    exact Or.inr ⟨by simp, rfl⟩
  | _ => exact Or.inr ⟨by simp, by simp [NonceDatabase.update]⟩

/-- The payload of a run is the one its verification accepted. -/
theorem StepRun.verified {a : Attempt N} {db db' : NonceDatabase ι} {pc pc' : Pc}
    (step : StepRun a i db pc action db' pc')
    (before : ∀ payload, pc.payload = some payload → a.verify = .ok payload)
    (payload : ApprovalPayload) (known : pc'.payload = some payload) :
    a.verify = .ok payload := by
  cases step with
  | accept accepted =>
    cases known
    exact accepted
  | connect | beginImmediate | insert | commit | «return» | execute => exact before payload known
  | _ => cases known

/-- The counts follow the run. -/
theorem StepRun.tally {a : Attempt N} {db db' : NonceDatabase ι} {pc pc' : Pc}
    {commits executions : Nat} (step : StepRun a i db pc action db' pc')
    (before : pc.Tally commits executions) :
    pc'.Tally (commits + if action = .commit then 1 else 0)
      (executions + if action = .execute then 1 else 0) := by
  cases step with
  | crash live =>
    cases pc with
    | declined | raised | crashed => exact live.elim
    | _ => simp_all [Pc.Tally]
  | _ => simp_all [Pc.Tally]

/-- The transaction of the moving run sees what its position says. -/
theorem StepRun.writing {a : Attempt N} {db db' : NonceDatabase ι} {pc pc' : Pc}
    (step : StepRun a i db pc action db' pc')
    (verified : ∀ payload, pc.payload = some payload → a.verify = .ok payload)
    (before : ∀ view, db.writer = some (i, view) → pc.Writes a db.committed view)
    (view : NonceTable) (held : db'.writer = some (i, view)) :
    pc'.Writes a db'.committed view := by
  cases step with
  | beginImmediate begun =>
    obtain ⟨-, rfl⟩ := NonceDatabase.beginImmediate_eq_some begun
    cases held
    exact rfl
  | insert seen inserted =>
    have same := before _ (NonceDatabase.view_eq_some.mp seen)
    cases held
    rw [Attempt.row_of_verify (verified _ rfl), same] at inserted
    exact inserted
  | commit done =>
    obtain ⟨table, -, rfl⟩ := NonceDatabase.commit_eq_some done
    cases held
  | duplicate | notInserted | notCommitted | crash =>
    exact absurd rfl (NonceDatabase.writer_rollback_eq_some.mp held).2
  | _ => exact (before view held).elim

/-- A transaction of another run is left alone. -/
theorem StepRun.other_writer {a : Attempt N} {db db' : NonceDatabase ι} {pc pc' : Pc} {j : ι}
    {view : NonceTable} (step : StepRun a i db pc action db' pc') (other : j ≠ i)
    (held : db'.writer = some (j, view)) :
    db.writer = some (j, view) ∧ db'.committed = db.committed := by
  cases step with
  | beginImmediate begun =>
    obtain ⟨-, rfl⟩ := NonceDatabase.beginImmediate_eq_some begun
    cases held
    exact absurd rfl other
  | insert =>
    cases held
    exact absurd rfl other
  | commit done =>
    obtain ⟨table, -, rfl⟩ := NonceDatabase.commit_eq_some done
    cases held
  | duplicate | notInserted | notCommitted | crash =>
    exact ⟨(NonceDatabase.writer_rollback_eq_some.mp held).1, NonceDatabase.committed_rollback _ _⟩
  | _ => exact ⟨held, rfl⟩

/-- A call is decided by a step that agrees with the sequential call on the committed table. -/
theorem StepRun.ended {a : Attempt N} {db db' : NonceDatabase ι} {pc pc' : Pc}
    {outcome : Except PyExc ApprovalPayload} (step : StepRun a i db pc action db' pc')
    (verified : ∀ payload, pc.payload = some payload → a.verify = .ok payload)
    (writing : ∀ view, db.writer = some (i, view) → pc.Writes a db.committed view)
    (ended : pc'.outcome = some outcome) :
    pc.outcome = some outcome ∨
      ∃ faults table, a.verifyAndConsume faults db.committed = (outcome, table) := by
  cases step with
  | refuse refused =>
    cases ended
    exact Or.inr ⟨.none, _, Attempt.verifyAndConsume_refused refused⟩
  | @notConnected _ e =>
    cases ended
    exact Or.inr ⟨⟨some e, none, none, none⟩, _,
      Attempt.verifyAndConsume_accepted (verified _ rfl) (consume_fault (Or.inl rfl))⟩
  | @notBegun _ e =>
    cases ended
    exact Or.inr ⟨⟨none, some e, none, none⟩, _,
      Attempt.verifyAndConsume_accepted (verified _ rfl)
        (consume_fault (Or.inr (Or.inl ⟨rfl, rfl⟩)))⟩
  | @notInserted _ e | @notCommitted _ e =>
    cases ended
    exact Or.inr ⟨⟨none, none, some e, none⟩, _,
      Attempt.verifyAndConsume_accepted (verified _ rfl)
        (consume_fault (Or.inr (Or.inr ⟨rfl, rfl, rfl⟩)))⟩
  | duplicate seen refused =>
    cases ended
    have same := writing _ (NonceDatabase.view_eq_some.mp seen)
    rw [same] at refused
    exact Or.inr ⟨_, _, Attempt.verifyAndConsume_accepted (verified _ rfl)
      (consume_duplicate _ _ (NonceTable.insert_eq_none.mp refused))⟩
  | commit done =>
    cases ended
    obtain ⟨table, held, -⟩ := NonceDatabase.commit_eq_some done
    have inserted : db.committed.insert a.row = some table := writing _ held
    have accepted := verified _ rfl
    rw [← Attempt.row_of_verify accepted] at inserted
    exact Or.inr ⟨_, _, returned_of_verified accepted inserted⟩
  | «return» | execute => exact Or.inl ended
  | _ => cases ended

/-- Every step keeps the invariant. -/
theorem System.inv_step {label : ι × Action}
    (ran : Run (System.Step attempts) (.init ι table₀) labels s)
    (inv : System.Inv attempts table₀ labels s) (next : System.Step attempts s label t) :
    System.Inv attempts table₀ (labels ++ [label]) t := by
  obtain ⟨i, action⟩ := label
  obtain ⟨step, others⟩ := next
  constructor
  case rows =>
    rw [committers_append, List.map_append, ← List.append_assoc, ← inv.rows]
    rcases step.committed with ⟨rfl, held, payload, here⟩ | ⟨quiet, same⟩
    · have inserted := inv.writing i _ held
      rw [here] at inserted
      exact (NonceTable.insert_eq_some inserted).2
    · rw [same]
      simp [committers, quiet]
  case verified =>
    intro j payload known
    by_cases moved : j = i
    · subst moved
      exact step.verified (inv.verified j) payload known
    · rw [others j moved] at known
      exact inv.verified j payload known
  case accepted =>
    intro j member
    rw [committers_append, List.mem_append] at member
    rcases member with earlier | now
    · exact inv.accepted j earlier
    · rcases step.committed with ⟨rfl, -, payload, here⟩ | ⟨quiet, -⟩
      · have same : j = i := by simpa [committers] using now
        subst same
        exact ⟨payload, inv.verified j payload (by rw [here]; rfl)⟩
      · simp [committers, quiet] at now
  case writing =>
    intro j view held
    by_cases moved : j = i
    · subst moved
      exact step.writing (inv.verified j) (inv.writing j) view held
    · obtain ⟨earlier, same⟩ := step.other_writer moved held
      rw [others j moved, same]
      exact inv.writing j view earlier
  case tally =>
    intro j
    by_cases moved : j = i
    · subst moved
      rw [count_committers_self, count_executors_self]
      exact step.tally (inv.tally j)
    · rw [others j moved, count_committers_of_ne moved, count_executors_of_ne moved]
      exact inv.tally j
  case ended =>
    intro j outcome ended
    by_cases moved : j = i
    · subst moved
      rcases step.ended (inv.verified j) (inv.writing j) ended with earlier | ⟨faults, table, run⟩
      · exact (inv.ended j outcome earlier).mono
      · exact ⟨labels, [(j, action)], s, faults, table, rfl, ran, run⟩
    · rw [others j moved] at ended
      exact (inv.ended j outcome ended).mono

/-- The invariant holds after every schedule. -/
theorem System.inv_run (ran : Run (System.Step attempts) (.init ι table₀) labels s) :
    System.Inv attempts table₀ labels s := by
  refine Run.invariant ?_ (fun labels s label t ran inv next => System.inv_step ran inv next) ran
  constructor
  case rows => exact (List.append_nil _).symm
  case verified => exact fun i payload known => nomatch known
  case accepted => exact fun i member => nomatch member
  case writing => exact fun i view held => nomatch held
  case tally => exact fun i => ⟨rfl, rfl⟩
  case ended => exact fun i outcome ended => nomatch ended

/-- What every schedule guarantees. -/
structure OneExecution (attempts : ι → Attempt N) (table₀ : NonceTable)
    (labels : List (ι × Action)) (s : System ι) : Prop where
  /-- No two executions are started under one nonce, nor one of them twice. -/
  once : ((executors labels).map fun i => (attempts i).nonce).Nodup
  /-- The row is committed before the execution starts. -/
  consumed_first : ∀ past i rest, labels = past ++ (i, .execute) :: rest → ∀ moment,
    Run (System.Step attempts) (.init ι table₀) past moment →
      (attempts i).row ∈ moment.db.committed.rows
  /-- No step removes or changes a row. -/
  kept : ∀ past rest, labels = past ++ rest → ∀ moment,
    Run (System.Step attempts) (.init ι table₀) past moment →
      moment.db.committed.rows <+: s.db.committed.rows
  /-- The rows are the initial ones and one for each commit, in order. -/
  rows : s.db.committed.rows = table₀.rows ++ (committers labels).map fun i => (attempts i).row
  /-- A call that returned returned the payload of its envelope, and committed once. -/
  returned : ∀ i payload, (s.pc i).outcome = some (.ok payload) →
    payload = (attempts i).envelope.payload ∧ (committers labels).count i = 1
  /-- A call that raised did not commit. -/
  raised : ∀ i e, s.pc i = .raised e → (committers labels).count i = 0
  /-- A call that failed its verification did not commit. -/
  refused : ∀ i e, (attempts i).verify = .error e → (committers labels).count i = 0
  /-- A call came to what `verify_and_consume_approval` comes to on its own at some moment. -/
  sequential : ∀ i outcome, (s.pc i).outcome = some outcome →
    Linearized attempts table₀ labels i outcome

/-- Runs that commit have different nonces. -/
theorem System.Inv.nodup_committers (inv : System.Inv attempts table₀ labels s) :
    ((committers labels).map fun i => (attempts i).nonce).Nodup := by
  have keys := s.db.committed.primaryKey
  rw [inv.rows, List.map_append, List.nodup_append] at keys
  have committed := keys.2.1
  rw [List.map_map] at committed
  exact committed

/-- A run that starts an execution has committed. -/
theorem System.Inv.mem_committers (inv : System.Inv attempts table₀ labels s)
    (executes : i ∈ executors labels) : i ∈ committers labels := by
  have counted := List.count_pos_iff.mpr executes
  have tally := inv.tally i
  refine List.count_pos_iff.mp ?_
  cases here : s.pc i <;> rw [here] at tally <;> simp only [Pc.Tally] at tally <;> omega

/-- A run starts at most one execution. -/
theorem System.Inv.nodup_executors (inv : System.Inv attempts table₀ labels s) :
    (executors labels).Nodup := by
  refine List.nodup_iff_count_le_one.mpr fun i => ?_
  have tally := inv.tally i
  cases here : s.pc i <;> rw [here] at tally <;> simp only [Pc.Tally] at tally <;> omega

/-- One approval, one execution: over any schedule of any runs that share a database. -/
theorem run_oneExecution (attempts : ι → Attempt N) (table₀ : NonceTable)
    (labels : List (ι × Action)) (s : System ι)
    (ran : Run (System.Step attempts) (.init ι table₀) labels s) :
    OneExecution attempts table₀ labels s := by
  have inv := System.inv_run ran
  constructor
  case once =>
    refine List.Nodup.map_on (fun i member j member' same => ?_) inv.nodup_executors
    exact List.inj_on_of_nodup_map inv.nodup_committers (inv.mem_committers member)
      (inv.mem_committers member') same
  case consumed_first =>
    rintro past i rest rfl moment first
    obtain ⟨moment', after, first', next, -⟩ := ran.before
    have started := System.inv_run (Run.snoc_iff.mpr ⟨moment', first', next⟩)
    have member := started.mem_committers (i := i) (by simp [executors])
    rw [committers_append] at member
    have member : i ∈ committers past := by simpa [committers] using member
    rw [(System.inv_run first).rows]
    exact List.mem_append_right _ (List.mem_map_of_mem member)
  case kept =>
    rintro past rest rfl moment first
    rw [inv.rows, (System.inv_run first).rows, committers_append, List.map_append,
      ← List.append_assoc]
    exact List.prefix_append _ _
  case rows => exact inv.rows
  case returned =>
    intro i payload outcome
    have tally := inv.tally i
    have verified := inv.verified i
    generalize s.pc i = pc at outcome tally verified
    cases pc with
    | committed | authorized | executing =>
      cases outcome
      exact ⟨Attempt.payload_of_verify (verified _ rfl), tally.1⟩
    | _ => cases outcome
  case raised =>
    intro i e raised
    have tally := inv.tally i
    rw [raised] at tally
    exact tally.1
  case refused =>
    intro i e refused
    refine List.count_eq_zero.mpr fun member => ?_
    obtain ⟨payload, accepted⟩ := inv.accepted i member
    rw [refused] at accepted
    cases accepted
  case sequential => exact inv.ended

/-- A step of the run `i`, whose position is kept apart from the others. -/
theorem System.step_update (attempts : ι → Attempt N) (others : ι → Pc)
    {db db' : NonceDatabase ι} {pc pc' : Pc}
    (step : StepRun (attempts i) i db pc action db' pc') :
    System.Step attempts ⟨db, Function.update others i pc⟩ (i, action)
      ⟨db', Function.update others i pc'⟩ := by
  refine ⟨?_, fun j other => ?_⟩
  · simpa using step
  · simp [Function.update_of_ne other]

/-- Where a run that went on after its call is. -/
def Pc.afterCall : Except PyExc ApprovalPayload → Pc
  | .ok payload => .executing payload
  | .error e => .raised e

/-- A run alone does what `consume` does. -/
theorem System.run_consume (attempts : ι → Attempt N) (others : ι → Pc)
    (payload : ApprovalPayload) (faults : SqliteFaults) (table : NonceTable) :
    ∃ labels, Run (System.Step attempts)
      ⟨.ofTable ι table, Function.update others i (.verified payload)⟩ labels
      ⟨.ofTable ι (consume faults (payload.row (attempts i).clock) table).2,
        Function.update others i
          (.afterCall ((consume faults (payload.row (attempts i).clock) table).1.map
            fun _ => payload))⟩ := by
  let db := NonceDatabase.ofTable ι table
  let begun : NonceDatabase ι := ⟨table, some (i, table)⟩
  have seen : begun.view i = some table := NonceDatabase.view_eq_some.mpr rfl
  have undone : begun.rollback i = db := NonceDatabase.rollback_own rfl
  cases connect : faults.connect with
  | some e =>
    rw [consume_fault (Or.inl connect)]
    exact ⟨_, Run.single_iff.mpr (step_update attempts others .notConnected)⟩
  | none =>
  have connects : StepRun (attempts i) i db (.verified payload) .connect db (.connected payload) :=
    .connect
  have connected := Run.single_iff.mpr (step_update attempts others connects)
  cases begins : faults.beginImmediate with
  | some e =>
    rw [consume_fault (Or.inr (Or.inl ⟨connect, begins⟩))]
    exact ⟨_, connected.append (Run.single_iff.mpr (step_update attempts others .notBegun))⟩
  | none =>
  have inside := connected.append
    (Run.single_iff.mpr (step_update attempts others (.beginImmediate rfl)))
  cases insert : faults.insert with
  | some e =>
    rw [consume_fault (Or.inr (Or.inr ⟨connect, begins, insert⟩))]
    have failed : StepRun (attempts i) i begun (.begun payload) (.fail e) (begun.rollback i)
      (.raised (consumeError e)) := .notInserted
    rw [undone] at failed
    exact ⟨_, inside.append (Run.single_iff.mpr (step_update attempts others failed))⟩
  | none =>
  rw [consume_insert connect begins insert]
  cases inserted : table.insert (payload.row (attempts i).clock) with
  | none =>
    have refused := StepRun.duplicate (a := attempts i) seen inserted
    rw [undone] at refused
    exact ⟨_, inside.append (Run.single_iff.mpr (step_update attempts others refused))⟩
  | some table' =>
    have inside := inside.append
      (Run.single_iff.mpr (step_update attempts others (.insert seen inserted)))
    cases commit : faults.commit with
    | some e =>
      have failed : StepRun (attempts i) i (begun.update i table') (.inserted payload) (.fail e)
        ((begun.update i table').rollback i) (.raised (consumeError e)) := .notCommitted
      rw [NonceDatabase.rollback_own rfl] at failed
      exact ⟨_, inside.append (Run.single_iff.mpr (step_update attempts others failed))⟩
    | none =>
      have finished : Run (System.Step attempts)
          ⟨begun.update i table', Function.update others i (.inserted payload)⟩
          [(i, .commit), (i, .return), (i, .execute)]
          ⟨.ofTable ι table', Function.update others i (.executing payload)⟩ :=
        Run.cons (step_update attempts others (.commit (NonceDatabase.commit_own rfl)))
          (Run.cons (step_update attempts others .return)
            (Run.single_iff.mpr (step_update attempts others .execute)))
      exact ⟨_, inside.append finished⟩

/-- A run alone does what `verify_and_consume_approval` does, and starts the execution when the
    call returned. -/
theorem System.run_alone (attempts : ι → Attempt N) (others : ι → Pc)
    (approved : (attempts i).runner.check (attempts i).mission = .ok true)
    (faults : SqliteFaults) (table : NonceTable) :
    ∃ labels, Run (System.Step attempts)
      ⟨.ofTable ι table, Function.update others i (.preparing false false)⟩ labels
      ⟨.ofTable ι ((attempts i).verifyAndConsume faults table).2,
        Function.update others i (.afterCall ((attempts i).verifyAndConsume faults table).1)⟩ := by
  have opens : StepRun (attempts i) i (.ofTable ι table) (.preparing false false) .initialize_
    (.ofTable ι table) (.preparing true false) := .initialize_
  have prepared := Run.cons (step_update attempts others opens)
    (Run.single_iff.mpr (step_update attempts others (.approve approved)))
  cases verified : (attempts i).verify with
  | error e =>
    rw [Attempt.verifyAndConsume_refused verified]
    exact ⟨_, prepared.append (Run.single_iff.mpr (step_update attempts others (.refuse verified)))⟩
  | ok payload =>
    have prepared := prepared.append
      (Run.single_iff.mpr (step_update attempts others (.accept verified)))
    obtain ⟨labels, ran⟩ := System.run_consume attempts others payload faults table
    rw [Attempt.verifyAndConsume_accepted verified rfl]
    exact ⟨_, prepared.append ran⟩

end Schedules

section Race

attribute [local instance] Crypto.keyless

/-- Two executors are given the sample approval. -/
def raceAttempts (_ : Bool) : Attempt ℚ where
  runner := .mavsdk (sampleExecutor ())
  mission := mavsdkSimulationMission ℚ
  envelope := signApproval () (samplePayload ℚ)
  clock := 1000

/-- The two run side by side up to their connections; then the run `true` is first. -/
def raceLabels : List (Bool × Action) :=
  [(true, .initialize_), (false, .initialize_), (true, .check), (false, .check), (true, .verify),
    (false, .verify), (false, .connect), (true, .connect), (true, .beginImmediate),
    (true, .insert), (true, .commit), (false, .beginImmediate), (true, .return), (false, .insert),
    (true, .execute)]

theorem check_race (i : Bool) :
    (raceAttempts i).runner.check (raceAttempts i).mission = .ok true := by
  simp [raceAttempts, Runner.check, validateMission_sample, Except.map]

theorem verify_race (i : Bool) : (raceAttempts i).verify = .ok (samplePayload ℚ) :=
  verifyApproval_sample ℚ (verify_sign_reference rfl) (by decide : (970 : Int) ≤ 1000)
    (by decide : (1000 : Int) < 1300)

/-- The two runs and their database. -/
def raceSystem (db : NonceDatabase Bool) (first second : Pc) : System Bool :=
  ⟨db, fun i => bif i then first else second⟩

section Steps

variable {db db' : NonceDatabase Bool} {pc pc' other : Pc} {action : Action}

theorem step_true (step : StepRun (raceAttempts true) true db pc action db' pc') :
    System.Step raceAttempts (raceSystem db pc other) (true, action)
      (raceSystem db' pc' other) := by
  refine ⟨step, fun j different => ?_⟩
  obtain rfl : j = false := Bool.eq_false_iff.mpr different
  rfl

theorem step_false (step : StepRun (raceAttempts false) false db pc action db' pc') :
    System.Step raceAttempts (raceSystem db other pc) (false, action)
      (raceSystem db' other pc') := by
  refine ⟨step, fun j different => ?_⟩
  obtain rfl : j = true := Bool.eq_true_of_not_eq_false different
  rfl

end Steps

theorem run_race :
    ∃ db, Run (System.Step raceAttempts) (.init Bool .empty) raceLabels
      (raceSystem db (.executing (samplePayload ℚ))
        (.raised ⟨.approvalReplayError, "Approval nonce has already been used."⟩)) := by
  let payload := samplePayload ℚ
  let idle : NonceDatabase Bool := .ofTable Bool .empty
  let table : NonceTable := ⟨[payload.row 1000], List.nodup_singleton _⟩
  have start : System.init Bool .empty =
      raceSystem idle (.preparing false false) (.preparing false false) := by
    unfold System.init raceSystem
    congr
    funext i
    cases i <;> rfl
  have first : NonceTable.empty.insert (payload.row 1000) = some table := rfl
  have second : table.insert (payload.row 1000) = none :=
    NonceTable.insert_eq_none.mpr (List.mem_singleton.mpr rfl)
  have seen : (NonceDatabase.mk table (some (false, table))).view false = some table :=
    NonceDatabase.view_eq_some.mpr rfl
  have refused : StepRun (raceAttempts false) false ⟨table, some (false, table)⟩ (.begun payload)
      .insert (.ofTable Bool table) (.raised (consumeError uniqueViolation)) := by
    have step := StepRun.duplicate (a := raceAttempts false) seen second
    rwa [NonceDatabase.rollback_own rfl] at step
  rw [start]
  exact ⟨_, .cons (step_true .initialize_) (.cons (step_false .initialize_)
    (.cons (step_true (.approve (check_race true)))
    (.cons (step_false (.approve (check_race false)))
    (.cons (step_true (.accept (verify_race true)))
    (.cons (step_false (.accept (verify_race false)))
    (.cons (step_false .connect) (.cons (step_true .connect)
    (.cons (step_true (.beginImmediate rfl)) (.cons (step_true (.insert rfl first))
    (.cons (step_true (.commit rfl)) (.cons (step_false (.beginImmediate rfl))
    (.cons (step_true .return) (.cons (step_false refused)
    (Run.single_iff.mpr (step_true .execute)))))))))))))))⟩

/-- Of the two, the second is refused as a replay. -/
theorem run_oneExecution_race :
    ∃ s, Run (System.Step raceAttempts) (.init Bool .empty) raceLabels s ∧
      s.pc false = .raised ⟨.approvalReplayError, "Approval nonce has already been used."⟩ ∧
      OneExecution raceAttempts .empty raceLabels s := by
  obtain ⟨db, ran⟩ := run_race
  exact ⟨_, ran, rfl, run_oneExecution raceAttempts .empty raceLabels _ ran⟩

end Race

end Nightjar
