import Nightjar.Flight.Proofs.Refinement

/-!
# The handler and the whole of `_execute`

The triples of the recovery and of the handler, and from them what a whole run of `_execute` is
woven from.
-/

namespace Nightjar

open Interact Prog Exec Python

section Recovery

variable {N : Type} [Field N] [LinearOrder N] [PyText N] [Crypto]
  {env : Env N} {base : List (Event N)} {table : NonceTable} {flags : Flags}
  (x : MavsdkExecutor N)

/-- The histories of a recovery, from its start. -/
def AtCleanup (takeoffAttempted : Bool) (flags : Flags) (history : List (Mark N)) (g : Flags) :
    Prop :=
  g = flags ∧ ∃ c : Cleanup x takeoffAttempted, c.marks = history

omit [PyText N] in
/-- The choice before an attempted takeoff looks at one item. -/
theorem triple_chooseCleanup :
    Triple (Hist env base table [] flags) (MavsdkExecutor.chooseCleanup env)
      (fun choice s => match choice with
        | some status => status = .disarmAccepted ∧
            Hist env base table (Cleanup.disarmed rfl : Cleanup x false).marks flags s
        | none => Hist env base table [.exactly (.cleanupInAir .exactTrue)] flags s)
      (Stop env base table (AtCleanup x false flags)) := by
  unfold MavsdkExecutor.chooseCleanup
  refine triple_askThen fun opened => ?_
  let untouched : List Flag → ExecState N → Prop := fun done s =>
    done = [] ∧ base <+: opened ∧ opened <+: s.trace ∧ Hist env base table [] flags s
  let chosen : Option RecoveryStatus → ExecState N → Prop := fun choice s => match choice with
    | some status => status = .disarmAccepted ∧
        Hist env base table (Cleanup.disarmed rfl : Cleanup x false).marks flags s
    | none => Hist env base table [.exactly (.cleanupInAir .exactTrue)] flags s
  refine triple_bind (triple_pre (triple_forStream (I := untouched) (Q := chosen)
    (E := Stop env base table (AtCleanup x false flags)) _ [] ?_ ?_) ?_) fun found => ?_
  · intro before item after _
    refine triple_pre (K := Hist env base table [] flags) ?_ fun s pre => pre.2.2.2
    refine triple_bind (triple_emit _) fun _ => ?_
    cases item with
    | exactFalse =>
      refine triple_bind (triple_command _ ⟨rfl, .disarming rfl, rfl⟩) fun _ => ?_
      exact triple_pure fun s hist => ⟨rfl, hist⟩
    | exactTrue => exact triple_pure fun s hist => hist
    | invalid truthy =>
      exact triple_raise fun s hist => hist.stop ⟨rfl, .refused _ rfl, rfl⟩ rfl
  · rintro e s ending ⟨-, since, before, hist⟩
    exact hist.stop_vehicle ⟨rfl, .begun (Or.inr rfl), rfl⟩ since before
      (Or.inr (Or.inr (Or.inr (Or.inr (Or.inr (Or.inl ending))))))
  · rintro s ⟨rfl, hist⟩
    exact ⟨rfl, hist.base_prefix, List.prefix_rfl, hist⟩
  · cases found with
    | some choice => exact triple_pure fun s post => post
    | none => exact triple_raise fun s post => post.2.2.2.stop ⟨rfl, .begun (Or.inr rfl), rfl⟩ rfl

/-- The landing of a recovery. -/
theorem triple_recoverLanding (takeoffAttempted : Bool) :
    Triple (Hist env base table (Cleanup.beforeLanding N takeoffAttempted) flags)
      (do
        command env .land
        x.waitUntilLanded env
        pure RecoveryStatus.landingConfirmed)
      (fun status s => status = .landingConfirmed ∧ ∃ item,
        Hist env base table (Cleanup.landed item : Cleanup x takeoffAttempted).marks flags s)
      (Stop env base table (AtCleanup x takeoffAttempted flags)) := by
  refine triple_bind (triple_command_last _ ⟨rfl, .landing, rfl⟩) fun _ => ?_
  refine triple_bind (triple_waitUntilLanded x ⟨rfl, .landSent, by simp [Cleanup.marks]⟩
    fun item => ⟨rfl, .landSeen item, by simp [Cleanup.marks]⟩) fun _ => ?_
  refine triple_exists fun item => triple_pure fun s hist => ⟨rfl, item, ?_⟩
  simpa [Cleanup.marks] using hist

/-- A recovery that returns disarmed the vehicle or confirmed its landing. -/
theorem triple_recover (takeoffAttempted : Bool) :
    Triple (Hist env base table [] flags) (x.recover env takeoffAttempted)
      (fun status s => ∃ c : Cleanup x takeoffAttempted, c.Reports status ∧
        Hist env base table c.marks flags s)
      (Stop env base table (AtCleanup x takeoffAttempted flags)) := by
  unfold MavsdkExecutor.recover
  cases takeoffAttempted with
  | true =>
    refine triple_bind
      (Q := fun choice s => choice = none ∧
        Hist env base table (Cleanup.beforeLanding N true) flags s)
      (triple_pure fun s hist => ⟨rfl, hist⟩) fun choice => triple_fact fun none_chosen => ?_
    subst none_chosen
    exact triple_post (triple_recoverLanding x true) fun status s ⟨reported, item, hist⟩ =>
      ⟨.landed item, by rw [reported]; exact ⟨item, rfl⟩, hist⟩
  | false =>
    refine triple_bind (triple_chooseCleanup x) fun choice => ?_
    cases choice with
    | some status =>
      exact triple_pure fun s ⟨accepted, hist⟩ =>
        ⟨.disarmed rfl, by rw [accepted]; exact ⟨rfl, rfl⟩, hist⟩
    | none =>
      exact triple_post (triple_recoverLanding x false) fun status s ⟨reported, item, hist⟩ =>
        ⟨.landed item, by rw [reported]; exact ⟨item, rfl⟩, hist⟩

/-- The recovery task under its time limit, run from the moment it starts. -/
theorem triple_recoverBounded (takeoffAttempted : Bool) :
    Triple (Hist env base table [] flags)
      (waitFor env x.landingTimeoutSeconds (x.recover env takeoffAttempted))
      (fun status s => ∃ c : Cleanup x takeoffAttempted, c.Reports status ∧
        Hist env base table c.marks flags s)
      (Stop env base table (AtCleanup x takeoffAttempted flags)) :=
  triple_waitFor (triple_recover x takeoffAttempted)
    (fun unstarted _ hist => ⟨_, _, ⟨rfl, .begun (Or.inl unstarted), rfl⟩, hist⟩)
    fun _ _ ⟨c, _, hist⟩ => ⟨_, _, ⟨rfl, c, rfl⟩, hist⟩

/-- A vehicle's exception inside a recovery. -/
def LateRaise (env : Env N) (e : PyExc) : Prop :=
  ∃ t, Event.recoveryStarted ∈ t ∧ env.toVehicle.Raises t e

/-- The recovery of the handler ends in a status, unless the vehicle raises something that the
    handler does not catch. -/
theorem triple_recoverStatus {history : List (Mark N)} :
    Triple (Hist env base table history flags) (x.recoverStatus env)
      (fun outcome s => ∃ tail, Tail x flags outcome.1 tail ∧
        Hist env base table (history ++ tail) flags s)
      (fun e s => e.cls.isExceptionOrCancelled = false ∧
        (LateRaise env e ∨ env.Rude e) ∧
        ∃ tail, Tail x flags .failed tail ∧ Hist env base table (history ++ tail) flags s) := by
  refine triple_bind_read fun s₀ hist₀ => ?_
  rw [hist₀.flags_eq]
  cases required : flags.recoveryRequired with
  | false =>
    refine triple_pure fun s same => ?_
    rw [same]
    exact ⟨[], Or.inl ⟨required, rfl, rfl⟩, by rwa [List.append_nil]⟩
  | true =>
    have started : Hist env base table (history ++ [.exactly .recoveryStarted]) flags
        { s₀ with trace := s₀.trace ++ [.recoveryStarted] } := hist₀.step rfl
    have whole : ∀ (c : Cleanup x flags.takeoffAttempted) (s : ExecState N),
        Hist env (s₀.trace ++ [.recoveryStarted]) table c.marks flags s →
        Hist env base table (history ++ (.exactly .recoveryStarted :: c.marks)) flags s := by
      intro c s hist
      have woven := started.woven.append hist.woven
      rw [List.append_assoc, List.singleton_append] at woven
      exact ⟨woven, hist.flags_eq, hist.nonces_eq⟩
    have tail : ∀ (c : Cleanup x flags.takeoffAttempted) (status : RecoveryStatus),
        c.Reports status → Tail x flags status (.exactly .recoveryStarted :: c.marks) :=
      fun c status reports => Or.inr ⟨required, c, reports, rfl⟩
    refine triple_handle
      (E := Stop env (s₀.trace ++ [.recoveryStarted]) table
        (AtCleanup x flags.takeoffAttempted flags)) ?_ fun exc => ?_
    · refine triple_bind
        (Q := fun status s => ∃ c : Cleanup x flags.takeoffAttempted, c.Reports status ∧
          Hist env (s₀.trace ++ [.recoveryStarted]) table c.marks flags s) ?_ fun status => ?_
      · refine triple_bind
          (Q := fun _ => Hist env (s₀.trace ++ [.recoveryStarted]) table [] flags) ?_
          fun _ => triple_recoverBounded x _
        refine triple_modify fun s same => ?_
        rw [same]
        exact ⟨.start, hist₀.flags_eq, hist₀.nonces_eq⟩
      · refine triple_pure fun s ⟨c, reports, hist⟩ => ?_
        exact ⟨_, tail c status reports, whole c s hist⟩
    · by_cases caught : exc.cls.isExceptionOrCancelled = true
      · rw [if_pos caught]
        refine triple_pure fun s ⟨_, marks, g, ⟨same, c, reached⟩, hist⟩ => ?_
        subst same
        rw [← reached] at hist
        exact ⟨_, tail c .failed trivial, whole c s hist⟩
      · rw [if_neg caught]
        refine triple_raise fun s ⟨origin, marks, g, ⟨same, c, reached⟩, hist⟩ => ?_
        subst same
        rw [← reached] at hist
        have uncaught : exc.cls.isException = false := by
          by_contra ordinary
          exact caught (ExcClass.isExceptionOrCancelled_of_isException (by simpa using ordinary))
        refine ⟨by simpa using caught, ?_, _, tail c .failed trivial, whole c s hist⟩
        rcases origin with flight | writers | ⟨t, since, -, raised⟩
        · rw [ExcClass.isException_of_isFlight flight] at uncaught; cases uncaught
        · exact Or.inr ⟨writers, uncaught⟩
        · exact Or.inl ⟨t, since.subset (by simp), raised⟩

/-! ## The whole run -/

variable [FloorRing N] [PyMath N]

/-- How a run of `_execute` can raise, and the history it is then woven from. -/
inductive Broken (f : Flight N) (base trace : List (Event N)) : PyExc → List (Mark N) → Prop
  /-- Before the `try`. -/
  | early (stage : Stage f) (before : stage.Early) (e : PyExc) (causes : f.env.Causes e) :
      Broken f base trace e stage.history
  /-- The handler does not catch the exception. -/
  | unhandled (stage : Stage f) (e : PyExc) (uncaught : e.cls.isMissionFailure = false)
      (origin : Origin f.env base trace e) (settled : stage.Settled → f.env.Rude e) :
      Broken f base trace e stage.history
  /-- The handler ran to its end. -/
  | handled (stage : Stage f) (e : PyExc) (caught : e.cls.isMissionFailure = true)
      (causes : f.env.Causes e) (settled : stage.Settled → f.env.Rude e) (status : RecoveryStatus)
      (errorType : Option String) (tail : List (Mark N))
      (recovery : Tail f.x stage.flags status tail) :
      Broken f base trace e
        (stage.history ++ tail ++ [f.attempted (.missionFailed e.text status errorType)])
  /-- The recovery raised something that the handler does not catch. -/
  | cut (stage : Stage f) (e e' : PyExc) (settled : stage.Settled → f.env.Rude e)
      (uncaught : e'.cls.isExceptionOrCancelled = false)
      (origin : LateRaise f.env e' ∨ f.env.Rude e')
      (tail : List (Mark N)) (recovery : Tail f.x stage.flags .failed tail) :
      Broken f base trace e' (stage.history ++ tail)
  /-- The writer of the handler raised something that no `except Exception` stops. -/
  | lost (stage : Stage f) (e e' : PyExc) (settled : stage.Settled → f.env.Rude e)
      (rude : f.env.Rude e') (status : RecoveryStatus) (errorType : Option String)
      (tail : List (Mark N)) (recovery : Tail f.x stage.flags status tail) :
      Broken f base trace e'
        (stage.history ++ tail ++ [f.attempted (.missionFailed e.text status errorType)])
  /-- So did the writer after the flight. -/
  | finished (c : Climbed f) (item : Flag) (e : PyExc) (rude : f.env.Rude e) :
      Broken f base trace e (f.completeHistory c item)

/-- The handler always raises. -/
theorem triple_onFailure (f : Flight N) (e : PyExc) (stage : Stage f)
    (settled : stage.Settled → f.env.Rude e) :
    Triple (fun s => Origin f.env base s.trace e ∧
        Hist f.env base table stage.history stage.flags s)
      (f.x.onFailure f.env f.mission.missionId e)
      (fun _ _ => False)
      (fun e' s => ∃ history, Broken f base s.trace e' history ∧
        Hist f.env base table history stage.flags s) := by
  unfold MavsdkExecutor.onFailure
  by_cases caught : e.cls.isMissionFailure = true
  · rw [if_pos caught]
    refine triple_pre
      (K := fun s => f.env.Causes e ∧ Hist f.env base table stage.history stage.flags s)
      (triple_fact fun causes => ?_) fun _ pre => ⟨pre.1.causes, pre.2⟩
    refine triple_bind (triple_except (triple_recoverStatus f.x) fun e' s post => ?_)
      fun outcome => ?_
    · obtain ⟨uncaught, origin, tail, recovery, hist⟩ := post
      exact ⟨_, .cut stage e e' settled uncaught origin tail recovery, hist⟩
    · refine triple_exists fun tail => triple_fact fun recovery => ?_
      refine triple_bind (triple_except (triple_writeAuditRecordBestEffort _)
        fun e' s ⟨rude, hist⟩ => ?_) fun _ => triple_raise fun s hist => ?_
      · exact ⟨_, .lost stage e e' settled rude outcome.1 outcome.2 tail recovery, hist⟩
      · exact ⟨_, .handled stage e caught causes settled outcome.1 outcome.2 tail recovery, hist⟩
  · rw [if_neg caught]
    exact triple_raise fun s ⟨origin, hist⟩ =>
      ⟨_, .unhandled stage e (by simpa using caught) origin settled, hist⟩

/-- **A run of `_execute`.** One that returns is woven from the history of the whole flight, one
    that raises from a broken history; the nonce table is not touched. -/
theorem triple_execute' (f : Flight N) :
    Triple (fun s => s.trace = base ∧ s.nonces = table)
      (f.x.execute' f.env f.mission f.approval)
      (fun result s => result = ⟨true, auditPath f.x.logDirectory f.mission.missionId⟩ ∧
        ∃ c item, Hist f.env base table (f.completeHistory c item) ⟨true, false, true⟩ s)
      (fun e s => ∃ history flags, Broken f base s.trace e history ∧
        Hist f.env base table history flags s) := by
  intro s₀ ⟨at_base, at_table⟩
  have start : Hist f.env base table [] s₀.flags s₀ :=
    ⟨by rw [at_base]; exact .start, rfl, at_table⟩
  let early : List (Mark N) → Flags → Prop := fun history flags =>
    flags = s₀.flags ∧ ∃ stage : Stage f, stage.Early ∧ stage.history = history
  have broken : ∀ (e : PyExc) (s : ExecState N), Stop f.env base table early e s →
      ∃ history flags, Broken f base s.trace e history ∧
        Hist f.env base table history flags s := by
    rintro e s ⟨origin, history, flags, ⟨-, stage, before, rfl⟩, hist⟩
    exact ⟨_, flags, .early stage before e origin.causes, hist⟩
  have run : Triple (Hist f.env base table [] s₀.flags)
      (f.x.execute' f.env f.mission f.approval)
      (fun result s => result = ⟨true, auditPath f.x.logDirectory f.mission.missionId⟩ ∧
        ∃ c item, Hist f.env base table (f.completeHistory c item) ⟨true, false, true⟩ s)
      (fun e s => ∃ history flags, Broken f base s.trace e history ∧
        Hist f.env base table history flags s) := by
    unfold MavsdkExecutor.execute'
    refine triple_bind (Q := fun _ => Hist f.env base table (f.linkHistory.take 2) s₀.flags) ?_
      fun _ => ?_
    · unfold MavsdkExecutor.createSystem
      refine triple_bind (triple_emit _) fun _ => triple_bind (triple_ask _) fun failure => ?_
      refine triple_bind
        (Q := fun _ => Hist f.env base table (f.linkHistory.take 1) s₀.flags)
        (triple_raiseOption (fun _ _ post => post.2) ?_) fun _ => ?_
      · rintro e s rfl ⟨asked, hist⟩
        exact ⟨_, s₀.flags, .early (.creating ⟨_, e, asked.symm⟩) trivial e
          (Or.inr (Or.inr (Or.inr ⟨_, asked.symm⟩))), hist⟩
      · refine triple_bind (triple_emit _) fun _ => triple_modify fun s hist => ?_
        exact ⟨hist.woven, hist.flags_eq, hist.nonces_eq⟩
    refine triple_bind (triple_except (triple_writeAuditRecord _
      fun refused => show early _ _ from ⟨rfl, .unstarted refused, trivial, rfl⟩) broken)
      fun logPath => ?_
    refine triple_fact fun path => ?_
    refine triple_bind (triple_setFlags _) fun _ => ?_
    refine triple_bind (triple_handle (triple_fly f) fun e => ?_) fun _ => ?_
    · intro s ⟨origin, stage, settled, hist⟩
      have handled := triple_onFailure f e stage settled s
        ⟨origin, hist⟩
      cases run : f.x.onFailure f.env f.mission.missionId e s with
      | mk r s' =>
        rw [run] at handled
        cases r with
        | ok _ => exact handled.elim
        | error e' =>
          obtain ⟨history, shape, hist'⟩ := handled
          exact ⟨history, stage.flags, shape, hist'⟩
    · refine triple_exists fun c => triple_exists fun item => ?_
      have whole : f.landHistory c item ++ [f.attempted (.actionCompleted f.landSequence .land)] ++
          [f.attempted .missionCompleted] = f.completeHistory c item := by
        simp [Flight.completeHistory]
      refine triple_bind (triple_except (triple_writeAuditRecordBestEffort _)
        fun e s ⟨rude, hist⟩ => ?_) fun _ => triple_pure fun s hist => ?_
      · exact ⟨_, _, .finished c item e rude, whole ▸ hist⟩
      · exact ⟨by rw [path], c, item, whole ▸ hist⟩
  exact run s₀ start

end Recovery

end Nightjar
