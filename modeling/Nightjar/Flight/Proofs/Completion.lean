import Nightjar.Flight.Proofs.Launch

/-!
# What `execute` has done when it ends

A run of `execute` that returns has consumed the approval and flown the mission to its end. One
that raises an exception either did nothing, and the exception says so by its class, or consumed
the approval and did not fly the mission to its end. The classes tell the two apart as long as
neither the vehicle nor the writers raise one that stands for a refusal.
-/

namespace Nightjar

open Interact Prog Exec Python

/-- Neither the vehicle nor the writers raise a class that stands for a refused authorization,
    SQLite fails with `sqlite3.Error` only, and printing does not fail. -/
structure Env.Unambiguous {N : Type} (env : Env N) : Prop where
  vehicle : ∀ t e, env.toVehicle.Raises t e → e.cls.isAuthorization = false
  system : ∀ t e, env.systemFactory t = some e → e.cls.isAuthorization = false
  writers : ∀ t record e, env.audit t record = some e → e.cls.isAuthorization = false
  sqlite : env.sqlite.OnlySqlite
  stdout : ∀ t line, env.stdout t line = none
  stderr : ∀ t line, env.stderr t line = none

/-- What can raise in `_execute` does not raise a refusal. -/
theorem Env.Unambiguous.causes {N : Type} {env : Env N} (unambiguous : env.Unambiguous)
    {e : PyExc} (causes : env.Causes e) : e.cls.isAuthorization = false := by
  rcases causes with flight | ⟨t, record, e', refused, same | ⟨t', line, printed⟩⟩ |
    ⟨t, raised⟩ | ⟨t, raised⟩
  · exact ExcClass.isAuthorization_of_isFlight flight
  · rw [same]
    exact unambiguous.writers t record e' refused
  · rw [unambiguous.stderr t' line] at printed
    cases printed
  · exact unambiguous.vehicle t e raised
  · exact unambiguous.system t e raised

theorem Env.unambiguous_calm {N : Type} (telemetry : Telemetry N) (clock : Int) :
    (Env.calm telemetry clock).Unambiguous where
  vehicle t e raised := absurd raised (Vehicle.not_raises_calm telemetry t e)
  system _ _ raised := nomatch raised
  writers _ _ _ raised := nomatch raised
  sqlite := ⟨nofun, nofun, nofun, nofun⟩
  stdout _ _ := rfl
  stderr _ _ := rfl

section Completion

variable {N : Type}

/-- The start of a trace is before the recovery if it is in a longer one. -/
theorem beforeRecovery_isPrefix (trace more : List (Event N)) :
    beforeRecovery trace <+: beforeRecovery (trace ++ more) := by
  unfold beforeRecovery
  rw [List.takeWhile_append]
  split
  · exact (List.takeWhile_prefix _).trans (List.prefix_append _ _)
  · exact List.prefix_rfl

theorem mem_beforeRecovery_append {trace more : List (Event N)} {e : Event N}
    (member : e ∈ beforeRecovery (trace ++ more)) : e ∈ beforeRecovery trace ∨ e ∈ more := by
  unfold beforeRecovery at member ⊢
  rw [List.takeWhile_append] at member
  split at member
  · rename_i whole
    rcases List.mem_append.mp member with old | new
    · rw [(List.takeWhile_prefix _).eq_of_length whole]
      exact Or.inl old
    · exact Or.inr ((List.takeWhile_prefix _).subset new)
  · exact Or.inl member

variable [Field N] [LinearOrder N] [FloorRing N] [PyMath N] [PyText N] [Crypto]

/-- The events that complete an action. -/
def MissionAction.completion : MissionAction N → List (Event N)
  | .takeoff _ => [.returned .takeoff, .confirmed .altitude]
  | .hold durationSeconds => [.returned (.sleep durationSeconds)]
  | .land => [.returned .land, .confirmed .landing]
  | .goto _ _ _ => []
  | .returnHome => []

/-- Every action was completed, in order, and not by a recovery. -/
def FlownToTheEnd (mission : Mission N) (trace : List (Event N)) : Prop :=
  (mission.actions.flatMap MissionAction.completion).Sublist (beforeRecovery trace)

omit [FloorRing N] [PyMath N] [PyText N] [Crypto] in
theorem FlownToTheEnd.of_asides {mission : Mission N} {s s' : ExecState N}
    (flown : FlownToTheEnd mission s.trace) (asides : Asides s s') :
    FlownToTheEnd mission s'.trace := by
  obtain ⟨⟨extra, more, -⟩, -⟩ := asides
  rw [more]
  exact flown.trans (beforeRecovery_isPrefix _ _).sublist

variable {f : Flight N} {base trace : List (Event N)}

/-- The holds of a history are completed in order. -/
theorem completion_holds (holds : List Int) : ∀ sequence,
    ((holds.map MissionAction.hold).flatMap MissionAction.completion).Sublist
      ((f.holdsMarks sequence holds).filterMap Mark.event?) := by
  induction holds with
  | nil => exact fun _ => List.Sublist.slnil
  | cons duration holds ih =>
    intro sequence
    rw [Flight.holdsMarks, List.filterMap_append]
    refine List.Sublist.append ?_ (ih (sequence + 1))
    exact List.sublist_append_right [Event.issued (Command.sleep duration)] _

/-- A whole flight completes every action. -/
theorem completion_sublist (c : Climbed f) (item : Flag) :
    (f.mission.actions.flatMap MissionAction.completion).Sublist
      ((f.completeHistory c item).filterMap Mark.event?) := by
  have climbed : (MissionAction.takeoff f.altitude).completion.Sublist
      (((f.climbHistory c) ++ [f.attempted (.actionCompleted 1 .takeoff)]).filterMap
        Mark.event?) := by
    simp only [Flight.climbHistory, List.filterMap_append]
    refine List.Sublist.trans ?_ (List.sublist_append_left _ _)
    refine List.Sublist.trans ?_ (List.sublist_append_right _ _)
    exact .cons _ (.cons_cons _ (.cons _ (.cons_cons _ .slnil)))
  have landed : (MissionAction.land (N := N)).completion.Sublist
      ([f.attempted (.actionStarted f.landSequence .land), .exactly (.issued .land),
        .exactly (.returned .land), .landing item, .exactly (.confirmed .landing)].filterMap
          Mark.event?) := .cons _ (.cons_cons _ (.cons_cons _ .slnil))
  rw [f.plan, List.flatMap_cons, List.flatMap_append, List.flatMap_singleton]
  rw [Flight.completeHistory, List.filterMap_append]
  refine List.Sublist.trans ?_ (List.sublist_append_left _ _)
  rw [Flight.landHistory, Flight.cruiseHistory, List.append_assoc, List.filterMap_append]
  refine climbed.append ?_
  rw [List.filterMap_append]
  exact (completion_holds f.holds 2).append landed

/-- Nor does it recover. -/
theorem recovers_completeHistory (c : Climbed f) (item : Flag) :
    (f.completeHistory c item).any Mark.recovers = false := by
  have flight := recovers_history (.reported c item : Stage f)
  rw [Flight.completeHistory, List.append_cons, List.any_append]
  exact Bool.or_eq_false_iff.mpr ⟨flight, rfl⟩

/-- A flight that the handler ended before its landing was confirmed has no confirmed landing
    before the recovery. -/
theorem not_landed {env : Env N} {stage : Stage f} (unsettled : ¬ stage.Settled)
    {rest : List (Mark N)}
    (shape : rest.any Mark.confirmsLanding = false ∨
      ∃ recovery, rest = .exactly .recoveryStarted :: recovery)
    (absent : Event.confirmed .landing ∉ base) (quiet : Event.recoveryStarted ∉ base)
    (woven : Weave (Mark.Happens env) (fun _ => Mark.Noise) base (stage.history ++ rest) trace) :
    Event.confirmed .landing ∉ beforeRecovery trace := by
  have unconfirmed := confirmsLanding_history stage unsettled
  rcases shape with none | ⟨recovery, rfl⟩
  · have unmarked : (stage.history ++ rest).any Mark.confirmsLanding = false := by
      rw [List.any_append, none, unconfirmed]
      rfl
    exact fun member => not_mem_confirmed_landing woven absent unmarked
      ((List.takeWhile_prefix _).subset member)
  · obtain ⟨flight, started, first, same, second⟩ := woven.at_step rfl
    obtain ⟨later, rfl⟩ := second.base_prefix
    rw [show started = Event.recoveryStarted from same, List.append_assoc, List.singleton_append,
      (beforeRecovery_append (not_mem_recoveryStarted first quiet (recovers_history stage)) _).1]
    exact not_mem_confirmed_landing first absent unconfirmed

/-- In an unambiguous environment a flight that ends with an ordinary exception was not a refusal,
    and has no confirmed landing before the recovery. -/
theorem Broken.unlanded {e : PyExc} {history : List (Mark N)}
    (broken : Broken f base trace e history) (unambiguous : f.env.Unambiguous)
    (ordinary : e.cls.isException = true) (absent : Event.confirmed .landing ∉ base)
    (quiet : Event.recoveryStarted ∉ base)
    (woven : Weave (Mark.Happens f.env) (fun _ => Mark.Noise) base history trace) :
    e.cls.isAuthorization = false ∧ Event.confirmed .landing ∉ beforeRecovery trace := by
  have caught := ExcClass.isExceptionOrCancelled_of_isException ordinary
  have polite : ¬ f.env.Rude e := by
    rintro ⟨-, rude⟩
    rw [ordinary] at rude
    cases rude
  cases broken with
  | early stage before e causes =>
    refine ⟨unambiguous.causes causes, not_landed ?_ (Or.inl rfl)
      absent quiet (by rwa [List.append_nil])⟩
    cases stage <;> first | exact id | cases before
  | handled stage e _ causes settled status errorType tail recovery =>
    rw [List.append_assoc] at woven
    refine ⟨unambiguous.causes causes, not_landed (fun reached => polite (settled reached)) ?_
      absent quiet woven⟩
    rcases recovery with ⟨-, -, rfl⟩ | ⟨-, cleanup, -, rfl⟩
    · exact Or.inl rfl
    · exact Or.inr ⟨_, rfl⟩
  | unhandled stage e uncaught =>
    rw [ExcClass.isMissionFailure_of_isExceptionOrCancelled caught] at uncaught
    cases uncaught
  | cut stage e e' settled uncaught =>
    rw [caught] at uncaught
    cases uncaught
  | lost stage e e' settled rude => exact absurd rude polite
  | finished c item e rude => exact absurd rude polite

end Completion

section Outcomes

variable {N : Type} [Field N] [LinearOrder N] [FloorRing N] [PyMath N] [PyText N] [Crypto]
  {x : MavsdkExecutor N} {env : Env N} {mission : Mission N} {approval : SignedApproval}
  {s₀ s : ExecState N}

/-- The approval's row, and no other, was added. -/
def Consumed (env : Env N) (approval : SignedApproval) (s₀ s : ExecState N) : Prop :=
  s.nonces.rows = s₀.nonces.rows ++ [approval.payload.row env.clock]

omit [FloorRing N] in
/-- An approved mission can only be refused for an unsupported action. -/
theorem unsupported_of_validateMission {e : PyExc}
    (approved : PolicyEngine.Approves x.limits mission.actions)
    (raised : x.validateMission mission = .error e) : e.cls = .unsupportedMavsdkActionError := by
  obtain ⟨decision, evaluated, accepted⟩ := approved
  unfold MavsdkExecutor.validateMission PolicyEngine.evaluate at raised
  simp only [evaluated, bind, Except.bind, accepted] at raised
  split at raised
  · rename_i unapproved
    cases unapproved
  · split at raised <;> cases raised
    rfl

omit [FloorRing N] [PyMath N] in
/-- What the verification or the consumption raises stands for a refusal. -/
theorem isAuthorization_of_refusal {e : PyExc} (only : env.sqlite.OnlySqlite)
    (refusal : verifyAndConsumeApproval env.sqlite approval x.publicKey mission x.limits
      mavsdkExecutorName env.clock maxClockSkewSeconds maxLifetimeSeconds s₀.nonces =
        (.error e, s₀.nonces)) : e.cls.isAuthorization = true := by
  rcases ((triple_verifyAndConsumeApproval _ _ _ _ _ _ _ _ _ _).raised rfl refusal).2 with
    unverified | faulty | replayed
  · rw [unverified]
    rfl
  · simp [ExcClass.isAuthorization, only.of_raises faulty]
  · rw [replayed]
    rfl

/-- A run of `execute` that returns has consumed the approval and flown to the end. -/
theorem Executed.returned {r : ExecutionResult}
    (executed : Executed x env mission approval s₀ (.ok r) s)
    (quiet : Event.recoveryStarted ∉ s₀.trace) :
    Consumed env approval s₀ s ∧ FlownToTheEnd mission s.trace := by
  generalize outcome : (Except.ok r : Except PyExc ExecutionResult) = final at executed
  cases executed with
  | refused | unauthorized => cases outcome
  | ran table' result _ s' _ accepted consumed run asides ending =>
    rcases ending with rfl | ⟨e, raised, -⟩
    · subst outcome
      obtain ⟨altitude, holds, plan, -⟩ := plan_of_validateMission accepted
      let f : Flight N := ⟨x, env, mission, approval, altitude, holds, plan⟩
      have flown := triple_execute' f (s₀.authorized approval.payload table') ⟨rfl, rfl⟩
      rw [show f.x.execute' f.env f.mission f.approval (s₀.authorized approval.payload table') =
        (.ok r, s') from run] at flown
      obtain ⟨-, c, item, hist⟩ := flown
      constructor
      · rw [Consumed, asides.nonces_eq, hist.nonces_eq]
        exact (NonceTable.insert_eq_some (verified_of_returned consumed).2).2
      · have unrecovered := not_mem_recoveryStarted hist.woven
          (by simpa [ExecState.authorized] using quiet) (recovers_completeHistory c item)
        refine FlownToTheEnd.of_asides ?_ asides
        rw [FlownToTheEnd, (beforeRecovery_eq_self unrecovered).1]
        exact sublist_of_weave hist.woven (completion_sublist c item)
    · rw [raised] at outcome
      cases outcome

/-- A flight that ends with an ordinary exception was not refused, and has no confirmed landing
    before the recovery. -/
theorem unlanded_of_ran {table' : NonceTable} {result : Except PyExc ExecutionResult} {e : PyExc}
    (unambiguous : env.Unambiguous) (accepted : x.validateMission mission = .ok ())
    (run : x.execute' env mission approval (s₀.authorized approval.payload table') = (result, s))
    (outcome : .error e = result ∨ ∃ e', (.error e : Except PyExc ExecutionResult) = .error e' ∧
      (e'.cls.isException = false ∨ ∃ t line, env.stderr t line = some e'))
    (ordinary : e.cls.isException = true) (quiet : Event.recoveryStarted ∉ s₀.trace)
    (absent : Event.confirmed .landing ∉ s₀.trace) :
    s.nonces = table' ∧ e.cls.isAuthorization = false ∧
      Event.confirmed .landing ∉ beforeRecovery s.trace := by
  have failed : result = .error e := by
    rcases outcome with same | ⟨e', same, rude | ⟨t, line, printed⟩⟩
    · exact same.symm
    · cases same
      rw [ordinary] at rude
      cases rude
    · rw [unambiguous.stderr t line] at printed
      cases printed
  obtain ⟨altitude, holds, plan, -⟩ := plan_of_validateMission accepted
  let f : Flight N := ⟨x, env, mission, approval, altitude, holds, plan⟩
  have flown := triple_execute' f (s₀.authorized approval.payload table') ⟨rfl, rfl⟩
  rw [show f.x.execute' f.env f.mission f.approval (s₀.authorized approval.payload table') =
    (.error e, s) from failed ▸ run] at flown
  obtain ⟨history, flags, broken, hist⟩ := flown
  exact ⟨hist.nonces_eq, broken.unlanded unambiguous ordinary
    (by simpa [ExecState.authorized] using absent) (by simpa [ExecState.authorized] using quiet)
    hist.woven⟩

/-- A run of `execute` on an approved mission that raises an ordinary exception was refused, and
    says so, or has consumed the approval and not flown to the end; nor do later asides change
    that. -/
theorem Executed.raised {e : PyExc} (unambiguous : env.Unambiguous)
    (approved : PolicyEngine.Approves x.limits mission.actions)
    (executed : Executed x env mission approval s₀ (.error e) s)
    (ordinary : e.cls.isException = true) (quiet : Event.recoveryStarted ∉ s₀.trace)
    (absent : Event.confirmed .landing ∉ s₀.trace) :
    (e.cls.isAuthorization = true ∧ s = s₀) ∨ (e.cls.isAuthorization = false ∧
      Consumed env approval s₀ s ∧ ∀ s', Asides s s' → ¬ FlownToTheEnd mission s'.trace) := by
  generalize outcome : (Except.error e : Except PyExc ExecutionResult) = final at executed
  cases executed with
  | refused e' refusal =>
    cases outcome
    have unsupported := unsupported_of_validateMission approved refusal
    exact Or.inl ⟨by rw [unsupported]; rfl, rfl⟩
  | unauthorized e' accepted refusal =>
    cases outcome
    exact Or.inl ⟨isAuthorization_of_refusal unambiguous.sqlite refusal, rfl⟩
  | ran table' result _ s' _ accepted consumed run asides ending =>
    rw [← outcome] at ending
    obtain ⟨kept, told, unlanded⟩ := unlanded_of_ran unambiguous accepted run ending ordinary quiet
      absent
    obtain ⟨altitude, holds, plan, -⟩ := plan_of_validateMission accepted
    refine Or.inr ⟨told, ?_, fun later after complete => ?_⟩
    · rw [Consumed, asides.nonces_eq, kept]
      exact (NonceTable.insert_eq_some (verified_of_returned consumed).2).2
    · obtain ⟨⟨extra, more, all⟩, -⟩ := asides.trans after
      have landed : Event.confirmed .landing ∈ beforeRecovery later.trace := by
        refine complete.subset ?_
        rw [plan]
        simp [MissionAction.completion]
      rw [more] at landed
      rcases mem_beforeRecovery_append landed with flight | aside
      · exact unlanded flight
      · exact all _ aside

end Outcomes

end Nightjar
