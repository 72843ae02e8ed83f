import Nightjar.Flight.Proofs.Recovery

/-!
# Runs in an orderly environment

In an orderly environment a mission task raises what the handler of `_execute` catches, a recovery
raises what `_recover_protected` is guarded against, and the writers raise ordinary exceptions.
Then a run that fails fails before the `try`, or in the handler, which runs to its end.
-/

namespace Nightjar

open Interact Prog Exec Python

/-- The exceptions of the vehicle are those that `_execute` provides for: outside a recovery an
    `Exception`, a `CancelledError` or a `KeyboardInterrupt`, in it one of the first two. -/
structure Vehicle.Orderly {N : Type} (v : Vehicle N) : Prop where
  outside : ∀ t e, Event.recoveryStarted ∉ t → v.Raises t e → e.cls.isMissionFailure = true
  inside : ∀ t e, Event.recoveryStarted ∈ t → v.Raises t e → e.cls.isExceptionOrCancelled = true

/-- The vehicle is orderly, and the writers raise an `Exception` if anything. -/
structure Env.Orderly {N : Type} (env : Env N) : Prop where
  vehicle : env.toVehicle.Orderly
  writers : ∀ e, env.WritersRaise e → e.cls.isException = true

section Recovers

variable {N : Type}

/-- A mark of a recovery. -/
def Mark.recovers : Mark N → Bool
  | .exactly .recoveryStarted | .exactly (.cleanupInAir _) => true
  | _ => false

/-- A mark that a landing was confirmed. -/
def Mark.confirmsLanding : Mark N → Bool
  | .exactly (.confirmed .landing) => true
  | _ => false

/-- An event that is neither noise nor a record is in a woven trace only as a mark. -/
theorem mark_of_mem {env : Env N} {base later : List (Event N)} {history : List (Mark N)}
    {e : Event N}
    (woven : Weave (Mark.Happens env) (fun _ => Mark.Noise) base history (base ++ later))
    (quiet : ¬ Mark.Noise e) (unrecorded : ∀ record failure, e ≠ .audit record failure)
    (dry : ∀ item, e ≠ .inAir item) (member : e ∈ later) : Mark.exactly e ∈ history := by
  rcases woven.mem rfl member with ⟨-, noisy⟩ | ⟨mark, past, t, happened⟩
  · exact absurd noisy quiet
  · cases mark with
    | exactly event => rw [show e = event from happened]; exact past
    | attempt record => exact absurd happened (unrecorded _ _)
    | landing item => exact absurd happened.1 (dry _)

variable [Field N] [LinearOrder N] [FloorRing N] [PyMath N] [PyText N] [Crypto] {f : Flight N}

/-- What no hold has, several holds have not. -/
theorem any_holdsMarks {p : Mark N → Bool}
    (one : ∀ sequence duration, (f.holdMarks sequence duration).any p = false)
    (holds : List Int) : ∀ sequence, (f.holdsMarks sequence holds).any p = false := by
  induction holds with
  | nil => exact fun _ => rfl
  | cons duration holds ih =>
    intro sequence
    rw [Flight.holdsMarks, List.any_append, one, ih]
    rfl

omit [FloorRing N] [PyMath N] [PyText N] in
/-- What no recovery has, the marks after a failure have not. -/
theorem any_tail {p : Mark N → Bool} {x : MavsdkExecutor N} {flags : Flags}
    {status : RecoveryStatus} {tail : List (Mark N)} (recovery : Tail x flags status tail)
    (one : ∀ (attempted : Bool) (c : Cleanup x attempted),
      (Mark.exactly .recoveryStarted :: c.marks).any p = false) : tail.any p = false := by
  rcases recovery with ⟨-, -, rfl⟩ | ⟨-, cleanup, -, rfl⟩
  · rfl
  · exact one _ cleanup

/-- A flight has no marks of a recovery. -/
theorem recovers_history (stage : Stage f) : stage.history.any Mark.recovers = false := by
  have holds := fun sequence durations => any_holdsMarks (f := f) (p := Mark.recovers)
    (fun _ _ => rfl) durations sequence
  cases stage with
  | cruising c done | holdAnnounced c done | holding c done | landAnnounced c | landing c
  | landSent c | landSeen c item | reported c item =>
    simp only [Stage.history, Flight.landHistory, Flight.cruiseHistory, List.any_append, holds]
    rfl
  | _ => rfl

/-- Before the confirmed landing there is no mark of it. -/
theorem confirmsLanding_history (stage : Stage f) (unsettled : ¬ stage.Settled) :
    stage.history.any Mark.confirmsLanding = false := by
  have holds := fun sequence durations => any_holdsMarks (f := f) (p := Mark.confirmsLanding)
    (fun _ _ => rfl) durations sequence
  cases stage with
  | reported c item => exact absurd trivial unsettled
  | cruising c done | holdAnnounced c done | holding c done | landAnnounced c | landing c
  | landSent c | landSeen c item =>
    simp only [Stage.history, Flight.cruiseHistory, List.any_append, holds]
    rfl
  | _ => rfl

end Recovers

section Absent

variable {N : Type} {env : Env N} {base trace : List (Event N)} {history : List (Mark N)}

/-- A history without marks of a recovery adds no event of one. -/
theorem not_mem_recoveryStarted
    (woven : Weave (Mark.Happens env) (fun _ => Mark.Noise) base history trace)
    (absent : Event.recoveryStarted ∉ base) (quiet : history.any Mark.recovers = false) :
    Event.recoveryStarted ∉ trace := by
  obtain ⟨later, rfl⟩ := woven.base_prefix
  refine fun member => (List.mem_append.mp member).elim absent fun member => ?_
  have mark := mark_of_mem (e := .recoveryStarted) woven id
    (fun _ _ same => nomatch same) (fun _ same => nomatch same) member
  rw [List.any_eq_false] at quiet
  exact quiet _ mark rfl

/-- Nor does one without a mark of a confirmed landing add that event. -/
theorem not_mem_confirmed_landing
    (woven : Weave (Mark.Happens env) (fun _ => Mark.Noise) base history trace)
    (absent : Event.confirmed .landing ∉ base)
    (unconfirmed : history.any Mark.confirmsLanding = false) :
    Event.confirmed .landing ∉ trace := by
  obtain ⟨later, rfl⟩ := woven.base_prefix
  refine fun member => (List.mem_append.mp member).elim absent fun member => ?_
  have mark := mark_of_mem (e := .confirmed .landing) woven id
    (fun _ _ same => nomatch same) (fun _ same => nomatch same) member
  rw [List.any_eq_false] at unconfirmed
  exact unconfirmed _ mark rfl

end Absent

section Outcome

variable {N : Type} [Field N] [LinearOrder N] [FloorRing N] [PyMath N] [PyText N] [Crypto]

omit [Field N] [LinearOrder N] [FloorRing N] [PyMath N] [PyText N] [Crypto] in
/-- No writer is rude in an orderly environment. -/
theorem Env.Orderly.not_rude {env : Env N} (orderly : env.Orderly) (e : PyExc) :
    ¬ env.Rude e := by
  rintro ⟨raised, rude⟩
  rw [orderly.writers e raised] at rude
  cases rude

/-- How a run of `_execute` in an orderly environment ends, and its history. -/
inductive Ended (f : Flight N) : Except PyExc ExecutionResult → List (Mark N) → Prop
  | completed (c : Climbed f) (item : Flag) :
      Ended f (.ok ⟨true, auditPath f.x.logDirectory f.mission.missionId⟩)
        (f.completeHistory c item)
  /-- Before the `try`. -/
  | early (stage : Stage f) (before : stage.Early) (e : PyExc) : Ended f (.error e) stage.history
  /-- In the flight; the handler ran to its end. -/
  | failed (stage : Stage f) (unsettled : ¬ stage.Settled) (e : PyExc)
      (status : RecoveryStatus) (errorType : Option String) (tail : List (Mark N))
      (recovery : Tail f.x stage.flags status tail) :
      Ended f (.error e)
        (stage.history ++ tail ++ [f.attempted (.missionFailed e.text status errorType)])

/-- **A run in an orderly environment.** -/
theorem ended_execute' (f : Flight N) (orderly : f.env.Orderly) (table : NonceTable) :
    ∀ result s, f.x.execute' f.env f.mission f.approval (.init N table) = (result, s) →
      ∃ history flags, Ended f result history ∧ Hist f.env [] table history flags s := by
  intro result s run
  have ran := triple_execute' f (.init N table) ⟨rfl, rfl⟩
  rw [run] at ran
  cases result with
  | ok result =>
    obtain ⟨rfl, c, item, hist⟩ := ran
    exact ⟨_, _, .completed c item, hist⟩
  | error e =>
    obtain ⟨history, flags, broken, hist⟩ := ran
    have unsettled : ∀ {stage : Stage f} {e : PyExc}, (stage.Settled → f.env.Rude e) →
        ¬ stage.Settled := fun settled reached => orderly.not_rude _ (settled reached)
    cases broken with
    | early stage before e _ => exact ⟨_, _, .early stage before e, hist⟩
    | unhandled stage e uncaught origin settled =>
      have caught : e.cls.isMissionFailure = true := by
        rcases origin with flight | writers | ⟨t, -, past, raised⟩
        · exact ExcClass.isMissionFailure_of_isExceptionOrCancelled
            (ExcClass.isExceptionOrCancelled_of_isException
              (ExcClass.isException_of_isFlight flight))
        · exact absurd (orderly.writers e writers) fun ordinary => by
            rw [ExcClass.isMissionFailure_of_isExceptionOrCancelled
              (ExcClass.isExceptionOrCancelled_of_isException ordinary)] at uncaught
            cases uncaught
        · exact orderly.vehicle.outside t e
            (fun member => not_mem_recoveryStarted hist.woven List.not_mem_nil
              (recovers_history stage) (past.subset member)) raised
      rw [caught] at uncaught
      cases uncaught
    | handled stage e caught _ settled status errorType tail recovery =>
      exact ⟨_, _, .failed stage (unsettled settled) e status errorType tail recovery, hist⟩
    | cut stage e e' settled uncaught origin tail recovery =>
      rcases origin with ⟨t, recovering, raised⟩ | rude
      · rw [orderly.vehicle.inside t _ recovering raised] at uncaught
        cases uncaught
      · exact absurd rude (orderly.not_rude _)
    | lost stage e e' settled rude => exact absurd rude (orderly.not_rude _)
    | finished c item e rude => exact absurd rude (orderly.not_rude _)

end Outcome

end Nightjar
