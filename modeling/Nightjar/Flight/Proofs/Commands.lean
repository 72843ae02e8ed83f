import Mathlib.Data.List.TakeWhile
import Nightjar.Flight.Calm

/-!
# The commands of a run

The commands and sleeps that a run issues are a prefix of the planned ones, followed by what the
recovery issues. How much of the plan was issued decides which recovery that is.
-/

namespace Nightjar

open Interact Prog Exec Python

section Projections

variable {N : Type}

/-- The command that an event issues. -/
def Event.command? : Event N → Option (Command N)
  | .issued c => some c
  | _ => none

/-- The commands and sleeps issued in a trace. -/
def commands (trace : List (Event N)) : List (Command N) := trace.filterMap Event.command?

/-- The item of an event by which the recovery chooses. -/
def Event.cleanupItem? : Event N → Option Flag
  | .cleanupInAir item => some item
  | _ => none

/-- The first `in_air` item that the recovery read to choose the cleanup. -/
def firstCleanupItem (trace : List (Event N)) : Option Flag :=
  (trace.filterMap Event.cleanupItem?).head?

/-- The event starts a recovery. -/
def Event.startsRecovery : Event N → Bool
  | .recoveryStarted => true
  | _ => false

/-- What happened before the recovery. -/
def beforeRecovery (trace : List (Event N)) : List (Event N) :=
  trace.takeWhile fun e => !e.startsRecovery

/-- What happened from the start of the recovery on. -/
def sinceRecovery (trace : List (Event N)) : List (Event N) :=
  trace.dropWhile fun e => !e.startsRecovery

/-- What a projection of events reads off a mark; a record is never projected. -/
def Mark.project {γ : Type} (f : Event N → Option γ) : Mark N → Option γ
  | .exactly e => f e
  | .attempt _ => none
  | .landing item => f (.inAir item)

/-- A projection that ignores records and noise reads off the history. -/
theorem filterMap_of_weave {γ : Type} {env : Env N} {base trace : List (Event N)}
    {history : List (Mark N)} (f : Event N → Option γ)
    (records : ∀ record failure, f (.audit record failure) = none)
    (noise : ∀ e, Mark.Noise e → f e = none)
    (woven : Weave (Mark.Happens env) (fun _ => Mark.Noise) base history trace) :
    trace.filterMap f = base.filterMap f ++ history.filterMap (Mark.project f) := by
  refine woven.filterMap_eq f (Mark.project f) ?_ fun _ => noise
  intro t mark e happens
  cases mark with
  | exactly event => cases happens; rfl
  | attempt record => cases happens; exact records _ _
  | landing item => cases happens.1; rfl

theorem command?_noise (e : Event N) (noise : Mark.Noise e) : e.command? = none := by
  cases e <;> first | rfl | cases noise

theorem cleanupItem?_noise (e : Event N) (noise : Mark.Noise e) : e.cleanupItem? = none := by
  cases e <;> first | rfl | cases noise

theorem startsRecovery_eq_false {trace : List (Event N)} (none : Event.recoveryStarted ∉ trace) :
    ∀ e ∈ trace, (!e.startsRecovery) = true := by
  intro e member
  cases e with
  | recoveryStarted => exact absurd member none
  | _ => rfl

/-- Without a recovery the whole trace lies before it. -/
theorem beforeRecovery_eq_self {trace : List (Event N)} (none : Event.recoveryStarted ∉ trace) :
    beforeRecovery trace = trace ∧ sinceRecovery trace = [] := by
  have quiet := startsRecovery_eq_false none
  exact ⟨List.takeWhile_eq_self_iff.mpr quiet, List.dropWhile_eq_nil_iff.mpr quiet⟩

/-- The first start of a recovery divides the trace. -/
theorem beforeRecovery_append {flight : List (Event N)} (none : Event.recoveryStarted ∉ flight)
    (recovery : List (Event N)) :
    beforeRecovery (flight ++ .recoveryStarted :: recovery) = flight ∧
      sinceRecovery (flight ++ .recoveryStarted :: recovery) = .recoveryStarted :: recovery := by
  have quiet := startsRecovery_eq_false none
  constructor
  · rw [beforeRecovery, List.takeWhile_append_of_pos quiet]
    exact List.append_nil _
  · rw [sinceRecovery, List.dropWhile_append_of_pos quiet]
    rfl

end Projections

section Plan

variable {N : Type} [Field N] [LinearOrder N] [FloorRing N] [PyMath N] [PyText N] [Crypto]

/-- The planned commands of a mission. -/
def plannedCommands (x : MavsdkExecutor N) (altitude : N) (holds : List Int) :
    List (Command N) :=
  [.connect x.systemAddress, .setTakeoffAltitude altitude, .arm, .takeoff] ++
    (holds.map .sleep ++ [.land])

/-- The commands that a cleanup issues, by the first item it read. -/
def cleanupCommands : Option Flag → List (Command N)
  | some .exactFalse => [.disarm]
  | some .exactTrue => [.land]
  | _ => []

/-- How many of the planned commands are issued at a stage. -/
def Stage.issuedCount {f : Flight N} : Stage f → Nat
  | .creating _ | .unstarted _ => 0
  | .connecting | .connected | .linked | .reachable | .healthy | .sighted _ | .located _ _
  | .unchecked _ _ | .mismatched _ _ | .unannounced _ _ => 1
  | .configuring _ => 2
  | .arming _ | .armSent _ | .armSeen _ | .armed _ | .rehealthy _ | .resighted _ _
  | .relocated _ _ _ | .unrechecked _ _ _ | .moved _ _ _ => 3
  | .launching _ | .launched _ | .high _ => 4
  | .cruising _ done _ | .holdAnnounced _ done _ _ => 4 + done.length
  | .holding _ done _ _ => 5 + done.length
  | .landAnnounced _ => 4 + f.holds.length
  | .landing _ | .landSent _ | .landSeen _ _ | .reported _ _ => 5 + f.holds.length

variable (f : Flight N)

theorem project_command_holdsMarks (holds : List Int) :
    ∀ sequence, (f.holdsMarks sequence holds).filterMap (Mark.project Event.command?) =
      holds.map .sleep := by
  induction holds with
  | nil => intro sequence; rfl
  | cons duration holds ih =>
    intro sequence
    rw [Flight.holdsMarks, List.filterMap_append, ih]
    rfl

/-- The first commands of the plan, by the number of holds. -/
theorem take_plannedCommands {done : List Int} {count : Nat} (some_done : done <+: f.holds)
    (counted : count = 4 + done.length) :
    (plannedCommands f.x f.altitude f.holds).take count =
      [.connect f.x.systemAddress, .setTakeoffAltitude f.altitude, .arm, .takeoff] ++
        done.map .sleep := by
  obtain ⟨rest, split⟩ := some_done
  have parts : plannedCommands f.x f.altitude f.holds =
      ([.connect f.x.systemAddress, .setTakeoffAltitude f.altitude, .arm, .takeoff] ++
        done.map .sleep) ++ (rest.map .sleep ++ [.land]) := by
    simp [plannedCommands, ← split]
  rw [parts]
  refine List.take_left' ?_
  rw [counted, List.length_append, List.length_map]
  rfl

/-- The whole plan. -/
theorem take_plannedCommands_all :
    (plannedCommands f.x f.altitude f.holds).take (5 + f.holds.length) =
      [.connect f.x.systemAddress, .setTakeoffAltitude f.altitude, .arm, .takeoff] ++
        f.holds.map .sleep ++ [.land] := by
  have whole : (plannedCommands f.x f.altitude f.holds).length = 5 + f.holds.length := by
    simp only [plannedCommands, List.length_append, List.length_cons, List.length_nil,
      List.length_map]
    omega
  rw [← whole, List.take_length, plannedCommands, List.append_assoc]

theorem commands_cruiseHistory (c : Climbed f) (done : List Int) :
    (f.cruiseHistory c done).filterMap (Mark.project Event.command?) =
      [.connect f.x.systemAddress, .setTakeoffAltitude f.altitude, .arm, .takeoff] ++
        done.map .sleep := by
  simp only [Flight.cruiseHistory, List.filterMap_append, project_command_holdsMarks]
  rfl

/-- The commands issued at a stage are the first ones of the plan. -/
theorem commands_stage (stage : Stage f) :
    stage.history.filterMap (Mark.project Event.command?) =
      (plannedCommands f.x f.altitude f.holds).take stage.issuedCount := by
  cases stage with
  | cruising c done some_done =>
    simp only [Stage.history, commands_cruiseHistory, Stage.issuedCount,
      take_plannedCommands f some_done rfl]
  | holdAnnounced c done duration next =>
    have some_done := (List.prefix_append done [duration]).trans next
    simp only [Stage.history, List.filterMap_append, commands_cruiseHistory, Stage.issuedCount,
      take_plannedCommands f some_done rfl]
    exact List.append_nil _
  | holding c done duration next =>
    have counted : 5 + done.length = 4 + (done ++ [duration]).length := by
      rw [List.length_append, List.length_singleton]
      omega
    simp only [Stage.history, List.filterMap_append, commands_cruiseHistory, Stage.issuedCount,
      take_plannedCommands f next counted]
    simp only [List.map_append, List.append_assoc, List.append_cancel_left_eq]
    rfl
  | landAnnounced c =>
    simp only [Stage.history, List.filterMap_append, commands_cruiseHistory, Stage.issuedCount,
      take_plannedCommands f List.prefix_rfl rfl]
    exact List.append_nil _
  | landing c | landSent c | landSeen c item | reported c item =>
    simp only [Stage.issuedCount, take_plannedCommands_all, Stage.history, Flight.landHistory,
      List.filterMap_append, commands_cruiseHistory, List.append_assoc,
      List.append_cancel_left_eq]
    rfl
  | _ => rfl

omit [FloorRing N] [PyMath N] [PyText N] in
/-- The cleanup issues what its first item tells it to, or lands after an attempted takeoff. -/
theorem commands_cleanup {x : MavsdkExecutor N} {attempted : Bool}
    (positive : 0 < x.landingTimeoutSeconds) (c : Cleanup x attempted) :
    (c.marks.filterMap (Mark.project (N := N) Event.command?)) =
      if attempted = true then [.land]
      else cleanupCommands
        (c.marks.filterMap (Mark.project (N := N) Event.cleanupItem?)).head? := by
  cases attempted with
  | true =>
    cases c with
    | begun undecided => rcases undecided with late | grounded
                         · exact absurd positive (not_lt.mpr late)
                         · cases grounded
    | refused truthy grounded => cases grounded
    | disarming grounded => cases grounded
    | disarmed grounded => cases grounded
    | _ => rfl
  | false => cases c <;> rfl

omit [Field N] [LinearOrder N] [FloorRing N] [PyMath N] [PyText N] in
/-- `arm` is the third command of the plan, and `takeoff` the fourth. -/
theorem mem_take_plannedCommands (x : MavsdkExecutor N) (altitude : N) (holds : List Int)
    (count : Nat) :
    (Command.arm ∈ (plannedCommands x altitude holds).take count ↔ 3 ≤ count) ∧
      (Command.takeoff ∈ (plannedCommands x altitude holds).take count ↔ 4 ≤ count) := by
  match count with
  | 0 | 1 | 2 | 3 => simp [plannedCommands]
  | count + 4 => simp [plannedCommands]

/-- Before the confirmed landing the flags tell how far the plan was issued. -/
theorem flags_stage (stage : Stage f) (unsettled : ¬ stage.Settled) :
    (stage.flags.recoveryRequired = true ↔ 3 ≤ stage.issuedCount) ∧
      (stage.flags.takeoffAttempted = true ↔ 4 ≤ stage.issuedCount) := by
  cases stage with
  | reported c item => exact absurd trivial unsettled
  | _ => simp [Stage.flags, Stage.issuedCount, Flags.initial]; try omega

end Plan

/-! ## The run -/

section Run

variable {N : Type} [Field N] [LinearOrder N] [FloorRing N] [PyMath N] [PyText N] [Crypto]

/-- The commands of a run follow the plan, up to the recovery. -/
structure FollowsPlan (planned : List (Command N)) (result : Except PyExc ExecutionResult)
    (trace : List (Event N)) : Prop where
  planned : commands (beforeRecovery trace) <+: planned
  /-- A run that returns does not recover. -/
  returned : ∀ r, result = .ok r → commands (sinceRecovery trace) = []
  /-- Nor does one that fails before `arm` was called. -/
  unarmed : ∀ e, result = .error e → Command.arm ∉ commands (beforeRecovery trace) →
    commands (sinceRecovery trace) = []
  /-- Between the calls of `arm` and of `takeoff` the first item decides. -/
  grounded : ∀ e, result = .error e → Command.arm ∈ commands (beforeRecovery trace) →
    Command.takeoff ∉ commands (beforeRecovery trace) →
    commands (sinceRecovery trace) = cleanupCommands (firstCleanupItem (sinceRecovery trace))
  /-- After the call of `takeoff` the vehicle lands. -/
  airborne : ∀ e, result = .error e → Command.takeoff ∈ commands (beforeRecovery trace) →
    commands (sinceRecovery trace) = [.land]
  /-- No run fails after its landing was confirmed. -/
  unlanded : ∀ e, result = .error e → Event.confirmed .landing ∉ beforeRecovery trace

omit [Field N] [LinearOrder N] [FloorRing N] [PyMath N] [PyText N] [Crypto] in
/-- The commands of a woven trace are those of its history. -/
theorem commands_of_weave {env : Env N} {trace : List (Event N)} {history : List (Mark N)}
    {base : List (Event N)}
    (woven : Weave (Mark.Happens env) (fun _ => Mark.Noise) base history trace) :
    commands trace = commands base ++ history.filterMap (Mark.project Event.command?) :=
  filterMap_of_weave Event.command? (fun _ _ => rfl) command?_noise woven

/-- A run without a recovery issues a part of the plan. -/
theorem followsPlan_of_unrecovered {f : Flight N} (env : Env N)
    {result : Except PyExc ExecutionResult} {trace : List (Event N)} (stage : Stage f)
    (records : List (AuditRecord N))
    (woven : Weave (Mark.Happens env) (fun _ => Mark.Noise) []
      (stage.history ++ records.map .attempt) trace)
    (unarmed : ∀ e, result = .error e → stage.issuedCount < 3 ∧ ¬ stage.Settled) :
    FollowsPlan (plannedCommands f.x f.altitude f.holds) result trace := by
  have plain : ∀ p : Mark N → Bool, (∀ record, p (.attempt record) = false) →
      stage.history.any p = false → (stage.history ++ records.map Mark.attempt).any p = false := by
    intro p quiet none
    simp [none, quiet]
  obtain ⟨before, since⟩ := beforeRecovery_eq_self
    (not_mem_recoveryStarted woven List.not_mem_nil
      (plain _ (fun _ => rfl) (recovers_history stage)))
  have all : commands trace =
      (plannedCommands f.x f.altitude f.holds).take stage.issuedCount := by
    have silent : (records.map Mark.attempt).filterMap
        (Mark.project (N := N) Event.command?) = [] := by simp [Mark.project]
    rw [commands_of_weave woven, List.filterMap_append, commands_stage, silent, List.append_nil]
    rfl
  obtain ⟨arm, takeoff⟩ := mem_take_plannedCommands f.x f.altitude f.holds stage.issuedCount
  refine ⟨?_, ?_, ?_, ?_, ?_, ?_⟩
  · rw [before, all]
    exact List.take_prefix _ _
  · intro r _
    rw [since]
    rfl
  · intro e _ _
    rw [since]
    rfl
  · intro e failed armed _
    rw [before, all, arm] at armed
    have early := (unarmed e failed).1
    omega
  · intro e failed flying
    rw [before, all, takeoff] at flying
    have early := (unarmed e failed).1
    omega
  · intro e failed
    rw [before]
    exact not_mem_confirmed_landing woven List.not_mem_nil
      (plain _ (fun _ => rfl) (confirmsLanding_history stage (unarmed e failed).2))

/-- A run with a recovery issues a part of the plan, and then what the recovery issues. -/
theorem followsPlan_of_recovered {f : Flight N} {env : Env N} {e : PyExc}
    {trace : List (Event N)} {rest : List (Mark N)} (stage : Stage f)
    (unsettled : ¬ stage.Settled) (positive : 0 < f.x.landingTimeoutSeconds)
    (required : stage.flags.recoveryRequired = true)
    (c : Cleanup f.x stage.flags.takeoffAttempted) (record : AuditRecord N)
    (split : rest = c.marks ++ [.attempt record])
    (woven : Weave (Mark.Happens env) (fun _ => Mark.Noise) []
      (stage.history ++ .exactly .recoveryStarted :: rest) trace) :
    FollowsPlan (plannedCommands f.x f.altitude f.holds) (.error e) trace := by
  obtain ⟨flight, started, first, same, second⟩ := woven.at_step rfl
  obtain ⟨recovery, whole⟩ := second.base_prefix
  rw [show started = Event.recoveryStarted from same] at second whole
  rw [List.append_assoc, List.singleton_append] at whole
  obtain ⟨before, since⟩ := beforeRecovery_append
    (not_mem_recoveryStarted first List.not_mem_nil (recovers_history stage)) recovery
  rw [whole] at before since
  have issued : commands flight =
      (plannedCommands f.x f.altitude f.holds).take stage.issuedCount := by
    rw [commands_of_weave first, commands_stage]
    rfl
  have recovered : ∀ {γ : Type} (g : Event N → Option γ),
      (∀ record failure, g (.audit record failure) = none) →
      (∀ e, Mark.Noise e → g e = none) → g .recoveryStarted = none →
      (sinceRecovery trace).filterMap g = c.marks.filterMap (Mark.project g) := by
    intro γ g records noise unread
    have reads := filterMap_of_weave g records noise second
    rw [← whole, List.append_cons flight, List.filterMap_append, List.append_cancel_left_eq,
      split, List.filterMap_append] at reads
    rw [since, List.filterMap_cons_none unread, reads]
    exact List.append_nil _
  have issuedByRecovery : commands (sinceRecovery trace) =
      c.marks.filterMap (Mark.project Event.command?) :=
    recovered Event.command? (fun _ _ => rfl) command?_noise rfl
  have readByRecovery : firstCleanupItem (sinceRecovery trace) =
      (c.marks.filterMap (Mark.project Event.cleanupItem?)).head? :=
    congrArg List.head? (recovered Event.cleanupItem? (fun _ _ => rfl) cleanupItem?_noise rfl)
  obtain ⟨arm, takeoff⟩ := mem_take_plannedCommands f.x f.altitude f.holds stage.issuedCount
  obtain ⟨requires, attempts⟩ := flags_stage f stage unsettled
  have landing := commands_cleanup positive c
  refine ⟨?_, ?_, ?_, ?_, ?_, ?_⟩
  · rw [before, issued]
    exact List.take_prefix _ _
  · intro r returned
    cases returned
  · intro e _ unarmed
    rw [before, issued, arm] at unarmed
    exact absurd (requires.mp required) unarmed
  · intro e _ _ grounded
    rw [before, issued, takeoff, ← attempts] at grounded
    rw [issuedByRecovery, readByRecovery, landing, if_neg grounded]
  · intro e _ flying
    rw [before, issued, takeoff, ← attempts] at flying
    rw [issuedByRecovery, landing, if_pos flying]
  · intro e _
    rw [before]
    exact not_mem_confirmed_landing first List.not_mem_nil
      (confirmsLanding_history stage unsettled)

/-- **The commands of a run.** In an orderly environment a run of `_execute` on an accepted mission
    issues a part of the plan, and then what the recovery is to do there. -/
theorem run_followsPlan (x : MavsdkExecutor N) (env : Env N) (mission : Mission N)
    (approval : SignedApproval) (table : NonceTable)
    (accepted : x.validateMission mission = .ok ()) (positive : 0 < x.landingTimeoutSeconds)
    (orderly : env.Orderly) :
    ∃ altitude holds, mission.actions = .takeoff altitude :: (holds.map .hold ++ [.land]) ∧
      FollowsPlan (plannedCommands x altitude holds)
        (x.execute' env mission approval (.init N table)).1
        (x.execute' env mission approval (.init N table)).2.trace := by
  obtain ⟨altitude, holds, plan, -⟩ := plan_of_validateMission accepted
  refine ⟨altitude, holds, plan, ?_⟩
  let f : Flight N := ⟨x, env, mission, approval, altitude, holds, plan⟩
  cases run : x.execute' env mission approval (.init N table) with
  | mk result s =>
  obtain ⟨history, flags, ended, hist⟩ := ended_execute' f orderly table result s run
  cases ended with
  | completed c item =>
    refine followsPlan_of_unrecovered env (.reported c item) [f.record .missionCompleted] ?_
      fun e failed => nomatch failed
    have woven := hist.woven
    rwa [Flight.completeHistory, List.append_cons] at woven
  | early stage before e =>
    refine followsPlan_of_unrecovered env stage [] ?_ fun _ _ => ?_
    · rw [List.map_nil, List.append_nil]
      exact hist.woven
    · cases stage with
      | creating _ | unstarted _ => exact ⟨Nat.zero_lt_succ _, id⟩
      | _ => cases before
  | failed stage unsettled e status errorType tail recovery =>
    rcases recovery with ⟨unrequired, -, rfl⟩ | ⟨required, c, -, rfl⟩
    · refine followsPlan_of_unrecovered env stage
        [f.record (.missionFailed e.text status errorType)] ?_ fun _ _ => ⟨?_, unsettled⟩
      · have woven := hist.woven
        rwa [List.append_nil] at woven
      · have requires := (flags_stage f stage unsettled).1
        by_contra armed
        rw [requires.mpr (by omega)] at unrequired
        cases unrequired
    · have woven := hist.woven
      rw [List.append_assoc, List.cons_append] at woven
      exact followsPlan_of_recovered stage unsettled positive required c _ rfl woven

end Run

section Sample

attribute [local instance] Crypto.keyless

/-- The simulation mission in a calm environment. -/
theorem run_followsPlan_simulation :
    ∃ altitude holds,
      (mavsdkSimulationMission ℚ).actions = .takeoff altitude :: (holds.map .hold ++ [.land]) ∧
        FollowsPlan (plannedCommands (sampleExecutor ()) altitude holds)
          (simulationRun [.exactFalse]).1 (simulationRun [.exactFalse]).2.trace :=
  run_followsPlan (sampleExecutor ()) _ _ _ _ (validateMission_sample ())
    (by norm_num [sampleExecutor]) (Env.calm_orderly _ _)

end Sample

end Nightjar
