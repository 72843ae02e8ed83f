import Nightjar.Flight.Proofs.Commands
import Nightjar.Flight.Proofs.Execute

/-!
# The launch gate

What has happened when the system is created, when `arm` is called and when `takeoff` is called,
in any run of `execute`, however the vehicle, the writers and the tasks behave.
-/

namespace Nightjar

open Interact Prog Exec Python

section Gate

variable {N : Type} [Field N] [LinearOrder N] [FloorRing N] [PyMath N] [PyText N] [Crypto]

/-- A home that was read agrees with the home rebuilt from the approval. -/
structure HomeAgrees (x : MavsdkExecutor N) (approval : SignedApproval) (reading : HomeReading N)
    (bound live : HomeSnapshot N) : Prop where
  frame : approval.payload.frameId = frameId
  rebuilt : boundHome approval = .ok bound
  hash : homeSha256 bound = approval.payload.homeSha256
  captured : ∃ now, snapshotFromTelemetry reading.latitudeDeg reading.longitudeDeg
    reading.absoluteAltitudeM none now = .ok live
  within : withinTolerance bound live x.limits.homeHorizontalToleranceM
    x.limits.homeVerticalToleranceM = .ok true

/-- What precedes the call of `arm`. -/
def ArmGate (x : MavsdkExecutor N) (mission : Mission N) (approval : SignedApproval)
    (past : List (Event N)) : Prop :=
  ∃ altitude reading bound live, altitude ≤ x.limits.maxAltitudeM.val ∧
    HomeAgrees x approval reading bound live ∧
    [.audit ⟨mission.missionId, .missionStarted mission.description x.systemAddress⟩ none,
      .connection true, .health .good, .home reading,
      .audit ⟨mission.missionId, .homeCheck .preArm (homeSha256 bound) true bound live⟩ none,
      .audit ⟨mission.missionId, .actionStarted 1 (.takeoff altitude)⟩ none,
      .returned (.setTakeoffAltitude altitude)].Sublist past

/-- What precedes the call of `takeoff`. -/
def TakeoffGate (x : MavsdkExecutor N) (mission : Mission N) (approval : SignedApproval)
    (past : List (Event N)) : Prop :=
  ∃ reading bound live, HomeAgrees x approval reading bound live ∧
    [.issued .arm, .returned .arm, .armed .exactTrue, .health .good, .home reading,
      .audit ⟨mission.missionId, .homeCheck .postArm (homeSha256 bound) true bound live⟩
        none].Sublist past

/-- The launch gate, over the trace of a run that started with a nonce table. -/
structure LaunchGate (x : MavsdkExecutor N) (env : Env N) (mission : Mission N)
    (approval : SignedApproval) (table : NonceTable) (trace : List (Event N)) : Prop where
  /-- The system is created for an approved mission of supported actions, after the approval was
      verified and consumed. -/
  created : ∀ past rest, trace = past ++ .systemFactoryCalled :: rest →
    PolicyEngine.Approves x.limits mission.actions ∧
    (∀ action ∈ mission.actions, action.Supported) ∧
    Event.approvalConsumed approval.payload ∈ past ∧
    ∃ table', verifyAndConsumeApproval env.sqlite approval x.publicKey mission x.limits
      mavsdkExecutorName env.clock maxClockSkewSeconds maxLifetimeSeconds table =
        (.ok approval.payload, table')
  armed : ∀ past rest, trace = past ++ .issued .arm :: rest → ArmGate x mission approval past
  launched : ∀ past rest, trace = past ++ .issued .takeoff :: rest →
    TakeoffGate x mission approval past
  once : (commands trace).count .takeoff ≤ 1

/-- What a home that is rebuilt says about the payload. -/
theorem boundHome_eq_ok {approval : SignedApproval} {bound : HomeSnapshot N}
    (rebuilt : boundHome approval = .ok bound) :
    approval.payload.frameId = frameId ∧ homeSha256 bound = approval.payload.homeSha256 := by
  unfold boundHome at rebuilt
  dsimp only at rebuilt
  split at rebuilt
  · cases rebuilt
  · rename_i frame
    refine ⟨not_not.mp frame, ?_⟩
    split at rebuilt
    · obtain ⟨snapshot, -, rebuilt⟩ := bind_eq_ok rebuilt
      obtain ⟨hash, hashed, rebuilt⟩ := bind_eq_ok rebuilt
      split at rebuilt
      · cases rebuilt
      · rename_i same
        cases rebuilt
        rw [← (homeSha256?_eq_ok hashed).2.2]
        exact not_not.mp same
    · cases rebuilt

/-- A comparison that was passed is an agreement. -/
theorem Passed.agrees {f : Flight N} (p : Passed f) :
    HomeAgrees f.x f.approval p.reading p.bound p.live where
  frame := (boundHome_eq_ok p.rebuilt).1
  rebuilt := p.rebuilt
  hash := (boundHome_eq_ok p.rebuilt).2
  captured := p.captured
  within := p.passed ▸ (checkHome_eq_ok p.checked).1

end Gate

section Histories

variable {N : Type} [Field N] [LinearOrder N] [FloorRing N] [PyMath N] [PyText N] [Crypto]
  {f : Flight N}

theorem arm_isPrefix (p : Passed f) :
    f.configureHistory p ++ [.exactly (.issued .arm)] <+: f.armHistory p :=
  ⟨[.exactly (.returned .arm), .exactly (.armed .exactTrue), .exactly (.confirmed .armed)],
    by simp [Flight.armHistory]⟩

theorem recheck_isPrefix (p : Passed f) (c : Compared f) :
    f.armHistory p <+: f.recheckHistory p c :=
  ⟨Flight.homeMarks c.toLocated ++ [f.written (f.homeCheck .postArm c)],
    by simp [Flight.recheckHistory]⟩

theorem takeoff_isPrefix (c : Climbed f) :
    f.recheckHistory c.before c.after.toCompared ++ [.exactly (.issued .takeoff)] <+:
      f.climbHistory c :=
  ⟨[.exactly (.returned .takeoff), .exactly (.position c.position),
    .exactly (.confirmed .altitude)], by simp [Flight.climbHistory]⟩

theorem cruise_isPrefix (c : Climbed f) (done : List Int) :
    f.climbHistory c <+: f.cruiseHistory c done := by
  rw [Flight.cruiseHistory, List.append_assoc]
  exact List.prefix_append _ _

/-- A stage after the climb. -/
theorem climb_isPrefix (stage : Stage f) {c : Climbed f} (done : List Int) (rest : List (Mark N))
    (split : stage.history = f.cruiseHistory c done ++ rest) :
    f.climbHistory c <+: stage.history := by
  rw [split]
  exact (cruise_isPrefix c done).trans (List.prefix_append _ _)

/-- A stage after the call of `takeoff` lies behind the comparison after arming. -/
theorem launched_history (stage : Stage f) (launched : 4 ≤ stage.issuedCount) :
    ∃ c : Cleared f, f.recheckHistory c.before c.after.toCompared ++
      [.exactly (.issued .takeoff)] <+: stage.history := by
  cases stage with
  | launching c => exact ⟨c, List.prefix_rfl⟩
  | launched c => exact ⟨c, by simp [Stage.history]⟩
  | high c => exact ⟨c.toCleared, by simp [Stage.history]⟩
  | cruising c done => exact ⟨c.toCleared, (takeoff_isPrefix c).trans (cruise_isPrefix c done)⟩
  | holdAnnounced c done | holding c done =>
    exact ⟨c.toCleared, (takeoff_isPrefix c).trans (climb_isPrefix _ done _ rfl)⟩
  | landAnnounced c | landing c | landSent c | landSeen c item =>
    exact ⟨c.toCleared, (takeoff_isPrefix c).trans (climb_isPrefix _ f.holds _ rfl)⟩
  | reported c item =>
    refine ⟨c.toCleared, (takeoff_isPrefix c).trans ?_⟩
    simp only [Stage.history, Flight.landHistory, List.append_assoc]
    exact (cruise_isPrefix c f.holds).trans (List.prefix_append _ _)
  | _ => exact absurd launched (by simp [Stage.issuedCount])

/-- A stage after the call of `arm` lies behind the comparison before it. -/
theorem armed_history (stage : Stage f) (armed : 3 ≤ stage.issuedCount) :
    ∃ p : Passed f, f.configureHistory p ++ [.exactly (.issued .arm)] <+: stage.history := by
  by_cases launched : 4 ≤ stage.issuedCount
  · obtain ⟨c, launching⟩ := launched_history stage launched
    refine ⟨c.before, (arm_isPrefix c.before).trans ?_⟩
    exact (recheck_isPrefix _ _).trans ((List.prefix_append _ _).trans launching)
  · cases stage with
    | arming p => exact ⟨p, List.prefix_rfl⟩
    | armSent p | armSeen p => exact ⟨p, by simp [Stage.history]⟩
    | armed p => exact ⟨p, arm_isPrefix p⟩
    | rehealthy p | resighted p | relocated p =>
      exact ⟨p, (arm_isPrefix p).trans (List.prefix_append _ _)⟩
    | unrechecked p c e =>
      rw [Stage.history, List.append_assoc]
      exact ⟨p, (arm_isPrefix p).trans (List.prefix_append _ _)⟩
    | moved p c => exact ⟨p, (arm_isPrefix p).trans (recheck_isPrefix p c)⟩
    | _ => simp [Stage.issuedCount] at armed launched; try omega

end Histories

section Issued

variable {N : Type} {env : Env N} {base trace : List (Event N)} {history : List (Mark N)}

theorem commands_append (t t' : List (Event N)) : commands (t ++ t') = commands t ++ commands t' :=
  List.filterMap_append

/-- The events that marks stand for. -/
def Mark.event? : Mark N → Option (Event N)
  | .exactly e => some e
  | _ => none

/-- The events of a history's marks are a sublist of the trace. -/
theorem sublist_of_weave (woven : Weave (Mark.Happens env) (fun _ => Mark.Noise) base history trace)
    {events : List (Event N)} (marked : events.Sublist (history.filterMap Mark.event?)) :
    events.Sublist trace := by
  refine marked.trans ((woven.sublist Mark.event? ?_).trans (List.drop_sublist _ _))
  intro t mark e e' happens found
  cases mark with
  | exactly event => cases found; exact happens
  | attempt record => cases found
  | landing item => cases found

variable [LinearOrder N]

/-- A command that was issued once was issued at one place. -/
theorem issued_unique {c : Command N} (once : (commands trace).count c ≤ 1)
    {past rest past' rest' : List (Event N)} (split : trace = past ++ .issued c :: rest)
    (split' : trace = past' ++ .issued c :: rest') : past = past' := by
  have twice : ∀ a m b : List (Event N), trace = a ++ .issued c :: (m ++ .issued c :: b) →
      False := by
    intro a m b same
    have counted : (commands trace).count c =
        (commands a).count c + ((commands m).count c + ((commands b).count c + 1) + 1) := by
      rw [same, commands_append, List.count_append]
      show _ + (c :: commands (m ++ .issued c :: b)).count c = _
      rw [List.count_cons_self, commands_append, List.count_append]
      show _ + (_ + (c :: commands b).count c + 1) = _
      rw [List.count_cons_self]
    omega
  rcases List.append_eq_append_iff.mp (split.symm.trans split') with ⟨m, grown, tail⟩ |
    ⟨m, grown, tail⟩
  · cases m with
    | nil => rw [grown, List.append_nil]
    | cons e m =>
      cases tail
      exact (twice past m rest' split).elim
  · cases m with
    | nil => rw [grown, List.append_nil]
    | cons e m =>
      cases tail
      exact (twice past' m rest split').elim

/-- Where the history of a run calls a command that the trace has once, it is called there. -/
theorem weave_at_issued {c : Command N} {calls : List (Mark N)}
    (woven : Weave (Mark.Happens env) (fun _ => Mark.Noise) base history trace)
    (called : calls ++ [.exactly (.issued c)] <+: history)
    (once : (commands trace).count c ≤ 1) {past rest : List (Event N)}
    (split : trace = past ++ .issued c :: rest) :
    Weave (Mark.Happens env) (fun _ => Mark.Noise) base calls past := by
  obtain ⟨later, same⟩ := called
  rw [List.append_assoc, List.singleton_append] at same
  obtain ⟨before, e, first, happens, second⟩ := woven.at_step same.symm
  obtain ⟨after, whole⟩ := second.base_prefix
  rw [show e = Event.issued c from happens, List.append_assoc, List.singleton_append] at whole
  rwa [issued_unique once split whole.symm]

end Issued

section Runs

variable {N : Type} [Field N] [LinearOrder N] [FloorRing N] [PyMath N] [PyText N] [Crypto]
  {f : Flight N} {env : Env N} {base trace : List (Event N)} {history : List (Mark N)}

omit [FloorRing N] [PyMath N] [PyText N] in
/-- A recovery issues at most one command, `disarm` or `land`. -/
theorem commands_cleanup_cases {x : MavsdkExecutor N} {attempted : Bool}
    (c : Cleanup x attempted) :
    c.marks.filterMap (Mark.project (N := N) Event.command?) = [] ∨
      c.marks.filterMap (Mark.project (N := N) Event.command?) = [.disarm] ∨
      c.marks.filterMap (Mark.project (N := N) Event.command?) = [.land] := by
  cases attempted <;> cases c <;>
    first | exact Or.inl rfl | exact Or.inr (Or.inl rfl) | exact Or.inr (Or.inr rfl)

omit [FloorRing N] [PyMath N] [PyText N] in
theorem commands_of_tail {x : MavsdkExecutor N} {flags : Flags} {status : RecoveryStatus}
    {tail : List (Mark N)} (recovery : Tail x flags status tail) :
    ∀ c ∈ tail.filterMap (Mark.project Event.command?), c = .disarm ∨ c = .land := by
  rcases recovery with ⟨-, -, rfl⟩ | ⟨-, cleanup, -, rfl⟩
  · exact fun c member => nomatch member
  · show ∀ c ∈ cleanup.marks.filterMap (Mark.project Event.command?), c = .disarm ∨ c = .land
    rcases commands_cleanup_cases cleanup with same | same | same <;> simp [same]

/-- The history of a run that raises begins with that of a stage; the rest issues nothing but
    `disarm` and `land`. -/
theorem Broken.split {e : PyExc} (broken : Broken f base trace e history) :
    ∃ (stage : Stage f) (rest : List (Mark N)), history = stage.history ++ rest ∧
      ∀ c ∈ rest.filterMap (Mark.project Event.command?), c = .disarm ∨ c = .land := by
  have recorded : ∀ (tail : List (Mark N)) (record : AuditRecord N),
      (∀ c ∈ tail.filterMap (Mark.project Event.command?), c = .disarm ∨ c = .land) →
      ∀ c ∈ (tail ++ [Mark.attempt record]).filterMap (Mark.project Event.command?),
        c = .disarm ∨ c = .land := by
    intro tail record issues
    simpa [List.filterMap_append, Mark.project] using issues
  cases broken with
  | early stage | unhandled stage =>
    exact ⟨stage, [], (List.append_nil _).symm, fun c member => by cases member⟩
  | handled stage _ _ _ _ _ _ tail recovery | lost stage _ _ _ _ _ _ tail recovery =>
    exact ⟨stage, _, List.append_assoc _ _ _, recorded tail _ (commands_of_tail recovery)⟩
  | cut stage _ _ _ _ _ tail recovery => exact ⟨stage, tail, rfl, commands_of_tail recovery⟩
  | finished c item =>
    refine ⟨.reported c item, [f.attempted .missionCompleted], ?_, fun c member => ?_⟩
    · simp [Flight.completeHistory, Stage.history]
    · simp [Flight.attempted, Mark.project] at member

theorem armGate_of_weave {p : Passed f} (within : f.altitude ≤ f.x.limits.maxAltitudeM.val)
    (woven : Weave (Mark.Happens env) (fun _ => Mark.Noise) base (f.configureHistory p) trace) :
    ArmGate f.x f.mission f.approval trace := by
  refine ⟨f.altitude, p.reading, p.bound, p.live, within, p.agrees, sublist_of_weave woven ?_⟩
  have written : f.homeCheck .preArm p.toCompared =
      .homeCheck .preArm (homeSha256 p.bound) true p.bound p.live := by
    rw [Flight.homeCheck, p.passed]
  simp only [Flight.configureHistory, Flight.checkHistory, written]
  repeat first | exact List.Sublist.slnil | apply List.Sublist.cons_cons | apply List.Sublist.cons

theorem takeoffGate_of_weave {c : Cleared f}
    (woven : Weave (Mark.Happens env) (fun _ => Mark.Noise) base
      (f.recheckHistory c.before c.after.toCompared) trace) :
    TakeoffGate f.x f.mission f.approval trace := by
  refine ⟨c.after.reading, c.after.bound, c.after.live, c.after.agrees,
    sublist_of_weave woven ?_⟩
  have written : f.homeCheck .postArm c.after.toCompared =
      .homeCheck .postArm (homeSha256 c.after.bound) true c.after.bound c.after.live := by
    rw [Flight.homeCheck, c.after.passed]
  simp only [Flight.recheckHistory, Flight.armHistory, written, List.append_assoc,
    List.filterMap_append]
  refine List.Sublist.trans ?_ (List.sublist_append_right _ _)
  repeat first | exact List.Sublist.slnil | apply List.Sublist.cons_cons | apply List.Sublist.cons

omit [Field N] [FloorRing N] [PyMath N] [PyText N] in
/-- The plan calls `arm` once and `takeoff` once. -/
theorem count_plannedCommands (x : MavsdkExecutor N) (altitude : N) (holds : List Int) :
    (plannedCommands x altitude holds).count .arm = 1 ∧
      (plannedCommands x altitude holds).count .takeoff = 1 := by
  have sleeps : ∀ c : Command N, (∀ seconds, c ≠ .sleep seconds) →
      (holds.map Command.sleep).count c = 0 := by
    intro c awake
    refine List.count_eq_zero.mpr fun member => ?_
    obtain ⟨seconds, -, same⟩ := List.mem_map.mp member
    exact awake seconds same.symm
  have arm := sleeps .arm fun _ same => nomatch same
  have takeoff := sleeps .takeoff fun _ same => nomatch same
  simp [plannedCommands, arm, takeoff]

/-- The gates of the two calls, for a run that is woven from a stage's history and what follows
    it. -/
theorem gates_of_weave (stage : Stage f) (after : List (Mark N))
    (within : f.altitude ≤ f.x.limits.maxAltitudeM.val) (quiet : commands base = [])
    (issues : ∀ c ∈ after.filterMap (Mark.project Event.command?), c = .disarm ∨ c = .land)
    (woven : Weave (Mark.Happens env) (fun _ => Mark.Noise) base (stage.history ++ after) trace) :
    (∀ past rest, trace = past ++ .issued .arm :: rest → ArmGate f.x f.mission f.approval past) ∧
      (∀ past rest, trace = past ++ .issued .takeoff :: rest →
        TakeoffGate f.x f.mission f.approval past) ∧
      (commands trace).count .takeoff ≤ 1 := by
  have all : commands trace =
      (plannedCommands f.x f.altitude f.holds).take stage.issuedCount ++
        after.filterMap (Mark.project Event.command?) := by
    rw [commands_of_weave woven, quiet, List.filterMap_append, commands_stage, List.nil_append]
  have once : ∀ c : Command N, c ≠ .disarm → c ≠ .land →
      (plannedCommands f.x f.altitude f.holds).count c = 1 → (commands trace).count c ≤ 1 := by
    intro c notDisarm notLand planned
    have none : (after.filterMap (Mark.project Event.command?)).count c = 0 :=
      List.count_eq_zero.mpr fun member => (issues c member).elim notDisarm notLand
    rw [all, List.count_append, none, ← planned]
    exact (List.take_sublist _ _).count_le c
  have planned : ∀ (c : Command N) (past rest : List (Event N)), c ≠ .disarm → c ≠ .land →
      trace = past ++ .issued c :: rest →
      c ∈ (plannedCommands f.x f.altitude f.holds).take stage.issuedCount := by
    intro c past rest notDisarm notLand split
    have member : c ∈ commands trace := by
      rw [split, commands_append]
      exact List.mem_append_right _ List.mem_cons_self
    rw [all] at member
    rcases List.mem_append.mp member with plan | recovery
    · exact plan
    · exact absurd (issues c recovery) (by simp [notDisarm, notLand])
  obtain ⟨arm, takeoff⟩ := mem_take_plannedCommands f.x f.altitude f.holds stage.issuedCount
  obtain ⟨oneArm, oneTakeoff⟩ := count_plannedCommands f.x f.altitude f.holds
  refine ⟨fun past rest split => ?_, fun past rest split => ?_, ?_⟩
  · have armed := planned .arm past rest (by simp) (by simp) split
    obtain ⟨p, calls⟩ := armed_history stage (arm.mp armed)
    exact armGate_of_weave within (weave_at_issued woven (calls.trans (List.prefix_append _ _))
      (once .arm (by simp) (by simp) oneArm) split)
  · have launched := planned .takeoff past rest (by simp) (by simp) split
    obtain ⟨c, calls⟩ := launched_history stage (takeoff.mp launched)
    exact takeoffGate_of_weave (weave_at_issued woven (calls.trans (List.prefix_append _ _))
      (once .takeoff (by simp) (by simp) oneTakeoff) split)
  · exact once .takeoff (by simp) (by simp) oneTakeoff

/-- The `finally` of `execute` adds nothing that the gate speaks of. -/
theorem LaunchGate.of_asides {x : MavsdkExecutor N} {mission : Mission N}
    {approval : SignedApproval} {table : NonceTable} {s s' : ExecState N}
    (gate : LaunchGate x env mission approval table s.trace) (stopped : Asides s s') :
    LaunchGate x env mission approval table s'.trace := by
  obtain ⟨⟨extra, more, asides⟩, -⟩ := stopped
  have earlier : ∀ (e : Event N), ¬ e.Aside → ∀ past rest, s'.trace = past ++ e :: rest →
      ∃ rest', s.trace = past ++ e :: rest' := by
    intro e other past rest split
    rw [more] at split
    rcases List.append_eq_append_iff.mp split with ⟨m, grown, tail⟩ | ⟨m, grown, tail⟩
    · refine absurd (asides e ?_) other
      rw [tail]
      exact List.mem_append_right _ List.mem_cons_self
    · cases m with
      | nil =>
        refine absurd (asides e ?_) other
        rw [← List.nil_append extra, ← tail]
        exact List.mem_cons_self
      | cons e' m =>
        cases tail
        exact ⟨m, grown⟩
  have silent : commands extra = [] := by
    refine List.filterMap_eq_nil_iff.mpr fun e member => ?_
    have aside := asides e member
    cases e <;> first | rfl | cases aside
  refine ⟨fun past rest split => ?_, fun past rest split => ?_, fun past rest split => ?_, ?_⟩
  · obtain ⟨rest', split'⟩ := earlier _ id past rest split
    exact gate.created past rest' split'
  · obtain ⟨rest', split'⟩ := earlier _ id past rest split
    exact gate.armed past rest' split'
  · obtain ⟨rest', split'⟩ := earlier _ id past rest split
    exact gate.launched past rest' split'
  · rw [more, commands_append, silent, List.append_nil]
    exact gate.once

theorem launchGate_nil (x : MavsdkExecutor N) (env : Env N) (mission : Mission N)
    (approval : SignedApproval) (table : NonceTable) :
    LaunchGate x env mission approval table [] := by
  refine ⟨?_, ?_, ?_, ?_⟩
  · exact fun past rest split => absurd split.symm (by simp)
  · exact fun past rest split => absurd split.symm (by simp)
  · exact fun past rest split => absurd split.symm (by simp)
  · simp [commands]

/-- **The launch gate.** In every run of `execute`, from any nonce table and in any environment,
    the calls of the system factory, of `arm` and of `takeoff` come after what they require, and
    `takeoff` is called at most once. -/
theorem execute_launchGate (x : MavsdkExecutor N) (env : Env N) (mission : Mission N)
    (approval : SignedApproval) (table : NonceTable) :
    LaunchGate x env mission approval table
      (x.execute env mission approval (.init N table)).2.trace := by
  have executed := executed_execute x env mission approval (.init N table)
  generalize (x.execute env mission approval (.init N table)).1 = outcome,
    (x.execute env mission approval (.init N table)).2 = final at executed ⊢
  cases executed with
  | refused e raised => exact launchGate_nil x env mission approval table
  | unauthorized e accepted raised => exact launchGate_nil x env mission approval table
  | ran table' result _ s _ accepted consumed run stopped outcome =>
    refine LaunchGate.of_asides ?_ stopped
    obtain ⟨altitude, holds, plan, within⟩ := plan_of_validateMission accepted
    obtain ⟨approved, supported⟩ := validateMission_eq_ok_iff.mp accepted
    let f : Flight N := ⟨x, env, mission, approval, altitude, holds, plan⟩
    have flown := triple_execute' f
      ((ExecState.init N table).authorized approval.payload table') ⟨rfl, rfl⟩
    rw [show f.x.execute' f.env f.mission f.approval
      ((ExecState.init N table).authorized approval.payload table') = (result, s) from run] at flown
    have woven : ∃ (stage : Stage f) (after : List (Mark N)),
        (∀ c ∈ after.filterMap (Mark.project Event.command?), c = .disarm ∨ c = .land) ∧
        Weave (Mark.Happens env) (fun _ => Mark.Noise) [.approvalConsumed approval.payload]
          (stage.history ++ after) s.trace := by
      cases result with
      | ok r =>
        obtain ⟨-, c, item, hist⟩ := flown
        refine ⟨.reported c item, [f.attempted .missionCompleted], fun c member => ?_, ?_⟩
        · simp [Flight.attempted, Mark.project] at member
        · have woven := hist.woven
          rwa [Flight.completeHistory, List.append_cons] at woven
      | error e =>
        obtain ⟨history, flags, broken, hist⟩ := flown
        obtain ⟨stage, after, split, issues⟩ := broken.split
        exact ⟨stage, after, issues, split ▸ hist.woven⟩
    obtain ⟨stage, after, issues, woven⟩ := woven
    obtain ⟨armed, launched, once⟩ := gates_of_weave stage after within rfl issues woven
    refine ⟨fun past rest split => ⟨approved, supported, ?_, table', consumed⟩, armed, launched,
      once⟩
    obtain ⟨later, start⟩ := woven.base_prefix
    rw [split] at start
    cases past with
    | nil => cases start
    | cons e past =>
      cases start
      exact List.mem_cons_self

end Runs

end Nightjar
