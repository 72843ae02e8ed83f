import Nightjar.Flight.Proofs.Landing
import Nightjar.Home.Proofs.Snapshot

/-!
# The audit log of a run

The records that a run writes, when every record can be written: the start of the mission, the
checks of the homes that were read, the actions in order, and one record of how the mission ended.
A home has no check when the check raises: where the comparison leaves the domain of the `math`
functions, or where a coordinate times its scale is an infinity. Then it is the last home that was
read, and the run raises.
-/

namespace Nightjar

open Interact Prog Exec Python

section Log

variable {N : Type}

/-- The record that an event wrote. -/
def Event.written? : Event N → Option (AuditRecord N)
  | .audit record none => some record
  | _ => none

/-- The records written in a trace. -/
def auditLog (trace : List (Event N)) : List (AuditRecord N) := trace.filterMap Event.written?

/-- The home of an event that ends a `_read_home`. -/
def Event.homeRead? : Event N → Option Unit
  | .confirmed .home => some ()
  | _ => none

/-- How many homes were read. -/
def homesRead (trace : List (Event N)) : Nat := (trace.filterMap Event.homeRead?).length

/-- The records of completed actions, and of one that was started. The checks come after the start
    of the first action. -/
def actionLog (checks : List (AuditEvent N)) :
    Nat → List (MissionAction N) → Option (MissionAction N) → List (AuditEvent N)
  | _, [], none => []
  | sequence, [], some action => .actionStarted sequence action :: checks
  | sequence, action :: done, started =>
      .actionStarted sequence action :: checks ++
        .actionCompleted sequence action.type :: actionLog [] (sequence + 1) done started

/-- At most one check of a home, of one phase. -/
def Checks (phase : HomePhase) (checks : List (AuditEvent N)) : Prop :=
  checks = [] ∨ ∃ hash within bound live, checks = [.homeCheck phase hash within bound live]

/-- The parts of a log: the two checks, the completed actions, the one that was started, and a home
    that was read without a check. -/
structure LogParts (N : Type) where
  before : List (AuditEvent N)
  after : List (AuditEvent N)
  done : List (MissionAction N)
  started : Option (MissionAction N)
  unchecked : Option (Located N)

theorem actionLog_started (action : MissionAction N) (done : List (MissionAction N)) :
    ∀ sequence, actionLog [] sequence done (some action) =
      actionLog [] sequence done none ++ [.actionStarted (sequence + done.length) action] := by
  induction done with
  | nil => exact fun _ => rfl
  | cons first done ih =>
    intro sequence
    have shift : sequence + 1 + done.length = sequence + (first :: done).length := by
      rw [List.length_cons]
      omega
    rw [actionLog, actionLog, ih, shift]
    simp

theorem actionLog_concat (action : MissionAction N) (done : List (MissionAction N)) :
    ∀ sequence, actionLog [] sequence (done ++ [action]) none =
      actionLog [] sequence done (some action) ++
        [.actionCompleted (sequence + done.length) action.type] := by
  induction done with
  | nil => exact fun _ => rfl
  | cons first done ih =>
    intro sequence
    have shift : sequence + 1 + done.length = sequence + (first :: done).length := by
      rw [List.length_cons]
      omega
    rw [List.cons_append, actionLog, actionLog, ih, shift]
    simp

/-- Nothing is to be said where every home that was read has its check. -/
theorem every_unchecked {parts : LogParts N} {P : Located N → Prop}
    (checked : parts.unchecked = none) : ∀ l, parts.unchecked = some l → P l := by
  intro l is_l
  rw [checked] at is_l
  cases is_l

/-- The record of a mark, where records are written. -/
def Mark.record? : Mark N → Option (AuditRecord N)
  | .exactly (.audit record none) | .attempt record => some record
  | _ => none

/-- The records of a trace are those of its history, where every record is written. -/
theorem auditLog_of_weave {env : Env N} {base trace : List (Event N)} {history : List (Mark N)}
    (written : ∀ t record, env.audit t record = none)
    (woven : Weave (Mark.Happens env) (fun _ => Mark.Noise) base history trace) :
    auditLog trace = auditLog base ++ history.filterMap Mark.record? := by
  refine woven.filterMap_eq Event.written? Mark.record? ?_ ?_
  · intro t mark e happens
    cases mark with
    | exactly event =>
      rw [show e = event from happens]
      cases event with
      | audit record failure => cases failure <;> rfl
      | _ => rfl
    | attempt record =>
      rw [show e = .audit record (env.audit t record) from happens, written]
      rfl
    | landing item => rw [happens.1]; rfl
  · intro t e noise
    cases e <;> first | rfl | cases noise

theorem homesRead_of_weave {env : Env N} {trace : List (Event N)} {history : List (Mark N)}
    (woven : Weave (Mark.Happens env) (fun _ => Mark.Noise) [] history trace) :
    homesRead trace = (history.filterMap (Mark.project Event.homeRead?)).length := by
  have reads := filterMap_of_weave Event.homeRead? (fun _ _ => rfl)
    (fun e noise => by cases e <;> first | rfl | cases noise) woven
  rw [homesRead, reads]
  rfl

variable [Zero N] [LT N]

/-- The records before the last one. -/
def LogParts.events (parts : LogParts N) (mission : Mission N) (systemAddress : String) :
    List (AuditEvent N) :=
  .missionStarted mission.description systemAddress ::
    (parts.before ++ actionLog parts.after 1 parts.done parts.started)

/-- The parts fit the mission and the number of homes that were read. -/
structure LogParts.Fit (parts : LogParts N) (mission : Mission N) (homes : Nat) : Prop where
  before_check : Checks .preArm parts.before
  after_check : Checks .postArm parts.after
  homes_eq : homes = parts.before.length + parts.after.length + parts.unchecked.toList.length
  order : parts.after ≠ [] → parts.before ≠ [] ∧ (parts.done ≠ [] ∨ parts.started ≠ none)
  acted : parts.done ≠ [] ∨ parts.started ≠ none → parts.before ≠ []
  last_home : parts.unchecked ≠ none → parts.after = [] ∧ parts.done = []
  plan : parts.done ++ parts.started.toList <+: mission.actions

end Log

section Histories

variable {N : Type} [Field N] [LinearOrder N] [FloorRing N] [PyMath N] [PyText N] [Crypto]
  (f : Flight N)

/-- Completed holds write their records in order. -/
theorem record?_holdsMarks (holds : List Int) :
    ∀ sequence, (f.holdsMarks sequence holds).filterMap Mark.record? =
      (actionLog [] sequence (holds.map .hold) none).map f.record := by
  induction holds with
  | nil => exact fun _ => rfl
  | cons duration holds ih =>
    intro sequence
    rw [Flight.holdsMarks, List.filterMap_append, ih]
    rfl

/-- The parts of the log of a flight that took off. -/
def Flight.logParts (c : Climbed f) (done : List (MissionAction N))
    (started : Option (MissionAction N)) : LogParts N where
  before := [f.homeCheck .preArm c.before.toCompared]
  after := [f.homeCheck .postArm c.after.toCompared]
  done := .takeoff f.altitude :: done
  started := started
  unchecked := none

theorem record?_cruiseHistory (c : Climbed f) (done : List Int) :
    (f.cruiseHistory c done).filterMap Mark.record? =
      ((f.logParts c (done.map .hold) none).events f.mission f.x.systemAddress).map f.record := by
  rw [Flight.cruiseHistory, List.filterMap_append, List.filterMap_append, record?_holdsMarks]
  rfl

theorem homeRead?_cruiseHistory (c : Climbed f) (done : List Int) :
    (f.cruiseHistory c done).filterMap (Mark.project Event.homeRead?) = [(), ()] := by
  have holds : ∀ sequence,
      (f.holdsMarks sequence done).filterMap (Mark.project Event.homeRead?) = [] := by
    induction done with
    | nil => exact fun _ => rfl
    | cons duration done ih =>
      intro sequence
      rw [Flight.holdsMarks, List.filterMap_append, ih]
      rfl
  rw [Flight.cruiseHistory, List.filterMap_append, holds, List.append_nil]
  rfl

/-- The records after some completed actions and the start of another. -/
theorem events_started (c : Climbed f) (done : List (MissionAction N)) (action : MissionAction N) :
    (f.logParts c done (some action)).events f.mission f.x.systemAddress =
      (f.logParts c done none).events f.mission f.x.systemAddress ++
        [.actionStarted (2 + done.length) action] := by
  simp [LogParts.events, Flight.logParts, actionLog, actionLog_started]

theorem events_concat (c : Climbed f) (done : List (MissionAction N)) (action : MissionAction N) :
    (f.logParts c (done ++ [action]) none).events f.mission f.x.systemAddress =
      (f.logParts c done (some action)).events f.mission f.x.systemAddress ++
        [.actionCompleted (2 + done.length) action.type] := by
  simp [LogParts.events, Flight.logParts, actionLog, actionLog_concat]

theorem checks_homeCheck (phase : HomePhase) (c : Compared f) :
    Checks phase [f.homeCheck phase c] :=
  Or.inr ⟨_, _, _, _, rfl⟩

/-- After the takeoff the parts fit as far as the actions do. -/
theorem fit_logParts (c : Climbed f) (done : List (MissionAction N))
    (started : Option (MissionAction N))
    (plan : done ++ started.toList <+: f.holds.map .hold ++ [.land]) :
    (f.logParts c done started).Fit f.mission 2 where
  before_check := checks_homeCheck f _ _
  after_check := checks_homeCheck f _ _
  homes_eq := rfl
  order _ := ⟨by simp [Flight.logParts], Or.inl (by simp [Flight.logParts])⟩
  acted _ := by simp [Flight.logParts]
  last_home some := absurd rfl some
  plan := by
    rw [f.plan]
    exact (List.prefix_cons_inj _).mpr plan

/-- The log of a stage: its records, how many homes were read, and the one whose check raises. -/
structure Logged (history : List (Mark N)) (parts : LogParts N) : Prop where
  records : history.filterMap Mark.record? =
    (parts.events f.mission f.x.systemAddress).map f.record
  fit : parts.Fit f.mission (history.filterMap (Mark.project Event.homeRead?)).length
  unchecked : ∀ l, parts.unchecked = some l →
    Incomparable f l ∧ Mark.exactly (.home l.reading) ∈ history

/-- The log of a flight whose landing was recorded. -/
theorem logged_reported (c : Climbed f) (item : Flag) :
    Logged f (Stage.reported c item).history
      (f.logParts c (f.holds.map .hold ++ [.land]) none) := by
  refine ⟨?_, ?_, every_unchecked rfl⟩
  · rw [Stage.history, Flight.landHistory, List.append_assoc, List.filterMap_append,
      record?_cruiseHistory, events_concat, events_started, List.map_append, List.map_append,
      List.length_map, Nat.add_comm, List.append_assoc]
    rfl
  · rw [Stage.history, Flight.landHistory, List.append_assoc, List.filterMap_append,
      homeRead?_cruiseHistory]
    exact fit_logParts f c _ _ (by simp)

/-- The log before the takeoff is completed, where every home that was read has its check. -/
theorem logged_before {history : List (Mark N)} (before after : List (AuditEvent N))
    (started : Option (MissionAction N))
    (records : history.filterMap Mark.record? =
      (LogParts.events ⟨before, after, [], started, none⟩ f.mission f.x.systemAddress).map f.record)
    (before_check : Checks .preArm before) (after_check : Checks .postArm after)
    (homes : (history.filterMap (Mark.project Event.homeRead?)).length =
      before.length + after.length)
    (order : after ≠ [] → before ≠ [] ∧ started ≠ none) (acted : started ≠ none → before ≠ [])
    (plan : started.toList <+: f.mission.actions) :
    Logged f history ⟨before, after, [], started, none⟩ where
  records := records
  fit :=
    { before_check, after_check, plan
      homes_eq := homes
      order := fun some => ⟨(order some).1, Or.inr (order some).2⟩
      acted := fun either => either.elim (fun none => absurd rfl none) acted
      last_home := fun some => absurd rfl some }
  unchecked := every_unchecked rfl

/-- The log of a flight that ended with a home whose check raises. -/
theorem logged_unchecked {history : List (Mark N)} (before : List (AuditEvent N))
    (started : Option (MissionAction N)) {l : Located N} (incomparable : Incomparable f l)
    (records : history.filterMap Mark.record? =
      (LogParts.events ⟨before, [], [], started, some l⟩ f.mission f.x.systemAddress).map f.record)
    (before_check : Checks .preArm before)
    (homes : (history.filterMap (Mark.project Event.homeRead?)).length = before.length + 1)
    (acted : started ≠ none → before ≠ []) (plan : started.toList <+: f.mission.actions)
    (read : Mark.exactly (.home l.reading) ∈ history) :
    Logged f history ⟨before, [], [], started, some l⟩ where
  records := records
  fit :=
    { before_check, plan
      after_check := Or.inl rfl
      homes_eq := homes
      order := fun some => absurd rfl some
      acted := fun either => either.elim (fun none => absurd rfl none) acted
      last_home := fun _ => ⟨rfl, rfl⟩ }
  unchecked := by
    rintro l' is_l
    cases is_l
    exact ⟨incomparable, read⟩

/-- Every stage in the `try` has a log. -/
theorem logged_history (stage : Stage f) (inTry : ¬ stage.Early) :
    ∃ parts, Logged f stage.history parts := by
  have first : [MissionAction.takeoff f.altitude] <+: f.mission.actions := by
    rw [f.plan]
    exact ⟨_, rfl⟩
  have holding : ∀ {done : List Int}, done <+: f.holds →
      done.map (MissionAction.hold (N := N)) <+: f.holds.map .hold ++ [.land] := by
    rintro done ⟨rest, split⟩
    rw [← split, List.map_append, List.append_assoc]
    exact List.prefix_append _ _
  cases stage with
  | creating _ | unstarted _ => exact absurd trivial inTry
  | connecting | connected | linked | reachable | healthy | sighted _ =>
    exact ⟨_, logged_before f [] [] none rfl (Or.inl rfl) (Or.inl rfl) rfl
      (fun some => absurd rfl some) (fun some => absurd rfl some) List.nil_prefix⟩
  | located l incomparable =>
    exact ⟨_, logged_unchecked f [] none incomparable rfl (Or.inl rfl) rfl
      (fun some => absurd rfl some) List.nil_prefix (by simp [Stage.history, Flight.homeMarks])⟩
  | unchecked c _ | mismatched c _ =>
    exact ⟨_, logged_before f [f.homeCheck .preArm c] [] none rfl (checks_homeCheck f _ _)
      (Or.inl rfl) rfl (fun some => absurd rfl some) (fun some => absurd rfl some)
      List.nil_prefix⟩
  | unannounced p _ | configuring p | arming p | armSent p | armSeen p | armed p | rehealthy p
  | resighted p _ =>
    exact ⟨_, logged_before f [f.homeCheck .preArm p.toCompared] [] (some (.takeoff f.altitude)) rfl
      (checks_homeCheck f _ _) (Or.inl rfl) rfl (fun some => absurd rfl some) (fun _ => by simp)
      first⟩
  | relocated p l incomparable =>
    exact ⟨_, logged_unchecked f [f.homeCheck .preArm p.toCompared] (some (.takeoff f.altitude))
      incomparable rfl (checks_homeCheck f _ _) rfl (fun _ => by simp) first
      (by simp [Stage.history, Flight.homeMarks])⟩
  | unrechecked p c _ | moved p c _ =>
    exact ⟨_, logged_before f [f.homeCheck .preArm p.toCompared] [f.homeCheck .postArm c]
      (some (.takeoff f.altitude)) rfl (checks_homeCheck f _ _) (checks_homeCheck f _ _) rfl
      (fun _ => ⟨by simp, by simp⟩) (fun _ => by simp) first⟩
  | launching c | launched c | high c =>
    exact ⟨_, logged_before f [f.homeCheck .preArm c.before.toCompared]
      [f.homeCheck .postArm c.after.toCompared] (some (.takeoff f.altitude)) rfl
      (checks_homeCheck f _ _) (checks_homeCheck f _ _) rfl (fun _ => ⟨by simp, by simp⟩)
      (fun _ => by simp) first⟩
  | cruising c done some_done =>
    refine ⟨f.logParts c (done.map .hold) none, record?_cruiseHistory f c done, ?_,
      every_unchecked rfl⟩
    rw [Stage.history, homeRead?_cruiseHistory]
    exact fit_logParts f c _ _ (by simpa using holding some_done)
  | holdAnnounced c done duration next | holding c done duration next =>
    refine ⟨f.logParts c (done.map .hold) (some (.hold duration)), ?_, ?_,
      every_unchecked rfl⟩
    · rw [Stage.history, List.filterMap_append, record?_cruiseHistory, events_started,
        List.map_append, List.length_map]
      rfl
    · rw [Stage.history, List.filterMap_append, homeRead?_cruiseHistory]
      exact fit_logParts f c _ _ (by simpa using holding next)
  | landAnnounced c | landing c | landSent c | landSeen c item =>
    refine ⟨f.logParts c (f.holds.map .hold) (some .land), ?_, ?_, every_unchecked rfl⟩
    · rw [Stage.history, List.filterMap_append, record?_cruiseHistory, events_started,
        List.map_append, List.length_map, Nat.add_comm]
      rfl
    · rw [Stage.history, List.filterMap_append, homeRead?_cruiseHistory]
      exact fit_logParts f c _ _ List.prefix_rfl
  | reported c item =>
    exact ⟨_, logged_reported f c item⟩

end Histories

section Completions

variable {N : Type} {env : Env N}

/-- An item that is not true was read after `land` returned. -/
def LandingRead (past : List (Event N)) : Prop :=
  ∃ item : Flag, item.truthy = false ∧ [.returned .land, .inAir item].Sublist past

/-- The mark is a record of a completed takeoff. -/
def Mark.saysClimbed : Mark N → Bool
  | .exactly (.audit ⟨_, .actionCompleted _ .takeoff⟩ _) => true
  | .attempt ⟨_, .actionCompleted _ .takeoff⟩ => true
  | _ => false

theorem unclaimed_of_any {history : List (Mark N)} (none : history.any Mark.saysClimbed = false) :
    ∀ mark ∈ history, ¬ mark.saysClimbed = true := by
  rw [List.any_eq_false] at none
  exact none

/-- A history that has waited for a landing has read it. -/
theorem WaitedForLanding.read {history : List (Mark N)} {base trace : List (Event N)}
    (waited : WaitedForLanding history)
    (woven : Weave (Mark.Happens env) (fun _ => Mark.Noise) base history trace) :
    LandingRead trace := by
  obtain ⟨before, item, after, rfl, -⟩ := waited
  obtain ⟨read, e, -, ⟨same, opened, seen, at_, last, -, falsy, -⟩, second⟩ := woven.at_step rfl
  subst same
  obtain ⟨later, whole⟩ := second.base_prefix
  obtain ⟨start, rfl⟩ := List.getLast?_eq_some_iff.mp last
  refine ⟨item, falsy, ?_⟩
  rw [← whole, at_]
  simp

variable [Field N] [LinearOrder N] [FloorRing N] [PyMath N] [PyText N] [Crypto]
  {f : Flight N}

/-- A position of nine tenths of the altitude was read after `takeoff` returned. -/
def ClimbSeen (altitude : N) (past : List (Event N)) : Prop :=
  ∃ position : Reading N, position.atLeast (altitude * (9 / 10)) = true ∧
    [.returned .takeoff, .position position].Sublist past

/-- The history has climbed. -/
def HasClimbed (f : Flight N) (history : List (Mark N)) : Prop :=
  ∃ c : Climbed f, f.climbHistory c <+: history

theorem climbed_cruiseHistory (c : Climbed f) (done : List Int) :
    Guarded (fun mark : Mark N => mark.saysClimbed = true) (HasClimbed f)
      (f.cruiseHistory c done) := by
  refine ((guarded_of_none (unclaimed_of_any ?_)).concat fun _ => ⟨c, List.prefix_rfl⟩).append
    (unclaimed_of_any (any_holdsMarks (fun _ _ => rfl) done 2))
  rfl

/-- In the history of a stage the record of the completed takeoff comes after the climb. -/
theorem climbed_history (stage : Stage f) :
    Guarded (fun mark : Mark N => mark.saysClimbed = true) (HasClimbed f) stage.history := by
  cases stage with
  | cruising c done => exact climbed_cruiseHistory c done
  | holdAnnounced c done | holding c done =>
    exact (climbed_cruiseHistory c done).append (unclaimed_of_any rfl)
  | landAnnounced c | landing c | landSent c | landSeen c item =>
    exact (climbed_cruiseHistory c f.holds).append (unclaimed_of_any rfl)
  | reported c item =>
    rw [Stage.history, Flight.landHistory, List.append_assoc]
    exact (climbed_cruiseHistory c f.holds).append (unclaimed_of_any rfl)
  | _ => exact guarded_of_none (unclaimed_of_any rfl)

/-- So it does in the history of a run. -/
theorem Ended.climbed {result : Except PyExc ExecutionResult} {history : List (Mark N)}
    (ended : Ended f result history) :
    Guarded (fun mark : Mark N => mark.saysClimbed = true) (HasClimbed f) history := by
  cases ended with
  | completed c item =>
    rw [Flight.completeHistory, List.append_cons]
    exact (climbed_history (.reported c item)).append (unclaimed_of_any rfl)
  | early stage => exact climbed_history stage
  | failed stage _ e status _ tail recovery =>
    refine ((climbed_history stage).append (unclaimed_of_any ?_)).append (unclaimed_of_any rfl)
    exact any_tail recovery fun attempted cleanup => by cases attempted <;> cases cleanup <;> rfl

omit [Field N] [FloorRing N] [PyMath N] [PyText N] [Crypto] in
theorem Reading.atLeast_mono {a b : N} (le : a ≤ b) {position : Reading N}
    (high : position.atLeast b = true) : position.atLeast a = true := by
  cases position with
  | finite x => exact decide_eq_true (le.trans (of_decide_eq_true high))
  | posInf => rfl
  | negInf => cases high
  | nan => cases high

/-- A history that has climbed has seen the climb. -/
theorem HasClimbed.seen {history : List (Mark N)} {base trace : List (Event N)}
    (climbed : HasClimbed f history)
    (woven : Weave (Mark.Happens env) (fun _ => Mark.Noise) base history trace) :
    ClimbSeen f.altitude trace := by
  obtain ⟨c, rest, split⟩ := climbed
  refine ⟨c.position, Reading.atLeast_mono (le_max_left _ _) c.high, sublist_of_weave woven ?_⟩
  rw [← split, List.filterMap_append, Flight.climbHistory, List.filterMap_append]
  refine List.Sublist.trans ?_ (List.sublist_append_left _ _)
  refine List.Sublist.trans ?_ (List.sublist_append_right _ _)
  exact .cons _ (.cons_cons _ (.cons_cons _ (.cons _ .slnil)))

end Completions

section Run

variable {N : Type} [Field N] [LinearOrder N] [FloorRing N] [PyMath N] [PyText N] [Crypto]

/-- The last record of a log says how the run ended, and whether all actions were completed. -/
def LastRecord (mission : Mission N) (done : List (MissionAction N))
    (result : Except PyExc ExecutionResult) (last : AuditEvent N) : Prop :=
  (last = .missionCompleted ∧ done = mission.actions ∧ ∃ r, result = .ok r) ∨
    ∃ e status errorType, result = .error e ∧ last = .missionFailed e.text status errorType

/-- The log of a run is well formed, and its completions happened. A home has no check when the
    check raises; then the run raises. -/
structure FaithfulLog (x : MavsdkExecutor N) (mission : Mission N) (approval : SignedApproval)
    (result : Except PyExc ExecutionResult) (trace : List (Event N)) : Prop where
  wellFormed : ∃ (parts : LogParts N) (last : AuditEvent N),
    auditLog trace = (parts.events mission x.systemAddress ++ [last]).map
      (AuditRecord.mk mission.missionId) ∧
    parts.Fit mission (homesRead trace) ∧ LastRecord mission parts.done result last ∧
    ∀ l, parts.unchecked = some l →
      x.CheckRaises approval l.live ∧ .home l.reading ∈ trace ∧ ∃ e, result = .error e
  climbed : ∀ past rest record failure sequence, trace = past ++ .audit record failure :: rest →
    record.event = .actionCompleted sequence .takeoff →
    ∃ altitude, mission.actions.head? = some (.takeoff altitude) ∧ ClimbSeen altitude past
  landed : ∀ past rest record failure sequence, trace = past ++ .audit record failure :: rest →
    record.event = .actionCompleted sequence .land → LandingRead past

/-- The history of a run that got past the start of the mission has a log. -/
theorem Ended.logged {f : Flight N} {result : Except PyExc ExecutionResult}
    {history : List (Mark N)} (ended : Ended f result history)
    (written : ∀ t record, f.env.audit t record = none)
    (created : Mark.exactly .systemCreated ∈ history) :
    ∃ (parts : LogParts N) (last : AuditEvent N),
      history.filterMap Mark.record? =
        (parts.events f.mission f.x.systemAddress ++ [last]).map f.record ∧
      parts.Fit f.mission (history.filterMap (Mark.project Event.homeRead?)).length ∧
      LastRecord f.mission parts.done result last ∧
      ∀ l, parts.unchecked = some l →
        Incomparable f l ∧ Mark.exactly (.home l.reading) ∈ history ∧ ∃ e, result = .error e := by
  have extend : ∀ {stage : Stage f} {parts : LogParts N} (more : List (Mark N))
      (last : AuditEvent N), Logged f stage.history parts →
      more.filterMap Mark.record? = [f.record last] →
      more.filterMap (Mark.project Event.homeRead?) = [] →
      (stage.history ++ more).filterMap Mark.record? =
        (parts.events f.mission f.x.systemAddress ++ [last]).map f.record ∧
      parts.Fit f.mission
        ((stage.history ++ more).filterMap (Mark.project Event.homeRead?)).length := by
    rintro stage parts more last ⟨records, fit, -⟩ record homeless
    rw [List.filterMap_append, List.filterMap_append, records, record, homeless, List.append_nil,
      List.map_append]
    exact ⟨rfl, fit⟩
  cases ended with
  | early stage before =>
    cases stage with
    | creating _ => simp [Stage.history, Flight.linkHistory] at created
    | unstarted refused =>
      obtain ⟨t, e, refused⟩ := refused
      rw [written] at refused
      cases refused
    | _ => cases before
  | completed c item =>
    rw [Flight.completeHistory, List.append_cons]
    obtain ⟨records, fit⟩ := extend [f.attempted .missionCompleted] .missionCompleted
      (logged_reported f c item) rfl rfl
    exact ⟨_, _, records, fit, Or.inl ⟨rfl, f.plan.symm, _, rfl⟩, every_unchecked rfl⟩
  | failed stage unsettled e status errorType tail recovery =>
    have inTry : ¬ stage.Early := by
      intro before
      cases stage with
      | creating _ =>
        rcases recovery with ⟨-, -, rfl⟩ | ⟨required, -⟩
        · simp [Stage.history, Flight.linkHistory, Flight.attempted] at created
        · cases required
      | unstarted refused =>
        obtain ⟨t, e, refused⟩ := refused
        rw [written] at refused
        cases refused
      | _ => cases before
    obtain ⟨parts, logged⟩ := logged_history f stage inTry
    have quiet : tail.filterMap Mark.record? = [] ∧
        tail.filterMap (Mark.project Event.homeRead?) = [] := by
      rcases recovery with ⟨-, -, rfl⟩ | ⟨-, cleanup, -, rfl⟩
      · exact ⟨rfl, rfl⟩
      · generalize stage.flags.takeoffAttempted = attempted at cleanup
        cases attempted <;> cases cleanup <;> exact ⟨rfl, rfl⟩
    rw [List.append_assoc]
    obtain ⟨records, fit⟩ := extend (tail ++ [f.attempted (.missionFailed e.text status errorType)])
      (.missionFailed e.text status errorType) logged
      (by rw [List.filterMap_append, quiet.1]; rfl) (by rw [List.filterMap_append, quiet.2]; rfl)
    refine ⟨parts, _, records, fit, Or.inr ⟨e, status, errorType, rfl, rfl⟩, fun l is_l => ?_⟩
    obtain ⟨incomparable, read⟩ := logged.unchecked l is_l
    exact ⟨incomparable, List.mem_append_left _ read, e, rfl⟩

end Run

section Checks

/-- Over the reals a check raises just where a product of the live home is an infinity. -/
theorem checkRaises_iff [PyText ℝ] [Crypto] (x : MavsdkExecutor ℝ) (approval : SignedApproval)
    (live : HomeSnapshot ℝ) :
    x.CheckRaises approval live ↔
      (∃ bound : HomeSnapshot ℝ, boundHome approval = .ok bound) ∧ ¬ live.Scales := by
  have checked : ∀ bound : HomeSnapshot ℝ, boundHome approval = .ok bound →
      ∃ ok hash, x.checkHome bound live = live.canonical?.map fun _ => (ok, hash) := by
    intro bound rebuilt
    obtain ⟨ok, compared⟩ := withinTolerance_returns bound live x.limits.homeHorizontalToleranceM
      x.limits.homeVerticalToleranceM
    obtain ⟨hash, hashed⟩ := hashed_of_boundHome rebuilt
    have canonical := canonical?_of_scales (homeSha256?_eq_ok hashed).1
    refine ⟨ok, hash, ?_⟩
    simp only [MavsdkExecutor.checkHome, compared, hashed, canonical, bind, Except.bind]
    cases live.canonical? <;> rfl
  constructor
  · rintro ⟨bound, e, rebuilt, raised⟩
    refine ⟨⟨bound, rebuilt⟩, fun scales => ?_⟩
    obtain ⟨ok, hash, same⟩ := checked bound rebuilt
    rw [same, canonical?_of_scales scales] at raised
    cases raised
  · rintro ⟨⟨bound, rebuilt⟩, overflow⟩
    obtain ⟨ok, hash, same⟩ := checked bound rebuilt
    rcases canonical?_eq live with ⟨scales, -⟩ | ⟨-, raised⟩
    · exact absurd scales overflow
    · exact ⟨bound, _, rebuilt, by rw [same, raised]; rfl⟩

end Checks

section Sample

/-- The event of the created system. -/
def Event.createsSystem {N : Type} : Event N → Bool
  | .systemCreated => true
  | _ => false

/-- The event of a home that was read. -/
def Event.readsHome {N : Type} : Event N → Bool
  | .confirmed .home => true
  | _ => false

/-- The record is a check of a home. -/
def AuditEvent.isHomeCheck {N : Type} : AuditEvent N → Bool
  | .homeCheck _ _ _ _ _ => true
  | _ => false

theorem created_of_any {N : Type} {trace : List (Event N)}
    (any : trace.any Event.createsSystem = true) : Event.systemCreated ∈ trace := by
  obtain ⟨event, member, creation⟩ := List.any_eq_true.mp any
  cases event with
  | systemCreated => exact member
  | _ => cases creation

attribute [local instance] Crypto.keyless

attribute [local instance] PyMath.ranged

/-- The calm vehicle, whose home is at an altitude that is an infinite number of millimetres. -/
def highHomeEnv : Env ℚ :=
  .calm { sampleTelemetry ℚ [.exactFalse] with
    home := { sampleHome ℚ with absoluteAltitudeM := .finite (10 ^ 306) } } 1000

end Sample

end Nightjar
