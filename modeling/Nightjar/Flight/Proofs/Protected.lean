import Nightjar.Flight.Protected

/-!
# Recovery survives cancellation

Over every schedule of the two tasks: the steps of the recovery task are those of the recovery by
itself, the mission task ends only with the outcome of the recovery, and `_execute` raises what
first failed the mission.
-/

namespace Nightjar

open Python Interact Exec

namespace Protected

section Body

variable {takeoffAttempted : Bool} {ops : List RecoveryOp}

theorem landing_awaits (awaits : landing.Awaits ops) :
    ops = [] ∨ ops = [.land] ∨ ops = [.land, .waitUntilLanded] := by
  rcases awaits.of_perform with none | one | ⟨-, rest, rfl, waiting⟩
  · exact Or.inl none
  · exact Or.inr (Or.inl one)
  · rcases waiting.of_perform with rfl | rfl | ⟨-, more, rfl, landed⟩
    · exact Or.inr (Or.inl rfl)
    · exact Or.inr (Or.inr rfl)
    · rw [Coro.awaits_pure.mp landed]
      exact Or.inr (Or.inr rfl)

/-- `_recover` issues one cleanup command at most. -/
theorem cleanup_of_awaits (awaits : (recover takeoffAttempted).Awaits ops) :
    ops.count .disarm + ops.count .land ≤ 1 := by
  have landed : ∀ {ops}, landing.Awaits ops →
      ops.count RecoveryOp.disarm + ops.count RecoveryOp.land ≤ 1 := by
    intro ops awaits
    rcases landing_awaits awaits with rfl | rfl | rfl <;> decide
  cases takeoffAttempted with
  | true => exact landed awaits
  | false =>
    rcases awaits.of_perform with rfl | rfl | ⟨item, rest, rfl, chosen⟩
    · decide
    · decide
    · have same : (RecoveryOp.nextInAir :: rest).count RecoveryOp.disarm +
          (RecoveryOp.nextInAir :: rest).count RecoveryOp.land =
            rest.count RecoveryOp.disarm + rest.count RecoveryOp.land := by simp
      rw [same]
      match item with
      | some .exactFalse =>
        rcases chosen.of_perform with rfl | rfl | ⟨-, more, rfl, disarmed⟩
        · decide
        · decide
        · rw [Coro.awaits_pure.mp disarmed]
          decide
      | some .exactTrue => exact landed chosen
      | some (.invalid _) | none =>
        rw [Coro.awaits_raised.mp chosen]
        decide

/-- `_recover` raises `MavsdkExecutorError`, and what its operations raise. -/
theorem recover_raisesOnly {ok : PyExc → Prop} (mavsdk : ∀ text, ok (.mavsdk text)) :
    (recover takeoffAttempted).RaisesOnly ok := by
  have landed : landing.RaisesOnly ok :=
    Coro.raisesOnly_perform fun _ => Coro.raisesOnly_perform fun _ => trivial
  cases takeoffAttempted with
  | true => exact landed
  | false =>
    refine Coro.raisesOnly_perform fun item => ?_
    match item with
    | some .exactFalse => exact Coro.raisesOnly_perform fun _ => trivial
    | some .exactTrue => exact landed
    | some (.invalid _) | none => exact mavsdk _

end Body

section Alone

variable {takeoffAttempted : Bool} {labels : List Recovery.Label} {r r' : Recovery}

/-- A reply to an operation of the recovery. -/
abbrev Reply : Type := Coro.Reply RecoveryOp RecoveryOp.Value PyExc

/-- The reply of a step. -/
def Recovery.Label.reply? : Recovery.Label → Option Reply
  | .reply op value => some ⟨op, value⟩
  | _ => none

/-- The replies of some steps. -/
def Recovery.replies (labels : List Recovery.Label) : List Reply :=
  labels.filterMap Recovery.Label.reply?

theorem Recovery.mem_replies {op : RecoveryOp} {value : Except PyExc op.Value} :
    (⟨op, value⟩ : Reply) ∈ Recovery.replies labels ↔ .reply op value ∈ labels := by
  rw [Recovery.replies, List.mem_filterMap]
  constructor
  · rintro ⟨label, member, same⟩
    cases label with
    | reply op value =>
      cases same
      exact member
    | _ => cases same
  · exact fun member => ⟨_, member, rfl⟩

/-- Where the recovery task is after some replies: `_recover` has gone on with each of them. -/
def Recovery.At (takeoffAttempted : Bool) (replies : List Reply) (r : Recovery) : Prop :=
  match r.point with
  | .created => replies = [] ∧ r.entered = 0 ∧ r.awaited = []
  | .awaiting op resume =>
    Coro.Follows (recover takeoffAttempted) replies (.await op resume) ∧ r.entered = 1 ∧
      r.awaited = replies.map Sigma.fst ++ [op]
  | .done outcome =>
    ∃ own, Coro.Follows (recover takeoffAttempted) replies (Coro.ended own) ∧ r.entered = 1 ∧
      r.awaited = replies.map Sigma.fst ∧ outcome = deadline r.expired own

/-- The recovery task after some steps. -/
structure Recovery.After (takeoffAttempted : Bool) (labels : List Recovery.Label) (r : Recovery) :
    Prop where
  place : r.At takeoffAttempted (Recovery.replies labels)
  expired_iff : r.expired = true ↔ .expire ∈ labels
  caught : ∀ op e, .reply op (.error e) ∈ labels → e.cls.isExceptionOrCancelled = true

theorem Recovery.at_advance {replies : List Reply} {body : Recovering RecoveryStatus}
    (follows : Coro.Follows (recover takeoffAttempted) replies body) (entered : r.entered = 1)
    (awaited : r.awaited = replies.map Sigma.fst) :
    (r.advance body).At takeoffAttempted replies := by
  cases body with
  | returned status => exact ⟨.ok status, follows, entered, awaited, rfl⟩
  | raised e => exact ⟨.error e, follows, entered, awaited, rfl⟩
  | await op resume => exact ⟨follows, entered, by rw [advance, awaited]⟩

theorem Recovery.expired_advance (body : Recovering RecoveryStatus) :
    (r.advance body).expired = r.expired := by
  cases body <;> rfl

/-- A step keeps it. -/
theorem Recovery.After.step {label : Recovery.Label} (after : r.After takeoffAttempted labels)
    (next : Recovery.Step takeoffAttempted r label r') :
    r'.After takeoffAttempted (labels ++ [label]) := by
  obtain ⟨place, expired_iff, caught⟩ := after
  cases next with
  | begin_ created =>
    rw [At, created] at place
    obtain ⟨none, entered, awaited⟩ := place
    have same : Recovery.replies (labels ++ [.begin_]) = [] := by
      rw [Recovery.replies, List.filterMap_append, ← Recovery.replies, none]
      rfl
    refine ⟨?_, ?_, ?_⟩
    · rw [same]
      exact at_advance .start (by simp [entered]) awaited
    · rw [expired_advance]
      simpa using expired_iff
    · simpa using caught
  | @reply op resume value awaiting good =>
    rw [At, awaiting] at place
    obtain ⟨follows, entered, awaited⟩ := place
    have same : Recovery.replies (labels ++ [.reply op value]) =
        Recovery.replies labels ++ [⟨op, value⟩] := by
      rw [Recovery.replies, List.filterMap_append]
      rfl
    refine ⟨?_, ?_, ?_⟩
    · rw [same]
      exact at_advance (.resume value follows) entered (by rw [awaited, List.map_append]; rfl)
    · rw [expired_advance]
      simpa using expired_iff
    · intro op' e member
      rcases List.mem_append.mp member with earlier | last
      · exact caught op' e earlier
      · cases List.mem_singleton.mp last
        exact good e rfl
  | @expire op resume awaiting running =>
    rw [At, awaiting] at place
    have same : Recovery.replies (labels ++ [.expire]) = Recovery.replies labels := by
      rw [Recovery.replies, List.filterMap_append]
      exact List.append_nil _
    refine ⟨?_, ?_, ?_⟩
    · rw [same, At]
      simp only [awaiting]
      exact place
    · simp
    · simpa using caught

/-- A run of the recovery by itself. -/
theorem Recovery.after_run (ran : Run (Recovery.Step takeoffAttempted) .new labels r) :
    r.After takeoffAttempted labels :=
  Run.invariant (I := fun labels r => r.After takeoffAttempted labels)
    ⟨⟨rfl, rfl, rfl⟩, by simp [Recovery.new], by simp⟩
    (fun _ _ _ _ _ after next => after.step next) ran

/-- How a recovery that is done has ended. -/
structure Recovery.Ended (takeoffAttempted : Bool) (labels : List Recovery.Label)
    (outcome : Except PyExc RecoveryStatus) : Prop where
  /-- The body of `_recover` has ended, and `wait_for` has passed on how, or replaced it. -/
  body : ∃ own expired, Coro.Follows (recover takeoffAttempted) (Recovery.replies labels)
    (Coro.ended own) ∧ (expired = true ↔ .expire ∈ labels) ∧ outcome = deadline expired own
  /-- A cancellation is reported when an operation was cancelled and the timeout did not expire. -/
  cancelled : ∀ e, outcome = .error e → e.cls = .cancelledError →
    .expire ∉ labels ∧ ∃ op, .reply op (.error e) ∈ labels
  /-- Any other exception is `_recover`'s own, or an operation's, or that of the timeout. -/
  raised : ∀ e, outcome = .error e → e.cls ≠ .cancelledError →
    (∃ text, e = .mavsdk text) ∨ (∃ op, .reply op (.error e) ∈ labels) ∨
      (e = ⟨.timeoutError, ""⟩ ∧ .expire ∈ labels)
  caught : ∀ e, outcome = .error e → e.cls.isExceptionOrCancelled = true

theorem Recovery.After.ended (after : r.After takeoffAttempted labels)
    {outcome : Except PyExc RecoveryStatus} (done : r.point = .done outcome) :
    Recovery.Ended takeoffAttempted labels outcome := by
  obtain ⟨place, expired_iff, caught⟩ := after
  rw [At, done] at place
  obtain ⟨own, follows, -, -, rfl⟩ := place
  have body : ∃ own' expired, Coro.Follows (recover takeoffAttempted) (Recovery.replies labels)
      (Coro.ended own') ∧ (expired = true ↔ .expire ∈ labels) ∧
        deadline r.expired own = deadline expired own' :=
    ⟨own, r.expired, follows, expired_iff, rfl⟩
  -- What `_recover` raises by itself is an `Exception`.
  have source : ∀ e, own = .error e →
      (∃ text, e = .mavsdk text) ∨ ∃ op, .reply op (.error e) ∈ labels := by
    rintro e rfl
    let ok : PyExc → Prop := fun e =>
      (∃ text, e = .mavsdk text) ∨ ∃ op, .reply op (.error e) ∈ labels
    have raises : (recover takeoffAttempted).RaisesOnly ok :=
      recover_raisesOnly fun text => Or.inl ⟨text, rfl⟩
    exact follows.raisesOnly raises fun op e member => Or.inr ⟨op, mem_replies.mp member⟩
  have good : ∀ e, own = .error e → e.cls.isExceptionOrCancelled = true := by
    intro e raised
    rcases source e raised with ⟨text, rfl⟩ | ⟨op, member⟩
    · rfl
    · exact caught op e member
  cases own with
  | ok status => exact ⟨body, nofun, nofun, nofun⟩
  | error own =>
    by_cases timed : r.expired = true ∧ own.cls = .cancelledError
    · rw [deadline, if_pos timed] at body ⊢
      refine ⟨body, ?_, ?_, ?_⟩
      · rintro e ⟨⟩ cancelled
        cases cancelled
      · rintro e ⟨⟩ -
        exact Or.inr (Or.inr ⟨rfl, expired_iff.mp timed.1⟩)
      · rintro e ⟨⟩
        rfl
    · rw [deadline, if_neg timed] at body ⊢
      refine ⟨body, ?_, ?_, ?_⟩
      · rintro e ⟨⟩ cancelled
        refine ⟨fun expired => timed ⟨expired_iff.mpr expired, cancelled⟩, ?_⟩
        rcases source own rfl with ⟨text, rfl⟩ | replied
        · cases cancelled
        · exact replied
      · rintro e ⟨⟩ -
        rcases source own rfl with mavsdk | replied
        · exact Or.inl mavsdk
        · exact Or.inr (Or.inl replied)
      · rintro e ⟨⟩
        exact good own rfl

/-- The body of `_recover` is entered once at most. -/
theorem Recovery.After.entered_le (after : r.After takeoffAttempted labels) : r.entered ≤ 1 := by
  have place := after.place
  rw [At] at place
  split at place
  · omega
  · omega
  · obtain ⟨-, -, entered, -⟩ := place
    omega

/-- It issues one cleanup command at most. -/
theorem Recovery.After.one_cleanup (after : r.After takeoffAttempted labels) :
    r.awaited.count .disarm + r.awaited.count .land ≤ 1 := by
  have place := after.place
  rw [At] at place
  split at place
  · rw [place.2.2]
    decide
  · rename_i op resume _
    rw [place.2.2]
    exact cleanup_of_awaits (place.1.awaits [op] ⟨rfl, .error (.mavsdk ""), Coro.Awaits.nil _⟩)
  · obtain ⟨own, follows, -, awaited, -⟩ := place
    rw [awaited, ← List.append_nil (List.map _ _)]
    exact cleanup_of_awaits (follows.awaits [] (Coro.Awaits.nil _))

/-- A recovery that is done takes no step. -/
theorem Recovery.Step.not_done {label : Recovery.Label}
    (next : Recovery.Step takeoffAttempted r label r') (outcome : Except PyExc RecoveryStatus) :
    r.point ≠ .done outcome := by
  intro done
  cases next with
  | begin_ created => cases created.symm.trans done
  | reply _ awaiting | expire awaiting => cases awaiting.symm.trans done

end Alone

section Schedules

variable {takeoffAttempted : Bool} {origin : PyExc} {labels : List Label} {s s' : Tasks}

/-- The step of the recovery task. -/
def Label.recovery? : Label → Option Recovery.Label
  | .recovery label => some label
  | _ => none

/-- The steps of the recovery task in a schedule. -/
def recoverySteps (labels : List Label) : List Recovery.Label :=
  labels.filterMap Label.recovery?

theorem recoverySteps_append (labels : List Label) {label : Label}
    (other : label.recovery? = none) :
    recoverySteps (labels ++ [label]) = recoverySteps labels := by
  rw [recoverySteps, List.filterMap_append, List.filterMap_cons, other]
  exact List.append_nil _

/-- The two tasks after a schedule: there is a recovery task once the handler has started one, it
    has taken its own steps, and what it has come to is what the mission task sees. -/
structure Reached (takeoffAttempted : Bool) (origin : PyExc) (labels : List Label) (s : Tasks) :
    Prop where
  absent : s.recovery = none → s.mission = .failed ∧ s.created = 0 ∧ recoverySteps labels = []
  present : ∀ r, s.recovery = some r → s.mission ≠ .failed ∧ s.created = 1 ∧
    Run (Recovery.Step takeoffAttempted) .new (recoverySteps labels) r
  seen : ∀ e, s.mission = .shielding (.exception e) →
    ∃ r, s.recovery = some r ∧ r.point = .done (.error e)
  ended : ∀ outcome raised, s.mission = .ended outcome raised →
    raised = Tasks.handlerRaises origin outcome ∧
      ∃ r, s.recovery = some r ∧ r.point = .done outcome

/-- A state with the same recovery, in which the mission task has gone on. -/
theorem Reached.of_mission {label : Label} (reached : Reached takeoffAttempted origin labels s)
    (other : label.recovery? = none) (recovery : s'.recovery = s.recovery)
    (created : s'.created = s.created) (started : s'.mission = .failed ↔ s.mission = .failed)
    (seen : ∀ e, s'.mission = .shielding (.exception e) →
      ∃ r, s.recovery = some r ∧ r.point = .done (.error e))
    (ended : ∀ outcome raised, s'.mission = .ended outcome raised →
      raised = Tasks.handlerRaises origin outcome ∧
        ∃ r, s.recovery = some r ∧ r.point = .done outcome) :
    Reached takeoffAttempted origin (labels ++ [label]) s' where
  absent none := by
    rw [recovery] at none
    rw [recoverySteps_append labels other, started, created]
    exact reached.absent none
  present r some := by
    rw [recovery] at some
    rw [recoverySteps_append labels other, ne_eq, started, created]
    exact reached.present r some
  seen e now := by
    rw [recovery]
    exact seen e now
  ended outcome raised now := by
    rw [recovery]
    exact ended outcome raised now

/-- The loop ends with the outcome of a recovery that is done, and otherwise awaits a shield. -/
theorem loop_cases (origin : PyExc) (s : Tasks) :
    (∃ r outcome, s.recovery = some r ∧ r.point = .done outcome ∧
        s.loop origin = s.finish origin outcome) ∨
      s.loop origin = { s with
        mission := .shielding (if s.mustCancel then .cancelled else .pending)
        mustCancel := false } := by
  unfold Tasks.loop
  split
  · rename_i outcome done
    obtain ⟨r, some, point⟩ := Option.map_eq_some_iff.mp done
    exact Or.inl ⟨r, outcome, some, point, rfl⟩
  · exact Or.inr rfl

/-- The mission task goes on with its loop. -/
theorem Reached.loop {label : Label} {due : Bool}
    (reached : Reached takeoffAttempted origin labels s) (other : label.recovery? = none)
    (started : s.mission ≠ .failed) :
    Reached takeoffAttempted origin (labels ++ [label])
      ({ s with mustCancel := due }.loop origin) := by
  rcases loop_cases origin { s with mustCancel := due } with ⟨r, outcome, some, done, same⟩ | same
  · rw [same]
    refine reached.of_mission other rfl rfl (iff_of_false nofun started) nofun ?_
    rintro outcome' raised ⟨⟩
    exact ⟨rfl, r, some, done⟩
  · rw [same]
    refine reached.of_mission other rfl rfl (iff_of_false nofun started) ?_ nofun
    intro e now
    cases due <;> cases now

/-- Every step keeps it. -/
theorem Reached.step {label : Label} (reached : Reached takeoffAttempted origin labels s)
    (next : Step takeoffAttempted origin s label s') :
    Reached takeoffAttempted origin (labels ++ [label]) s' := by
  cases next with
  | create failed =>
    have none : s.recovery = none := by
      cases recovery : s.recovery with
      | none => rfl
      | some r => exact absurd failed (reached.present r recovery).1
    obtain ⟨-, created, steps⟩ := reached.absent none
    have same : s.create origin =
        ⟨.shielding (if s.mustCancel then .cancelled else .pending), false, some .new, 1⟩ := by
      simp [Tasks.create, Tasks.loop, Recovery.new, created]
    rw [same]
    refine ⟨nofun, ?_, ?_, nofun⟩
    · rintro r ⟨⟩
      rw [recoverySteps_append labels rfl, steps]
      exact ⟨nofun, rfl, Run.start⟩
    · intro e now
      cases due : s.mustCancel <;> simp [due] at now
  | @wake shield shielding done =>
    have started : s.mission ≠ .failed := by
      rw [shielding]
      nofun
    unfold Tasks.resume
    dsimp only
    split
    · rename_i e _
      obtain ⟨r, some, point⟩ := reached.seen e shielding
      refine reached.of_mission rfl rfl rfl (iff_of_false nofun started) nofun ?_
      rintro outcome raised ⟨⟩
      exact ⟨rfl, r, some, point⟩
    · exact reached.loop rfl started
  | @notify r outcome shielding created done =>
    refine reached.of_mission rfl rfl rfl (iff_of_false nofun (by rw [shielding]; nofun)) ?_ nofun
    intro e now
    refine ⟨r, created, done.trans ?_⟩
    cases outcome with
    | ok status => cases now
    | error e' =>
      unfold Tasks.shieldOf at now
      dsimp only at now
      split_ifs at now
      · cases now
      · cases now
        rfl
  | cancel =>
    have recovery : s.cancel.recovery = s.recovery ∧ s.cancel.created = s.created := by
      unfold Tasks.cancel
      split <;> exact ⟨rfl, rfl⟩
    have mission : s.cancel.mission = s.mission ∨
        (s.mission = .shielding .pending ∧ s.cancel.mission = .shielding .cancelled) := by
      unfold Tasks.cancel
      split
      · exact Or.inl rfl
      · rename_i pending
        exact Or.inr ⟨pending, rfl⟩
      · exact Or.inl rfl
      · exact Or.inl rfl
    rcases mission with same | ⟨pending, cancelled⟩
    · exact reached.of_mission rfl recovery.1 recovery.2 (by rw [same])
        (by rw [same]; exact reached.seen) (by rw [same]; exact reached.ended)
    · exact reached.of_mission rfl recovery.1 recovery.2
        (by rw [cancelled, pending]; exact iff_of_false nofun nofun)
        (by rw [cancelled]; nofun) (by rw [cancelled]; nofun)
  | @recovery r r' label created step =>
    obtain ⟨started, one, ran⟩ := reached.present r created
    have still : ∀ outcome, (∃ r, s.recovery = some r ∧ r.point = .done outcome) → False := by
      rintro outcome ⟨r'', some, done⟩
      cases created.symm.trans some
      exact step.not_done outcome done
    refine ⟨nofun, ?_, fun e now => (still _ (reached.seen e now)).elim,
      fun outcome raised now => (still _ (reached.ended outcome raised now).2).elim⟩
    rintro r'' ⟨⟩
    refine ⟨started, one, ?_⟩
    rw [recoverySteps, List.filterMap_append]
    exact Run.snoc_iff.mpr ⟨r, ran, step⟩

/-- A schedule leads to a state that the two tasks can be in. -/
theorem reached_run (ran : Run (Step takeoffAttempted origin) Tasks.start labels s) :
    Reached takeoffAttempted origin labels s :=
  Run.invariant (I := fun labels s => Reached takeoffAttempted origin labels s)
    ⟨fun _ => ⟨rfl, rfl, rfl⟩, fun _ some => (by cases some), fun _ now => (by cases now),
      fun _ _ now => (by cases now)⟩
    (fun _ _ _ _ _ reached next => reached.step next) ran

/-- What the recovery is in spite of cancellations, after a schedule. -/
structure Survives (takeoffAttempted : Bool) (origin : PyExc) (labels : List Label) (s : Tasks) :
    Prop where
  /-- One recovery task is created. -/
  one_task : (s.mission = .failed ∧ s.recovery = none ∧ s.created = 0) ∨
    (s.mission ≠ .failed ∧ s.recovery ≠ none ∧ s.created = 1)
  /-- It takes its own steps, as if it were alone: only its timeout cancels it. -/
  alone : ∀ r, s.recovery = some r →
    Run (Recovery.Step takeoffAttempted) .new (recoverySteps labels) r
  /-- A cancellation of the mission task does not change it. -/
  untouched : s.cancel.recovery = s.recovery ∧ s.cancel.created = s.created
  /-- The body of `_recover` is entered once at most. -/
  entered_once : ∀ r, s.recovery = some r → r.entered ≤ 1
  /-- There is one `disarm()` or one `land()` at most. -/
  one_cleanup : ∀ r, s.recovery = some r → r.awaited.count .disarm + r.awaited.count .land ≤ 1
  /-- `_recover_protected` ends with the outcome of a recovery task that is done, and then
      `_execute` raises the exception that failed the mission. -/
  ended : ∀ outcome raised, s.mission = .ended outcome raised → raised = origin ∧
    ∃ r, s.recovery = some r ∧ r.point = .done outcome ∧
      Recovery.Ended takeoffAttempted (recoverySteps labels) outcome

/-- **Recovery survives every pattern of cancellation.** -/
theorem run_survives (ran : Run (Step takeoffAttempted origin) Tasks.start labels s) :
    Survives takeoffAttempted origin labels s := by
  have reached := reached_run ran
  have after : ∀ r, s.recovery = some r → r.After takeoffAttempted (recoverySteps labels) :=
    fun r some => Recovery.after_run (reached.present r some).2.2
  refine ⟨?_, fun r some => (reached.present r some).2.2, ?_,
    fun r some => (after r some).entered_le, fun r some => (after r some).one_cleanup, ?_⟩
  · cases recovery : s.recovery with
    | none =>
      obtain ⟨failed, none, -⟩ := reached.absent recovery
      exact Or.inl ⟨failed, rfl, none⟩
    | some r =>
      obtain ⟨started, one, -⟩ := reached.present r recovery
      exact Or.inr ⟨started, nofun, one⟩
  · unfold Tasks.cancel
    split <;> exact ⟨rfl, rfl⟩
  · intro outcome raised now
    obtain ⟨same, r, some, done⟩ := reached.ended outcome raised now
    have ended := (after r some).ended done
    refine ⟨?_, r, some, done, ended⟩
    rw [same]
    cases outcome with
    | ok status => rfl
    | error e => exact if_pos (ended.caught e rfl)

/-- Three cancellations: before the recovery begins, while the vehicle lands, and when it has
    landed. -/
theorem run_survives_cancelled :
    Survives true (.mavsdk "MAVSDK in-air telemetry ended.")
      [.create, .cancel, .wake, .recovery .begin_, .recovery (.reply .land (.ok ())), .cancel,
        .wake, .recovery (.reply .waitUntilLanded (.ok ())), .cancel, .wake]
      ⟨.ended (.ok .landingConfirmed) (.mavsdk "MAVSDK in-air telemetry ended."), false,
        some ⟨.done (.ok .landingConfirmed), false, 1, [.land, .waitUntilLanded]⟩, 1⟩ := by
  refine run_survives ?_
  refine Run.cons (.create rfl) ?_
  refine Run.cons .cancel ?_
  refine Run.cons (.wake rfl nofun) ?_
  refine Run.cons (.recovery rfl (.begin_ rfl)) ?_
  refine Run.cons (.recovery rfl (.reply _ rfl nofun)) ?_
  refine Run.cons .cancel ?_
  refine Run.cons (.wake rfl nofun) ?_
  refine Run.cons (.recovery rfl (.reply _ rfl nofun)) ?_
  refine Run.cons .cancel ?_
  refine Run.cons (.wake rfl nofun) ?_
  exact Run.start

end Schedules

section Sequential

variable {N : Type} [Field N] [LinearOrder N] [FloorRing N] [PyMath N] [PyText N] [Crypto]
  (x : MavsdkExecutor N) (env : Env N)

/-- The first item of `telemetry.in_air()`. -/
def firstInAir : Exec N (Option Flag) := do
  let stream ← ask env.inAir
  match stream.items, stream.ending with
  | [], .exhausted => pure none
  | [], .raised e => Prog.raise e
  | item :: _, _ => do
      emit (.cleanupInAir item)
      pure (some item)

/-- An operation of the recovery, performed when it is awaited. -/
def performRecovery : ∀ op : RecoveryOp, Exec N op.Value
  | .nextInAir => firstInAir env
  | .disarm => command env .disarm
  | .land => command env .land
  | .waitUntilLanded => x.waitUntilLanded env

omit [FloorRing N] [PyMath N] in
theorem run_landing : landing.run (performRecovery x env) = (do
    command env .land
    x.waitUntilLanded env
    pure .landingConfirmed) := by
  simp only [landing, Coro.run_bind, Coro.run_perform]
  rfl

omit [FloorRing N] [PyMath N] in
theorem run_disarm (status : RecoveryStatus) :
    Coro.run (performRecovery x env) (do
      let _ ← Coro.perform RecoveryOp.disarm
      pure status) = (do
    command env .disarm
    pure status) := by
  simp only [Coro.run_bind, Coro.run_perform]
  rfl

omit [FloorRing N] [PyMath N] in
/-- The sequential recovery performs every operation when it is awaited. It does not show that the
    outer `wait_for`, which has the timeout of the landing wait and started before it, ends that
    wait with a `TimeoutError`: in the tasks this is the step `expire`. -/
theorem recover_eq_run (takeoffAttempted : Bool) :
    x.recover env takeoffAttempted =
      (recover takeoffAttempted).run (performRecovery x env) := by
  cases takeoffAttempted with
  | true => exact (run_landing x env).symm
  | false =>
    simp only [recover, reduceIte, Coro.run_bind, Coro.run_perform]
    funext s
    cases stream : env.inAir s.trace with
    | mk items ending =>
      cases items with
      | nil =>
        simp only [MavsdkExecutor.recover, MavsdkExecutor.chooseCleanup, performRecovery,
          firstInAir, ask, Prog.read, bind, pure, stream, reduceIte]
        cases ending <;> rfl
      | cons item items =>
        simp only [MavsdkExecutor.recover, MavsdkExecutor.chooseCleanup, performRecovery,
          firstInAir, ask, Prog.read, bind, pure, stream, reduceIte, emit, Prog.modify]
        cases item with
        | exactTrue => exact (congrFun (run_landing x env) _).symm
        | exactFalse =>
          refine Eq.trans ?_ (congrFun (run_disarm x env .disarmAccepted) _).symm
          simp only [bind, pure, Prog.forStream]
          cases command env .disarm { s with trace := s.trace ++ [.cleanupInAir .exactFalse] } with
          | mk reply s' => cases reply <;> rfl
        | invalid truthy => rfl

end Sequential

end Protected

end Nightjar
