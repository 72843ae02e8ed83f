import Nightjar.Flight.Calm
import Nightjar.Flight.Proofs.Launch

/-!
# What confirms a landing

The landing wait returns on the first item that is not true, which may be an item that is no
`bool`. Where the streams it reads show an exact `False` first, every completed landing was seen.
-/

namespace Nightjar

open Interact Prog Exec Python

section Seen

variable {N : Type}

/-- An exact `False` was read after the last `land` command returned. -/
def SeenLanded (past : List (Event N)) : Prop :=
  ∃ before after, past = before ++ .returned .land :: after ∧ Event.inAir .exactFalse ∈ after ∧
    Event.returned .land ∉ after

/-- A record that says a landing was completed. -/
def AuditEvent.saysLanded : AuditEvent N → Bool
  | actionCompleted _ .land | missionCompleted | missionFailed _ .landingConfirmed _ => true
  | _ => false

/-- Whatever says that a landing was completed comes after an exact `False`. -/
structure LandingsSeen (result : Except PyExc ExecutionResult) (trace : List (Event N)) :
    Prop where
  recorded : ∀ past rest (record : AuditRecord N) failure,
    trace = past ++ .audit record failure :: rest → record.event.saysLanded = true →
      SeenLanded past
  returned : ∀ r, result = .ok r → SeenLanded trace

/-- The first item that is not true is an exact `False`, if there is one. -/
def ShowsFalseFirst (items : List Flag) : Prop :=
  ∀ seen item, seen ++ [item] <+: items → (∀ flag ∈ seen, flag.truthy = true) →
    item.truthy = false → item = .exactFalse

/-- The streams that the landing waits of a run read show an exact `False` first: those opened
    right after a `land` command returned. -/
def LandingStreamsValid (env : Env N) (trace : List (Event N)) : Prop :=
  ∀ opened, opened <+: trace → opened.getLast? = some (.returned .land) →
    ShowsFalseFirst (env.inAir opened).items

/-- The mark is a record that says a landing was completed. -/
def Mark.saysLanded : Mark N → Bool
  | .exactly (.audit record _) | .attempt record => record.event.saysLanded
  | _ => false

/-- The `land` command returned. -/
def Mark.returnsLand : Mark N → Bool
  | .exactly (.returned .land) => true
  | _ => false

/-- The history has a landing wait that returned, and no later `land`. -/
def WaitedForLanding (history : List (Mark N)) : Prop :=
  ∃ before item after, history = before ++ .landing item :: after ∧
    after.any Mark.returnsLand = false

theorem WaitedForLanding.concat {history : List (Mark N)} (waited : WaitedForLanding history)
    {mark : Mark N} (quiet : mark.returnsLand = false) : WaitedForLanding (history ++ [mark]) := by
  obtain ⟨before, item, after, rfl, none⟩ := waited
  exact ⟨before, item, after ++ [mark], by simp, by simp [none, quiet]⟩

/-- A landing that was waited for on a valid stream was seen. -/
theorem WaitedForLanding.seen {env : Env N} {base trace : List (Event N)}
    {history : List (Mark N)} (waited : WaitedForLanding history)
    (woven : Weave (Mark.Happens env) (fun _ => Mark.Noise) base history trace)
    (valid : LandingStreamsValid env trace) : SeenLanded trace := by
  obtain ⟨before, item, after, rfl, none⟩ := waited
  obtain ⟨read, e, first, ⟨same, opened, seen, at_, last, truthy, falsy, position⟩, second⟩ :=
    woven.at_step rfl
  subst same
  obtain ⟨later, whole⟩ := second.base_prefix
  rw [← whole, at_] at valid
  have exact_ : item = .exactFalse := by
    refine valid opened ?_ last seen item position truthy falsy
    rw [List.append_assoc, List.append_assoc]
    exact List.prefix_append _ _
  subst exact_
  obtain ⟨start, rfl⟩ := List.getLast?_eq_some_iff.mp last
  refine ⟨start, seen.map Event.inAir ++ .inAir .exactFalse :: later, ?_, by simp, ?_⟩
  · rw [← whole, at_]
    simp
  · have unreturned : Event.returned .land ∉ later := by
      intro member
      rw [← whole] at second
      have mark := mark_of_mem (e := .returned .land) second id
        (fun _ _ same => nomatch same) (fun _ same => nomatch same) member
      rw [List.any_eq_false] at none
      exact none _ mark rfl
    simp [unreturned]

theorem guarded_of_any {history : List (Mark N)} (none : history.any Mark.saysLanded = false) :
    Guarded (fun mark : Mark N => mark.saysLanded = true) WaitedForLanding history := by
  rw [List.any_eq_false] at none
  exact guarded_of_none fun mark member => none mark member

/-- Before a record of a landing the trace is woven from a history that has waited for it. -/
theorem waited_of_record {env : Env N} {history : List (Mark N)} {trace past rest : List (Event N)}
    {record : AuditRecord N} {failure : Option PyExc}
    (woven : Weave (Mark.Happens env) (fun _ => Mark.Noise) [] history trace)
    (guarded : Guarded (fun mark : Mark N => mark.saysLanded = true) WaitedForLanding history)
    (split : trace = past ++ .audit record failure :: rest)
    (claimed : record.event.saysLanded = true) :
    ∃ before, Weave (Mark.Happens env) (fun _ => Mark.Noise) [] before past ∧
      WaitedForLanding before := by
  refine woven.guarded guarded split (Nat.zero_le _) id fun mark happens => ?_
  cases mark with
  | exactly event => cases happens; exact claimed
  | attempt record' => rw [(Event.audit.inj happens).1] at claimed; exact claimed
  | landing item => cases happens.1

end Seen

section Histories

variable {N : Type} [Field N] [LinearOrder N] [FloorRing N] [PyMath N] [PyText N] [Crypto]
  {f : Flight N}

/-- What no hold and no other mark of the flight up to the landing has. -/
theorem saysLanded_cruiseHistory (c : Climbed f) (done : List Int) :
    (f.cruiseHistory c done).any Mark.saysLanded = false := by
  simp only [Flight.cruiseHistory, List.any_append,
    any_holdsMarks (f := f) (p := Mark.saysLanded) fun _ _ => rfl]
  rfl

theorem saysLanded_landHistory (c : Climbed f) (item : Flag) :
    (f.landHistory c item).any Mark.saysLanded = false := by
  rw [Flight.landHistory, List.any_append, saysLanded_cruiseHistory]
  rfl

/-- Up to the confirmed landing no record says it was completed. -/
theorem saysLanded_history (stage : Stage f) (unsettled : ¬ stage.Settled) :
    stage.history.any Mark.saysLanded = false := by
  cases stage with
  | reported c item => exact absurd trivial unsettled
  | cruising c done => exact saysLanded_cruiseHistory c done
  | holdAnnounced c done | holding c done | landAnnounced c | landing c | landSent c
  | landSeen c item =>
    rw [Stage.history, List.any_append, saysLanded_cruiseHistory]
    rfl
  | _ => rfl

theorem waitedForLanding_landHistory (c : Climbed f) (item : Flag) :
    WaitedForLanding (f.landHistory c item) :=
  ⟨f.cruiseHistory c f.holds ++ [f.attempted (.actionStarted f.landSequence .land),
    .exactly (.issued .land), .exactly (.returned .land)], item, [.exactly (.confirmed .landing)],
    by simp [Flight.landHistory], rfl⟩

/-- In the history of a stage, records of a landing come after the wait for it. -/
theorem guarded_history (stage : Stage f) :
    Guarded (fun mark : Mark N => mark.saysLanded = true) WaitedForLanding stage.history := by
  cases stage with
  | reported c item =>
    exact (guarded_of_any (saysLanded_landHistory c item)).concat fun _ =>
      waitedForLanding_landHistory c item
  | _ => exact guarded_of_any (saysLanded_history _ id)

theorem guarded_completeHistory (c : Climbed f) (item : Flag) :
    Guarded (fun mark : Mark N => mark.saysLanded = true) WaitedForLanding
      (f.completeHistory c item) := by
  rw [Flight.completeHistory, List.append_cons]
  exact (guarded_history (.reported c item)).concat fun _ =>
    (waitedForLanding_landHistory c item).concat rfl

omit [FloorRing N] [PyMath N] [PyText N] in
/-- A recovery makes no record. -/
theorem saysLanded_tail {x : MavsdkExecutor N} {flags : Flags} {status : RecoveryStatus}
    {tail : List (Mark N)} (recovery : Tail x flags status tail) :
    ∀ mark ∈ tail, ¬ mark.saysLanded = true := by
  rw [← List.any_eq_false]
  exact any_tail recovery fun attempted cleanup => by cases attempted <;> cases cleanup <;> rfl

omit [FloorRing N] [PyMath N] [PyText N] in
/-- A recovery that reports a confirmed landing has waited for it. -/
theorem waitedForLanding_tail {x : MavsdkExecutor N} {flags : Flags} {tail : List (Mark N)}
    (recovery : Tail x flags .landingConfirmed tail) (before : List (Mark N)) :
    WaitedForLanding (before ++ tail) := by
  rcases recovery with ⟨-, same, -⟩ | ⟨-, cleanup, ⟨item, rfl⟩, rfl⟩
  · cases same
  · refine ⟨before ++ .exactly .recoveryStarted ::
        (Cleanup.beforeLanding N flags.takeoffAttempted ++
          [.exactly (.issued .land), .exactly (.returned .land)]), item,
      [.exactly (.confirmed .landing)], ?_, rfl⟩
    simp [Cleanup.marks]

/-- The same of every history of a run that raises. -/
theorem Broken.guarded {base trace : List (Event N)} {e : PyExc} {history : List (Mark N)}
    (broken : Broken f base trace e history) :
    Guarded (fun mark : Mark N => mark.saysLanded = true) WaitedForLanding history := by
  cases broken with
  | early stage | unhandled stage => exact guarded_history stage
  | cut stage _ _ _ _ _ tail recovery =>
    exact (guarded_history stage).append (saysLanded_tail recovery)
  | finished c item => exact guarded_completeHistory c item
  | handled stage _ _ _ _ status _ tail recovery | lost stage _ _ _ _ status _ tail recovery =>
    refine ((guarded_history stage).append (saysLanded_tail recovery)).concat fun claimed => ?_
    cases status with
    | landingConfirmed => exact waitedForLanding_tail recovery stage.history
    | _ => cases claimed

end Histories

section Run

variable {N : Type} [Field N] [LinearOrder N] [FloorRing N] [PyMath N] [PyText N] [Crypto]

/-- In every run the records of a landing come after the wait for it; so does the return. -/
theorem run_guarded (x : MavsdkExecutor N) (env : Env N) (mission : Mission N)
    (approval : SignedApproval) (table : NonceTable)
    (accepted : x.validateMission mission = .ok ()) :
    ∃ history, Weave (Mark.Happens env) (fun _ => Mark.Noise) [] history
        (x.execute' env mission approval (.init N table)).2.trace ∧
      Guarded (fun mark : Mark N => mark.saysLanded = true) WaitedForLanding history ∧
      ∀ r, (x.execute' env mission approval (.init N table)).1 = .ok r →
        WaitedForLanding history := by
  obtain ⟨altitude, holds, plan, -⟩ := plan_of_validateMission accepted
  let f : Flight N := ⟨x, env, mission, approval, altitude, holds, plan⟩
  have ran := triple_execute' f (.init N table) ⟨rfl, rfl⟩
  rw [show f.x.execute' f.env f.mission f.approval (.init N table) =
    x.execute' env mission approval (.init N table) from rfl] at ran
  cases run : x.execute' env mission approval (.init N table) with
  | mk result s =>
  rw [run] at ran
  cases result with
  | ok r =>
    obtain ⟨-, c, item, hist⟩ := ran
    refine ⟨_, hist.woven, guarded_completeHistory c item, fun _ _ => ?_⟩
    rw [Flight.completeHistory, List.append_cons]
    exact ((waitedForLanding_landHistory c item).concat rfl).concat rfl
  | error e =>
    obtain ⟨history, flags, broken, hist⟩ := ran
    exact ⟨history, hist.woven, broken.guarded, fun _ returned => by cases returned⟩

/-- **Landings are seen on valid streams.** In every run of `_execute` on an accepted mission whose
    landing waits read streams that show an exact `False` first, whatever says that a landing was
    completed comes after an exact `False`. -/
theorem run_landingsSeen (x : MavsdkExecutor N) (env : Env N) (mission : Mission N)
    (approval : SignedApproval) (table : NonceTable)
    (accepted : x.validateMission mission = .ok ())
    (valid : LandingStreamsValid env
      (x.execute' env mission approval (.init N table)).2.trace) :
    LandingsSeen (x.execute' env mission approval (.init N table)).1
      (x.execute' env mission approval (.init N table)).2.trace := by
  obtain ⟨history, woven, guarded, returned⟩ := run_guarded x env mission approval table accepted
  refine ⟨fun past rest record failure split claimed => ?_,
    fun r same => (returned r same).seen woven valid⟩
  obtain ⟨before, woven', waited⟩ := waited_of_record woven guarded split claimed
  refine waited.seen woven' fun opened early => valid opened (early.trans ?_)
  rw [split]
  exact List.prefix_append _ _

end Run

section Sample

/-- A landing stream that ends with an exact `False`. -/
theorem showsFalseFirst_sample : ShowsFalseFirst [.exactTrue, .exactFalse] := by
  rintro seen item ⟨rest, split⟩ truthy falsy
  rcases seen with - | ⟨first, - | ⟨second, later⟩⟩
  · cases split
    cases falsy
  · cases split
    rfl
  · have lengths := congrArg List.length split
    simp at lengths

/-- The simulation mission, landing on such a stream. -/
theorem run_landingsSeen_simulation :
    LandingsSeen (simulationRun [.exactTrue, .exactFalse]).1
      (simulationRun [.exactTrue, .exactFalse]).2.trace :=
  let _ : Crypto := .keyless
  run_landingsSeen (sampleExecutor ()) _ _ _ _ (validateMission_sample ())
    fun _ _ _ => showsFalseFirst_sample

/-- The item of an event that the landing wait read. -/
def Event.inAir? : Event ℚ → Option Flag
  | .inAir item => some item
  | _ => none

/-- On a stream of one item that is no `bool` the mission completes unseen. -/
theorem not_landingsSeen_invalid :
    ¬ LandingsSeen (simulationRun [.invalid false]).1 (simulationRun [.invalid false]).2.trace := by
  intro seen
  have returned : (simulationRun [.invalid false]).1 = simulationResult := by decide +kernel
  have read : (simulationRun [.invalid false]).2.trace.filterMap Event.inAir? =
      [.invalid false] := by decide +kernel
  obtain ⟨before, after, split, member, -⟩ := seen.returned _ returned
  have found : Flag.exactFalse ∈
      (simulationRun [.invalid false]).2.trace.filterMap Event.inAir? := by
    rw [split]
    exact List.mem_filterMap.mpr ⟨_, List.mem_append_right _ (List.mem_cons_of_mem _ member), rfl⟩
  rw [read] at found
  exact absurd found (by decide)

end Sample

end Nightjar
