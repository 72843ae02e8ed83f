import Nightjar.Policy.Specification

/-!
# The policy engine accepts exactly its specification

The loop collects no reason exactly when every action passes its own checks in the flight state
it finds (`LoopOk`), whatever the accumulators are; the accumulators are sums over the actions.
From takeoff on, a mission that ends in `land` or `return_home` passes the state checks exactly
when it has the shape of the grammar. All this holds over any ordered field; only the length of
the path is over the reals.
-/

namespace Nightjar

open Python Geometry PolicySpec

namespace FlightState

/-- The flight state after an action, `evaluateAction` says. -/
def after {N : Type} (state : FlightState) : MissionAction N → FlightState
  | .takeoff _ => .airborne
  | .hold _ => state
  | .goto _ _ _ => state
  | .returnHome => .returning
  | .land => .landed

/-- The flight states an action is allowed in. -/
def Allows {N : Type} (state : FlightState) : MissionAction N → Prop
  | .takeoff _ => state = .disarmed
  | .hold _ => state = .airborne
  | .goto _ _ _ => state = .airborne
  | .returnHome => state = .airborne
  | .land => state = .airborne ∨ state = .returning

/-- The actions that may remain in a flight state. -/
def AllowsRemaining {N : Type} (state : FlightState) (remaining : List (MissionAction N)) :
    Prop :=
  match state with
  | .landed => remaining = []
  | .returning => ∀ item ∈ remaining, item.type = .land
  | _ => True

end FlightState

namespace PolicyEngine

/-- Every action is allowed in the state it finds, and leaves a state that allows the rest. -/
def StatesOk {N : Type} : FlightState → List (MissionAction N) → Prop
  | _, [] => True
  | state, action :: remaining =>
      state.Allows action ∧ (state.after action).AllowsRemaining remaining ∧
        StatesOk (state.after action) remaining

section Check

variable {N : Type}

@[simp] theorem check_state (st : EvalState N) (violated : Prop) [Decidable violated]
    (reason : Reason N) : (st.check violated reason).state = st.state := by
  unfold EvalState.check
  split <;> rfl

@[simp] theorem check_totalHoldSeconds (st : EvalState N) (violated : Prop)
    [Decidable violated] (reason : Reason N) :
    (st.check violated reason).totalHoldSeconds = st.totalHoldSeconds := by
  unfold EvalState.check
  split <;> rfl

@[simp] theorem check_totalHorizontalDistanceM (st : EvalState N) (violated : Prop)
    [Decidable violated] (reason : Reason N) :
    (st.check violated reason).totalHorizontalDistanceM = st.totalHorizontalDistanceM := by
  unfold EvalState.check
  split <;> rfl

@[simp] theorem check_gotoActions (st : EvalState N) (violated : Prop) [Decidable violated]
    (reason : Reason N) : (st.check violated reason).gotoActions = st.gotoActions := by
  unfold EvalState.check
  split <;> rfl

@[simp] theorem check_currentNorthM (st : EvalState N) (violated : Prop) [Decidable violated]
    (reason : Reason N) : (st.check violated reason).currentNorthM = st.currentNorthM := by
  unfold EvalState.check
  split <;> rfl

@[simp] theorem check_currentEastM (st : EvalState N) (violated : Prop) [Decidable violated]
    (reason : Reason N) : (st.check violated reason).currentEastM = st.currentEastM := by
  unfold EvalState.check
  split <;> rfl

/-- A check leaves no reason exactly when there was none and the condition does not hold. -/
@[simp] theorem check_reasons (st : EvalState N) (violated : Prop) [Decidable violated]
    (reason : Reason N) :
    (st.check violated reason).reasons = [] ↔ st.reasons = [] ∧ ¬ violated := by
  unfold EvalState.check
  split
  · simp [*]
  · simp [*]

theorem evaluateRemaining_state (index : Nat) (type : ActionType)
    (remaining : List (MissionAction N)) (st : EvalState N) :
    (evaluateRemaining index type remaining st).state = st.state := by
  unfold evaluateRemaining
  split <;> simp

theorem evaluateRemaining_reasons (index : Nat) (type : ActionType)
    (remaining : List (MissionAction N)) (st : EvalState N) :
    (evaluateRemaining index type remaining st).reasons = [] ↔
      st.reasons = [] ∧ st.state.AllowsRemaining remaining := by
  unfold evaluateRemaining
  split <;> simp [FlightState.AllowsRemaining, *]

end Check

section Loop

variable {N : Type} [Field N] [LinearOrder N] [PyMath N]

/-- The distance flown from a position, with the `hypot` the engine uses. -/
def travelled : N → N → List (MissionAction N) → N
  | _, _, [] => 0
  | north, east, .goto north' east' _ :: rest =>
      PyMath.hypot (north' - north) (east' - east) + travelled north' east' rest
  | north, east, .returnHome :: rest => PyMath.hypot north east + travelled 0 0 rest
  | north, east, .takeoff _ :: rest => travelled north east rest
  | north, east, .hold _ :: rest => travelled north east rest
  | north, east, .land :: rest => travelled north east rest

theorem evaluateAction_state (limits : PolicyLimits N) (index : Nat)
    (action : MissionAction N) (st : EvalState N) :
    (evaluateAction limits index action st).state = st.state.after action := by
  cases action <;> simp [evaluateAction, FlightState.after]

/-- The branch of an action leaves no reason exactly when the state allows the action and the
    action respects its limits. -/
theorem evaluateAction_reasons (limits : PolicyLimits N) (index : Nat)
    (action : MissionAction N) (st : EvalState N) :
    (evaluateAction limits index action st).reasons = [] ↔
      st.reasons = [] ∧ st.state.Allows action ∧ WithinLimits limits action := by
  cases action with
  | takeoff altitude =>
    simp [evaluateAction, FlightState.Allows, WithinLimits, and_assoc]
  | hold duration =>
    simp [evaluateAction, FlightState.Allows, WithinLimits, and_assoc]
  | goto north east altitude =>
    simp [evaluateAction, FlightState.Allows, WithinLimits, and_assoc]
  | returnHome =>
    simp [evaluateAction, FlightState.Allows, WithinLimits]
  | land =>
    simp [evaluateAction, FlightState.Allows, WithinLimits, Classical.or_iff_not_imp_left]

/-- The loop collects no reason exactly when every action passes its checks. -/
theorem evaluateLoop_reasons (limits : PolicyLimits N) (actions : List (MissionAction N)) :
    ∀ (index : Nat) (st : EvalState N),
      (evaluateLoop limits index actions st).reasons = [] ↔
        st.reasons = [] ∧ StatesOk st.state actions ∧
          ∀ action ∈ actions, WithinLimits limits action := by
  induction actions with
  | nil => simp [evaluateLoop, StatesOk]
  | cons action remaining ih =>
    intro index st
    simp only [evaluateLoop, ih, evaluateRemaining_reasons, evaluateRemaining_state,
      evaluateAction_reasons, evaluateAction_state, StatesOk, List.forall_mem_cons]
    tauto

/-- The loop adds up the holds, the gotos and the distance, whatever its reasons. -/
theorem evaluateLoop_totals (limits : PolicyLimits N) (actions : List (MissionAction N)) :
    ∀ (index : Nat) (st : EvalState N),
      (evaluateLoop limits index actions st).totalHoldSeconds =
          st.totalHoldSeconds + (actions.map MissionAction.holdSeconds).sum ∧
        (evaluateLoop limits index actions st).gotoActions =
          st.gotoActions + actions.countP MissionAction.isGoto ∧
        (evaluateLoop limits index actions st).totalHorizontalDistanceM =
          st.totalHorizontalDistanceM +
            travelled st.currentNorthM st.currentEastM actions := by
  induction actions with
  | nil => simp [evaluateLoop, travelled]
  | cons action remaining ih =>
    intro index st
    have looked : ∀ t : EvalState N,
        (evaluateRemaining index action.type remaining t).totalHoldSeconds =
            t.totalHoldSeconds ∧
          (evaluateRemaining index action.type remaining t).gotoActions = t.gotoActions ∧
          (evaluateRemaining index action.type remaining t).totalHorizontalDistanceM =
            t.totalHorizontalDistanceM ∧
          (evaluateRemaining index action.type remaining t).currentNorthM = t.currentNorthM ∧
          (evaluateRemaining index action.type remaining t).currentEastM = t.currentEastM := by
      intro t
      unfold evaluateRemaining
      split <;> simp
    obtain ⟨holds, gotos, distance⟩ := ih (index + 1)
      (evaluateRemaining index action.type remaining (evaluateAction limits index action st))
    obtain ⟨looked1, looked2, looked3, looked4, looked5⟩ :=
      looked (evaluateAction limits index action st)
    rw [looked1] at holds
    rw [looked2] at gotos
    rw [looked3, looked4, looked5] at distance
    simp only [evaluateLoop]
    refine ⟨holds.trans ?_, gotos.trans ?_, distance.trans ?_⟩
    · cases action <;> simp [evaluateAction, MissionAction.holdSeconds, add_assoc]
    · rw [List.countP_cons]
      cases action <;> simp [evaluateAction, MissionAction.isGoto]
      omega
    · cases action <;> simp [evaluateAction, travelled, add_assoc]

/-- The engine's reasons, all of them, over any ordered field. -/
theorem evaluateReasons_eq_nil (limits : PolicyLimits N) (actions : List (MissionAction N)) :
    evaluateReasons limits actions = [] ↔
      (actions.length : N) ≤ limits.maxMissionActions.val ∧
        StatesOk .disarmed actions ∧ (∀ action ∈ actions, WithinLimits limits action) ∧
        ((actions.map MissionAction.holdSeconds).sum : N) ≤ limits.maxTotalHoldSeconds.val ∧
        travelled 0 0 actions ≤ limits.maxTotalHorizontalDistanceM.val ∧
        ((actions.countP MissionAction.isGoto : ℕ) : N) ≤ limits.maxGotoActions.val ∧
        actions.head?.map MissionAction.type = some .takeoff := by
  have totals := evaluateLoop_totals limits actions 1
  simp only [evaluateReasons, check_reasons, check_totalHoldSeconds,
    check_totalHorizontalDistanceM, check_gotoActions, evaluateLoop_reasons, (totals _).1,
    (totals _).2.1, (totals _).2.2, check_state, check_currentNorthM, check_currentEastM,
    zero_add, not_lt, not_not]
  tauto

end Loop

/-! ## The grammar -/

section Grammar

variable {N : Type}

theorem statesOk_ending {ending : List (MissionAction N)} (ends : Ending ending) :
    StatesOk .airborne ending := by
  rcases ends with rfl | rfl | rfl <;>
    simp [StatesOk, FlightState.Allows, FlightState.after, FlightState.AllowsRemaining,
      MissionAction.type]

theorem statesOk_cruise {ending : List (MissionAction N)} (ends : Ending ending) :
    ∀ cruise : List (MissionAction N), (∀ action ∈ cruise, action.Cruises) →
      StatesOk .airborne (cruise ++ ending) := by
  intro cruise
  induction cruise with
  | nil => intro _; exact statesOk_ending ends
  | cons action cruise ih =>
    intro cruises
    have rest := ih fun later member => cruises later (List.mem_cons_of_mem _ member)
    have first := cruises action List.mem_cons_self
    cases action with
    | hold duration => exact ⟨rfl, trivial, rest⟩
    | goto north east altitude => exact ⟨rfl, trivial, rest⟩
    | takeoff altitude => cases first
    | returnHome => cases first
    | land => cases first

/-- What may follow `return_home`: nothing, or one landing. -/
theorem ending_of_returning {remaining : List (MissionAction N)}
    (allowed : FlightState.AllowsRemaining .returning remaining)
    (states : StatesOk .returning remaining) : Ending (.returnHome :: remaining) := by
  cases remaining with
  | nil => exact Or.inr (Or.inl rfl)
  | cons action rest =>
    have lands : action.type = .land := allowed action List.mem_cons_self
    cases action with
    | land =>
      have nothing : rest = [] := states.2.1
      rw [nothing]
      exact Or.inr (Or.inr rfl)
    | takeoff altitude => cases lands
    | hold duration => cases lands
    | goto north east altitude => cases lands
    | returnHome => cases lands

/-- In the air, a rest of a mission that passes the state checks and ends safely is cruising
    followed by an ending: the induction is on the actions, the state stays airborne while they
    cruise. -/
theorem cruise_of_statesOk :
    ∀ actions : List (MissionAction N), StatesOk .airborne actions →
      (∃ last, actions.getLast? = some last ∧
        (last.type = .returnHome ∨ last.type = .land)) →
      ∃ cruise ending, actions = cruise ++ ending ∧ (∀ action ∈ cruise, action.Cruises) ∧
        Ending ending := by
  intro actions
  induction actions with
  | nil => rintro _ ⟨last, none, _⟩; cases none
  | cons action remaining ih =>
    rintro ⟨allowed, rest, states⟩ ⟨last, lastIs, safe⟩
    have goOn : action.Cruises → StatesOk .airborne remaining →
        ∃ cruise ending, action :: remaining = cruise ++ ending ∧
          (∀ action ∈ cruise, action.Cruises) ∧ Ending ending := by
      intro cruises states
      cases remaining with
      | nil =>
        have same : action = last := by simpa using lastIs
        subst same
        cases action <;> simp_all [MissionAction.type, MissionAction.Cruises]
      | cons next later =>
        rw [List.getLast?_cons_cons] at lastIs
        obtain ⟨cruise, ending, split, cruising, ends⟩ := ih states ⟨last, lastIs, safe⟩
        refine ⟨action :: cruise, ending, by rw [split]; rfl, ?_, ends⟩
        exact List.forall_mem_cons.mpr ⟨cruises, cruising⟩
    cases action with
    | takeoff altitude => cases allowed
    | hold duration => exact goOn trivial states
    | goto north east altitude => exact goOn trivial states
    | returnHome => exact ⟨[], _, rfl, by simp, ending_of_returning rest states⟩
    | land =>
      have nothing : remaining = [] := rest
      exact ⟨[], _, rfl, by simp, by rw [nothing]; exact Or.inl rfl⟩

/-- For a mission that ends safely, passing the state checks with a takeoff first is having the
    shape of the grammar. -/
theorem shape_iff {actions : List (MissionAction N)}
    (safe : ∃ last, actions.getLast? = some last ∧
      (last.type = .returnHome ∨ last.type = .land)) :
    Shape actions ↔ StatesOk .disarmed actions ∧
      actions.head?.map MissionAction.type = some .takeoff := by
  constructor
  · rintro ⟨altitude, cruise, ending, rfl, cruises, ends⟩
    exact ⟨⟨rfl, trivial, statesOk_cruise ends cruise cruises⟩, rfl⟩
  · rintro ⟨states, first⟩
    cases actions with
    | nil => cases first
    | cons action remaining =>
      cases action with
      | takeoff altitude =>
        obtain ⟨last, lastIs, ends⟩ := safe
        cases remaining with
        | nil =>
          have same : MissionAction.takeoff altitude = last := by simpa using lastIs
          subst same
          rcases ends with ends | ends <;> cases ends
        | cons next later =>
          rw [List.getLast?_cons_cons] at lastIs
          obtain ⟨cruise, ending, split, cruises, ending_ok⟩ :=
            cruise_of_statesOk _ states.2.2 ⟨last, lastIs, ends⟩
          exact ⟨altitude, cruise, ending, by rw [split], cruises, ending_ok⟩
      | hold duration => cases first
      | goto north east altitude => cases first
      | returnHome => cases first
      | land => cases first

end Grammar

/-! ## The path -/

section Path

/-- The points an action list visits: the targets, and the origin at every return. -/
noncomputable def visits (actions : List (MissionAction ℝ)) : List Plane :=
  actions.filterMap fun
    | .goto north east _ => some (point north east)
    | .returnHome => some (point 0 0)
    | _ => none

/-- The distance the engine adds up is the length of the path through the visited points. -/
theorem travelled_eq (actions : List (MissionAction ℝ)) :
    ∀ north east : ℝ,
      travelled north east actions = polylineLength (point north east) (visits actions) := by
  induction actions with
  | nil => intro north east; rfl
  | cons action rest ih =>
    intro north east
    cases action with
    | takeoff altitude => exact ih north east
    | hold duration => exact ih north east
    | land => exact ih north east
    | goto north' east' altitude =>
      have leg : PyMath.hypot (north' - north) (east' - east) =
          dist (point north east) (point north' east') := (dist_point _ _ _ _).symm
      simp only [travelled, ih north' east', leg, visits, List.filterMap_cons,
        polylineLength_cons]
    | returnHome =>
      have leg : PyMath.hypot north east = dist (point north east) (point 0 0) := by
        rw [dist_point, zero_sub, zero_sub, neg_sq, neg_sq]
        rfl
      simp only [travelled, ih 0 0, leg, visits, List.filterMap_cons, polylineLength_cons]

theorem visits_append (first second : List (MissionAction ℝ)) :
    visits (first ++ second) = visits first ++ visits second := by
  simp [visits]

/-- Cruising visits the targets only. -/
theorem visits_of_cruises {cruise : List (MissionAction ℝ)}
    (cruises : ∀ action ∈ cruise, action.Cruises) : visits cruise = gotoTargets cruise := by
  unfold visits gotoTargets
  apply List.filterMap_congr
  intro action member
  have cruising := cruises action member
  cases action with
  | returnHome => cases cruising
  | takeoff altitude => rfl
  | hold duration => rfl
  | goto north east altitude => rfl
  | land => rfl

/-- The visited points of a mission of the grammar are the waypoints. -/
theorem visits_of_shape {actions : List (MissionAction ℝ)} (shape : Shape actions) :
    visits actions = waypoints actions := by
  obtain ⟨altitude, cruise, ending, rfl, cruises, ends⟩ := shape
  have stays : cruise.any MissionAction.isReturnHome = false := by
    rw [List.any_eq_false]
    intro action member
    have cruising := cruises action member
    cases action <;> simp_all [MissionAction.isReturnHome, MissionAction.Cruises]
  have split : visits (.takeoff altitude :: (cruise ++ ending)) =
      gotoTargets cruise ++ visits ending := by
    rw [← visits_of_cruises cruises, ← visits_append]
    rfl
  have targets : gotoTargets (.takeoff altitude :: (cruise ++ ending)) =
      gotoTargets cruise ++ gotoTargets ending := by
    simp [gotoTargets]
  rw [split, waypoints, targets, List.any_cons, List.any_append, stays]
  rcases ends with rfl | rfl | rfl <;>
    simp [visits, gotoTargets, MissionAction.isReturnHome]

end Path

/-! ## Acceptance -/

section Accept

variable {N : Type} [Field N] [LinearOrder N] [PyMath N] [PyText N]

/-- Approval is the absence of reasons; an empty mission is never approved. -/
theorem approves_iff (limits : PolicyLimits N) (actions : List (MissionAction N)) :
    Approves limits actions ↔ evaluateReasons limits actions = [] := by
  constructor
  · rintro ⟨decision, returned, approved⟩
    simp only [evaluateActions] at returned
    cases texts : (evaluateReasons limits actions).mapM Reason.text with
    | none => simp [texts] at returned
    | some texts' =>
      by_cases empty : actions = []
      · rw [texts] at returned
        simp [empty] at returned
      · simp only [texts, empty, if_false, Except.ok.injEq] at returned
        rw [← returned] at approved
        simpa using approved
  · intro nothing
    have notEmpty : actions ≠ [] := by
      rintro rfl
      simp [evaluateReasons] at nothing
    refine ⟨{ approved := true, reasons := [] }, ?_, rfl⟩
    simp [evaluateActions, nothing, notEmpty]

end Accept

/-- No reason is found against a mission that ends safely exactly when it meets the
    specification. -/
theorem evaluateReasons_eq_nil_iff_accepted (limits : PolicyLimits ℝ)
    (actions : List (MissionAction ℝ))
    (safe : ∃ last, actions.getLast? = some last ∧
      (last.type = .returnHome ∨ last.type = .land)) :
    evaluateReasons limits actions = [] ↔ Accepted limits actions := by
  rw [evaluateReasons_eq_nil]
  constructor
  · rintro ⟨count, states, within, hold, distance, gotos, first⟩
    have shape : Shape actions := (shape_iff safe).mpr ⟨states, first⟩
    rw [travelled_eq, visits_of_shape shape] at distance
    exact ⟨shape, count, within, hold, gotos, distance⟩
  · rintro ⟨shape, count, within, hold, gotos, distance⟩
    obtain ⟨states, first⟩ := (shape_iff safe).mp shape
    rw [← visits_of_shape shape, ← travelled_eq] at distance
    exact ⟨count, states, within, hold, distance, gotos, first⟩

/-- The engine approves a mission that ends safely exactly when it meets the specification. -/
theorem approves_iff_accepted [PyText ℝ] (limits : PolicyLimits ℝ)
    (actions : List (MissionAction ℝ))
    (safe : ∃ last, actions.getLast? = some last ∧
      (last.type = .returnHome ∨ last.type = .land)) :
    Approves limits actions ↔ Accepted limits actions :=
  (approves_iff limits actions).trans (evaluateReasons_eq_nil_iff_accepted limits actions safe)

/-- A flight to (3, 4) and back, ten metres in all. -/
theorem accepted_there_and_back :
    Accepted (.default ℝ) [.takeoff 5, .goto 3 4 5, .returnHome] := by
  have leg : Real.sqrt (3 ^ 2 + 4 ^ 2) = 5 := by
    rw [show (3 : ℝ) ^ 2 + 4 ^ 2 = 5 ^ 2 by norm_num]
    exact Real.sqrt_sq (by norm_num)
  refine ⟨⟨5, [.goto 3 4 5], [.returnHome], rfl, by simp [MissionAction.Cruises], by simp [Ending]⟩,
    ?_, ?_, ?_, ?_, ?_⟩
  · norm_num [PolicyLimits.default, PyNum.val]
  · simp only [List.forall_mem_cons]
    have near : PyMath.hypot (3 : ℝ) 4 = 5 := leg
    norm_num [WithinLimits, PolicyLimits.default, PyNum.val, near]
  · norm_num [PolicyLimits.default, PyNum.val, MissionAction.holdSeconds]
  · have one : List.countP MissionAction.isGoto
        [MissionAction.takeoff (5 : ℝ), .goto 3 4 5, .returnHome] = 1 := rfl
    rw [one]
    norm_num [PolicyLimits.default, PyNum.val]
  · have path : waypoints [.takeoff 5, .goto 3 4 5, .returnHome] =
        [point 3 4, point 0 0] := rfl
    have there : dist (point 0 0) (point 3 4) = 5 := by
      rw [dist_point, sub_zero, sub_zero, leg]
    have back : dist (point 3 4) (point 0 0) = 5 := by rw [dist_comm, there]
    rw [path]
    norm_num [there, back, PolicyLimits.default, PyNum.val]

/-- The engine approves it. -/
theorem approves_there_and_back :
    @Approves ℝ _ _ _ PyText.whole (.default ℝ) [.takeoff 5, .goto 3 4 5, .returnHome] := by
  let _ : PyText ℝ := PyText.whole
  exact (approves_iff_accepted _ _ ⟨_, rfl, Or.inl rfl⟩).mpr accepted_there_and_back

end PolicyEngine

end Nightjar
