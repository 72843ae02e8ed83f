import Nightjar.Policy.Proofs.Exact

/-!
# The messages of the policy engine

When `evaluate` returns: the one message that it may fail to write, with the default limits, is that
of a total hold time of too many digits.
-/

namespace Nightjar

open Python

/-- The seconds that a mission holds in all. -/
def Mission.totalHoldSeconds {N : Type} [Zero N] [LT N] (mission : Mission N) : Int :=
  (mission.actions.map MissionAction.holdSeconds).sum

/-- An `int` that can be written. -/
def IsShort (i : Int) : Prop := i.natAbs < 10 ^ intMaxStrDigits

theorem intStr?_isSome_iff (i : Int) : (intStr? i).isSome = true ↔ IsShort i := by
  rw [intStr?, IsShort]
  by_cases short : i.natAbs < 10 ^ intMaxStrDigits
  · rw [if_pos short]
    exact iff_of_true rfl short
  · rw [if_neg short]
    exact iff_of_false (by simp) short

/-- Small numbers are short. -/
theorem isShort_of_lt {i : Int} (small : i.natAbs < 1000) : IsShort i := by
  have digits : 3 ≤ intMaxStrDigits := by decide
  have bound : 10 ^ 3 ≤ 10 ^ intMaxStrDigits := Nat.pow_le_pow_right (by decide) digits
  exact lt_of_lt_of_le small bound

namespace PolicyEngine

section Written

variable {N : Type} [PyText N]

/-- The limits can be written. -/
def Writable (limits : PolicyLimits N) : Prop :=
  ∀ limit ∈ [limits.maxAltitudeM, limits.maxDistanceFromHomeM, limits.maxHoldSeconds,
    limits.maxMissionActions, limits.maxTotalHoldSeconds, limits.maxTotalHorizontalDistanceM,
    limits.maxGotoActions], limit.str?.isSome = true

theorem writable_default [NatCast N] : Writable (PolicyLimits.default N) := by
  have whole : ∀ i : Int, i.natAbs < 1000 → (PyNum.int i : PyNum N).str?.isSome = true :=
    fun i small => (intStr?_isSome_iff i).mpr (isShort_of_lt small)
  simp only [Writable, PolicyLimits.default, List.forall_mem_cons]
  exact ⟨rfl, rfl, whole 60 (by decide), whole 10 (by decide), whole 120 (by decide), rfl,
    whole 5 (by decide), fun _ member => absurd member List.not_mem_nil⟩

/-- The reasons have messages. -/
def Written (st : EvalState N) : Prop := ∀ reason ∈ st.reasons, reason.text.isSome = true

theorem written_check (st : EvalState N) (violated : Prop) [Decidable violated]
    (reason : Reason N) :
    Written (st.check violated reason) ↔ Written st ∧ (violated → reason.text.isSome = true) := by
  unfold EvalState.check Written
  by_cases found : violated
  · rw [if_pos found]
    simp [found, or_imp, forall_and]
  · rw [if_neg found]
    simp [found]

omit [PyText N] in
theorem mem_check {st : EvalState N} {reason : Reason N} (member : reason ∈ st.reasons)
    (violated : Prop) [Decidable violated] (other : Reason N) :
    reason ∈ (st.check violated other).reasons := by
  unfold EvalState.check
  split
  · exact List.mem_append_left _ member
  · exact member

theorem written_evaluateRemaining (index : Nat) (type : ActionType)
    (remaining : List (MissionAction N)) {st : EvalState N} (written : Written st) :
    Written (evaluateRemaining index type remaining st) := by
  unfold evaluateRemaining
  split
  · rw [written_check]
    exact ⟨written, fun _ => rfl⟩
  · rw [written_check]
    exact ⟨written, fun _ => rfl⟩
  · exact written
  · exact written

end Written

section Texts

variable {N : Type} [PyText N] {limit : PyNum N}

/-- A message that shows a limit can be written when the limit can. -/
theorem bind_limit_isSome (short : limit.str?.isSome = true) (message : String → String) :
    (limit.str? >>= fun text => some (message text)).isSome = true := by
  obtain ⟨text, same⟩ := Option.isSome_iff_exists.mp short
  rw [same]
  rfl

/-- A message that shows a duration as well, when both can. -/
theorem bind_int_isSome {i : Int} (short : IsShort i) (writable : limit.str?.isSome = true)
    (message : String → String → String) :
    (intStr? i >>= fun number => limit.str? >>= fun text =>
      some (message number text)).isSome = true := by
  obtain ⟨number, same⟩ := Option.isSome_iff_exists.mp ((intStr?_isSome_iff i).mpr short)
  rw [same]
  exact bind_limit_isSome writable (message number)

end Texts

section Loop

variable {N : Type} [Field N] [LinearOrder N] [PyMath N] [PyText N] {limits : PolicyLimits N}

/-- The branch of an action writes its messages, unless a duration is too long for one. -/
theorem written_evaluateAction (writable : Writable limits) (index : Nat)
    {action : MissionAction N} (short : IsShort action.holdSeconds) {st : EvalState N}
    (written : Written st) : Written (evaluateAction limits index action st) := by
  have altitude := writable limits.maxAltitudeM (by simp)
  cases action with
  | takeoff altitudeM =>
    have checked : Written ((st.check (st.state ≠ .disarmed) (.takeoffState index)).check
        (limits.maxAltitudeM.val < altitudeM)
        (.altitude index .takeoff altitudeM limits.maxAltitudeM)) := by
      rw [written_check, written_check]
      exact ⟨⟨written, fun _ => rfl⟩, fun _ => bind_limit_isSome altitude _⟩
    exact checked
  | hold durationSeconds =>
    have checked : Written ((st.check (st.state ≠ .airborne) (.holdState index)).check
        (limits.maxHoldSeconds.val < (durationSeconds : N))
        (.holdDuration index durationSeconds limits.maxHoldSeconds)) := by
      rw [written_check, written_check]
      refine ⟨⟨written, fun _ => rfl⟩, fun _ => ?_⟩
      rw [Reason.text]
      exact bind_int_isSome short (writable _ (by simp)) _
    exact checked
  | goto northM eastM altitudeM =>
    have distance : limits.maxDistanceFromHomeM.str?.isSome = true := writable _ (by simp)
    have checked : Written (((st.check (st.state ≠ .airborne) (.gotoState index)).check
        (limits.maxAltitudeM.val < altitudeM)
        (.altitude index .goto altitudeM limits.maxAltitudeM)).check
        (limits.maxDistanceFromHomeM.val < PyMath.hypot northM eastM)
        (.gotoDistance index (PyMath.hypot northM eastM) limits.maxDistanceFromHomeM)) := by
      rw [written_check, written_check, written_check]
      exact ⟨⟨⟨written, fun _ => rfl⟩, fun _ => bind_limit_isSome altitude _⟩,
        fun _ => bind_limit_isSome distance _⟩
    exact checked
  | returnHome =>
    have checked : Written (st.check (st.state ≠ .airborne) (.returnHomeState index)) := by
      rw [written_check]
      exact ⟨written, fun _ => rfl⟩
    exact checked
  | land =>
    have checked : Written
        (st.check (st.state ≠ .airborne ∧ st.state ≠ .returning) (.landState index)) := by
      rw [written_check]
      exact ⟨written, fun _ => rfl⟩
    exact checked

theorem written_evaluateLoop (writable : Writable limits) (actions : List (MissionAction N)) :
    ∀ (index : Nat) {st : EvalState N}, (∀ action ∈ actions, IsShort action.holdSeconds) →
      Written st → Written (evaluateLoop limits index actions st) := by
  induction actions with
  | nil => exact fun _ _ _ written => written
  | cons action remaining ih =>
    intro index st short written
    rw [List.forall_mem_cons] at short
    exact ih (index + 1) short.2 (written_evaluateRemaining index action.type remaining
      (written_evaluateAction writable index short.1 written))

/-- The local variables after the loop. -/
def looped (limits : PolicyLimits N) (actions : List (MissionAction N)) : EvalState N :=
  evaluateLoop limits 1 actions
    (EvalState.check
      { reasons := [], state := .disarmed, totalHoldSeconds := 0, totalHorizontalDistanceM := 0,
        gotoActions := 0, currentNorthM := 0, currentEastM := 0 }
      (limits.maxMissionActions.val < (actions.length : N))
      (.missionActions actions.length limits.maxMissionActions))

omit [PyText N] in
theorem looped_totalHoldSeconds (actions : List (MissionAction N)) :
    (looped limits actions).totalHoldSeconds = (actions.map MissionAction.holdSeconds).sum := by
  rw [looped, (evaluateLoop_totals limits actions 1 _).1, check_totalHoldSeconds]
  exact Int.zero_add _

/-- `evaluate` after the check of the total hold time. -/
def totalled (limits : PolicyLimits N) (actions : List (MissionAction N)) : EvalState N :=
  (looped limits actions).check
    (limits.maxTotalHoldSeconds.val < ((looped limits actions).totalHoldSeconds : N))
    (.totalHold (looped limits actions).totalHoldSeconds limits.maxTotalHoldSeconds)

omit [PyText N] in
/-- The checks that follow. -/
theorem evaluateReasons_eq (limits : PolicyLimits N) (actions : List (MissionAction N)) :
    ∃ (p q r : Prop) (_ : Decidable p) (_ : Decidable q) (_ : Decidable r) (total : N)
        (count : Nat),
      evaluateReasons limits actions =
        ((((totalled limits actions).check p
          (.totalDistance total limits.maxTotalHorizontalDistanceM)).check q
          (.gotoActions count limits.maxGotoActions)).check r .firstAction).reasons :=
  ⟨_, _, _, _, _, _, _, _, rfl⟩

/-- All messages can be written when the durations and their sum are short. -/
theorem written_evaluateReasons (writable : Writable limits) {actions : List (MissionAction N)}
    (short : ∀ action ∈ actions, IsShort action.holdSeconds)
    (total : IsShort (actions.map MissionAction.holdSeconds).sum) :
    ∀ reason ∈ evaluateReasons limits actions, reason.text.isSome = true := by
  have begun : Written (looped limits actions) := by
    refine written_evaluateLoop writable actions 1 short ?_
    rw [written_check]
    refine ⟨fun _ member => absurd member List.not_mem_nil, fun _ => ?_⟩
    exact bind_limit_isSome (writable _ (by simp)) _
  have held : Written (totalled limits actions) := by
    rw [totalled, written_check, looped_totalHoldSeconds]
    refine ⟨begun, fun _ => ?_⟩
    rw [Reason.text]
    exact bind_int_isSome total (writable _ (by simp)) _
  obtain ⟨p, q, r, _, _, _, distance, count, same⟩ := evaluateReasons_eq limits actions
  rw [same]
  have checked := (written_check (((totalled limits actions).check p
    (.totalDistance distance limits.maxTotalHorizontalDistanceM)).check q
    (.gotoActions count limits.maxGotoActions)) r .firstAction).mpr ⟨?_, fun _ => rfl⟩
  · exact checked
  · rw [written_check, written_check]
    exact ⟨⟨held, fun _ => bind_limit_isSome (writable _ (by simp)) _⟩,
      fun _ => bind_limit_isSome (writable _ (by simp)) _⟩

/-- A total that cannot be written leaves a reason that cannot, when it is above the limit. -/
theorem exists_unwritten {actions : List (MissionAction N)}
    (long : ¬ IsShort (actions.map MissionAction.holdSeconds).sum)
    (above : limits.maxTotalHoldSeconds.val <
      ((actions.map MissionAction.holdSeconds).sum : N)) :
    ∃ reason ∈ evaluateReasons limits actions, reason.text = none := by
  obtain ⟨p, q, r, _, _, _, distance, count, same⟩ := evaluateReasons_eq limits actions
  refine ⟨.totalHold (actions.map MissionAction.holdSeconds).sum limits.maxTotalHoldSeconds,
    ?_, ?_⟩
  · rw [same]
    refine mem_check (mem_check (mem_check ?_ _ _) _ _) _ _
    rw [totalled, looped_totalHoldSeconds, EvalState.check, if_pos above]
    exact List.mem_append_right _ List.mem_cons_self
  · have silent : intStr? (actions.map MissionAction.holdSeconds).sum = none := by
      rw [← Option.not_isSome_iff_eq_none, intStr?_isSome_iff]
      exact long
    rw [Reason.text, silent]
    rfl

end Loop

section Evaluate

variable {N : Type} [Field N] [LinearOrder N] [IsStrictOrderedRing N] [PyMath N] [PyText N]

theorem mapM_isSome_iff {α β : Type} (f : α → Option β) (items : List α) :
    (items.mapM f).isSome = true ↔ ∀ item ∈ items, (f item).isSome = true := by
  induction items with
  | nil => simp
  | cons item items ih =>
    rw [List.mapM_cons, List.forall_mem_cons, ← ih]
    cases f item with
    | none => simp
    | some b => cases items.mapM f <;> simp

omit [IsStrictOrderedRing N] [PyMath N] [PyText N] in
/-- The durations of a mission are not negative. -/
theorem holdSeconds_nonneg (mission : Mission N) :
    ∀ seconds ∈ mission.actions.map MissionAction.holdSeconds, 0 ≤ seconds := by
  intro seconds member
  obtain ⟨action, among, rfl⟩ := List.mem_map.mp member
  have positive := mission.positive action among
  cases action with
  | hold duration => exact Int.le_of_lt positive
  | _ => exact le_refl 0

/-- With the default limits `evaluate` returns a decision just when the total hold time can be
    written; otherwise it raises the `ValueError` of the conversion. -/
theorem evaluate_default (mission : Mission N) :
    (IsShort mission.totalHoldSeconds ∧
      ∃ decision, evaluate (.default N) mission = .ok decision) ∨
    ¬ IsShort mission.totalHoldSeconds ∧ evaluate (.default N) mission = .error .intDigits := by
  have nonneg := holdSeconds_nonneg mission
  rw [evaluate, evaluateActions]
  by_cases total : IsShort mission.totalHoldSeconds
  · refine Or.inl ⟨total, ?_⟩
    have short : ∀ action ∈ mission.actions, IsShort action.holdSeconds := by
      intro action member
      have among := List.mem_map_of_mem (f := MissionAction.holdSeconds) member
      have below : action.holdSeconds ≤ mission.totalHoldSeconds :=
        List.single_le_sum nonneg _ among
      have above := nonneg _ among
      unfold IsShort at total ⊢
      omega
    have written := (mapM_isSome_iff _ _).mpr
      (written_evaluateReasons writable_default short total)
    obtain ⟨texts, same⟩ := Option.isSome_iff_exists.mp written
    rw [same]
    exact ⟨_, if_neg mission.actions_ne_nil⟩
  · refine Or.inr ⟨total, ?_⟩
    have above : (120 : Int) < mission.totalHoldSeconds := by
      by_contra below
      have least : 0 ≤ mission.totalHoldSeconds := List.sum_nonneg nonneg
      exact total (isShort_of_lt (by omega))
    have cast : (PolicyLimits.default N).maxTotalHoldSeconds.val <
        ((mission.actions.map MissionAction.holdSeconds).sum : N) := Int.cast_lt.mpr above
    obtain ⟨reason, member, silent⟩ := exists_unwritten total cast
    have unwritten : ((evaluateReasons (.default N) mission.actions).mapM Reason.text) = none := by
      rw [← Option.not_isSome_iff_eq_none, mapM_isSome_iff]
      intro all
      have written := all reason member
      rw [silent] at written
      cases written
    rw [unwritten]

end Evaluate

end PolicyEngine

end Nightjar
