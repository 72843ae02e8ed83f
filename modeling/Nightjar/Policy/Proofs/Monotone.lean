import Nightjar.Policy.Proofs.Geofence

/-!
# Relaxing the limits and shortening the mission

What the engine approves it approves under larger limits, and after one of its `hold` or `goto`
actions was deleted. A deleted `goto` changes the point from which the later legs are measured, the
return leg included; but the path through the remaining waypoints is no longer than before.
-/

namespace Nightjar

open Python Geometry PolicySpec

/-- Each of the nine limits is at most the other's. -/
structure PolicyLimits.AtMost (limits limits' : PolicyLimits ℝ) : Prop where
  maxAltitudeM : limits.maxAltitudeM.val ≤ limits'.maxAltitudeM.val
  maxDistanceFromHomeM : limits.maxDistanceFromHomeM.val ≤ limits'.maxDistanceFromHomeM.val
  maxHoldSeconds : limits.maxHoldSeconds.val ≤ limits'.maxHoldSeconds.val
  maxMissionActions : limits.maxMissionActions.val ≤ limits'.maxMissionActions.val
  maxTotalHoldSeconds : limits.maxTotalHoldSeconds.val ≤ limits'.maxTotalHoldSeconds.val
  maxTotalHorizontalDistanceM :
    limits.maxTotalHorizontalDistanceM.val ≤ limits'.maxTotalHorizontalDistanceM.val
  maxGotoActions : limits.maxGotoActions.val ≤ limits'.maxGotoActions.val
  homeHorizontalToleranceM :
    limits.homeHorizontalToleranceM.val ≤ limits'.homeHorizontalToleranceM.val
  homeVerticalToleranceM : limits.homeVerticalToleranceM.val ≤ limits'.homeVerticalToleranceM.val

namespace PolicySpec

variable {limits limits' : PolicyLimits ℝ}

section Relaxed

theorem WithinLimits.mono (relaxed : limits.AtMost limits') {action : MissionAction ℝ}
    (within : WithinLimits limits action) : WithinLimits limits' action := by
  cases action with
  | takeoff altitude => exact le_trans within relaxed.maxAltitudeM
  | hold duration => exact le_trans within relaxed.maxHoldSeconds
  | goto north east altitude =>
    obtain ⟨low, near⟩ := within
    exact ⟨low.trans relaxed.maxAltitudeM, near.trans relaxed.maxDistanceFromHomeM⟩
  | returnHome => trivial
  | land => trivial

/-- What is accepted is accepted under relaxed limits. -/
theorem Accepted.mono (relaxed : limits.AtMost limits') {actions : List (MissionAction ℝ)}
    (accepted : Accepted limits actions) : Accepted limits' actions where
  shape := accepted.shape
  count := accepted.count.trans relaxed.maxMissionActions
  within action member := (accepted.within action member).mono relaxed
  hold := accepted.hold.trans relaxed.maxTotalHoldSeconds
  gotos := accepted.gotos.trans relaxed.maxGotoActions
  distance := accepted.distance.trans relaxed.maxTotalHorizontalDistanceM

end Relaxed

section Deleted

/-- No ending has an action between takeoff and the end. -/
theorem Ending.not_cruises {N : Type} {ending : List (MissionAction N)} (ends : Ending ending)
    {action : MissionAction N} (member : action ∈ ending) : ¬ action.Cruises := by
  intro cruises
  rcases ends with rfl | rfl | rfl <;> simp at member
  · subst member
    exact cruises
  · subst member
    exact cruises
  · rcases member with rfl | rfl
    · exact cruises
    · exact cruises

/-- Without one of the actions between takeoff and the end, a mission keeps its shape. -/
theorem Shape.delete {N : Type} {before after : List (MissionAction N)} {action : MissionAction N}
    (shape : Shape (before ++ action :: after)) (cruises : action.Cruises) :
    Shape (before ++ after) := by
  obtain ⟨altitude, cruise, ending, split, cruising, ends⟩ := shape
  cases before with
  | nil =>
    rw [List.nil_append, List.cons.injEq] at split
    rw [split.1] at cruises
    exact cruises.elim
  | cons first before =>
    simp only [List.cons_append, List.cons.injEq] at split
    obtain ⟨rfl, split⟩ := split
    rcases List.append_eq_append_iff.mp split with ⟨between, later, ending_eq⟩ |
      ⟨between, earlier, rest⟩
    · cases between with
      | nil =>
        rw [List.nil_append] at ending_eq
        exact absurd cruises (ends.not_cruises (ending_eq ▸ List.mem_cons_self))
      | cons next between =>
        rw [List.cons_append, List.cons.injEq] at ending_eq
        refine ⟨altitude, before ++ between, ending, ?_, ?_, ends⟩
        · rw [ending_eq.2, List.append_assoc, List.cons_append]
        · intro kept member
          apply cruising
          rw [later]
          grind
    · have last : action ∈ ending := by
        rw [rest]
        exact List.mem_append_right _ List.mem_cons_self
      exact absurd cruises (ends.not_cruises last)

theorem sublist_delete {α : Type} (before after : List α) (a : α) :
    (before ++ after).Sublist (before ++ a :: after) :=
  (List.sublist_cons_self a after).append_left before

/-- The waypoints that remain are some of the waypoints. -/
theorem waypoints_delete {before after : List (MissionAction ℝ)} {action : MissionAction ℝ}
    (cruises : action.Cruises) :
    (waypoints (before ++ after)).Sublist (waypoints (before ++ action :: after)) := by
  have stays : action.isReturnHome = false := by
    cases action with
    | returnHome => exact cruises.elim
    | takeoff _ | hold _ | goto _ _ _ | land => rfl
  have returns : (before ++ action :: after).any MissionAction.isReturnHome =
      (before ++ after).any MissionAction.isReturnHome := by
    simp [stays]
  rw [waypoints, waypoints, returns]
  apply List.Sublist.append_right
  exact (sublist_delete before after action).filterMap _

/-- What is accepted is accepted without one of the actions between takeoff and the end. -/
theorem Accepted.delete {before after : List (MissionAction ℝ)} {action : MissionAction ℝ}
    (accepted : Accepted limits (before ++ action :: after)) (cruises : action.Cruises)
    (positive : action.Positive) : Accepted limits (before ++ after) where
  shape := accepted.shape.delete cruises
  count := by
    have fewer := (sublist_delete before after action).length_le
    exact le_trans (by exact_mod_cast fewer) accepted.count
  within kept member :=
    accepted.within kept ((sublist_delete before after action).subset member)
  hold := by
    have nonneg : 0 ≤ action.holdSeconds := by
      cases action with
      | hold duration => exact le_of_lt positive
      | takeoff _ | goto _ _ _ | returnHome | land => exact le_rfl
    have total := accepted.hold
    simp only [List.map_append, List.map_cons, List.sum_append, List.sum_cons] at total ⊢
    have fewer : (before.map MissionAction.holdSeconds).sum +
        (after.map MissionAction.holdSeconds).sum ≤
          (before.map MissionAction.holdSeconds).sum +
            (action.holdSeconds + (after.map MissionAction.holdSeconds).sum) := by omega
    exact le_trans (by exact_mod_cast fewer) total
  gotos := by
    have fewer := (sublist_delete before after action).countP_le (p := MissionAction.isGoto)
    exact le_trans (by exact_mod_cast fewer) accepted.gotos
  distance :=
    (polylineLength_le_of_sublist (waypoints_delete cruises) (point 0 0)).trans accepted.distance

end Deleted

end PolicySpec

/-- The mission without one of the actions between takeoff and the end. -/
def Mission.delete {N : Type} [Zero N] [LT N] (mission : Mission N)
    {before after : List (MissionAction N)} {action : MissionAction N}
    (actions : mission.actions = before ++ action :: after) (cruises : action.Cruises) :
    Mission N :=
  have ends : after ≠ [] := by
    rintro rfl
    obtain ⟨last, last_eq, final⟩ := mission.safe_termination
    rw [actions, List.getLast?_concat, Option.some.injEq] at last_eq
    subst last_eq
    cases action with
    | hold _ | goto _ _ _ => rcases final with final | final <;> cases final
    | takeoff _ | returnHome | land => exact cruises
  { missionId := mission.missionId
    description := mission.description
    actions := before ++ after
    description_length := mission.description_length
    actions_length := by
      have long := mission.actions_length.2
      have some_left := List.length_pos_of_ne_nil ends
      rw [actions, List.length_append, List.length_cons] at long
      rw [List.length_append]
      omega
    positive := fun kept member => mission.positive kept <| by
      rw [actions]
      exact (sublist_delete before after action).subset member
    safe_termination := by
      obtain ⟨last, last_eq, final⟩ := mission.safe_termination
      refine ⟨last, ?_, final⟩
      rw [actions, List.getLast?_append_cons, List.getLast?_cons_of_ne_nil ends] at last_eq
      rw [List.getLast?_append_of_ne_nil _ ends, last_eq] }

/-- Deleting such actions, one after the other, makes the second mission of the first. -/
inductive Mission.Thins {N : Type} [Zero N] [LT N] : Mission N → Mission N → Prop
  | refl (mission : Mission N) : Thins mission mission
  | delete {mission thinned : Mission N} {before after : List (MissionAction N)}
      {action : MissionAction N} (actions : mission.actions = before ++ action :: after)
      (cruises : action.Cruises) (thins : Thins (mission.delete actions cruises) thinned) :
      Thins mission thinned

namespace PolicyEngine

section Monotone

variable [PyText ℝ] {limits limits' : PolicyLimits ℝ} {mission thinned : Mission ℝ}

theorem mission_approves_iff :
    Approves limits mission.actions ↔ Accepted limits mission.actions :=
  (approves_iff limits mission.actions).trans
    (evaluateReasons_eq_nil_iff_accepted limits mission.actions mission.safe_termination)

theorem approves_of_relaxed (relaxed : limits.AtMost limits')
    (approves : Approves limits mission.actions) : Approves limits' mission.actions := by
  rw [mission_approves_iff] at approves ⊢
  exact approves.mono relaxed

theorem approves_of_deleted {before after : List (MissionAction ℝ)} {action : MissionAction ℝ}
    (actions : mission.actions = before ++ action :: after) (cruises : action.Cruises)
    (approves : Approves limits mission.actions) :
    Approves limits (mission.delete actions cruises).actions := by
  have positive : action.Positive := by
    apply mission.positive
    rw [actions]
    exact List.mem_append_right _ List.mem_cons_self
  rw [mission_approves_iff] at approves ⊢
  rw [actions] at approves
  exact approves.delete cruises positive

theorem approves_of_thins (thins : mission.Thins thinned)
    (approves : Approves limits mission.actions) : Approves limits thinned.actions := by
  induction thins with
  | refl mission => exact approves
  | delete actions cruises _ ih => exact ih (approves_of_deleted actions cruises approves)

end Monotone

/-- **The policy is monotone**: what the engine approves it approves under limits that are each at
    least as large, and without any one of its `hold` and `goto` actions; so what it rejects stays
    rejected under tighter limits and with more such actions. -/
theorem approves_monotone [PyText ℝ] (limits : PolicyLimits ℝ) (mission : Mission ℝ) :
    (Approves limits mission.actions →
      (∀ limits' : PolicyLimits ℝ, limits.AtMost limits' → Approves limits' mission.actions) ∧
      ∀ (before after : List (MissionAction ℝ)) (action : MissionAction ℝ)
        (actions : mission.actions = before ++ action :: after) (cruises : action.Cruises),
        Approves limits (mission.delete actions cruises).actions) ∧
    (¬ Approves limits mission.actions →
      ∀ (limits' : PolicyLimits ℝ) (longer : Mission ℝ), limits'.AtMost limits →
        longer.Thins mission → ¬ Approves limits' longer.actions) := by
  refine ⟨fun approves => ⟨fun limits' relaxed => approves_of_relaxed relaxed approves, ?_⟩, ?_⟩
  · intro before after action actions cruises
    exact approves_of_deleted actions cruises approves
  · intro rejected limits' longer tighter thins approves
    have relaxed := approves_of_relaxed tighter approves
    exact rejected (approves_of_thins thins relaxed)

/-- The mission to (3, 4) and back, without going there, is approved. -/
theorem approves_monotone_there_and_back :
    let _ : PyText ℝ := PyText.whole
    Approves (.default ℝ) [.takeoff 5, .returnHome] := by
  intro _
  have accepted := (evaluateReasons_eq_nil_iff_accepted (.default ℝ) thereAndBack.actions
    thereAndBack.safe_termination).mpr accepted_there_and_back
  have approves := (approves_iff (.default ℝ) thereAndBack.actions).mpr accepted
  exact ((approves_monotone (.default ℝ) thereAndBack).1 approves).2 [.takeoff 5] [.returnHome]
    (.goto 3 4 5) rfl trivial

end PolicyEngine

end Nightjar
