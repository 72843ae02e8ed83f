import Nightjar.Policy.Proofs.Exact

/-!
# The geofence holds along the whole track

The engine looks at the targets of the `goto` actions and at a sum of leg lengths. The disc around
home is convex, so the legs between its points stay in it; and no point of a path is farther from
its start than the path is long, nor farther than half of that when the path comes back.
-/

namespace Nightjar

open Python Geometry PolicySpec

/-- Where an action leads from `here`, horizontally. -/
noncomputable def MissionAction.destination (here : Plane) : MissionAction ℝ → Plane
  | .goto north east _ => point north east
  | .returnHome => point 0 0
  | .takeoff _ | .hold _ | .land => here

/-- The horizontal track of the actions from `here`: a straight leg for each action. -/
noncomputable def track : Plane → List (MissionAction ℝ) → Set Plane
  | here, [] => {here}
  | here, action :: actions =>
      segment ℝ here (action.destination here) ∪ track (action.destination here) actions

namespace PolicyEngine

/-- The track is the path through the visited points. -/
theorem track_eq (here : Plane) (actions : List (MissionAction ℝ)) :
    track here actions = polyline here (visits actions) := by
  induction actions generalizing here with
  | nil => rfl
  | cons action rest ih =>
    have stays : segment ℝ here here ∪ track here rest = polyline here (visits rest) := by
      rw [ih, segment_same, Set.singleton_union]
      exact Set.insert_eq_of_mem (left_mem_polyline here _)
    cases action with
    | goto north east altitude =>
      show segment ℝ here _ ∪ track _ rest = _
      rw [ih]
      rfl
    | returnHome =>
      show segment ℝ here _ ∪ track _ rest = _
      rw [ih]
      rfl
    | takeoff altitude => exact stays
    | hold duration => exact stays
    | land => exact stays

/-- The visited points of accepted actions are within the distance limit. -/
theorem visits_within {limits : PolicyLimits ℝ} {actions : List (MissionAction ℝ)}
    (nonneg : 0 ≤ limits.maxDistanceFromHomeM.val)
    (within : ∀ action ∈ actions, WithinLimits limits action) :
    ∀ p ∈ visits actions, p ∈ Metric.closedBall (point 0 0) limits.maxDistanceFromHomeM.val := by
  intro p visited
  obtain ⟨action, member, leads⟩ := List.mem_filterMap.mp visited
  rw [Metric.mem_closedBall, dist_comm]
  cases action with
  | goto north east altitude =>
    obtain rfl := Option.some.inj leads
    have near : PyMath.hypot north east ≤ limits.maxDistanceFromHomeM.val :=
      (within _ member).2
    rw [dist_point, sub_zero, sub_zero]
    exact near
  | returnHome =>
    obtain rfl := Option.some.inj leads
    rwa [dist_self]
  | takeoff altitude => cases leads
  | hold duration => cases leads
  | land => cases leads

/-- Every point of the track of an approved mission is within the geofence and within the distance
    budget, and within half of the budget when the mission returns home. -/
theorem approved_track_within [PyText ℝ] (limits : PolicyLimits ℝ) (mission : Mission ℝ)
    (decision : PolicyDecision) (nonneg : 0 ≤ limits.maxDistanceFromHomeM.val)
    (evaluated : evaluate limits mission = .ok decision) (approved : decision.approved = true)
    (p : Plane) (on : p ∈ track (point 0 0) mission.actions) :
    dist (point 0 0) p ≤ limits.maxDistanceFromHomeM.val ∧
      dist (point 0 0) p ≤ limits.maxTotalHorizontalDistanceM.val ∧
      (.returnHome ∈ mission.actions →
        dist (point 0 0) p ≤ limits.maxTotalHorizontalDistanceM.val / 2) := by
  have nothing := (approves_iff limits mission.actions).mp ⟨decision, evaluated, approved⟩
  have accepted := (evaluateReasons_eq_nil_iff_accepted limits mission.actions
    mission.safe_termination).mp nothing
  have budget := accepted.distance
  rw [← visits_of_shape accepted.shape] at budget
  rw [track_eq] at on
  refine ⟨?_, ?_, fun returns => ?_⟩
  · have inside := polyline_subset (convex_closedBall (point 0 0) _)
      (Metric.mem_closedBall_self nonneg) (visits_within nonneg accepted.within) on
    rwa [Metric.mem_closedBall, dist_comm] at inside
  · exact (dist_le_polylineLength on).trans budget
  · have closed : polylineEnd (point 0 0) (visits mission.actions) = point 0 0 := by
      have home : mission.actions.any MissionAction.isReturnHome = true :=
        List.any_eq_true.mpr ⟨_, returns, rfl⟩
      rw [visits_of_shape accepted.shape, waypoints, if_pos home, polylineEnd_concat]
    have half := dist_le_half_polylineLength on closed
    linarith

/-- A mission to (3, 4) and back. -/
noncomputable def thereAndBack : Mission ℝ where
  missionId := ⟨List.replicate 32 0, rfl⟩
  description := "There and back."
  actions := [.takeoff 5, .goto 3 4 5, .returnHome]
  description_length := by decide
  actions_length := by simp
  positive := by simp [MissionAction.Positive]
  safe_termination := ⟨.returnHome, rfl, Or.inl rfl⟩

/-- The middle of its first leg is two and a half metres away. -/
theorem approved_track_within_there_and_back :
    let _ : PyText ℝ := PyText.whole
    ∃ decision, evaluate (.default ℝ) thereAndBack = .ok decision ∧
      midpoint ℝ (point 0 0) (point 3 4) ∈ track (point 0 0) thereAndBack.actions ∧
      dist (point 0 0) (midpoint ℝ (point 0 0) (point 3 4)) ≤ 30 := by
  intro _
  have nothing := (evaluateReasons_eq_nil_iff_accepted _ _ ⟨_, rfl, Or.inl rfl⟩).mpr
    accepted_there_and_back
  obtain ⟨decision, evaluated, approved⟩ :=
    (approves_iff (.default ℝ) thereAndBack.actions).mpr nothing
  have on : midpoint ℝ (point 0 0) (point 3 4) ∈ track (point 0 0) thereAndBack.actions :=
    Or.inr (Or.inl (midpoint_mem_segment _ _))
  have within := approved_track_within (.default ℝ) thereAndBack decision
    (by norm_num [PolicyLimits.default, PyNum.val]) evaluated approved _ on
  refine ⟨decision, evaluated, on, within.1.trans (le_of_eq ?_)⟩
  norm_num [PolicyLimits.default, PyNum.val]

end PolicyEngine

end Nightjar
