import Nightjar.Flight.History
import Nightjar.Policy.Proofs.Exact

/-!
# The missions that the executor accepts

`validate_mission` accepts a mission exactly when the policy engine approves it and every action
is supported, and then the mission is a takeoff, holds, and a landing.
-/

namespace Nightjar

open Python PolicySpec

section Validate

variable {N : Type} [Field N] [LinearOrder N] [FloorRing N] [PyMath N] [PyText N] [Crypto]
  {x : MavsdkExecutor N} {mission : Mission N}

omit [FloorRing N] in
/-- `validate_mission` returns exactly for approved missions of supported actions. -/
theorem validateMission_eq_ok_iff :
    x.validateMission mission = .ok () ↔
      PolicyEngine.Approves x.limits mission.actions ∧
        ∀ action ∈ mission.actions, action.Supported := by
  unfold MavsdkExecutor.validateMission PolicyEngine.evaluate PolicyEngine.Approves
  cases evaluated : PolicyEngine.evaluateActions x.limits mission.actions with
  | error e =>
    simp [bind, Except.bind]
  | ok decision =>
    by_cases approved : decision.approved = true
    · by_cases supported : ∀ action ∈ mission.actions, action.Supported
      · simp [bind, Except.bind, approved]
      · simp [bind, Except.bind, approved, supported]
    · simp [bind, Except.bind, approved]

omit [Field N] [LinearOrder N] [FloorRing N] [PyMath N] [PyText N] [Crypto] in
/-- Cruising with supported actions is holding. -/
theorem holds_of_cruises :
    ∀ cruise : List (MissionAction N), (∀ action ∈ cruise, action.Cruises) →
      (∀ action ∈ cruise, action.Supported) → ∃ holds : List Int, cruise = holds.map .hold := by
  intro cruise
  induction cruise with
  | nil => exact fun _ _ => ⟨[], rfl⟩
  | cons action cruise ih =>
    intro cruises supported
    obtain ⟨holds, rest⟩ := ih (fun later member => cruises later (List.mem_cons_of_mem _ member))
      fun later member => supported later (List.mem_cons_of_mem _ member)
    have cruising := cruises action List.mem_cons_self
    have known := supported action List.mem_cons_self
    cases action with
    | hold duration => exact ⟨duration :: holds, by rw [rest]; rfl⟩
    | goto north east altitude => simp [MissionAction.Supported, MissionAction.type] at known
    | takeoff altitude => cases cruising
    | returnHome => cases cruising
    | land => cases cruising

omit [FloorRing N] in
/-- An accepted mission is a takeoff within the altitude limit, holds, and a landing. -/
theorem plan_of_validateMission (accepted : x.validateMission mission = .ok ()) :
    ∃ (altitude : N) (holds : List Int),
      mission.actions = .takeoff altitude :: (holds.map .hold ++ [.land]) ∧
        altitude ≤ x.limits.maxAltitudeM.val := by
  obtain ⟨approved, supported⟩ := validateMission_eq_ok_iff.mp accepted
  obtain ⟨-, states, within, -, -, -, first⟩ := (PolicyEngine.evaluateReasons_eq_nil _ _).mp
    ((PolicyEngine.approves_iff _ _).mp approved)
  obtain ⟨altitude, cruise, ending, split, cruises, ends⟩ :=
    (PolicyEngine.shape_iff mission.safe_termination).mpr ⟨states, first⟩
  rw [split] at supported within
  have onGround : ∀ action ∈ ending, action.Supported := fun action member =>
    supported action (List.mem_cons_of_mem _ (List.mem_append_right _ member))
  obtain ⟨holds, holding⟩ := holds_of_cruises cruise cruises fun action member =>
    supported action (List.mem_cons_of_mem _ (List.mem_append_left _ member))
  refine ⟨altitude, holds, ?_, within _ List.mem_cons_self⟩
  rcases ends with rfl | rfl | rfl
  · rw [split, holding]
  · have known := onGround .returnHome (by simp)
    simp [MissionAction.Supported, MissionAction.type] at known
  · have known := onGround .returnHome (by simp)
    simp [MissionAction.Supported, MissionAction.type] at known

end Validate

end Nightjar
