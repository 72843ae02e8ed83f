import Nightjar.Client.Proofs.MissionIds
import Nightjar.Service.Proofs.Answers

/-!
# What the service decides about the client's proposals

Every proposal that the client sends is a valid mission, which the service reads as it was sent. The
default policy approves it when the altitude and the rounded distance are within their limits; the
budgets of the policy are then kept, since the client flies to one point and back.
-/

namespace Nightjar

open Python Interact JavaScript Service

namespace Phase0Map

section Read

variable {N : Type} [Field N] [LinearOrder N] [IsStrictOrderedRing N] [FloorRing N]
  {P : Pydantic N}

/-- An `int` in JSON text is read as a `float` of its value. -/
def ReadsInts (P : Pydantic N) : Prop :=
  ∀ i : Int, |(i : N)| < fixedBound → P.float (.int i) = .ok (i : N)

omit [IsStrictOrderedRing N] in
/-- A number of the client is read as it is. -/
theorem float_writtenNumber (lawful : P.Lawful) (ints : ReadsInts P) (x : N) :
    P.float (writtenNumber x) = .ok x := by
  unfold writtenNumber
  by_cases whole : x = ⌊x⌋ ∧ |x| < fixedBound
  · rw [if_pos whole, ints _ (by rw [← whole.1]; exact whole.2), ← whole.1]
  · rw [if_neg whole]
    exact lawful.float x

omit [IsStrictOrderedRing N] in
/-- A valid action of the client is read as it is. -/
theorem modelValidate_writtenAction (lawful : P.Lawful) (ints : ReadsInts P)
    (action : MissionAction.Valid N) :
    MissionAction.modelValidate P (writtenAction action.1) = .ok action := by
  have number := float_writtenNumber lawful ints
  obtain ⟨action, positive⟩ := action
  cases action with
  | takeoff altitude | hold duration | goto north east altitude =>
    simp only [MissionAction.Positive] at positive
    simp [MissionAction.modelValidate, writtenAction, List.lookup_cons, MissionAction.takeoffAction,
      MissionAction.holdAction, MissionAction.gotoAction, Schema.field, Schema.positive,
      Schema.scalar, Schema.forbidExtra, number, lawful.int, positive, Except.map]
  | returnHome | land => rfl

/-- The altitude is positive. -/
theorem altitudeOf_pos (alt : Slider) : 0 < (altitudeOf alt : N) := by
  have half : (0 : N) ≤ (alt.val : N) / 2 := by positivity
  rw [altitudeOf]
  linarith

variable [JsMath N]

/-- What `buildMission` returns. -/
structure Proposes (page : Page N) (p : Proposal N) (home dest : LatLng N) : Prop where
  isHome : page.home = some home
  isDest : page.dest = some dest
  actions : p.actions = [.takeoff (altitudeOf page.alt),
    .goto (toFixedNumber 2 (toNED home dest).northM) (toFixedNumber 2 (toNED home dest).eastM)
      (altitudeOf page.alt), .returnHome, .land]
  description : p.description = "ATAK phase 0 probe: operator-selected destination."

omit [IsStrictOrderedRing N] in
theorem proposes_of_buildMission {page : Page N} {p : Proposal N}
    (built : page.buildMission = .ok p) : ∃ home dest, Proposes page p home dest := by
  obtain ⟨home, dest, is_home, is_dest⟩ := points_of_buildMission built
  simp only [Page.buildMission, is_home, is_dest] at built
  cases built
  exact ⟨home, dest, is_home, is_dest, rfl, rfl⟩

/-- A proposal is a mission of the schema. -/
theorem exists_mission {page : Page N} {p : Proposal N} {home dest : LatLng N}
    (proposes : Proposes page p home dest) :
    ∃ mission : Mission N, mission.missionId = p.missionId ∧
      mission.description = p.description ∧ mission.actions = p.actions := by
  have altitude := altitudeOf_pos (N := N) page.alt
  refine ⟨⟨p.missionId, p.description, p.actions, ?_, ?_, ?_, ?_⟩, rfl, rfl, rfl⟩
  · rw [proposes.description]
    decide
  · rw [proposes.actions]
    simp
  · rw [proposes.actions]
    intro action member
    simp only [List.mem_cons, List.not_mem_nil, or_false] at member
    rcases member with rfl | rfl | rfl | rfl
    · exact altitude
    · exact altitude
    · trivial
    · trivial
  · rw [proposes.actions]
    exact ⟨.land, rfl, Or.inr rfl⟩

omit [IsStrictOrderedRing N] [JsMath N] in
/-- The service reads the mission that was proposed. -/
theorem proposed_payload (lawful : P.Lawful) (ints : ReadsInts P) (fresh : UUID) {p : Proposal N}
    {mission : Mission N} (id : mission.missionId = p.missionId)
    (description : mission.description = p.description) (actions : mission.actions = p.actions) :
    proposed P fresh p.payload = some mission := by
  have read := Mission.modelValidate_spelled lawful (modelValidate_writtenAction lawful ints) fresh
    mission
  rw [id, description, actions] at read
  rw [Proposal.payload, proposed, List.lookup_cons_self, Option.bind_some, Proposal.written, read]
  rfl

end Read

section Policy

variable {N : Type} [Field N] [LinearOrder N] [IsStrictOrderedRing N] [PyMath N]

/-- The default policy on a flight to one point and back. -/
theorem approves_there_and_home [PyText N] (altitude north east : N) :
    PolicyEngine.Approves (.default N)
        [.takeoff altitude, .goto north east altitude, .returnHome, .land] ↔
      altitude ≤ 10 ∧ PyMath.hypot north east ≤ 30 := by
  rw [PolicyEngine.approves_iff, PolicyEngine.evaluateReasons_eq_nil]
  constructor
  · rintro ⟨-, -, within, -⟩
    have goto := within (.goto north east altitude) (by simp)
    simpa [PolicySpec.WithinLimits, PolicyLimits.default, PyNum.val] using goto
  · rintro ⟨low, near⟩
    have states : PolicyEngine.StatesOk .disarmed
        [.takeoff altitude, .goto north east altitude, .returnHome, .land] := by
      simp [PolicyEngine.StatesOk, FlightState.Allows, FlightState.AllowsRemaining,
        FlightState.after, MissionAction.type]
    have within : ∀ action ∈ [.takeoff altitude, .goto north east altitude, .returnHome, .land],
        PolicySpec.WithinLimits (.default N) action := by
      simp [PolicySpec.WithinLimits, PolicyLimits.default, PyNum.val, low, near]
    refine ⟨?_, states, within, ?_, ?_, ?_, rfl⟩
    · norm_num [PolicyLimits.default, PyNum.val]
    · norm_num [PolicyLimits.default, PyNum.val, MissionAction.holdSeconds]
    · simp only [PolicyEngine.travelled, sub_zero, add_zero, PolicyLimits.default, PyNum.val]
      push_cast
      linarith
    · norm_num [PolicyLimits.default, PyNum.val, List.countP_cons, MissionAction.isGoto]

end Policy

section Sessions

variable {N : Type} [Field N] [LinearOrder N] [IsStrictOrderedRing N] [FloorRing N] [JsMath N]
  [PyMath N] [PyText N] [Crypto] {P : Pydantic N} {uuid : Nat → UUID} {js : Js N} {s t : Session N}

/-- The decision of the service about a proposal. -/
structure Decided (P : Pydantic N) (p : Proposal N) (alt : Slider) (home dest : LatLng N)
    (mission : Mission N) (decision : PolicyDecision) : Prop where
  missionId : mission.missionId = p.missionId
  actions : mission.actions = p.actions
  answered : ∀ fresh, validateMissionPayload P fresh p.payload none =
    .ok (200, decidedBody (.default N) mission decision)
  approved : decision.approved = true ↔ (altitudeOf alt : N) ≤ 10 ∧
    PyMath.hypot (toFixedNumber 2 (toNED home dest).northM)
      (toFixedNumber 2 (toNED home dest).eastM) ≤ 30

/-- A mission that can be built is decided. -/
theorem decided_of_buildMission (lawful : P.Lawful) (ints : ReadsInts P) {page : Page N}
    {p : Proposal N} (built : page.buildMission = .ok p) :
    ∃ home dest mission decision, Proposes page p home dest ∧
      Decided P p page.alt home dest mission decision := by
  obtain ⟨home, dest, proposes⟩ := proposes_of_buildMission built
  obtain ⟨mission, id, description, actions⟩ := exists_mission proposes
  have noHold : mission.totalHoldSeconds = 0 := by
    rw [Mission.totalHoldSeconds, actions, proposes.actions]
    rfl
  have short : IsShort mission.totalHoldSeconds := by
    rw [noHold]
    exact isShort_of_lt (by decide)
  rcases PolicyEngine.evaluate_default mission with ⟨-, decision, evaluated⟩ | ⟨long, -⟩
  · refine ⟨home, dest, mission, decision, proposes, id, actions, fun fresh => ?_, ?_⟩
    · rw [validateMissionPayload_of_some
        (proposed_payload lawful ints fresh id description actions), evaluated]
      rfl
    · have unique : decision.approved = true ↔
          PolicyEngine.Approves (.default N) mission.actions := by
        constructor
        · exact fun approved => ⟨decision, evaluated, approved⟩
        · intro approves
          obtain ⟨other, again, approved⟩ := approves
          rw [PolicyEngine.evaluate, again] at evaluated
          rw [← Except.ok.inj evaluated]
          exact approved
      rw [unique, actions, proposes.actions]
      exact approves_there_and_home (N := N) _ _ _
  · exact absurd short long

omit [IsStrictOrderedRing N] [PyMath N] [PyText N] [Crypto] in
/-- Every request carries a mission that could be built. -/
theorem built_of_sent {alt : Slider} {labels : List (Label N)}
    (ran : Run (Session.Step uuid js) (.load uuid alt) labels t) :
    ∀ p ∈ t.sent, ∃ page : Page N, page.buildMission = .ok p := by
  refine Run.invariant (I := fun _ t => ∀ p ∈ t.sent, ∃ page : Page N, page.buildMission = .ok p)
    ?_ ?_ ran
  · exact fun p member => absurd member List.not_mem_nil
  · intro labels s l t _ earlier next p member
    by_cases quiet : l.Quiet
    · obtain ⟨-, -, ⟨q, built, sent⟩ | sent⟩ := Session.step_quiet next quiet
      · rw [sent] at member
        rcases List.mem_append.mp member with old | new
        · exact earlier p old
        · rw [List.mem_singleton.mp new]
          exact ⟨s.page, built⟩
      · rw [sent] at member
        exact earlier p member
    · obtain ⟨sent, -⟩ := Session.step_loud next quiet
      rw [sent] at member
      exact earlier p member

/-- **Every request of the client is decided.** Whatever the operator does, a request is answered
    with 200 and with the mission that was proposed, and it is approved just when the altitude is at
    most 10 m and the rounded distance at most 30 m. -/
theorem sent_decided (lawful : P.Lawful) (ints : ReadsInts P) {alt : Slider}
    {labels : List (Label N)} (ran : Run (Session.Step uuid js) (.load uuid alt) labels t) :
    ∀ p ∈ t.sent, ∃ page home dest mission decision, Proposes page p home dest ∧
      Decided P p page.alt home dest mission decision := by
  intro p member
  obtain ⟨page, built⟩ := built_of_sent ran p member
  obtain ⟨home, dest, mission, decision, proposes, decided⟩ :=
    decided_of_buildMission lawful ints built
  exact ⟨page, home, dest, mission, decision, proposes, decided⟩

end Sessions

section Sample

attribute [local instance] Crypto.keyless

theorem readsInts_sample : ReadsInts samplePydantic := fun _ _ => rfl

/-- The request of a page with two points. -/
theorem sent_decided_sample :
    ∃ p ∈ samplePage.submit.sent, ∃ page home dest mission decision, Proposes page p home dest ∧
      Decided samplePydantic p page.alt home dest mission decision := by
  have ran : Run (Session.Step sampleUuid sampleJs) (.load sampleUuid 8)
      ([.click ⟨0, 0⟩, .click ⟨1 / 10000, 0⟩] ++ [.submit]) samplePage.submit :=
    run_samplePage.append ⟨_, rfl, rfl⟩
  have member : ∃ p, p ∈ samplePage.submit.sent := ⟨_, List.mem_singleton.mpr rfl⟩
  obtain ⟨p, member⟩ := member
  exact ⟨p, member, sent_decided samplePydantic_lawful readsInts_sample ran p member⟩

end Sample

end Phase0Map

end Nightjar
