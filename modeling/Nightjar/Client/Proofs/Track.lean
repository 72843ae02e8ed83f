import Nightjar.Client.Proofs.Decision

/-!
# What the map shows

"The dashed track is re-derived from the mission Nightjar actually parsed. Divergence between the
two lines means the conversion is wrong." When the points stay where they are between a click on the
button and the answer of the service, the dashed line goes to within half a centimetre of the
destination, on each axis of the local frame. The distance from the home in that frame, compared
with the radius that the script gives to its ring, tells the decision up to the same rounding. How
far from the home Leaflet draws the ring, on an earth radius of its own, is left to it.
-/

namespace Nightjar

open Python Interact Prog JavaScript Service

namespace Phase0Map

section Geodesy

variable {N : Type} [Field N] [LinearOrder N] [IsStrictOrderedRing N] [FloorRing N] [JsMath N]

omit [IsStrictOrderedRing N] in
/-- The conversions are inverse to each other where the cosine of the latitude is not zero. -/
theorem toNED_toWGS84 {origin : LatLng N} (pi : (JsMath.pi : N) ≠ 0)
    (cos : JsMath.cos (latRad origin) ≠ 0) (ned : Ned N) :
    toNED origin (toWGS84 origin ned) = ned := by
  have radius : (earthR : N) ≠ 0 := by norm_num [earthR]
  obtain ⟨north, east⟩ := ned
  simp only [toNED, toWGS84, add_sub_cancel_left, Ned.mk.injEq]
  constructor
  · field_simp
  · field_simp

/-- The point that a rounded conversion comes back to is half a centimetre away at most. -/
theorem toNED_rounded {home dest w : LatLng N} (pi : (JsMath.pi : N) ≠ 0)
    (cos : JsMath.cos (latRad home) ≠ 0)
    (is_w : w = toWGS84 home ⟨toFixedNumber 2 (toNED home dest).northM,
      toFixedNumber 2 (toNED home dest).eastM⟩) :
    |(toNED home w).northM - (toNED home dest).northM| ≤ 1 / 200 ∧
      |(toNED home w).eastM - (toNED home dest).eastM| ≤ 1 / 200 := by
  have unit : (1 / 2 / 10 ^ 2 : N) = 1 / 200 := by norm_num
  rw [is_w, toNED_toWGS84 pi cos, ← unit]
  exact ⟨abs_toFixedNumber_sub_le 2 _, abs_toFixedNumber_sub_le 2 _⟩

end Geodesy

section Drawing

variable {N : Type} {js : Js N}

theorem polylineOf_some (line : List (LatLng N)) : polylineOf (line.map some) = .ok line := by
  have all : (line.map some).mapM id = some line := by
    induction line with
    | nil => rfl
    | cons point line ih => simp [ih]
  rw [polylineOf, all]

/-- The reasons of a body are its texts. -/
theorem reasonTexts_texts [IntCast N] (lawful : js.Lawful) (lines : List String) :
    reasonTexts js (some (loaded (texts lines))) = .ok lines := by
  rw [texts, loaded, reasonTexts]
  induction lines with
  | nil => rfl
  | cons line lines ih =>
    rw [List.map_cons, loadedItems, List.mapM_cons, loaded, lawful.string, ih]
    rfl

variable [Field N] [JsMath N]

/-- The points of a mission on the map, after its start. -/
def trackOf (home : LatLng N) : List (MissionAction N) → List (LatLng N)
  | [] => []
  | .goto north east _ :: rest => toWGS84 home ⟨north, east⟩ :: trackOf home rest
  | .returnHome :: rest => home :: trackOf home rest
  | .takeoff _ :: rest => trackOf home rest
  | .hold _ :: rest => trackOf home rest
  | .land :: rest => trackOf home rest

/-- The script finds them in the dump. -/
theorem trackPoints_dump (lawful : js.Lawful) (home : LatLng N)
    (actions : List (MissionAction N)) :
    trackPoints js home (loadedItems (actions.map MissionAction.dump)) =
      .ok ((trackOf home actions).map some) := by
  induction actions with
  | nil => rfl
  | cons action rest ih =>
    cases action with
    | goto north east altitude =>
      simp [trackPoints, loadedItems, MissionAction.dump, loaded, loadedFields, property,
        List.lookup_cons, lawful.float, ih, trackOf, bind, Except.bind]
    | takeoff _ | hold _ | returnHome | land =>
      simp [trackPoints, loadedItems, MissionAction.dump, loaded, loadedFields, property, ih,
        trackOf, bind, Except.bind]

/-- The track of a mission is drawn when there is a home. -/
theorem drawNormalized_dump (lawful : js.Lawful) {page : Page N} {home : LatLng N}
    (isHome : page.home = some home) (id description : String)
    (actions : List (MissionAction N)) :
    drawNormalized js (some (loaded (.obj [("mission_id", .str id),
        ("description", .str description), ("actions", .arr (actions.map MissionAction.dump))])))
      page = (.ok (), { page with normalizedLine := some (home :: trackOf home actions) }) := by
  have points := trackPoints_dump lawful home actions
  have line := polylineOf_some (home :: trackOf home actions)
  rw [List.map_cons] at line
  simp [drawNormalized, Prog.modify, Prog.read, Prog.lift, bind, isHome, loaded, loadedFields,
    property, List.lookup_cons, iterated, points, line]

variable [LinearOrder N] [FloorRing N] [PyMath N] [PyText N] [Crypto]

/-- The reasons that a decision shows. -/
def rejectionReasons (decision : PolicyDecision) : Option (List String) :=
  if decision.approved then none else some decision.reasons

omit [FloorRing N] [JsMath N] [PyMath N] in
/-- What is shown of them are the reasons of a rejection. -/
theorem rejectionOf_decidedBody (lawful : js.Lawful) (limits : PolicyLimits N)
    (mission : Mission N) (decision : PolicyDecision) :
    rejectionOf js (some (loaded (decidedBody limits mission decision))) =
      .ok (rejectionReasons decision) := by
  have approved : property "approved" (some (loaded (decidedBody limits mission decision))) =
      .ok (some (.bool decision.approved)) := rfl
  have reasons : property "reasons" (some (loaded (decidedBody limits mission decision))) =
      .ok (some (loaded (texts decision.reasons))) := rfl
  have shown := reasonTexts_texts lawful decision.reasons
  cases is_approved : decision.approved with
  | true => simp [rejectionOf, approved, truthy, is_approved, rejectionReasons, bind, Except.bind]
  | false =>
    simp [rejectionOf, approved, reasons, shown, truthy, is_approved, rejectionReasons, bind,
      Except.bind]

omit [FloorRing N] [PyMath N] in
/-- A decision is shown, its mission is drawn, and the button is enabled. -/
theorem respond_decidedBody (lawful : js.Lawful) {page : Page N} {home : LatLng N}
    (isHome : page.home = some home) (limits : PolicyLimits N) (mission : Mission N)
    (decision : PolicyDecision) :
    Page.respond js (loaded (decidedBody limits mission decision)) page =
      (.ok (), { (page.setWire "done" "Response received").showResult with
        result := decidedTemplate (rejectionReasons decision) (missionSha256 mission)
          (policySha256 limits)
        normalizedLine := some (home :: trackOf home mission.actions)
        sendDisabled := false }) := by
  have error : property "error" (some (loaded (decidedBody limits mission decision))) = .ok none :=
    rfl
  have missionHash : property "mission_sha256"
      (some (loaded (decidedBody limits mission decision))) =
        .ok (some (.str (missionSha256 mission))) := rfl
  have policyHash : property "policy_sha256"
      (some (loaded (decidedBody limits mission decision))) =
        .ok (some (.str (policySha256 limits))) := rfl
  have normalized : property "normalized_mission"
      (some (loaded (decidedBody limits mission decision))) = .ok (some (loaded mission.dump)) :=
    rfl
  have rejection := rejectionOf_decidedBody lawful limits mission decision
  have drawn (page : Page N) (isHome : page.home = some home) :=
    drawNormalized_dump lawful isHome mission.missionId.text mission.description mission.actions
  simp [Page.respond, render, Prog.modify, Prog.lift, bind, error, truthy, rejection, missionHash,
    policyHash, normalized, lawful.string, Mission.dump, drawn, Page.showResult, Page.setWire,
    isHome]

end Drawing

section Points

variable {N : Type}

/-- What the map shows of the points: their markers, the ring, and the way there and back. -/
structure Inputs.Drawn (inputs : Inputs N) : Prop where
  homeMarker : inputs.homeMarker = inputs.home
  destMarker : inputs.destMarker = inputs.dest
  fence : inputs.fence = inputs.home
  dest : inputs.home = none → inputs.dest = none
  proposedLine : inputs.proposedLine =
    inputs.home.bind fun home => inputs.dest.map fun dest => [home, dest, home]

variable [Field N] [LinearOrder N] [FloorRing N] [JsMath N] {uuid : Nat → UUID} {js : Js N}
  {s t : Session N} {l : Label N}

namespace Session

/-- Every step draws what it changes. -/
theorem step_drawn (drawn : s.page.inputs.Drawn) (next : Step uuid js s l t) :
    t.page.inputs.Drawn := by
  by_cases quiet : l.Quiet
  · obtain ⟨-, same, -⟩ := step_quiet next quiet
    rw [same]
    exact drawn
  · cases l with
    | submit => exact (quiet trivial).elim
    | settle request answer => exact (quiet trivial).elim
    | slide alt =>
      cases next
      exact ⟨drawn.homeMarker, drawn.destMarker, drawn.fence, drawn.dest, drawn.proposedLine⟩
    | reset =>
      cases next
      exact ⟨rfl, rfl, rfl, fun _ => rfl, rfl⟩
    | click latlng =>
      cases next
      unfold click
      cases home : s.page.home with
      | none =>
        have dest : s.page.dest = none := drawn.dest home
        have line : s.page.proposedLine = none := by
          have line := drawn.proposedLine
          simp only [Page.inputs, home, Option.bind_none] at line
          exact line
        refine ⟨rfl, drawn.destMarker, rfl, fun _ => dest, ?_⟩
        simp [Page.setHome, Page.inputs, dest, line]
      | some h =>
        have marker : s.page.homeMarker = some h := drawn.homeMarker.trans home
        have fence : s.page.fence = some h := drawn.fence.trans home
        refine ⟨?_, rfl, ?_, ?_, ?_⟩
        · simp [Page.setDest, Page.inputs, marker, home]
        · simp [Page.setDest, Page.inputs, fence, home]
        · simp [Page.setDest, Page.inputs, home]
        · simp [Page.setDest, Page.inputs, home]

theorem drawn_of_run {alt : Slider} {labels : List (Label N)}
    (ran : Run (Step uuid js) (.load uuid alt) labels t) : t.page.inputs.Drawn :=
  Run.invariant (I := fun _ t => t.page.inputs.Drawn) ⟨rfl, rfl, rfl, fun _ => rfl, rfl⟩
    (fun _ _ _ _ _ drawn next => step_drawn drawn next) ran

/-- The points stay where they are. -/
theorem points_of_run {labels : List (Label N)} (ran : Run (Step uuid js) s labels t)
    (kept : ∀ l ∈ labels, l.KeepsPoints) :
    t.page.home = s.page.home ∧ t.page.dest = s.page.dest := by
  refine Run.invariant (I := fun labels t => (∀ l ∈ labels, Label.KeepsPoints l) →
    t.page.home = s.page.home ∧ t.page.dest = s.page.dest) (fun _ => ⟨rfl, rfl⟩) ?_ ran kept
  intro labels m l t _ so_far next kept
  obtain ⟨home, dest⟩ := so_far fun l member => kept l (List.mem_append_left _ member)
  by_cases quiet : l.Quiet
  · obtain ⟨-, same, -⟩ := step_quiet next quiet
    have home' : t.page.home = m.page.home := congrArg Inputs.home same
    have dest' : t.page.dest = m.page.dest := congrArg Inputs.dest same
    exact ⟨home'.trans home, dest'.trans dest⟩
  · have keeps := kept l (List.mem_append_right _ List.mem_cons_self)
    cases l with
    | submit => exact (quiet trivial).elim
    | settle request answer => exact (quiet trivial).elim
    | click latlng => exact keeps.elim
    | reset => exact keeps.elim
    | slide alt =>
      cases next
      exact ⟨home, dest⟩

end Session

end Points

section Answers

variable {N : Type} [Field N] [LinearOrder N] [IsStrictOrderedRing N] [FloorRing N] [JsMath N]
  [PyMath N] [PyText N] [Crypto] {P : Pydantic N} {uuid : Nat → UUID} {js : Js N}
  {s m t u : Session N}

/-- **The dashed line goes where the solid one goes.** While a request was in flight the points
    stayed where they are, whatever else happened. When the answer of the service arrives, the
    lines start and end at the home, and the points that they turn at are half a centimetre from
    each other at most, to the north and to the east. -/
theorem drawn_track (lawful : P.Lawful) (ints : ReadsInts P) (jsLawful : js.Lawful)
    (pi : (JsMath.pi : N) ≠ 0) {alt : Slider} {past between : List (Label N)}
    (earlier : Run (Session.Step uuid js) (.load uuid alt) past s) {p : Proposal N}
    (built : s.page.buildMission = .ok p) (sent : Session.Step uuid js s .submit m)
    (waited : Run (Session.Step uuid js) m between t) (kept : ∀ l ∈ between, l.KeepsPoints)
    {fresh : UUID} {status : Nat} {body : Json N}
    (answered : validateMissionPayload P fresh p.payload none = .ok (status, body))
    (settled : Session.Step uuid js t (.settle s.sent.length (some (loaded body))) u) :
    ∃ home dest w, u.page.home = some home ∧ u.page.dest = some dest ∧
      u.page.fence = some home ∧ u.page.proposedLine = some [home, dest, home] ∧
      u.page.normalizedLine = some [home, w, home] ∧ u.page.sendDisabled = false ∧
      (JsMath.cos (latRad home) ≠ 0 →
        |(toNED home w).northM - (toNED home dest).northM| ≤ 1 / 200 ∧
          |(toNED home w).eastM - (toNED home dest).eastM| ≤ 1 / 200) := by
  obtain ⟨home, dest, mission, decision, proposes, decided⟩ :=
    decided_of_buildMission lawful ints built
  have is_body : body = decidedBody (.default N) mission decision := by
    rw [decided.answered fresh] at answered
    exact (congrArg Prod.snd (Except.ok.inj answered)).symm
  have drawn := Session.drawn_of_run ((earlier.append (waited.cons sent)).append
    (Run.single_iff.mpr settled))
  obtain ⟨homes, dests⟩ := Session.points_of_run (waited.cons sent) (List.forall_mem_cons.mpr
    ⟨trivial, kept⟩)
  have isHome : t.page.home = some home := homes.trans proposes.isHome
  have isDest : t.page.dest = some dest := dests.trans proposes.isDest
  have after := respond_decidedBody jsLawful isHome (.default N) mission decision
  have page : u.page = (Page.respond js (loaded body) t.page).2 := by
    simp only [Session.Step, Session.step] at settled
    split at settled
    · cases settled
      rfl
    · cases settled
  rw [is_body, after] at page
  have home' : u.page.home = some home := by
    rw [page]
    exact isHome
  have dest' : u.page.dest = some dest := by
    rw [page]
    exact isDest
  refine ⟨home, dest, _, home', dest', drawn.fence.trans home', ?_, ?_, ?_, fun cos =>
    toNED_rounded pi cos rfl⟩
  · have line : u.page.proposedLine = _ := drawn.proposedLine
    simp only [Page.inputs, home', dest'] at line
    exact line
  · rw [page, decided.actions, proposes.actions]
    rfl
  · rw [page]

end Answers

section Frame

open Geometry

/-- Two distances from the home differ by no more than the coordinates do. -/
theorem abs_hypot_sub_le (north east north' east' : ℝ) :
    |PyMath.hypot north east - PyMath.hypot north' east'| ≤
      |north - north'| + |east - east'| := by
  have from_home (x y : ℝ) : PyMath.hypot x y = dist (point x y) (point 0 0) := by
    rw [dist_point, zero_sub, zero_sub, neg_sq, neg_sq]
    rfl
  have triangle := abs_dist_sub_le (point north east) (point north' east') (point 0 0)
  have axes := dist_point_le north east north' east'
  rw [from_home, from_home, abs_sub_comm north, abs_sub_comm east]
  exact triangle.trans axes

/-- The distance of two points in the script's local frame of the first. -/
noncomputable def frameDistance (home dest : LatLng ℝ) : ℝ :=
  PyMath.hypot (toNED home dest).northM (toNED home dest).eastM

variable [PyText ℝ] [Crypto] {P : Pydantic ℝ} {uuid : Nat → UUID} {js : Js ℝ} {s : Session ℝ}

/-- **The distance in the script's frame tells the decision, up to a centimetre.** A mission that
    the service approves goes to a point whose distance from the home, in the frame, is at most a
    centimetre more than the script's constant, and a point whose distance is at least a centimetre
    less is rejected for its altitude only. Where Leaflet draws the ring is not said. -/
theorem frameDistance_tells (lawful : P.Lawful) (ints : ReadsInts P) {alt : Slider}
    {past : List (Label ℝ)} (earlier : Run (Session.Step uuid js) (.load uuid alt) past s)
    {p : Proposal ℝ} (built : s.page.buildMission = .ok p) {fresh : UUID} {status : Nat}
    {body : Json ℝ}
    (answered : validateMissionPayload P fresh p.payload none = .ok (status, body)) :
    ∃ home dest mission decision, s.page.fence = some home ∧ s.page.destMarker = some dest ∧
      status = 200 ∧ body = decidedBody (.default ℝ) mission decision ∧
      (decision.approved = true →
        (altitudeOf s.page.alt : ℝ) ≤ 10 ∧ frameDistance home dest ≤ Page.fenceRadius + 1 / 100) ∧
      (frameDistance home dest ≤ Page.fenceRadius - 1 / 100 →
        (decision.approved = true ↔ (altitudeOf s.page.alt : ℝ) ≤ 10)) := by
  obtain ⟨home, dest, mission, decision, proposes, decided⟩ :=
    decided_of_buildMission lawful ints built
  have drawn := Session.drawn_of_run earlier
  have answer := Except.ok.inj (answered.symm.trans (decided.answered fresh))
  have rounding := abs_hypot_sub_le (toFixedNumber 2 (toNED home dest).northM)
    (toFixedNumber 2 (toNED home dest).eastM) (toNED home dest).northM (toNED home dest).eastM
  have north := abs_toFixedNumber_sub_le 2 (toNED home dest).northM
  have east := abs_toFixedNumber_sub_le 2 (toNED home dest).eastM
  have near : |PyMath.hypot (toFixedNumber 2 (toNED home dest).northM)
      (toFixedNumber 2 (toNED home dest).eastM) - frameDistance home dest| ≤ 1 / 100 := by
    rw [frameDistance]
    linarith
  have bounds := abs_le.mp near
  have radius : (Page.fenceRadius : ℝ) = 30 := by norm_num [Page.fenceRadius]
  refine ⟨home, dest, mission, decision, drawn.fence.trans proposes.isHome,
    drawn.destMarker.trans proposes.isDest, congrArg Prod.fst answer, congrArg Prod.snd answer,
    ?_, ?_⟩
  · intro approved
    obtain ⟨low, within⟩ := decided.approved.mp approved
    refine ⟨low, ?_⟩
    linarith [bounds.1]
  · intro inside
    constructor
    · exact fun approved => (decided.approved.mp approved).1
    · intro low
      refine decided.approved.mpr ⟨low, ?_⟩
      linarith [bounds.2]

end Frame

section Sample

attribute [local instance] Crypto.keyless

/-- The answer to the request of a page with two points is drawn. -/
theorem drawn_track_sample :
    ∃ body, ∃ u : Session ℚ, ∃ home dest w, u.page.home = some home ∧ u.page.dest = some dest ∧
      u.page.fence = some home ∧ u.page.proposedLine = some [home, dest, home] ∧
      u.page.normalizedLine = some [home, w, home] ∧
      u = samplePage.submit.settle sampleJs 0 (some (loaded body)) ∧
      |(toNED home w).northM - (toNED home dest).northM| ≤ 1 / 200 := by
  have built : ∃ p, samplePage.page.buildMission = .ok p := ⟨_, rfl⟩
  obtain ⟨p, built⟩ := built
  obtain ⟨home, dest, mission, decision, proposes, decided⟩ :=
    decided_of_buildMission samplePydantic_lawful readsInts_sample built
  have pi : (JsMath.pi : ℚ) ≠ 0 := by norm_num [JsMath.pi]
  have lawful : sampleJs.Lawful := ⟨fun _ => rfl, fun _ => rfl, fun _ => rfl⟩
  have waited : Run (Session.Step sampleUuid sampleJs) samplePage.submit [] samplePage.submit := rfl
  obtain ⟨home', dest', w, isHome, isDest, fence, proposed, normalized, -, near⟩ :=
    drawn_track samplePydantic_lawful readsInts_sample lawful pi run_samplePage built rfl waited
      (fun _ member => absurd member List.not_mem_nil) (decided.answered (sampleUuid 0)) rfl
  refine ⟨_, _, home', dest', w, isHome, isDest, fence, proposed, normalized, rfl, (near ?_).1⟩
  have kept := inputs_respond sampleJs (loaded (decidedBody (.default ℚ) mission decision))
    samplePage.submit.page
  have there : samplePage.submit.page.home = some home' :=
    (congrArg Inputs.home kept).symm.trans isHome
  have at_home : home' = ⟨0, 0⟩ := (Option.some.inj there).symm
  rw [at_home]
  norm_num [latRad, JsMath.cos]

/-- pydantic on finite numbers. -/
noncomputable def realPydantic : Pydantic ℝ where
  message _ := "Input is not valid"
  tagMessage _ := "Input tag is not expected"
  uuid
    | .str text => uuidOfText text
    | _ => .error "UUID input should be a string, bytes or UUID object"
  str
    | .str text => .ok text
    | _ => .error "Input should be a valid string"
  float
    | .float (.finite x) => .ok x
    | .int i => .ok i
    | _ => .error "Input should be a valid number"
  int
    | .int i => .ok i
    | _ => .error "Input should be a valid integer"

theorem realPydantic_lawful : realPydantic.Lawful where
  uuid := uuidOfText_text
  str _ := rfl
  float _ := rfl
  int _ := rfl

/-- The mission of a page with two points, before it is sent. -/
theorem frameDistance_tells_sample :
    let _ : PyText ℝ := PyText.whole
    ∃ s : Session ℝ, ∃ p, s.page.buildMission = .ok p ∧ ∃ home dest mission decision,
      validateMissionPayload realPydantic (sampleUuid 0) p.payload none =
        .ok (200, decidedBody (.default ℝ) mission decision) ∧
      s.page.fence = some home ∧ s.page.destMarker = some dest ∧
      (decision.approved = true → frameDistance home dest ≤ Page.fenceRadius + 1 / 100) := by
  intro text
  let s : Session ℝ :=
    ((Session.load sampleUuid 8).click sampleUuid ⟨0, 0⟩).click sampleUuid ⟨1 / 10000, 0⟩
  let js : Js ℝ := ⟨fun _ => .ok "", fun _ => none⟩
  have ran : Run (Session.Step sampleUuid js) (.load sampleUuid 8)
      [.click ⟨0, 0⟩, .click ⟨1 / 10000, 0⟩] s := ⟨_, rfl, _, rfl, rfl⟩
  have ints : ReadsInts realPydantic := fun _ _ => rfl
  have built : ∃ p, s.page.buildMission = .ok p := ⟨_, rfl⟩
  obtain ⟨p, built⟩ := built
  obtain ⟨home', dest', mission', decision', -, decided⟩ :=
    decided_of_buildMission realPydantic_lawful ints built
  obtain ⟨home, dest, mission, decision, fence, marker, -, body, wide, -⟩ :=
    frameDistance_tells realPydantic_lawful ints ran built (decided.answered (sampleUuid 0))
  refine ⟨s, p, built, home, dest, mission, decision, ?_, fence, marker,
    fun approved => (wide approved).2⟩
  rw [decided.answered, body]

end Sample

end Phase0Map

end Nightjar
