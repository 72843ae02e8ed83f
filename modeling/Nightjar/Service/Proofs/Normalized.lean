import Nightjar.Approval.Proofs.Verify
import Nightjar.Cli.Proofs.Course
import Nightjar.Service

/-!
# What the service shows is what is approved

A validated mission is read back from its dump. So the mission that an answer shows is the one that
a second submission, the command line and the verification of an approval see.
-/

namespace Nightjar

open Python Service

section Dumps

variable {N : Type}

theorem loadedItems_map {α : Type} (f : α → Json N) (items : List α) :
    loadedItems (items.map f) = items.map fun item => loaded (f item) := by
  induction items with
  | nil => rfl
  | cons item items ih => rw [List.map_cons, loadedItems, ih, List.map_cons]

variable [Zero N] [LT N]

/-- The actions of a mission, with what their validation guarantees. -/
def Mission.validActions (mission : Mission N) : List (MissionAction.Valid N) :=
  mission.actions.attachWith MissionAction.Positive mission.positive

theorem Mission.validActions_map_val (mission : Mission N) :
    mission.validActions.map Subtype.val = mission.actions :=
  List.attachWith_map_subtype_val _

theorem Mission.length_validActions (mission : Mission N) :
    mission.validActions.length = mission.actions.length :=
  List.length_attachWith

variable [DecidableRel (α := N) (· < ·)] {P : Pydantic N}

/-- A valid action is read back from its dump. -/
theorem MissionAction.modelValidate_dump (lawful : P.Lawful) (action : MissionAction.Valid N) :
    MissionAction.modelValidate P (loaded action.1.dump) = .ok action := by
  obtain ⟨action, positive⟩ := action
  cases action with
  | takeoff altitude | hold duration | goto north east altitude =>
    simp only [MissionAction.Positive] at positive
    simp [MissionAction.modelValidate, MissionAction.dump, loaded, loadedFields, List.lookup_cons,
      takeoffAction, holdAction, gotoAction, Schema.field, Schema.positive, Schema.scalar,
      Schema.forbidExtra, lawful.float, lawful.int, positive, Except.map]
  | returnHome | land => rfl

section Spelled

variable {spelled : MissionAction N → Loaded N}
  (reads : ∀ action : MissionAction.Valid N,
    MissionAction.modelValidate P (spelled action.1) = .ok action)

include reads

/-- The tuple of the actions is read back when every action is. -/
theorem tuple_spelled (mission : Mission N) :
    Schema.tuple P 1 10 (MissionAction.modelValidate P) (.arr (mission.actions.map spelled)) =
      .ok ⟨mission.validActions, by
        rw [mission.length_validActions]
        exact mission.actions_length⟩ := by
  have items : mission.actions.map spelled =
      mission.validActions.map fun action => spelled action.1 := by
    rw [← mission.validActions_map_val, List.map_map]
    rfl
  have read : Validated.each (MissionAction.modelValidate P) 0
      (mission.validActions.map fun action => spelled action.1) =
        .ok (mission.validActions.map id) :=
    Validated.each_eq_ok 0 _ fun action _ => reads action
  have length := mission.actions_length
  rw [← mission.length_validActions] at length
  rw [List.map_id] at read
  rw [items]
  simp only [Schema.tuple, List.length_map, read]
  rw [if_neg (by omega), dif_pos length]

end Spelled

omit [DecidableRel (α := N) (· < ·)] in
/-- The description is read back. -/
theorem text_dump (lawful : P.Lawful) (mission : Mission N) :
    Schema.text P 1 300 (.str mission.description) =
      .ok ⟨mission.description, mission.description_length⟩ := by
  simp only [Schema.text, Schema.scalar, lawful.str]
  rw [dif_pos mission.description_length.1, dif_pos mission.description_length.2]

/-- A mission is read back when its actions are. -/
theorem Mission.modelValidate_spelled (lawful : P.Lawful) {spelled : MissionAction N → Loaded N}
    (reads : ∀ action : MissionAction.Valid N,
      MissionAction.modelValidate P (spelled action.1) = .ok action)
    (fresh : UUID) (mission : Mission N) :
    Mission.modelValidate P fresh (.obj [("mission_id", .str mission.missionId.text),
      ("description", .str mission.description),
      ("actions", .arr (mission.actions.map spelled))]) = .ok mission := by
  have fields : Mission.fieldsOf P fresh
      [("mission_id", .str mission.missionId.text), ("description", .str mission.description),
        ("actions", .arr (mission.actions.map spelled))] =
      .ok (mission.missionId, ⟨mission.description, mission.description_length⟩,
        ⟨mission.validActions, by
          rw [mission.length_validActions]
          exact mission.actions_length⟩, ()) := by
    simp [Mission.fieldsOf, Mission.missionIdOf, Schema.field, List.lookup_cons, Schema.scalar,
      lawful.uuid, text_dump lawful, tuple_spelled reads, Schema.forbidExtra]
  have safe : ∃ last, (mission.validActions.map Subtype.val).getLast? = some last ∧
      (last.type = .returnHome ∨ last.type = .land) := by
    rw [mission.validActions_map_val]
    exact mission.safe_termination
  simp only [Mission.modelValidate, fields]
  rw [dif_pos safe]
  exact congrArg Except.ok (Mission.eq_of_fields rfl rfl mission.validActions_map_val)

/-- A mission is read back from its dump. -/
theorem Mission.modelValidate_dump (lawful : P.Lawful) (fresh : UUID) (mission : Mission N) :
    Mission.modelValidate P fresh (loaded mission.dump) = .ok mission := by
  rw [Mission.dump, loaded, loadedFields, loadedFields, loadedFields, loadedFields, loaded, loaded,
    loaded, loadedItems_map]
  exact Mission.modelValidate_spelled lawful (MissionAction.modelValidate_dump lawful) fresh mission

end Dumps

section Answers

variable {N : Type} [Field N] [LinearOrder N] [FloorRing N] [PyMath N] [PyText N] [Crypto]

/-- `body[key]`. -/
def Service.entry (key : String) : Json N → Option (Json N)
  | .obj fields => fields.lookup key
  | _ => none

/-- The command line reads missions with the same schema. -/
def Host.ReadsMissions (host : Host N) (P : Pydantic N) (fresh : UUID) : Prop :=
  ∀ value, (host.missionOfJson value).toOption =
    (Mission.modelValidate P fresh (loaded value)).toOption

/-- The mission is the one that was shown: by its hash, for approvals, and for the policy. -/
structure IsShown (mission : Mission N) (limits : PolicyLimits N) (approved : Bool)
    (missionHash policyHash : String) : Prop where
  hash : missionSha256 mission = missionHash
  /-- An approval that is built for it is bound to what was shown. -/
  built : ∀ executor home ttlSeconds nowUnix nonce clock token payload,
    buildApprovalPayload mission limits executor home ttlSeconds nowUnix nonce clock token =
      .ok payload → payload.missionSha256 = missionHash ∧ payload.policySha256 = policyHash
  /-- An approval of what was shown is never refused for another mission. -/
  verified : ∀ (envelope : SignedApproval) publicKey other executor now clockSkew lifetime,
    envelope.payload.missionSha256 = missionHash →
      verifyApproval envelope publicKey mission other executor now clockSkew lifetime ≠
        .error (.approval "Approval does not match this mission.")
  /-- The command line decides as it was shown. -/
  decided : ∃ decision, PolicyEngine.evaluate limits mission = .ok decision ∧
    decision.approved = approved
  printed : ∀ (env : Env N) s, (∀ t line, env.stdout t line = none) →
    (Cli.printDecision env mission limits s).1 = .ok approved

/-- An answer shows what is hashed, approved and decided elsewhere. -/
structure ShowsTheMission (P : Pydantic N) (limits : Option (PolicyLimits N)) (body : Json N)
    (normalized : Json N) (approved : Bool) (missionHash policyHash : String) : Prop where
  normalized_mission : entry "normalized_mission" body = some normalized
  decision : entry "approved" body = some (.bool approved)
  mission_sha256 : entry "mission_sha256" body = some (.str missionHash)
  policy_sha256 : entry "policy_sha256" body = some (.str policyHash)
  /-- The schema accepts the mission that is shown. -/
  accepted : ∀ fresh, ∃ mission, Mission.modelValidate P fresh (loaded normalized) = .ok mission
  /-- Submitted again it gets the same answer. -/
  repeated : ∀ fresh,
    validateMissionPayload P fresh (.obj [("mission", loaded normalized)]) limits =
      .ok (200, body)
  /-- A file that contains it is loaded as that mission. -/
  loads : ∀ (host : Host N) fresh text, host.ReadsMissions P fresh →
    host.missionText = .ok text → host.loads text = .ok normalized →
      ∃ mission, Cli.loadMission host = .ok mission ∧
        IsShown mission (limits.getD (.default N)) approved missionHash policyHash

omit [FloorRing N] in
/-- The answers of 200. -/
theorem mission_of_accepted {P : Pydantic N} {fresh : UUID} {payload : Loaded N}
    {limits : Option (PolicyLimits N)} {body : Json N}
    (answered : validateMissionPayload P fresh payload limits = .ok (200, body)) :
    ∃ mission decision, PolicyEngine.evaluate (limits.getD (.default N)) mission = .ok decision ∧
      body = decidedBody (limits.getD (.default N)) mission decision := by
  unfold validateMissionPayload at answered
  dsimp only at answered
  split at answered
  · split at answered
    · split at answered
      · cases answered
      · rename_i mission validated
        cases evaluated : PolicyEngine.evaluate (limits.getD (.default N)) mission with
        | error e =>
          rw [evaluated] at answered
          cases answered
        | ok decision =>
          rw [evaluated] at answered
          cases answered
          exact ⟨mission, decision, evaluated, rfl⟩
    · cases answered
  · cases answered

/-- A mission is the one that its answer shows. -/
theorem isShown {limits : PolicyLimits N} {mission : Mission N} {decision : PolicyDecision}
    (evaluated : PolicyEngine.evaluate limits mission = .ok decision) :
    IsShown mission limits decision.approved (missionSha256 mission) (policySha256 limits) where
  hash := rfl
  built executor home ttlSeconds nowUnix nonce clock token payload built := by
    obtain ⟨-, -, missionHash, policyHash, -⟩ := buildApprovalPayload_eq_ok built
    exact ⟨missionHash, policyHash⟩
  verified envelope publicKey other executor now clockSkew lifetime same refused := by
    unfold verifyApproval at refused
    split at refused
    · simp [PyExc.approval] at refused
    · dsimp only at refused
      split_ifs at refused with _ _ _ _ differ
      all_goals first
        | exact differ same
        | simp [PyExc.approval] at refused
  decided := ⟨decision, evaluated, rfl⟩
  printed env s prints := by
    rw [printDecision_eq prints, evaluated]

/-- **What the service shows is what is approved.** The mission of an answer of 200 is accepted
    again with the same answer, and loaded from a file it is the mission that was hashed. -/
theorem showsTheMission {P : Pydantic N} (lawful : P.Lawful) {fresh : UUID} {payload : Loaded N}
    {limits : Option (PolicyLimits N)} {body : Json N}
    (answered : validateMissionPayload P fresh payload limits = .ok (200, body)) :
    ∃ normalized approved missionHash policyHash,
      ShowsTheMission P limits body normalized approved missionHash policyHash := by
  obtain ⟨mission, decision, evaluated, rfl⟩ := mission_of_accepted answered
  refine ⟨mission.dump, decision.approved, missionSha256 mission, policySha256 _, rfl, rfl, rfl,
    rfl, fun fresh => ⟨mission, Mission.modelValidate_dump lawful fresh mission⟩, fun fresh => ?_,
    fun host fresh text reads file dumped => ⟨mission, ?_, isShown evaluated⟩⟩
  · simp only [validateMissionPayload, List.lookup_cons, beq_self_eq_true,
      Mission.modelValidate_dump lawful fresh mission, evaluated, bind, Except.bind]
  · have read := reads mission.dump
    rw [Mission.modelValidate_dump lawful fresh mission] at read
    have loaded : host.missionOfJson mission.dump = .ok mission := by
      cases outcome : host.missionOfJson mission.dump with
      | ok other =>
        rw [outcome] at read
        exact congrArg Except.ok (Option.some.inj read)
      | error e =>
        rw [outcome] at read
        cases read
    simp only [Cli.loadMission, file, dumped, bind, Except.bind, loaded]

end Answers

section Sample

attribute [local instance] Crypto.keyless

/-- The value of a hexadecimal digit. -/
def hexValue (c : Char) : Option (Fin 16) :=
  (List.finRange 16).find? fun digit => hexDigit digit = c.toLower

/-- The UUID of a text, which may leave out the dashes. -/
def uuidOfText (text : String) : Except String UUID :=
  match (text.toList.filter (· ≠ '-')).mapM hexValue with
  | none => .error "Input should be a valid UUID"
  | some digits =>
    if length : digits.length = 32 then .ok ⟨digits, length⟩
    else .error "Input should be a valid UUID"

theorem uuidOfText_text (id : UUID) : uuidOfText id.text = .ok id := by
  have value : ∀ digit, hexValue (hexDigit digit) = some digit := by decide
  have read : ∀ digits : List (Fin 16), (digits.map hexDigit).mapM hexValue = some digits := by
    intro digits
    induction digits with
    | nil => rfl
    | cons digit digits ih =>
      rw [List.map_cons, List.mapM_cons, value, ih]
      rfl
  have chars : id.text.toList = id.chars := String.toList_ofList
  simp only [uuidOfText, chars, UUID.filter_chars, read, id.length_eq, dif_pos]

/-- The number of a text of decimal digits. -/
def decimalOfText (text : String) : Option Int :=
  if text.toList = [] ∨ ¬ text.toList.all Char.isDigit then none
  else some (Int.ofNat (Nat.ofDigitChars 10 text.toList 0))

/-- pydantic on the values of the proposal below: whole numbers are read from `int`, from whole
    `float` and from decimal texts. -/
def samplePydantic : Pydantic ℚ where
  message _ := "Input is not valid"
  tagMessage _ := "Input tag is not expected"
  uuid
    | .str text => uuidOfText text
    | _ => .error "UUID input should be a string, bytes or UUID object"
  str
    | .str text => .ok text
    | _ => .error "Input should be a valid string"
  float
    | .float (.finite x) => .ok x
    | .int i => .ok i
    | .str text => ((decimalOfText text).map fun i : Int => (i : ℚ)).elim
        (.error "Input should be a valid number") .ok
    | _ => .error "Input should be a valid number"
  int
    | .int i => .ok i
    | .float (.finite x) => if x = ⌊x⌋ then .ok ⌊x⌋ else .error "Input should be a valid integer"
    | .str text => (decimalOfText text).elim (.error "Input should be a valid integer") .ok
    | _ => .error "Input should be a valid integer"

theorem samplePydantic_lawful : samplePydantic.Lawful where
  uuid := uuidOfText_text
  str _ := rfl
  float _ := rfl
  int _ := rfl

/-- A proposal without an id, with an altitude written as a text and a duration as a `float`. -/
def proposal : Loaded ℚ :=
  .obj [("mission", .obj [("description", .str "Hover"), ("actions", .arr
    [.obj [("type", .str "takeoff"), ("altitude_m", .str "5")],
      .obj [("type", .str "hold"), ("duration_seconds", .float (.finite 2))],
      .obj [("type", .str "land")]])])]

/-- The service accepts it. -/
theorem showsTheMission_proposal :
    ∃ body normalized approved missionHash policyHash,
      validateMissionPayload samplePydantic (mavsdkSimulationMission ℚ).missionId proposal none =
        .ok (200, body) ∧
      ShowsTheMission samplePydantic none body normalized approved missionHash policyHash := by
  have status : (validateMissionPayload samplePydantic (mavsdkSimulationMission ℚ).missionId
      proposal none).map Prod.fst = .ok 200 := by decide +kernel
  cases answered : validateMissionPayload samplePydantic (mavsdkSimulationMission ℚ).missionId
      proposal none with
  | error e =>
    rw [answered] at status
    cases status
  | ok answer =>
    obtain ⟨code, body⟩ := answer
    rw [answered] at status
    cases status
    exact ⟨body, (showsTheMission samplePydantic_lawful answered).imp fun _ shown =>
      shown.imp fun _ shown => shown.imp fun _ shown => shown.imp fun _ shown => ⟨rfl, shown⟩⟩

end Sample

end Nightjar
