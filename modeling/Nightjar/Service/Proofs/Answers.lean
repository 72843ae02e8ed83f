import Nightjar.JsonReader
import Nightjar.Policy.Proofs.Messages
import Nightjar.Service.Handler
import Nightjar.Service.Proofs.Normalized

/-!
# Which proposals are answered

`do_POST` catches two exceptions, around the line that decodes and reads the body. A body of at most
64 KiB is answered when nothing else is raised: neither by `json.loads`, nor by the messages of the
policy engine, which show the total hold time of the mission.
-/

namespace Nightjar

open Python Interact Http Service

namespace Service

section Read

variable {N : Type} [Field N] [LinearOrder N] [PyMath N] [PyText N] [Crypto]
  (reader : Reader N) (P : Pydantic N) (fresh : UUID)

/-- The mission of a body that is an object with a valid one (`service.py:51-61`). -/
def proposed (payload : Loaded N) : Option (Mission N) :=
  match payload with
  | .obj fields =>
    (fields.lookup "mission").bind fun proposal =>
      (Mission.modelValidate P fresh proposal).toOption
  | _ => none

/-- What `do_POST` does with the bytes of the body (`service.py:167-183`). -/
def answerBody (data : List UInt8) : Handling Unit :=
  match readPayload reader data with
  | .error e =>
    if isBodyError e.cls then
      respond 400 (errorBody "json" [s!"Request body is not valid JSON: {e.text}"] [] : Json N)
    else Prog.raise e
  | .ok payload => do
    let answer ← Prog.lift (validateMissionPayload P fresh payload none)
    respond answer.1 answer.2

variable {reader P fresh}

/-- A body of the declared length is read to its end. -/
theorem doPost_read {head : Head HttpCommand} {body : List UInt8} (path : head.path = validatePath)
    (declared : intOfText (head.get "Content-Length" "0") = some (body.length : Int))
    (small : (body.length : Int) ≤ maxRequestBytes) (conn : Conn Response) :
    doPost reader P fresh head { conn with rfile := body ++ conn.rfile } =
      answerBody reader P fresh body conn := by
  have inRange : ¬ ((body.length : Int) < 0 ∨ (body.length : Int) > maxRequestBytes) := by omega
  have taken : (body ++ conn.rfile).take body.length = body := List.take_left
  have dropped : (body ++ conn.rfile).drop body.length = conn.rfile := List.drop_left
  have read : readBytes body.length { conn with rfile := body ++ conn.rfile } =
      (.ok body, conn) := by
    rw [readBytes, taken, dropped]
  unfold doPost
  rw [if_neg (not_not.mpr path), declared]
  simp only [Option.getD_some, Int.toNat_natCast]
  rw [if_neg inRange]
  exact Prog.bind_of_returns read

section Branches

variable {data : List UInt8} {e : PyExc} {payload : Loaded N} (conn : Conn Response)

theorem answerBody_of_caught (refused : readPayload reader data = .error e)
    (caught : isBodyError e.cls = true) :
    answerBody reader P fresh data conn = (.ok (), { conn with sent := conn.sent ++
      [response 400 (errorBody "json" [s!"Request body is not valid JSON: {e.text}"] [] : Json N)
        conn.closeConnection] }) := by
  rw [answerBody, refused]
  dsimp only
  rw [if_pos caught]
  rfl

theorem answerBody_of_uncaught (refused : readPayload reader data = .error e)
    (uncaught : ¬ isBodyError e.cls = true) :
    answerBody reader P fresh data conn = (.error e, conn) := by
  rw [answerBody, refused]
  dsimp only
  rw [if_neg uncaught]
  rfl

theorem answerBody_of_returned {answer : Nat × Json N}
    (read : readPayload reader data = .ok payload)
    (returned : validateMissionPayload P fresh payload none = .ok answer) :
    answerBody reader P fresh data conn = (.ok (), { conn with sent := conn.sent ++
      [response answer.1 answer.2 conn.closeConnection] }) := by
  rw [answerBody, read]
  dsimp only
  rw [returned]
  rfl

theorem answerBody_of_raised (read : readPayload reader data = .ok payload)
    (raised : validateMissionPayload P fresh payload none = .error e) :
    answerBody reader P fresh data conn = (.error e, conn) := by
  rw [answerBody, read]
  dsimp only
  rw [raised]
  rfl

end Branches

/-- A body that proposes no mission is refused. -/
theorem validateMissionPayload_of_none {payload : Loaded N}
    (without : proposed P fresh payload = none) :
    ∃ body, validateMissionPayload P fresh payload none = .ok (422, body) := by
  cases payload with
  | obj fields =>
    cases found : fields.lookup "mission" with
    | none => exact ⟨_, by simp only [validateMissionPayload, found]; rfl⟩
    | some proposal =>
      cases valid : Mission.modelValidate P fresh proposal with
      | error errors => exact ⟨_, by simp only [validateMissionPayload, found, valid]; rfl⟩
      | ok mission => simp [proposed, found, valid, Except.toOption] at without
  | _ => exact ⟨_, rfl⟩

/-- A body that proposes a mission is answered with the decision about it. -/
theorem validateMissionPayload_of_some {payload : Loaded N} {mission : Mission N}
    (proposal : proposed P fresh payload = some mission) :
    validateMissionPayload P fresh payload none =
      (PolicyEngine.evaluate (.default N) mission).map fun decision =>
        (200, decidedBody (.default N) mission decision) := by
  cases payload with
  | obj fields =>
    obtain ⟨value, found, valid⟩ := Option.bind_eq_some_iff.mp proposal
    cases validated : Mission.modelValidate P fresh value with
    | error errors =>
      rw [validated] at valid
      cases valid
    | ok mission' =>
      rw [validated] at valid
      cases valid
      simp only [validateMissionPayload, found, validated, Option.getD_none]
      cases PolicyEngine.evaluate (.default N) mission <;> rfl
  | _ => cases proposal

end Read

end Service

section Answered

variable {N : Type} [Field N] [LinearOrder N] [PyMath N] [PyText N] [Crypto]
  (reader : Reader N) (P : Pydantic N) (fresh : UUID)

/-- The response that a body calls for: 400 when it is not read as JSON, 422 when it is not an
    object with a valid mission, and otherwise 200 with the decision. -/
def IsAnswer (body : List UInt8) (close : Bool) (answer : Response) : Prop :=
  match readPayload reader body with
  | .error _ => answer.status = 400
  | .ok payload =>
    match proposed P fresh payload with
    | none => answer.status = 422
    | some mission => ∃ decision, PolicyEngine.evaluate (.default N) mission = .ok decision ∧
        answer = response 200 (decidedBody (.default N) mission decision) close

/-- `do_POST` lets no exception escape, and sends exactly one response, which is the one that the
    body calls for. -/
def Answers (head : Head HttpCommand) (body : List UInt8) (conn : Conn Response) : Prop :=
  ∃ answer, doPost reader P fresh head { conn with rfile := body ++ conn.rfile } =
      (.ok (), { conn with sent := conn.sent ++ [answer] }) ∧
    IsAnswer reader P fresh body conn.closeConnection answer

/-- Decoding and reading the body raise nothing but what is caught there, and the total hold time of
    a mission that it proposes can be written. -/
structure Harmless (body : List UInt8) : Prop where
  caught : ∀ e, readPayload reader body = .error e → isBodyError e.cls = true
  short : ∀ payload mission, readPayload reader body = .ok payload →
    proposed P fresh payload = some mission → IsShort mission.totalHoldSeconds

variable {reader P fresh} {head : Head HttpCommand} {body : List UInt8}

/-- A request that an exception ends is not answered. -/
theorem not_answers_of_raised {e : PyExc} (path : head.path = validatePath)
    (declared : intOfText (head.get "Content-Length" "0") = some (body.length : Int))
    (small : (body.length : Int) ≤ maxRequestBytes) {conn : Conn Response}
    (raised : answerBody reader P fresh body conn = (.error e, conn)) :
    ¬ Answers reader P fresh head body conn := by
  rintro ⟨answer, returned, -⟩
  rw [doPost_read path declared small, raised] at returned
  cases returned

variable [IsStrictOrderedRing N]

/-- **A bounded request is answered just when it is harmless** (`service.py:134-183`). -/
theorem answers_iff (path : head.path = validatePath)
    (declared : intOfText (head.get "Content-Length" "0") = some (body.length : Int))
    (small : (body.length : Int) ≤ maxRequestBytes) (conn : Conn Response) :
    Answers reader P fresh head body conn ↔ Harmless reader P fresh body := by
  have unanswered : ∀ e, answerBody reader P fresh body conn = (.error e, conn) →
      ¬ Answers reader P fresh head body conn :=
    fun _ raised => not_answers_of_raised path declared small raised
  cases read : readPayload reader body with
  | error e =>
    have harmless : Harmless reader P fresh body ↔ isBodyError e.cls = true := by
      constructor
      · exact fun harmless => harmless.caught e read
      · refine fun caught => ⟨fun _ refused => ?_, fun _ _ returned => ?_⟩
        · rw [read] at refused
          cases refused
          exact caught
        · rw [read] at returned
          cases returned
    rw [harmless]
    by_cases caught : isBodyError e.cls = true
    · refine iff_of_true ⟨_, (doPost_read path declared small conn).trans
        (answerBody_of_caught conn read caught), ?_⟩ caught
      rw [IsAnswer, read]
      rfl
    · exact iff_of_false (unanswered e (answerBody_of_uncaught conn read caught)) caught
  | ok payload =>
    have harmless : Harmless reader P fresh body ↔
        ∀ mission, proposed P fresh payload = some mission →
          IsShort mission.totalHoldSeconds := by
      constructor
      · exact fun harmless mission => harmless.short payload mission read
      · refine fun short => ⟨fun _ refused => ?_, fun _ _ returned => ?_⟩
        · rw [read] at refused
          cases refused
        · rw [read] at returned
          cases returned
          exact short _
    rw [harmless]
    cases proposal : proposed P fresh payload with
    | none =>
      obtain ⟨answer, refused⟩ := validateMissionPayload_of_none proposal
      refine iff_of_true ⟨_, (doPost_read path declared small conn).trans
        (answerBody_of_returned conn read refused), ?_⟩ nofun
      simp only [IsAnswer, read, proposal]
      rfl
    | some mission =>
      have checked := validateMissionPayload_of_some proposal
      have one : (∀ found, some mission = some found → IsShort found.totalHoldSeconds) ↔
          IsShort mission.totalHoldSeconds :=
        ⟨fun all => all mission rfl, fun short found same => Option.some.inj same ▸ short⟩
      rw [one]
      rcases PolicyEngine.evaluate_default mission with
        ⟨short, decision, evaluated⟩ | ⟨long, raised⟩
      · rw [evaluated] at checked
        refine iff_of_true ⟨_, (doPost_read path declared small conn).trans
          (answerBody_of_returned conn read checked), ?_⟩ short
        simp only [IsAnswer, read, proposal]
        exact ⟨decision, evaluated, rfl⟩
      · rw [raised] at checked
        exact iff_of_false (unanswered _ (answerBody_of_raised conn read checked)) long

end Answered

section Bodies

variable {N : Type} [Field N] [LinearOrder N] [PyMath N] [PyText N] [Crypto]
  {floats : Loads.Floats (Reading N)} {describe : Loads.Failure → String → String}
  {decodeError : List UInt8 → String} {P : Pydantic N} {fresh : UUID}

/-- The text of a value, as a body. -/
def jsonBody (v : Json N) : List UInt8 := encodeUtf8 (String.ofList (v.render Json.ascii))

omit [Field N] [LinearOrder N] [PyMath N] [PyText N] [Crypto] in
theorem readPayload_encodeUtf8 (reader : Reader N) (text : String) :
    readPayload reader (encodeUtf8 text) = reader.loads text := by
  rw [readPayload, decodeUtf8_encodeUtf8]

omit [Field N] [LinearOrder N] [PyMath N] [Crypto] in
theorem readPayload_jsonBody [LawfulFloatText N] (roundTrips : floats.RoundTrips .finite)
    {v : Json N} (distinct : v.Distinct) (short : v.shortInts = true) :
    readPayload (jsonReader floats describe decodeError) (jsonBody v) = .ok (loaded v) := by
  rw [jsonBody, readPayload_encodeUtf8]
  exact jsonReader_render roundTrips distinct short

/-- The proposal of a mission. -/
def Mission.proposal (mission : Mission N) : Json N := .obj [("mission", mission.dump)]

omit [PyMath N] [PyText N] [Crypto] in
/-- A body with a mission of a short total hold time is harmless. -/
theorem harmless_of_mission {reader : Reader N} {body : List UInt8} {mission : Mission N}
    (lawful : P.Lawful) (read : readPayload reader body = .ok (loaded mission.proposal))
    (short : IsShort mission.totalHoldSeconds) : Harmless reader P fresh body := by
  have proposal : proposed P fresh (loaded mission.proposal) = some mission := by
    rw [Mission.proposal, loaded, loadedFields, loadedFields, proposed, List.lookup_cons_self,
      Option.bind_some, Mission.modelValidate_dump lawful fresh mission]
    rfl
  refine ⟨fun e refused => ?_, fun payload other returned found => ?_⟩
  · rw [read] at refused
    cases refused
  · rw [read] at returned
    cases returned
    rw [proposal] at found
    cases found
    exact short

/-- A number that is too long, as a body. -/
def longBody : List UInt8 := encodeUtf8 (String.ofList longNumber)

omit [Crypto] in
theorem length_longBody : longBody.length = 4301 := by
  have ascii : ∀ c ∈ longNumber, c.toNat < 128 := by
    intro c member
    rw [List.eq_of_mem_replicate member]
    decide
  rw [longBody, length_encodeUtf8 ascii]
  exact List.length_replicate

omit [Field N] [LinearOrder N] [PyMath N] [PyText N] [Crypto] in
theorem readPayload_longBody : readPayload (jsonReader floats describe decodeError) longBody =
    .error ⟨.valueError, describe .intDigits (String.ofList longNumber)⟩ := by
  rw [longBody, readPayload_encodeUtf8]
  exact jsonReader_longNumber

/-- The plain `ValueError` is not caught. -/
theorem answerBody_longBody (conn : Conn Response) :
    answerBody (jsonReader floats describe decodeError) P fresh longBody conn =
      (.error ⟨.valueError, describe .intDigits (String.ofList longNumber)⟩, conn) :=
  answerBody_of_uncaught conn readPayload_longBody Bool.false_ne_true

end Bodies

section Sample

attribute [local instance] Crypto.keyless

/-- The headers of a proposal. -/
def proposalHead (length : String) : Head HttpCommand :=
  ⟨.post, validatePath, [("Content-Length", length)], false⟩

theorem distinct_simulationProposal : (mavsdkSimulationMission ℚ).proposal.Distinct := by
  simp [Mission.proposal, Json.Distinct, Json.DistinctFields, Json.DistinctItems, Mission.dump,
    mavsdkSimulationMission, MissionAction.dump]

/-- The simulation mission is answered. -/
theorem answers_simulation :
    Answers sampleJson samplePydantic (mavsdkSimulationMission ℚ).missionId (proposalHead "293")
      (jsonBody (mavsdkSimulationMission ℚ).proposal) ⟨[], false, []⟩ := by
  have length : ((jsonBody (mavsdkSimulationMission ℚ).proposal).length : Int) = 293 := by
    decide +kernel
  have declared : intOfText ((proposalHead "293").get "Content-Length" "0") =
      some ((jsonBody (mavsdkSimulationMission ℚ).proposal).length : Int) := by
    rw [length]
    decide +kernel
  have small :
      ((jsonBody (mavsdkSimulationMission ℚ).proposal).length : Int) ≤ maxRequestBytes := by
    rw [length]
    decide
  have total : (mavsdkSimulationMission ℚ).totalHoldSeconds = 10 := by decide +kernel
  have short : IsShort (mavsdkSimulationMission ℚ).totalHoldSeconds := by
    rw [total]
    exact isShort_of_lt (by decide)
  have read := @readPayload_jsonBody ℚ _ sampleFloats sampleDescribe
    (fun _ => "invalid start byte") _ sampleFloats_roundTrips _ distinct_simulationProposal
    (by decide +kernel)
  exact (answers_iff rfl declared small _).mpr
    (harmless_of_mission samplePydantic_lawful read short)

/-- A number of more digits than `int()` converts raises the plain `ValueError` out of `do_POST`,
    and nothing is sent. -/
theorem not_answers_longBody :
    (longBody.length : Int) ≤ maxRequestBytes ∧
      intOfText ((proposalHead "4301").get "Content-Length" "0") = some (longBody.length : Int) ∧
      (∃ text, doPost sampleJson samplePydantic (mavsdkSimulationMission ℚ).missionId
          (proposalHead "4301") ⟨longBody ++ [], false, []⟩ =
        (.error ⟨.valueError, text⟩, ⟨[], false, []⟩)) ∧
      ¬ Answers sampleJson samplePydantic (mavsdkSimulationMission ℚ).missionId
        (proposalHead "4301") longBody ⟨[], false, []⟩ := by
  have small : (longBody.length : Int) ≤ maxRequestBytes := by
    rw [length_longBody]
    decide
  have declared : intOfText ((proposalHead "4301").get "Content-Length" "0") =
      some (longBody.length : Int) := by
    rw [length_longBody]
    decide +kernel
  exact ⟨small, declared, ⟨_, (doPost_read rfl declared small ⟨[], false, []⟩).trans
    (answerBody_longBody _)⟩, not_answers_of_raised rfl declared small (answerBody_longBody _)⟩

end Sample

end Nightjar
