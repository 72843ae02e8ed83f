import Nightjar.Cli.Proofs.Actions
import Nightjar.Cli.Validate
import Nightjar.JsonReader
import Nightjar.Planner
import Nightjar.Policy.Proofs.Messages
import Nightjar.Service.Proofs.Normalized

/-!
# Untrusted input

A mission file and the output of a planner come from outside. The two loaders make the same two
calls and catch different exceptions around them: `nightjar validate` lets through what is raised
for bytes that are not UTF-8, and both let through what `json.loads` raises for an integer of too
many digits or for a nesting that is too deep.
-/

namespace Nightjar

open Python Interact Exec Cli Planner

section Documented

variable {N : Type}

/-- What is documented of `json.loads`: what it raises, for a text that is not JSON, for an integer
    of too many digits and for a nesting that is too deep; and that a line break is white space
    between tokens and not allowed within them. -/
structure Reader.Documented (reader : Reader N) : Prop where
  raises : ∀ {text e}, reader.loads text = .error e →
    e.cls = .jsonDecodeError ∨ e.cls = .valueError ∨ e.cls = .other "RecursionError"
  newlines : ∀ text value,
    reader.loads (String.ofList (universalNewlines text.toList)) = .ok value ↔
      reader.loads text = .ok value

/-- Among what `json.loads` raises, the `JSONDecodeError` is what the loading of a mission
    catches. -/
theorem Reader.Documented.isMissionLoadError_iff {reader : Reader N} {text : String} {e : PyExc}
    (documented : reader.Documented) (refused : reader.loads text = .error e) :
    isMissionLoadError e.cls = true ↔ e.cls = .jsonDecodeError := by
  rcases documented.raises refused with cls | cls | cls <;> rw [cls] <;> decide

/-- Among what `json.loads` raises there is no `PlannerError`. -/
theorem Reader.Documented.ne_plannerError {reader : Reader N} {text : String} {e : PyExc}
    (documented : reader.Documented) (refused : reader.loads text = .error e) :
    e.cls ≠ plannerError := by
  rcases documented.raises refused with cls | cls | cls <;> rw [cls] <;> decide

end Documented

section Exit

variable {N : Type} [Field N] [LinearOrder N] [PyMath N] [PyText N] {env : Env N}

omit [Field N] [LinearOrder N] [PyMath N] [PyText N] in
theorem ends_printLines (prints : ∀ trace line, env.stdout trace line = none)
    (lines : List String) : Prog.Ends (printLines env lines) (· = .ok ()) := by
  induction lines with
  | nil => exact Prog.ends_pure rfl
  | cons line lines ih => exact Prog.ends_bind_ok (ends_printStdout prints line) ih

omit [Field N] [LinearOrder N] [PyMath N] [PyText N] in
theorem ends_exitWith (prints : ∀ trace line, env.stdout trace line = none) (line : String)
    (code : Nat) : Prog.Ends (exitWith env line code) (· = .ok code) :=
  Prog.ends_bind_ok (ends_printStdout prints line) (Prog.ends_pure rfl)

theorem ends_mainValidate_refused (prints : ∀ trace line, env.stdout trace line = none) {e : PyExc}
    (caught : isMissionLoadError e.cls = true) :
    Prog.Ends (mainValidate env (.error e)) (· = .ok 2) := by
  rw [mainValidate, if_pos caught]
  exact ends_exitWith prints _ 2

theorem ends_mainValidate_raised {e : PyExc} (uncaught : ¬ isMissionLoadError e.cls = true) :
    Prog.Ends (mainValidate env (.error e)) (· = .error e) := by
  rw [mainValidate, if_neg uncaught]
  exact Prog.ends_raise rfl

theorem ends_mainValidate_decided (prints : ∀ trace line, env.stdout trace line = none)
    {mission : Mission N} {decision : PolicyDecision}
    (evaluated : PolicyEngine.evaluate (.default N) mission = .ok decision) :
    Prog.Ends (mainValidate env (.ok mission))
      (· = .ok (if decision.approved then 0 else 1)) := by
  have printed : Prog.Ends (printDecision env mission (.default N))
      (· = .ok decision.approved) :=
    Prog.ends_bind_ok (Prog.ends_lift evaluated)
      (Prog.ends_bind_ok (ends_printLines prints _) (Prog.ends_pure rfl))
  refine Prog.ends_bind_ok printed ?_
  cases decision.approved with
  | false => exact Prog.ends_pure rfl
  | true => exact Prog.ends_pure rfl

theorem ends_mainValidate_undecided {mission : Mission N} {e : PyExc}
    (raised : PolicyEngine.evaluate (.default N) mission = .error e) :
    Prog.Ends (mainValidate env (.ok mission)) (· = .error e) :=
  Prog.ends_bind_error (Prog.ends_bind_error (Prog.ends_lift raised) rfl) rfl

end Exit

section Files

variable {N : Type} [Zero N] [LT N] [DecidableRel (α := N) (· < ·)]
  (reader : Reader N) (P : Pydantic N) (fresh : UUID)

namespace MissionFile

/-- The bytes of the file are UTF-8, their text is JSON, and that is a valid mission. -/
def Holds (file : MissionFile) (mission : Mission N) : Prop :=
  ∃ data text payload, file = .bytes data ∧ decodeUtf8 data = some text ∧
    reader.loads (String.ofList (universalNewlines text.toList)) = .ok payload ∧
    Mission.modelValidate P fresh payload = .ok mission

/-- A file of bytes is UTF-8, `json.loads` raises nothing but a `JSONDecodeError` on its text, and
    the total hold time of its mission can be written. -/
structure Harmless (file : MissionFile) : Prop where
  utf8 : ∀ data, file = .bytes data → ∃ text, decodeUtf8 data = some text
  json : ∀ data text e, file = .bytes data → decodeUtf8 data = some text →
    reader.loads (String.ofList (universalNewlines text.toList)) = .error e →
    e.cls = .jsonDecodeError
  short : ∀ mission, file.Holds reader P fresh mission → IsShort mission.totalHoldSeconds

end MissionFile

variable {reader P fresh} {errorText : List FieldError → String} {file : MissionFile}

theorem Mission.validated_eq_ok_iff {payload : Loaded N} {mission : Mission N} :
    Mission.validated P errorText fresh payload = .ok mission ↔
      Mission.modelValidate P fresh payload = .ok mission := by
  rw [Mission.validated]
  cases Mission.modelValidate P fresh payload with
  | error errors => exact ⟨nofun, nofun⟩
  | ok found => simp

theorem MissionFile.holds_iff (errorText : List FieldError → String) {mission : Mission N} :
    file.Holds reader P fresh mission ↔
      file.loadMission reader P errorText fresh = .ok mission := by
  constructor
  · rintro ⟨data, text, payload, rfl, decoded, read, valid⟩
    simp only [loadMission, readText, decoded, bind, Except.bind, read]
    exact Mission.validated_eq_ok_iff.mpr valid
  · intro loaded
    cases file with
    | unreadable exc os => cases loaded
    | bytes data =>
      cases decoded : decodeUtf8 data with
      | none => simp [loadMission, readText, decoded, bind, Except.bind] at loaded
      | some text =>
        simp only [loadMission, readText, decoded, bind, Except.bind] at loaded
        cases read : reader.loads (String.ofList (universalNewlines text.toList)) with
        | error e =>
          rw [read] at loaded
          cases loaded
        | ok payload =>
          rw [read] at loaded
          exact ⟨data, text, payload, rfl, decoded, read, Mission.validated_eq_ok_iff.mp loaded⟩

/-- Among the files that are not loaded, the harmless ones are those whose exception is caught. -/
theorem MissionFile.harmless_iff_of_error (documented : reader.Documented) {e : PyExc}
    (refused : file.loadMission reader P errorText fresh = .error e) :
    file.Harmless reader P fresh ↔ isMissionLoadError e.cls = true := by
  have empty : ∀ mission, ¬ file.Holds reader P fresh mission := by
    intro mission holds
    rw [MissionFile.holds_iff errorText, refused] at holds
    cases holds
  have short : ∀ mission, file.Holds reader P fresh mission → IsShort mission.totalHoldSeconds :=
    fun mission holds => absurd holds (empty mission)
  cases file with
  | unreadable exc os =>
    cases refused
    have caught : isMissionLoadError e.cls = true := by simp [isMissionLoadError, os]
    exact iff_of_true ⟨nofun, nofun, short⟩ caught
  | bytes data =>
    cases decoded : decodeUtf8 data with
    | none =>
      have cls : e.cls = .unicodeDecodeError := by
        simp only [loadMission, readText, decoded, bind, Except.bind] at refused
        cases refused
        rfl
      refine iff_of_false (fun harmless => ?_) (by rw [cls]; decide)
      obtain ⟨text, found⟩ := harmless.utf8 data rfl
      rw [decoded] at found
      cases found
    | some text =>
      have utf8 : ∀ data', MissionFile.bytes data = .bytes data' →
          ∃ text, decodeUtf8 data' = some text := by
        rintro _ ⟨⟩
        exact ⟨text, decoded⟩
      simp only [loadMission, readText, decoded, bind, Except.bind] at refused
      cases read : reader.loads (String.ofList (universalNewlines text.toList)) with
      | error exc =>
        rw [read] at refused
        cases refused
        rw [documented.isMissionLoadError_iff read]
        refine ⟨fun harmless => harmless.json data text _ rfl decoded read, fun cls =>
          ⟨utf8, ?_, short⟩⟩
        rintro _ text' e' ⟨⟩ decoded' read'
        rw [decoded] at decoded'
        cases decoded'
        rw [read] at read'
        cases read'
        exact cls
      | ok payload =>
        rw [read] at refused
        have cls : e.cls = .validationError := by
          simp only [Mission.validated] at refused
          cases validated : Mission.modelValidate P fresh payload with
          | ok mission =>
            rw [validated] at refused
            cases refused
          | error errors =>
            rw [validated] at refused
            cases refused
            rfl
        refine iff_of_true ⟨utf8, ?_, short⟩ (by rw [cls]; decide)
        rintro _ text' e' ⟨⟩ decoded' read'
        rw [decoded] at decoded'
        cases decoded'
        rw [read] at read'
        cases read'

/-- Among the files that are loaded, the harmless ones are those of a short total hold time. -/
theorem MissionFile.harmless_iff_of_ok {mission : Mission N}
    (loaded : file.loadMission reader P errorText fresh = .ok mission) :
    file.Harmless reader P fresh ↔ IsShort mission.totalHoldSeconds := by
  have holds := (MissionFile.holds_iff errorText).mpr loaded
  obtain ⟨data, text, payload, rfl, decoded, read, valid⟩ := holds
  constructor
  · exact fun harmless => harmless.short mission ((MissionFile.holds_iff errorText).mpr loaded)
  · refine fun short => ⟨?_, ?_, ?_⟩
    · rintro _ ⟨⟩
      exact ⟨text, decoded⟩
    · rintro _ text' e ⟨⟩ decoded' read'
      rw [decoded] at decoded'
      cases decoded'
      rw [read] at read'
      cases read'
    · intro other holds
      rw [MissionFile.holds_iff errorText, loaded] at holds
      cases holds
      exact short

/-- Which mission id a payload without one gets does not matter to its validity. -/
theorem Mission.exists_modelValidate {payload : Loaded N} {mission : Mission N}
    (valid : Mission.modelValidate P fresh payload = .ok mission) (fresh' : UUID) :
    ∃ mission', Mission.modelValidate P fresh' payload = .ok mission' := by
  cases payload with
  | obj fields =>
    cases given : fields.lookup "mission_id" with
    | some value =>
      have same : missionIdOf P fresh' fields = missionIdOf P fresh fields := by
        rw [missionIdOf, missionIdOf, given]
      refine ⟨mission, ?_⟩
      rw [← valid]
      simp only [modelValidate, fieldsOf, same]
    | none =>
      have id : ∀ fresh, missionIdOf P fresh fields = .ok fresh := by
        intro fresh
        rw [missionIdOf, given]
      simp only [modelValidate, fieldsOf, id] at valid ⊢
      generalize Validated.both (Schema.field P "description" _ fields) _ = others at valid ⊢
      cases others with
      | error errors => cases valid
      | ok others =>
        simp only [Validated.both_ok] at valid ⊢
        split at valid
        · next safe =>
          rw [dif_pos safe]
          exact ⟨_, rfl⟩
        · cases valid
  | _ => cases valid

end Files

section Plan

variable {N : Type} [Zero N] [LT N] [DecidableRel (α := N) (· < ·)]
  (reader : Reader N) (P : Pydantic N) (errorText : List FieldError → String)

/-- `parse_planner_output` raises nothing but `PlannerError`, and returns a mission exactly when the
    command line loads the same text. -/
structure DeclaredPlan (fresh fresh' : UUID) (rawOutput : String) : Prop where
  raises : ∀ e, parsePlannerOutput reader P errorText fresh rawOutput = .error e →
    e.cls = plannerError
  returns : (∃ mission, parsePlannerOutput reader P errorText fresh rawOutput = .ok mission) ↔
    ∃ mission, (MissionFile.bytes (encodeUtf8 rawOutput)).loadMission reader P errorText fresh' =
      .ok mission

variable {reader P errorText} {fresh fresh' : UUID} {rawOutput : String}

theorem parsePlannerOutput_eq_ok_iff {mission : Mission N} :
    parsePlannerOutput reader P errorText fresh rawOutput = .ok mission ↔
      ∃ payload, reader.loads rawOutput = .ok payload ∧
        Mission.modelValidate P fresh payload = .ok mission := by
  rw [parsePlannerOutput]
  cases read : reader.loads rawOutput with
  | error e => by_cases json : e.cls = .jsonDecodeError <;> simp [json]
  | ok payload =>
    cases valid : Mission.modelValidate P fresh payload with
    | error errors => simp [Mission.validated, valid, ExcClass.isException]
    | ok found => simp [Mission.validated, valid]

/-- The command line loads the missions that the planner's output is parsed to. -/
theorem parsePlannerOutput_loads (documented : reader.Documented) :
    (∃ mission, parsePlannerOutput reader P errorText fresh rawOutput = .ok mission) ↔
      ∃ mission, (MissionFile.bytes (encodeUtf8 rawOutput)).loadMission reader P errorText fresh' =
        .ok mission := by
  simp only [parsePlannerOutput_eq_ok_iff, ← MissionFile.holds_iff errorText]
  constructor
  · rintro ⟨mission, payload, read, valid⟩
    obtain ⟨mission', valid'⟩ := Mission.exists_modelValidate valid fresh'
    exact ⟨mission', _, rawOutput, payload, rfl, decodeUtf8_encodeUtf8 rawOutput,
      (documented.newlines rawOutput payload).mpr read, valid'⟩
  · rintro ⟨mission, data, text, payload, ⟨⟩, decoded, read, valid⟩
    rw [decodeUtf8_encodeUtf8] at decoded
    cases decoded
    obtain ⟨mission', valid'⟩ := Mission.exists_modelValidate valid fresh
    exact ⟨mission', payload, (documented.newlines rawOutput payload).mp read, valid'⟩

/-- The planner's output fails in the declared way just when `json.loads` raises nothing but a
    `JSONDecodeError` on it. -/
theorem declaredPlan_iff (documented : reader.Documented) :
    DeclaredPlan reader P errorText fresh fresh' rawOutput ↔
      ∀ e, reader.loads rawOutput = .error e → e.cls = .jsonDecodeError := by
  constructor
  · intro declared e refused
    by_contra other
    have raised : parsePlannerOutput reader P errorText fresh rawOutput = .error e := by
      rw [parsePlannerOutput, refused]
      exact if_neg other
    exact documented.ne_plannerError refused (declared.raises e raised)
  · refine fun json => ⟨fun e raised => ?_, parsePlannerOutput_loads documented⟩
    rw [parsePlannerOutput] at raised
    cases read : reader.loads rawOutput with
    | error exc =>
      rw [read] at raised
      simp only [json exc read, if_true] at raised
      cases raised
      rfl
    | ok payload =>
      rw [read] at raised
      simp only [Mission.validated] at raised
      cases valid : Mission.modelValidate P fresh payload with
      | ok mission =>
        rw [valid] at raised
        cases raised
      | error errors =>
        rw [valid] at raised
        cases raised
        rfl

end Plan

section Declared

variable {N : Type} [Field N] [LinearOrder N] [PyMath N] [PyText N]
  (reader : Reader N) (P : Pydantic N) (errorText : List FieldError → String)

/-- `nightjar validate` lets no exception escape: it returns 2 exactly when the file holds no
    mission, and otherwise 0 or 1 by the decision about it. -/
def DeclaredExit (fresh : UUID) (env : Env N) (file : MissionFile) : Prop :=
  Prog.Ends (validate reader P errorText fresh env file) fun outcome =>
    ∃ code, outcome = .ok code ∧ (code = 2 ↔ ¬ ∃ mission, file.Holds reader P fresh mission) ∧
      ∀ mission, file.Holds reader P fresh mission →
        ∃ decision, PolicyEngine.evaluate (.default N) mission = .ok decision ∧
          code = if decision.approved then 0 else 1

variable {reader P errorText} {fresh fresh' : UUID} {env : Env N} {file : MissionFile}

/-- An exception that escapes is not declared. -/
theorem not_declaredExit_of_raised {e : PyExc}
    (raised : Prog.Ends (validate reader P errorText fresh env file) (· = .error e)) :
    ¬ DeclaredExit reader P errorText fresh env file := by
  intro declared
  obtain ⟨code, returned, -⟩ := declared (.init N .empty)
  rw [raised (.init N .empty)] at returned
  cases returned

/-- A mission file fails in the declared way just when it is harmless. -/
theorem declaredExit_iff [IsStrictOrderedRing N] (documented : reader.Documented)
    (prints : ∀ trace line, env.stdout trace line = none) :
    DeclaredExit reader P errorText fresh env file ↔ file.Harmless reader P fresh := by
  cases loaded : file.loadMission reader P errorText fresh with
  | error e =>
    rw [MissionFile.harmless_iff_of_error documented loaded]
    have empty : ¬ ∃ mission, file.Holds reader P fresh mission := by
      rintro ⟨mission, holds⟩
      rw [MissionFile.holds_iff errorText, loaded] at holds
      cases holds
    by_cases caught : isMissionLoadError e.cls = true
    · have ends := ends_mainValidate_refused (N := N) prints caught
      rw [← loaded] at ends
      refine iff_of_true (Prog.ends_conseq ends ?_) caught
      rintro _ rfl
      exact ⟨2, rfl, iff_of_true rfl empty, fun mission holds => absurd ⟨mission, holds⟩ empty⟩
    · have ends : Prog.Ends (mainValidate env (.error e)) (· = .error e) :=
        ends_mainValidate_raised caught
      rw [← loaded] at ends
      exact iff_of_false (not_declaredExit_of_raised ends) caught
  | ok mission =>
    rw [MissionFile.harmless_iff_of_ok loaded]
    have held : ∀ other, file.Holds reader P fresh other ↔ other = mission := by
      intro other
      rw [MissionFile.holds_iff errorText, loaded, Except.ok.injEq, eq_comm]
    rcases PolicyEngine.evaluate_default mission with ⟨short, decision, evaluated⟩ | ⟨long, raised⟩
    · have ends := ends_mainValidate_decided prints evaluated
      rw [← loaded] at ends
      refine iff_of_true (Prog.ends_conseq ends ?_) short
      rintro _ rfl
      refine ⟨_, rfl, iff_of_false ?_ fun empty => empty ⟨mission, (held mission).mpr rfl⟩, ?_⟩
      · split_ifs <;> decide
      · intro other holds
        rw [(held other).mp holds]
        exact ⟨decision, evaluated, rfl⟩
    · have ends : Prog.Ends (mainValidate env (.ok mission)) (· = .error .intDigits) :=
        ends_mainValidate_undecided raised
      rw [← loaded] at ends
      exact iff_of_false (not_declaredExit_of_raised ends) long

/-- **Untrusted input fails in the declared way** just when it is harmless: the mission files of
    `nightjar validate` (`cli.py:119-138`), and the output of a planner (`planner.py:12-27`). -/
theorem declared_iff [IsStrictOrderedRing N] (documented : reader.Documented)
    (prints : ∀ trace line, env.stdout trace line = none) (file : MissionFile)
    (rawOutput : String) :
    (DeclaredExit reader P errorText fresh env file ↔ file.Harmless reader P fresh) ∧
      (DeclaredPlan reader P errorText fresh fresh' rawOutput ↔
        ∀ e, reader.loads rawOutput = .error e → e.cls = .jsonDecodeError) :=
  ⟨declaredExit_iff documented prints, declaredPlan_iff documented⟩

end Declared

section Machine

variable {N : Type} {floats : Loads.Floats (Reading N)}
  {describe : Loads.Failure → String → String} {decodeError : List UInt8 → String}

/-- The machine of `json.loads` does what is documented of it. -/
theorem jsonReader_documented : (jsonReader floats describe decodeError).Documented where
  raises {text e} refused := by
    simp only [jsonReader] at refused
    cases read : Loads.loads floats text.toList with
    | ok value =>
      rw [read] at refused
      cases refused
    | error failure =>
      rw [read] at refused
      cases failure with
      | syntax_ =>
        cases refused
        exact Or.inl rfl
      | intDigits =>
        cases refused
        exact Or.inr (Or.inl rfl)
  newlines text value := by
    simp only [jsonReader, String.toList_ofList, Loads.loads_universalNewlines]
    cases Loads.loads floats text.toList with
    | ok found => rfl
    | error failure =>
      cases failure with
      | syntax_ => simp
      | intDigits => simp

variable [Zero N] [LT N] [DecidableRel (α := N) (· < ·)] {reader : Reader N} {P : Pydantic N}
  {errorText : List FieldError → String} {fresh : UUID}

/-- A file with the dump of a mission is loaded as the mission. -/
theorem loadMission_dump (documented : reader.Documented) (lawful : P.Lawful) {text : String}
    {mission : Mission N} (read : reader.loads text = .ok (loaded mission.dump)) :
    (MissionFile.bytes (encodeUtf8 text)).loadMission reader P errorText fresh = .ok mission :=
  (MissionFile.holds_iff errorText).mp ⟨_, text, _, rfl, decodeUtf8_encodeUtf8 text,
    (documented.newlines text _).mpr read, Mission.modelValidate_dump lawful fresh mission⟩

end Machine

section Texts

variable {N : Type} {floats : Loads.Floats (Reading N)}
  {describe : Loads.Failure → String → String} {decodeError : List UInt8 → String}

/-- A number that is too long ends `parse_planner_output` with the plain `ValueError`. -/
theorem parsePlannerOutput_longNumber [Zero N] [LT N] [DecidableRel (α := N) (· < ·)]
    {P : Pydantic N} {errorText : List FieldError → String} {fresh : UUID} :
    parsePlannerOutput (jsonReader floats describe decodeError) P errorText fresh
      (String.ofList longNumber) =
        .error ⟨.valueError, describe .intDigits (String.ofList longNumber)⟩ := by
  rw [parsePlannerOutput, jsonReader_longNumber]
  exact if_neg ExcClass.noConfusion

theorem distinct_dump [Zero N] [LT N] (mission : Mission N) : mission.dump.Distinct := by
  have actions : ∀ actions : List (MissionAction N),
      Json.DistinctItems (actions.map MissionAction.dump) := by
    intro actions
    induction actions with
    | nil => trivial
    | cons action actions ih =>
      refine ⟨?_, ih⟩
      cases action <;> simp [MissionAction.dump, Json.Distinct, Json.DistinctFields]
  simp [Mission.dump, Json.Distinct, Json.DistinctFields, actions]

variable [PyText N] [Field N] [LinearOrder N]

/-- `json.dumps(mission.model_dump(mode="json"))`. -/
def Mission.text (mission : Mission N) : String := String.ofList (mission.dump.render Json.ascii)

theorem loads_text [LawfulFloatText N] (roundTrips : floats.RoundTrips .finite)
    {mission : Mission N} (short : mission.dump.shortInts = true) :
    (jsonReader floats describe decodeError).loads mission.text = .ok (loaded mission.dump) := by
  rw [Mission.text]
  exact jsonReader_render roundTrips (distinct_dump mission) short

/-- The text of a mission of a short total hold time is harmless to both loaders. -/
theorem harmless_text [LawfulFloatText N] {P : Pydantic N} {fresh : UUID} (lawful : P.Lawful)
    (roundTrips : floats.RoundTrips .finite) {mission : Mission N}
    (shortInts : mission.dump.shortInts = true) (short : IsShort mission.totalHoldSeconds) :
    (MissionFile.bytes (encodeUtf8 mission.text)).Harmless (jsonReader floats describe decodeError)
        P fresh ∧
      ∀ e, (jsonReader floats describe decodeError).loads mission.text = .error e →
        e.cls = .jsonDecodeError := by
  have documented : (jsonReader floats describe decodeError).Documented := jsonReader_documented
  have read : (jsonReader floats describe decodeError).loads mission.text =
      .ok (loaded mission.dump) := loads_text roundTrips shortInts
  have loaded : (MissionFile.bytes (encodeUtf8 mission.text)).loadMission
      (jsonReader floats describe decodeError) P (fun _ => "") fresh = .ok mission :=
    loadMission_dump documented lawful read
  refine ⟨(MissionFile.harmless_iff_of_ok loaded).mpr short, ?_⟩
  intro e refused
  rw [read] at refused
  cases refused

end Texts

section Sample

/-- The texts of validation errors in the samples. -/
def sampleErrorText (_ : List FieldError) : String := "1 validation error for Mission"

/-- `uuid4()` in the samples. -/
def sampleFresh : UUID := (mavsdkSimulationMission ℚ).missionId

theorem shortInts_simulation : (mavsdkSimulationMission ℚ).dump.shortInts = true := by
  decide +kernel

/-- The simulation mission, as a file and as the output of a planner, is handled as declared. -/
theorem declared_simulation :
    DeclaredExit sampleJson samplePydantic sampleErrorText sampleFresh
        (.calm (sampleTelemetry ℚ []) 1000)
        (.bytes (encodeUtf8 (mavsdkSimulationMission ℚ).text)) ∧
      DeclaredPlan sampleJson samplePydantic sampleErrorText sampleFresh sampleFresh
        (mavsdkSimulationMission ℚ).text := by
  have total : (mavsdkSimulationMission ℚ).totalHoldSeconds = 10 := by decide +kernel
  have short : IsShort (mavsdkSimulationMission ℚ).totalHoldSeconds := by
    rw [total]
    exact isShort_of_lt (by decide)
  obtain ⟨exit, plan⟩ := @declared_iff ℚ _ _ _ _ sampleJson samplePydantic sampleErrorText
    sampleFresh sampleFresh (.calm (sampleTelemetry ℚ []) 1000) _ jsonReader_documented
    (fun _ _ => rfl) (.bytes (encodeUtf8 (mavsdkSimulationMission ℚ).text))
    (mavsdkSimulationMission ℚ).text
  have harmless := @harmless_text ℚ sampleFloats sampleDescribe (fun _ => "invalid start byte") _ _
    _ _ samplePydantic sampleFresh samplePydantic_lawful sampleFloats_roundTrips _
    shortInts_simulation short
  delta sampleJson at exit plan ⊢
  exact ⟨exit.mpr harmless.1, plan.mpr harmless.2⟩

/-- A file with the one byte `0xff` ends `nightjar validate` with a `UnicodeDecodeError`, and a
    number of too many digits ends `parse_planner_output` with the plain `ValueError`. -/
theorem not_declared_undecodable :
    (∃ text, Prog.Ends (validate sampleJson samplePydantic sampleErrorText sampleFresh
        (.calm (sampleTelemetry ℚ []) 1000) (.bytes [0xff]))
          (· = .error ⟨.unicodeDecodeError, text⟩)) ∧
      ¬ DeclaredExit sampleJson samplePydantic sampleErrorText sampleFresh
        (.calm (sampleTelemetry ℚ []) 1000) (.bytes [0xff]) ∧
      (∃ text, parsePlannerOutput sampleJson samplePydantic sampleErrorText sampleFresh
        (String.ofList longNumber) = .error ⟨.valueError, text⟩) ∧
      ¬ DeclaredPlan sampleJson samplePydantic sampleErrorText sampleFresh sampleFresh
        (String.ofList longNumber) := by
  have undecodable : decodeUtf8 [0xff] = none := by decide +kernel
  have refused : (MissionFile.bytes [0xff]).loadMission sampleJson samplePydantic sampleErrorText
      sampleFresh = .error ⟨.unicodeDecodeError, "invalid start byte"⟩ := by
    simp only [MissionFile.loadMission, MissionFile.readText, undecodable]
    rfl
  have raised : Prog.Ends (mainValidate (.calm (sampleTelemetry ℚ []) 1000)
      (.error ⟨.unicodeDecodeError, "invalid start byte"⟩))
        (· = .error ⟨.unicodeDecodeError, "invalid start byte"⟩) :=
    ends_mainValidate_raised (by decide)
  rw [← refused] at raised
  refine ⟨⟨_, raised⟩, not_declaredExit_of_raised raised, ⟨_, parsePlannerOutput_longNumber⟩,
    fun declared => ?_⟩
  have cls := declared.raises _ parsePlannerOutput_longNumber
  cases cls

end Sample

end Nightjar
