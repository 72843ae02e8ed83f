import Nightjar.Approval.Sample
import Nightjar.Flight.Proofs.Orderly
import Nightjar.Flight.Proofs.Plan

/-!
# A calm environment

An environment in which nothing fails: every command and every write succeeds, and the telemetry
consists of the given items. It is orderly. The sample is the repository's simulation mission
(`missions/mavsdk_simulation_mission.json`), flown from the home of its tests.
-/

namespace Nightjar

open Python

section Calm

variable {N : Type}

/-- The telemetry of a calm vehicle. -/
structure Telemetry (N : Type) where
  home : HomeReading N
  position : Reading N
  inAir : List Flag
  now : Timestamp

/-- A vehicle that does as it is told. -/
def Vehicle.calm (telemetry : Telemetry N) : Vehicle N where
  command _ _ := none
  connectionState _ := ⟨[true], .exhausted⟩
  exposesHealth _ := true
  exposesHome _ := true
  exposesArmed _ := true
  health _ := ⟨[.good], .exhausted⟩
  home _ := ⟨[telemetry.home], .exhausted⟩
  armed _ := ⟨[.exactTrue], .exhausted⟩
  inAir _ := ⟨telemetry.inAir, .exhausted⟩
  position _ := ⟨[telemetry.position], .exhausted⟩
  interrupt _ := none
  utcNow _ := telemetry.now

/-- Its environment. -/
def Env.calm (telemetry : Telemetry N) (clock : Int) : Env N where
  toVehicle := .calm telemetry
  systemFactory _ := none
  audit _ _ := none
  stdout _ _ := none
  stderr _ _ := none
  clock := clock
  sqlite := .none
  stop _ := none

/-- A calm vehicle raises nothing. -/
theorem Vehicle.not_raises_calm (telemetry : Telemetry N) (t : List (Event N)) (e : PyExc) :
    ¬ (Vehicle.calm telemetry).Raises t e := by
  simp [Vehicle.Raises, Vehicle.calm]

theorem Env.not_writersRaise_calm (telemetry : Telemetry N) (clock : Int) (e : PyExc) :
    ¬ (Env.calm telemetry clock).WritersRaise e := by
  simp [Env.WritersRaise, Env.calm]

theorem Vehicle.calm_orderly (telemetry : Telemetry N) : (Vehicle.calm telemetry).Orderly where
  outside t e _ raised := absurd raised (Vehicle.not_raises_calm telemetry t e)
  inside t e _ raised := absurd raised (Vehicle.not_raises_calm telemetry t e)

theorem Env.calm_orderly (telemetry : Telemetry N) (clock : Int) :
    (Env.calm telemetry clock).Orderly where
  vehicle := Vehicle.calm_orderly telemetry
  writers e raised := absurd raised (Env.not_writersRaise_calm telemetry clock e)

end Calm

section Sample

variable (N : Type) [Field N] [LinearOrder N] [IsStrictOrderedRing N]

/-- `FakeHome` (`test_mavsdk_executor.py`). -/
def sampleHome : HomeReading N where
  latitudeDeg := .finite (sampleSnapshot N).latitudeDeg
  longitudeDeg := .finite (sampleSnapshot N).longitudeDeg
  absoluteAltitudeM := .finite (sampleSnapshot N).absoluteAltitudeM

/-- The telemetry of `FakeTelemetry`, with the items of the landing stream. -/
def sampleTelemetry (inAir : List Flag) : Telemetry N where
  home := sampleHome N
  position := .finite 5
  inAir := inAir
  now := ⟨(sampleSnapshot N).capturedAt, (sampleSnapshot N).captured_nonempty⟩

variable [FloorRing N] [PyText N] [Crypto]

variable {N}

/-- The executor of the sample, with its defaults. -/
def sampleExecutor (publicKey : Crypto.PublicKey) : MavsdkExecutor N where
  publicKey := publicKey
  systemAddress := "udpin://127.0.0.1:14540"
  connectionTimeoutSeconds := 20
  takeoffTimeoutSeconds := 30
  takeoffAltitudeToleranceM := 1 / 2
  landingTimeoutSeconds := 30
  logDirectory := "logs"
  limits := .default N

/-- The executor accepts the sample. -/
theorem validateMission_sample [PyMath N] (publicKey : Crypto.PublicKey) :
    (sampleExecutor publicKey).validateMission (mavsdkSimulationMission N) = .ok () := by
  refine validateMission_eq_ok_iff.mpr ⟨(PolicyEngine.approves_iff _ _).mpr ?_, ?_⟩
  · refine (PolicyEngine.evaluateReasons_eq_nil _ _).mpr ⟨?_, ?_, ?_, ?_, ?_, ?_, rfl⟩
    · norm_num [sampleExecutor, mavsdkSimulationMission, PolicyLimits.default, PyNum.val]
    · exact ⟨rfl, trivial, rfl, trivial, Or.inl rfl, rfl, trivial⟩
    · norm_num [sampleExecutor, mavsdkSimulationMission, PolicyLimits.default, PyNum.val,
        PolicySpec.WithinLimits]
    · norm_num [sampleExecutor, mavsdkSimulationMission, PolicyLimits.default, PyNum.val,
        MissionAction.holdSeconds]
    · norm_num [sampleExecutor, mavsdkSimulationMission, PolicyLimits.default, PyNum.val,
        PolicyEngine.travelled]
    · norm_num [sampleExecutor, mavsdkSimulationMission, PolicyLimits.default, PyNum.val,
        MissionAction.isGoto]
  · simp [mavsdkSimulationMission, MissionAction.Supported, MissionAction.type]

end Sample

section Simulation

attribute [local instance] Crypto.keyless

/-- The run of the sample, with the items of the landing stream. -/
def simulationRun (inAir : List Flag) : Except PyExc ExecutionResult × ExecState ℚ :=
  (sampleExecutor ()).execute' (.calm (sampleTelemetry ℚ inAir) 1000) (mavsdkSimulationMission ℚ)
    (signApproval () (samplePayload ℚ)) (.init ℚ .empty)

/-- What it returns when it completes. -/
def simulationResult : Except PyExc ExecutionResult :=
  .ok ⟨true, "logs/a1b2c3d4-e5f6-7890-abcd-ef1234567890.jsonl"⟩

end Simulation

end Nightjar
