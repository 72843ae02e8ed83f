import Nightjar.Approval.Proofs.Verify
import Nightjar.Audit.Record
import Nightjar.Python.Rational
import Nightjar.Security.Reference

/-!
# A sample approval

An approval of the repository's simulation mission (`missions/mavsdk_simulation_mission.json`) for
the home of its tests, over any floats.
-/

namespace Nightjar

open Python

section Sample

variable (N : Type) [Field N] [LinearOrder N] [IsStrictOrderedRing N]

/-- `missions/mavsdk_simulation_mission.json`. -/
def mavsdkSimulationMission : Mission N where
  missionId :=
    ⟨[0xa, 0x1, 0xb, 0x2, 0xc, 0x3, 0xd, 0x4, 0xe, 0x5, 0xf, 0x6, 0x7, 0x8, 0x9, 0x0,
      0xa, 0xb, 0xc, 0xd, 0xe, 0xf, 0x1, 0x2, 0x3, 0x4, 0x5, 0x6, 0x7, 0x8, 0x9, 0x0], rfl⟩
  description := "Take off to five meters, hold for ten seconds, and land. " ++
    "Restricted MAVSDK simulation example."
  actions := [.takeoff 5, .hold 10, .land]
  description_length := by decide
  actions_length := by simp
  positive := by simp [MissionAction.Positive]
  safe_termination := ⟨.land, rfl, Or.inr rfl⟩

/-- The snapshot that the approval is issued for. -/
def sampleSnapshot : HomeSnapshot N where
  latitudeDeg := 473977419 / 10 ^ 7
  longitudeDeg := 85455938 / 10 ^ 7
  absoluteAltitudeM := 488
  capturedAt := "2026-01-01T00:00:00+00:00"
  source := sourceTelemetry
  captured_nonempty := by decide

/-- Its nonce. -/
def sampleNonce : String := "0123456789abcdef0123456789abcdef"

variable [FloorRing N] [PyText N] [crypto : Crypto]

/-- The fields of an approval of the sample, issued at 1000 for 300 seconds. -/
def samplePayloadFields : PayloadFields where
  missionSha256 := missionSha256 (mavsdkSimulationMission N)
  policySha256 := policySha256 (PolicyLimits.default N)
  homeSha256 := homeSha256 (sampleSnapshot N)
  frameId := frameId
  homeLatitudeE7 := (sampleSnapshot N).latitudeE7
  homeLongitudeE7 := (sampleSnapshot N).longitudeE7
  homeAltitudeMm := (sampleSnapshot N).altitudeMm
  executor := mavsdkExecutorName
  issuedAtUnix := 1000
  expiresAtUnix := 1300
  nonce := sampleNonce

/-- An approval of the sample. -/
def samplePayload : ApprovalPayload where
  toPayloadFields := samplePayloadFields N
  valid :=
    { mission_hex := isHex64_sha256Hex _
      policy_hex := isHex64_sha256Hex _
      home_hex := isHex64_sha256Hex _
      frame_length := (by decide : 1 ≤ frameId.length ∧ frameId.length ≤ 64)
      executor_length :=
        (by decide : 1 ≤ mavsdkExecutorName.length ∧ mavsdkExecutorName.length ≤ 64)
      issued_nonneg := (by decide : (0 : Int) ≤ 1000)
      expires_pos := (by decide : (0 : Int) < 1300)
      nonce_length := (by decide : 32 ≤ sampleNonce.length ∧ sampleNonce.length ≤ 128)
      window := (by decide : (1000 : Int) < 1300) }

/-- The verifier accepts it within its window, under a key that verifies what it signed. -/
theorem verifyApproval_sample {privateKey : crypto.PrivateKey} {now : Int}
    (correct : Crypto.verify (crypto.publicKey privateKey)
      (Crypto.sign privateKey (approvalSigningBytes (samplePayload N))).val
      (approvalSigningBytes (samplePayload N)) = true)
    (early : 970 ≤ now) (late : now < 1300) :
    verifyApproval (signApproval privateKey (samplePayload N)) (crypto.publicKey privateKey)
      (mavsdkSimulationMission N) (.default N) mavsdkExecutorName now maxClockSkewSeconds
      maxLifetimeSeconds = .ok (samplePayload N) := by
  have issued : (1000 : Int) ≤ now + 30 := by omega
  exact verifyApproval_eq_ok_iff.mpr ⟨rfl, ⟨_, decode_signApproval _ _, correct⟩, issued, late,
    (by decide : (1300 : Int) - 1000 ≤ 300), rfl, rfl, rfl⟩

end Sample

section Rational

/-- What is hashed for the sample has canonical bytes. -/
theorem hashable_sample :
    Hashable (mavsdkSimulationMission ℚ) (.default ℚ) (sampleSnapshot ℚ) where
  mission := by decide +kernel
  limits := by decide +kernel
  scales := ⟨rfl, rfl, rfl⟩
  home := by decide +kernel

/-- The sample is what the issuing tool builds. -/
theorem buildApprovalPayload_sample [Crypto] :
    buildApprovalPayload (mavsdkSimulationMission ℚ) (.default ℚ) mavsdkExecutorName
      (sampleSnapshot ℚ) 300 (some 1000) (some sampleNonce) 0 "" = .ok (samplePayload ℚ) := by
  rw [buildApprovalPayload_of_hashable hashable_sample (by decide) rfl]
  exact validate_of_valid (samplePayload ℚ).valid

end Rational

end Nightjar
