import Nightjar.Policy

/-!
# Hashing and signing

Canonical bytes and the hashes over them (`security.py`). SHA-256 and Ed25519 are the parameters
`Crypto`; only the sizes of digests and signatures are fixed, since fields of the approval check
them.

`json.dumps` raises on an `int` of more than 4300 digits. The functions with a question mark do so
too, and return what the functions without it compute. The latter stand where every integer was read
from JSON text, which has met the limit already.
-/

namespace Nightjar

open Python

/-- The cryptography the program imports: `hashlib.sha256` and Ed25519. -/
class Crypto where
  /-- The hexadecimal digits of a digest. -/
  sha256 : List UInt8 → { digits : List (Fin 16) // digits.length = 64 }
  PrivateKey : Type
  PublicKey : Type
  publicKey : PrivateKey → PublicKey
  sign : PrivateKey → List UInt8 → { signature : List UInt8 // signature.length = 64 }
  /-- `verify key signature data` is `false` where `Ed25519PublicKey.verify` raises. -/
  verify : PublicKey → List UInt8 → List UInt8 → Bool

section Canonical

variable {N : Type} [PyText N]

/-- `canonical_json_bytes` (`security.py:12-22`). -/
def canonicalJsonBytes (value : Json N) : List UInt8 :=
  (String.ofList (value.sortKeys.render Json.compact)).toByteArray.data.toList

/-- `sha256_hex` (`security.py:25-28`). -/
def sha256Hex [Crypto] (value : Json N) : String :=
  String.ofList ((Crypto.sha256 (canonicalJsonBytes value)).val.map hexDigit)

/-- `mission_sha256` (`security.py:31-34`). -/
def missionSha256 [Crypto] [Zero N] [LT N] (mission : Mission N) : String :=
  sha256Hex mission.dump

/-- `asdict(limits)`. -/
def PolicyLimits.asdict (limits : PolicyLimits N) : Json N :=
  .obj [("max_altitude_m", .ofPyNum limits.maxAltitudeM),
    ("max_distance_from_home_m", .ofPyNum limits.maxDistanceFromHomeM),
    ("max_hold_seconds", .ofPyNum limits.maxHoldSeconds),
    ("max_mission_actions", .ofPyNum limits.maxMissionActions),
    ("max_total_hold_seconds", .ofPyNum limits.maxTotalHoldSeconds),
    ("max_total_horizontal_distance_m", .ofPyNum limits.maxTotalHorizontalDistanceM),
    ("max_goto_actions", .ofPyNum limits.maxGotoActions),
    ("home_horizontal_tolerance_m", .ofPyNum limits.homeHorizontalToleranceM),
    ("home_vertical_tolerance_m", .ofPyNum limits.homeVerticalToleranceM)]

/-- `policy_sha256` (`security.py:37-40`). -/
def policySha256 [Crypto] (limits : PolicyLimits N) : String := sha256Hex limits.asdict

/-- `canonical_json_bytes`, which raises on a long `int`. It is irreducible so that unification does
    not count the digits. -/
@[irreducible] def canonicalJsonBytes? (value : Json N) : Except PyExc (List UInt8) :=
  if value.shortInts then .ok (canonicalJsonBytes value) else .error .intDigits

/-- `sha256_hex` of a value that may be refused. -/
def sha256Hex? [Crypto] (value : Json N) : Except PyExc String := do
  let data ← canonicalJsonBytes? value
  .ok (String.ofList ((Crypto.sha256 data).val.map hexDigit))

/-- `mission_sha256` of a mission that may be refused. -/
def missionSha256? [Crypto] [Zero N] [LT N] (mission : Mission N) : Except PyExc String :=
  sha256Hex? mission.dump

/-- `policy_sha256` of limits that may be refused. -/
def policySha256? [Crypto] (limits : PolicyLimits N) : Except PyExc String :=
  sha256Hex? limits.asdict

/-- What is hashed is written; what is refused has a long `int`. -/
theorem sha256Hex?_eq [Crypto] (value : Json N) :
    sha256Hex? value = if value.shortInts then .ok (sha256Hex value) else .error .intDigits := by
  unfold sha256Hex? canonicalJsonBytes?
  by_cases short : value.shortInts = true
  · rw [if_pos short, if_pos short]
    rfl
  · rw [if_neg short, if_neg short]
    rfl

theorem sha256Hex?_eq_ok [Crypto] {value : Json N} {hash : String}
    (returned : sha256Hex? value = .ok hash) :
    value.shortInts = true ∧ hash = sha256Hex value := by
  rw [sha256Hex?_eq] at returned
  by_cases short : value.shortInts = true
  · rw [if_pos short] at returned
    exact ⟨short, (Except.ok.inj returned).symm⟩
  · rw [if_neg short] at returned
    cases returned

theorem sha256Hex?_eq_error [Crypto] {value : Json N} {e : PyExc}
    (raised : sha256Hex? value = .error e) : e = .intDigits := by
  rw [sha256Hex?_eq] at raised
  by_cases short : value.shortInts = true
  · rw [if_pos short] at raised
    cases raised
  · rw [if_neg short] at raised
    exact (Except.error.inj raised).symm

end Canonical

/-- The pattern `^[0-9a-f]{64}$`. -/
def IsHex64 (s : String) : Prop :=
  s.toList.length = 64 ∧ ∀ c ∈ s.toList, ∃ d : Fin 16, c = hexDigit d

instance (s : String) : Decidable (IsHex64 s) := inferInstanceAs (Decidable (_ ∧ _))

end Nightjar
