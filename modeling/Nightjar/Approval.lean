import Nightjar.Home
import Nightjar.Python.Base64

/-!
# Approvals

Signed approvals (`approval.py`): the payload and its validation, the builder, signing, and
verification. `SignedApproval.modelValidate` is the reader behind `load_signed_approval`
(`cli.py:26-28`); pydantic's reading of an `int` is its parameter.
-/

namespace Nightjar

open Python

/-- The fields of `ApprovalPayload` (`approval.py:28-40`). -/
structure PayloadFields where
  missionSha256 : String
  policySha256 : String
  homeSha256 : String
  frameId : String
  homeLatitudeE7 : Int
  homeLongitudeE7 : Int
  homeAltitudeMm : Int
  executor : String
  issuedAtUnix : Int
  expiresAtUnix : Int
  nonce : String
  deriving DecidableEq

/-- The field constraints and `validate_time_window` (`approval.py:28-46`). -/
structure PayloadFields.Valid (p : PayloadFields) : Prop where
  mission_hex : IsHex64 p.missionSha256
  policy_hex : IsHex64 p.policySha256
  home_hex : IsHex64 p.homeSha256
  frame_length : 1 ≤ p.frameId.length ∧ p.frameId.length ≤ 64
  executor_length : 1 ≤ p.executor.length ∧ p.executor.length ≤ 64
  issued_nonneg : 0 ≤ p.issuedAtUnix
  expires_pos : 0 < p.expiresAtUnix
  nonce_length : 32 ≤ p.nonce.length ∧ p.nonce.length ≤ 128
  window : p.issuedAtUnix < p.expiresAtUnix

theorem PayloadFields.valid_iff (p : PayloadFields) :
    p.Valid ↔ IsHex64 p.missionSha256 ∧ IsHex64 p.policySha256 ∧ IsHex64 p.homeSha256 ∧
      (1 ≤ p.frameId.length ∧ p.frameId.length ≤ 64) ∧
      (1 ≤ p.executor.length ∧ p.executor.length ≤ 64) ∧ 0 ≤ p.issuedAtUnix ∧
      0 < p.expiresAtUnix ∧ (32 ≤ p.nonce.length ∧ p.nonce.length ≤ 128) ∧
      p.issuedAtUnix < p.expiresAtUnix :=
  ⟨fun ⟨h1, h2, h3, h4, h5, h6, h7, h8, h9⟩ => ⟨h1, h2, h3, h4, h5, h6, h7, h8, h9⟩,
    fun ⟨h1, h2, h3, h4, h5, h6, h7, h8, h9⟩ => ⟨h1, h2, h3, h4, h5, h6, h7, h8, h9⟩⟩

instance (p : PayloadFields) : Decidable p.Valid := decidable_of_iff' _ p.valid_iff

/-- `ApprovalPayload` (`approval.py:25-46`). -/
structure ApprovalPayload extends PayloadFields where
  valid : toPayloadFields.Valid

namespace ApprovalPayload

/-- A payload is its fields. -/
theorem eq_of_fields {p q : ApprovalPayload} (same : p.toPayloadFields = q.toPayloadFields) :
    p = q := by
  cases p
  cases q
  cases same
  rfl

/-- `ApprovalPayload(...)`. -/
def validate (fields : PayloadFields) : Except PyExc ApprovalPayload :=
  if valid : fields.Valid then .ok ⟨fields, valid⟩ else .error (.validation "ApprovalPayload")

/-- `payload.model_dump(mode="json")`. -/
def dump {N : Type} (p : ApprovalPayload) : Json N :=
  .obj [("mission_sha256", .str p.missionSha256), ("policy_sha256", .str p.policySha256),
    ("home_sha256", .str p.homeSha256), ("frame_id", .str p.frameId),
    ("home_latitude_e7", .int p.homeLatitudeE7), ("home_longitude_e7", .int p.homeLongitudeE7),
    ("home_altitude_mm", .int p.homeAltitudeMm), ("executor", .str p.executor),
    ("issued_at_unix", .int p.issuedAtUnix), ("expires_at_unix", .int p.expiresAtUnix),
    ("nonce", .str p.nonce)]

end ApprovalPayload

/-- `SignedApproval` (`approval.py:49-51`). -/
structure SignedApproval where
  payload : ApprovalPayload
  signatureB64 : String
  signature_length : 1 ≤ signatureB64.length ∧ signatureB64.length ≤ 256

/-- `envelope.model_dump(mode="json")`. -/
def SignedApproval.dump {N : Type} (envelope : SignedApproval) : Json N :=
  .obj [("payload", envelope.payload.dump), ("signature_b64", .str envelope.signatureB64)]

section Build

variable {N : Type} [Field N] [LinearOrder N] [FloorRing N] [PyMath N] [PyText N] [Crypto]

/-- `build_approval_payload` (`approval.py:54-83`). `clock` is `int(time.time())` and `token` is
    `secrets.token_urlsafe(32)`, each at the call. -/
def buildApprovalPayload (mission : Mission N) (limits : PolicyLimits N) (executor : String)
    (home : HomeSnapshot N) (ttlSeconds : Int) (nowUnix : Option Int) (nonce : Option String)
    (clock : Int) (token : String) : Except PyExc ApprovalPayload :=
  if ttlSeconds ≤ 0 then .error ⟨.valueError, "Approval TTL must be positive."⟩
  else if home.source ≠ "telemetry" then
    .error ⟨.valueError, "Home snapshot must come from telemetry."⟩
  else do
    let issuedAt := nowUnix.getD clock
    let missionHash ← missionSha256? mission
    let policyHash ← policySha256? limits
    let homeHash ← homeSha256? home
    ApprovalPayload.validate
      { missionSha256 := missionHash
        policySha256 := policyHash
        homeSha256 := homeHash
        frameId := frameId
        homeLatitudeE7 := home.latitudeE7
        homeLongitudeE7 := home.longitudeE7
        homeAltitudeMm := home.altitudeMm
        executor := executor
        issuedAtUnix := issuedAt
        expiresAtUnix := issuedAt + ttlSeconds
        nonce := match nonce with
          | none => token
          | some given => if given = "" then token else given }

end Build

/-- A payload holds no float. -/
instance : PyText Empty where
  repr := Empty.elim
  fixed1 := Empty.elim
  general := Empty.elim

instance : LawfulFloatText Empty where
  repr_injective := fun x => x.elim
  repr_chars := fun x => x.elim
  repr_float := fun x => x.elim

/-- `approval_signing_bytes` (`approval.py:86-87`), where the integers are written. -/
def approvalSigningBytes (payload : ApprovalPayload) : List UInt8 :=
  canonicalJsonBytes (payload.dump : Json Empty)

/-- The length of an encoded signature. -/
theorem length_signature [Crypto] (signature : { bytes : List UInt8 // bytes.length = 64 }) :
    (String.ofList (Base64.encode signature.val)).length = 88 := by
  rw [String.length_ofList, Base64.length_encode, signature.property]

/-- The envelope that `sign_approval` returns (`approval.py:90-99`). -/
def signApproval [Crypto] (privateKey : Crypto.PrivateKey) (payload : ApprovalPayload) :
    SignedApproval :=
  let signature := Crypto.sign privateKey (approvalSigningBytes payload)
  { payload := payload
    signatureB64 := String.ofList (Base64.encode signature.val)
    signature_length := by rw [length_signature]; decide }

/-- `sign_approval` (`approval.py:90-99`), which raises on a long `int`. -/
def signApproval? [Crypto] (privateKey : Crypto.PrivateKey) (payload : ApprovalPayload) :
    Except PyExc SignedApproval := do
  let _ ← canonicalJsonBytes? (payload.dump : Json Empty)
  .ok (signApproval privateKey payload)

/-- The default of `max_clock_skew_seconds`. -/
def maxClockSkewSeconds : Int := 30

/-- The default of `max_lifetime_seconds`. -/
def maxLifetimeSeconds : Int := 300

/-- `verify_approval` (`approval.py:102-157`). `currentTime` is `now_unix`, or the clock when it
    is `None`. Every integer that is hashed was read from JSON text, or written when the envelope
    was signed. -/
def verifyApproval {N : Type} [Zero N] [LT N] [PyText N] [Crypto] (envelope : SignedApproval)
    (publicKey : Crypto.PublicKey) (mission : Mission N) (limits : PolicyLimits N)
    (expectedExecutor : String) (currentTime clockSkewSeconds lifetimeSeconds : Int) :
    Except PyExc ApprovalPayload :=
  match Base64.decode envelope.signatureB64.toList with
  | none => .error (.approval "Approval signature is not valid base64.")
  | some signature =>
    let payload := envelope.payload
    if Crypto.verify publicKey signature (approvalSigningBytes payload) = false then
      .error (.approval "Approval signature is invalid.")
    else if payload.issuedAtUnix > currentTime + clockSkewSeconds then
      .error (.approval "Approval was issued too far in the future.")
    else if currentTime ≥ payload.expiresAtUnix then .error (.approval "Approval has expired.")
    else if payload.expiresAtUnix - payload.issuedAtUnix > lifetimeSeconds then
      .error (.approval "Approval lifetime exceeds the permitted maximum.")
    else if payload.missionSha256 ≠ missionSha256 mission then
      .error (.approval "Approval does not match this mission.")
    else if payload.policySha256 ≠ policySha256 limits then
      .error (.approval "Approval does not match this policy.")
    else if payload.executor ≠ expectedExecutor then
      .error (.approval "Approval does not authorize this executor.")
    else .ok payload

section Load

variable {N : Type}

/-- pydantic's reading of a `str`. -/
def strOfJson : Json N → Option String
  | .str s => some s
  | _ => none

/-- No key outside the schema (`extra="forbid"`). -/
def onlyKeys (names : List String) (fields : List (String × Json N)) : Bool :=
  fields.all fun entry => names.contains entry.1

/-- The fields of a payload, read from an object. -/
def payloadFieldsOfJson (intOfJson : Json N → Option Int) (fields : List (String × Json N)) :
    Option PayloadFields := do
  let text := fun key => (fields.lookup key).bind strOfJson
  let number := fun key => (fields.lookup key).bind intOfJson
  let missionSha256 ← text "mission_sha256"
  let policySha256 ← text "policy_sha256"
  let homeSha256 ← text "home_sha256"
  let frameId ← text "frame_id"
  let homeLatitudeE7 ← number "home_latitude_e7"
  let homeLongitudeE7 ← number "home_longitude_e7"
  let homeAltitudeMm ← number "home_altitude_mm"
  let executor ← text "executor"
  let issuedAtUnix ← number "issued_at_unix"
  let expiresAtUnix ← number "expires_at_unix"
  let nonce ← text "nonce"
  some
    { missionSha256, policySha256, homeSha256, frameId, homeLatitudeE7, homeLongitudeE7,
      homeAltitudeMm, executor, issuedAtUnix, expiresAtUnix, nonce }

/-- `ApprovalPayload.model_validate`. -/
def ApprovalPayload.modelValidate (intOfJson : Json N → Option Int) :
    Json N → Except PyExc ApprovalPayload
  | .obj fields =>
      if onlyKeys ["mission_sha256", "policy_sha256", "home_sha256", "frame_id",
          "home_latitude_e7", "home_longitude_e7", "home_altitude_mm", "executor",
          "issued_at_unix", "expires_at_unix", "nonce"] fields then
        match payloadFieldsOfJson intOfJson fields with
        | some payload => ApprovalPayload.validate payload
        | none => .error (.validation "ApprovalPayload")
      else .error (.validation "ApprovalPayload")
  | _ => .error (.validation "ApprovalPayload")

/-- `SignedApproval.model_validate`. -/
def SignedApproval.modelValidate (intOfJson : Json N → Option Int) :
    Json N → Except PyExc SignedApproval
  | .obj fields =>
      match onlyKeys ["payload", "signature_b64"] fields, fields.lookup "payload",
        (fields.lookup "signature_b64").bind strOfJson with
      | true, some inner, some signatureB64 =>
        match ApprovalPayload.modelValidate intOfJson inner with
        | .error _ => .error (.validation "SignedApproval")
        | .ok payload =>
          if length : 1 ≤ signatureB64.length ∧ signatureB64.length ≤ 256 then
            .ok { payload, signatureB64, signature_length := length }
          else .error (.validation "SignedApproval")
      | _, _, _ => .error (.validation "SignedApproval")
  | _ => .error (.validation "SignedApproval")

end Load

end Nightjar
