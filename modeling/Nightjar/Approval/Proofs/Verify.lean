import Nightjar.Approval
import Nightjar.Home.Proofs.Snapshot

/-!
# What `build_approval_payload` and `verify_approval` guarantee

The conditions under which a payload is built and under which an envelope is accepted, and the
payload being determined by its signing bytes.
-/

namespace Nightjar

open Python Json

section Verify

variable {N : Type} [Zero N] [LT N] [PyText N] [crypto : Crypto] {envelope : SignedApproval}
  {publicKey : crypto.PublicKey} {mission : Mission N} {limits : PolicyLimits N}
  {executor : String} {now clockSkew lifetime : Int} {payload : ApprovalPayload} {e : PyExc}

/-- `verify_approval` accepts exactly under its eight conditions, and returns the payload. -/
theorem verifyApproval_eq_ok_iff :
    verifyApproval envelope publicKey mission limits executor now clockSkew lifetime =
        .ok payload ↔
      payload = envelope.payload ∧
      (∃ signature, Base64.decode envelope.signatureB64.toList = some signature ∧
        Crypto.verify publicKey signature (approvalSigningBytes envelope.payload) = true) ∧
      envelope.payload.issuedAtUnix ≤ now + clockSkew ∧ now < envelope.payload.expiresAtUnix ∧
      envelope.payload.expiresAtUnix - envelope.payload.issuedAtUnix ≤ lifetime ∧
      envelope.payload.missionSha256 = missionSha256 mission ∧
      envelope.payload.policySha256 = policySha256 limits ∧
      envelope.payload.executor = executor := by
  unfold verifyApproval
  cases decoded : Base64.decode envelope.signatureB64.toList with
  | none => simp
  | some signature =>
    simp only [Option.some.injEq, exists_eq_left']
    split_ifs <;> simp_all <;> first | omega | exact eq_comm

/-- Every refusal is an `ApprovalError`. -/
theorem verifyApproval_error
    (raised : verifyApproval envelope publicKey mission limits executor now clockSkew lifetime =
      .error e) : e.cls = .approvalError := by
  unfold verifyApproval at raised
  split at raised
  · cases raised; rfl
  · simp only at raised
    split_ifs at raised <;> cases raised <;> rfl

end Verify

/-- The encoded signature decodes to the signature. -/
theorem decode_signApproval [crypto : Crypto] (privateKey : crypto.PrivateKey)
    (payload : ApprovalPayload) :
    Base64.decode (signApproval privateKey payload).signatureB64.toList =
      some (Crypto.sign privateKey (approvalSigningBytes payload)).val := by
  simp only [signApproval, String.toList_ofList, Base64.decode_encode]

section SigningBytes

/-- The signing bytes determine the payload. -/
theorem approvalSigningBytes_injective {p q : ApprovalPayload}
    (same : approvalSigningBytes p = approvalSigningBytes q) : p = q := by
  have sorted := sortKeys_eq_of_canonicalJsonBytes same
  simp [ApprovalPayload.dump, sortKeys, sortFields, List.insertionSort, List.orderedInsert]
    at sorted
  apply ApprovalPayload.eq_of_fields
  obtain ⟨⟨_, _, _, _, _, _, _, _, _, _, _⟩, _⟩ := p
  obtain ⟨⟨_, _, _, _, _, _, _, _, _, _, _⟩, _⟩ := q
  simp_all

end SigningBytes

section Build

/-- A validated payload has the fields it was built from. -/
theorem validate_eq_ok {fields : PayloadFields} {payload : ApprovalPayload}
    (validated : ApprovalPayload.validate fields = .ok payload) :
    payload.toPayloadFields = fields := by
  unfold ApprovalPayload.validate at validated
  split at validated
  · cases validated; rfl
  · cases validated

theorem validate_of_valid {fields : PayloadFields} (valid : fields.Valid) :
    ApprovalPayload.validate fields = .ok ⟨fields, valid⟩ := dif_pos valid

variable {N : Type} [Field N] [LinearOrder N] [FloorRing N] [PyMath N] [PyText N] [Crypto]
  {mission : Mission N} {limits : PolicyLimits N} {executor : String} {home : HomeSnapshot N}
  {ttl clock : Int} {nowUnix : Option Int} {nonce : Option String} {token : String}
  {payload : ApprovalPayload}

/-- What `build_approval_payload` puts into the payload it returns. -/
theorem buildApprovalPayload_eq_ok
    (built : buildApprovalPayload mission limits executor home ttl nowUnix nonce clock token =
      .ok payload) :
    0 < ttl ∧ home.source = sourceTelemetry ∧
      payload.missionSha256 = missionSha256 mission ∧
      payload.policySha256 = policySha256 limits ∧ payload.homeSha256 = homeSha256 home ∧
      payload.frameId = frameId ∧ payload.homeLatitudeE7 = home.latitudeE7 ∧
      payload.homeLongitudeE7 = home.longitudeE7 ∧ payload.homeAltitudeMm = home.altitudeMm ∧
      payload.executor = executor ∧ payload.issuedAtUnix = nowUnix.getD clock ∧
      payload.expiresAtUnix = nowUnix.getD clock + ttl := by
  unfold buildApprovalPayload at built
  split at built
  · cases built
  · rename_i positive
    split at built
    · cases built
    · rename_i telemetry
      obtain ⟨missionHash, hashed, built⟩ := bind_eq_ok built
      obtain ⟨policyHash, hashed', built⟩ := bind_eq_ok built
      obtain ⟨homeHash, hashed'', built⟩ := bind_eq_ok built
      have fields := validate_eq_ok built
      refine ⟨by omega, not_not.mp telemetry, ?_, ?_, ?_, congrArg PayloadFields.frameId fields,
        congrArg PayloadFields.homeLatitudeE7 fields, congrArg PayloadFields.homeLongitudeE7 fields,
        congrArg PayloadFields.homeAltitudeMm fields, congrArg PayloadFields.executor fields,
        congrArg PayloadFields.issuedAtUnix fields, congrArg PayloadFields.expiresAtUnix fields⟩
      · exact (congrArg PayloadFields.missionSha256 fields).trans (sha256Hex?_eq_ok hashed).2
      · exact (congrArg PayloadFields.policySha256 fields).trans (sha256Hex?_eq_ok hashed').2
      · exact (congrArg PayloadFields.homeSha256 fields).trans (homeSha256?_eq_ok hashed'').2.2

/-- What `build_approval_payload` hashes has canonical bytes. -/
structure Hashable (mission : Mission N) (limits : PolicyLimits N) (home : HomeSnapshot N) :
    Prop where
  mission : mission.dump.shortInts = true
  limits : limits.asdict.shortInts = true
  scales : home.Scales
  home : home.canonical.shortInts = true

/-- What can be hashed goes into the payload, which is then validated. -/
theorem buildApprovalPayload_of_hashable (hashable : Hashable mission limits home)
    (positive : 0 < ttl) (telemetry : home.source = sourceTelemetry) :
    buildApprovalPayload mission limits executor home ttl nowUnix nonce clock token =
      ApprovalPayload.validate
        { missionSha256 := missionSha256 mission, policySha256 := policySha256 limits
          homeSha256 := homeSha256 home, frameId := frameId, homeLatitudeE7 := home.latitudeE7
          homeLongitudeE7 := home.longitudeE7, homeAltitudeMm := home.altitudeMm
          executor := executor, issuedAtUnix := nowUnix.getD clock
          expiresAtUnix := nowUnix.getD clock + ttl
          nonce := match nonce with
            | none => token
            | some given => if given = "" then token else given } := by
  unfold buildApprovalPayload
  rw [if_neg (by omega), if_neg (show ¬ home.source ≠ "telemetry" from not_not.mpr telemetry)]
  simp only [missionSha256?, policySha256?, sha256Hex?_eq, if_pos hashable.mission,
    if_pos hashable.limits, homeSha256?_of_scales hashable.scales, if_pos hashable.home, bind,
    Except.bind]
  rfl

/-- `build_approval_payload` succeeds on what can be hashed, telemetry homes, positive lifetimes and
    fields of admitted lengths. -/
theorem buildApprovalPayload_returns {issued : Int} {given : String}
    (hashable : Hashable mission limits home) (positive : 0 < ttl)
    (telemetry : home.source = sourceTelemetry)
    (executor_length : 1 ≤ executor.length ∧ executor.length ≤ 64) (nonneg : 0 ≤ issued)
    (nonce_length : 32 ≤ given.length ∧ given.length ≤ 128) (clock : Int) (token : String) :
    ∃ payload, buildApprovalPayload mission limits executor home ttl (some issued) (some given)
      clock token = .ok payload ∧ payload.nonce = given := by
  have nonempty : given ≠ "" := by
    rintro rfl
    exact absurd nonce_length.1 (by decide)
  let fields : PayloadFields :=
    { missionSha256 := missionSha256 mission, policySha256 := policySha256 limits
      homeSha256 := homeSha256 home, frameId := frameId, homeLatitudeE7 := home.latitudeE7
      homeLongitudeE7 := home.longitudeE7, homeAltitudeMm := home.altitudeMm
      executor := executor, issuedAtUnix := issued, expiresAtUnix := issued + ttl
      nonce := given }
  have valid : fields.Valid :=
    { mission_hex := isHex64_sha256Hex mission.dump
      policy_hex := isHex64_sha256Hex limits.asdict
      home_hex := isHex64_sha256Hex home.canonical
      frame_length := by show 1 ≤ frameId.length ∧ frameId.length ≤ 64; decide
      executor_length := executor_length
      issued_nonneg := nonneg
      expires_pos := by show 0 < issued + ttl; omega
      nonce_length := nonce_length
      window := by show issued < issued + ttl; omega }
  refine ⟨⟨fields, valid⟩, ?_, rfl⟩
  rw [buildApprovalPayload_of_hashable hashable positive telemetry]
  simp only [Option.getD_some, if_neg nonempty]
  exact validate_of_valid valid

/-- A long `int` is refused. -/
theorem buildApprovalPayload_of_long (scales : home.Scales)
    (long : ¬ Hashable mission limits home) (positive : 0 < ttl)
    (telemetry : home.source = sourceTelemetry) :
    buildApprovalPayload mission limits executor home ttl nowUnix nonce clock token =
      .error .intDigits := by
  unfold buildApprovalPayload
  rw [if_neg (by omega), if_neg (show ¬ home.source ≠ "telemetry" from not_not.mpr telemetry)]
  simp only [missionSha256?, policySha256?, sha256Hex?_eq, homeSha256?_of_scales scales, bind,
    Except.bind]
  by_cases first : mission.dump.shortInts = true
  · by_cases second : limits.asdict.shortInts = true
    · by_cases third : home.canonical.shortInts = true
      · exact absurd ⟨first, second, scales, third⟩ long
      · simp only [if_pos first, if_pos second, if_neg third]
    · simp only [if_pos first, if_neg second]
  · simp only [if_neg first]

end Build

end Nightjar
