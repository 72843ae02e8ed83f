import Nightjar.Approval.Sample
import Nightjar.Cli
import Nightjar.Policy.Proofs.Messages

/-!
# The issuer and the verifier agree

An envelope that was built, signed and written is read back unchanged, is accepted exactly
within its window, and gives the executor the home it was issued for, up to the rounding of the
canonical integers.
-/

namespace Nightjar

open Python Json

section Load

theorem plain_dump {N : Type} (envelope : SignedApproval) : Plain (envelope.dump : Json N) := by
  have fields : Plain (envelope.payload.dump : Json N) := by
    refine .obj _ (by simp) ?_
    simp only [List.forall_mem_cons]
    exact ⟨.str _, .str _, .str _, .str _, .int _, .int _, .int _, .str _, .int _, .int _, .str _,
      fun _ member => nomatch member⟩
  refine .obj _ (by simp) ?_
  simp only [List.forall_mem_cons]
  exact ⟨fields, .str _, fun _ member => nomatch member⟩

variable {N : Type} {intOfJson : Json N → Option Int}

/-- Reading the dump of a payload gives the payload. -/
theorem modelValidate_payload (ints : ∀ i, intOfJson (.int i) = some i)
    (payload : ApprovalPayload) :
    ApprovalPayload.modelValidate intOfJson (payload.dump : Json N) = .ok payload := by
  have fields : payloadFieldsOfJson intOfJson
      [("mission_sha256", .str payload.missionSha256),
        ("policy_sha256", .str payload.policySha256), ("home_sha256", .str payload.homeSha256),
        ("frame_id", .str payload.frameId), ("home_latitude_e7", .int payload.homeLatitudeE7),
        ("home_longitude_e7", .int payload.homeLongitudeE7),
        ("home_altitude_mm", .int payload.homeAltitudeMm), ("executor", .str payload.executor),
        ("issued_at_unix", .int payload.issuedAtUnix),
        ("expires_at_unix", .int payload.expiresAtUnix), ("nonce", .str payload.nonce)] =
      some payload.toPayloadFields := by
    simp [payloadFieldsOfJson, List.lookup_cons, strOfJson, ints]
  simp only [ApprovalPayload.dump, ApprovalPayload.modelValidate, fields]
  rw [if_pos (by simp [onlyKeys]), validate_of_valid payload.valid]

/-- Reading the dump of an envelope gives the envelope. -/
theorem modelValidate_envelope (ints : ∀ i, intOfJson (.int i) = some i)
    (envelope : SignedApproval) :
    SignedApproval.modelValidate intOfJson (envelope.dump : Json N) = .ok envelope := by
  have only : onlyKeys ["payload", "signature_b64"]
      [("payload", (envelope.payload.dump : Json N)),
        ("signature_b64", .str envelope.signatureB64)] = true := by simp [onlyKeys]
  simp only [SignedApproval.dump, SignedApproval.modelValidate, only]
  simp [List.lookup_cons, strOfJson, modelValidate_payload ints, envelope.signature_length]

end Load

section Writable

/-- The integers of a payload. -/
theorem shortInts_payload {N : Type} (payload : ApprovalPayload) :
    (payload.dump : Json N).shortInts = true ↔
      IsShort payload.homeLatitudeE7 ∧ IsShort payload.homeLongitudeE7 ∧
        IsShort payload.homeAltitudeMm ∧ IsShort payload.issuedAtUnix ∧
          IsShort payload.expiresAtUnix := by
  simp [ApprovalPayload.dump, shortInts, shortIntsFields, intStr?_isSome_iff]

variable {N : Type} [Field N] [LinearOrder N] [FloorRing N]

/-- The integers of a home. -/
theorem shortInts_canonical (home : HomeSnapshot N) :
    home.canonical.shortInts = true ↔
      IsShort home.altitudeMm ∧ IsShort home.latitudeE7 ∧ IsShort home.longitudeE7 := by
  simp [HomeSnapshot.canonical, shortInts, shortIntsFields, intStr?_isSome_iff]

/-- Every integer of the mission, the limits and the payload has a text of at most 4300 digits. -/
structure Writable (mission : Mission N) (limits : PolicyLimits N) (home : HomeSnapshot N)
    (issued ttl : Int) : Prop where
  mission : mission.dump.shortInts = true
  limits : limits.asdict.shortInts = true
  home : home.canonical.shortInts = true
  start : IsShort issued
  expiry : IsShort (issued + ttl)

end Writable

section Bound

variable {N : Type} [Field N] [LinearOrder N] [IsStrictOrderedRing N] [FloorRing N] [PyMath N]
  [PyText N] [Crypto]

/-- The executor rebuilds the home from an envelope whose integers and hash are those of a
    telemetry home. -/
theorem boundHome_returns (exact : ∀ x : N, PyMath.overflows x = false) (approval : SignedApproval)
    {home : HomeSnapshot N} (telemetry : home.source = sourceTelemetry)
    (frame : approval.payload.frameId = frameId)
    (latitude : approval.payload.homeLatitudeE7 = home.latitudeE7)
    (longitude : approval.payload.homeLongitudeE7 = home.longitudeE7)
    (altitude : approval.payload.homeAltitudeMm = home.altitudeMm)
    (hash : approval.payload.homeSha256 = homeSha256 home)
    (short : home.canonical.shortInts = true) :
    ∃ snapshot : HomeSnapshot N, boundHome approval = .ok snapshot ∧
      snapshot.canonical = home.canonical ∧
      snapshot.latitudeDeg = (home.latitudeE7 : N) / latLonScale ∧
      snapshot.longitudeDeg = (home.longitudeE7 : N) / latLonScale ∧
      snapshot.absoluteAltitudeM = (home.altitudeMm : N) / altitudeScale := by
  let snapshot : HomeSnapshot N :=
    ⟨home.latitudeE7 / latLonScale, home.longitudeE7 / latLonScale,
      home.altitudeMm / altitudeScale, "bound", sourceTelemetry, by decide⟩
  have canonical : snapshot.canonical = home.canonical := by
    rw [canonical_rebuilt, HomeSnapshot.canonical, telemetry]
  refine ⟨snapshot, ?_, canonical, rfl, rfl, rfl⟩
  have captured : snapshotFromTelemetry (N := N)
      (.finite ((home.latitudeE7 : N) / latLonScale))
      (.finite ((home.longitudeE7 : N) / latLonScale))
      (.finite ((home.altitudeMm : N) / altitudeScale))
      (some "bound") ⟨"bound", by decide⟩ = .ok snapshot := rfl
  have rehash : homeSha256? snapshot = .ok approval.payload.homeSha256 := by
    have scales : snapshot.Scales := ⟨exact _, exact _, exact _⟩
    rw [homeSha256?_of_scales scales, canonical, if_pos short, hash, homeSha256, homeSha256,
      canonical]
  unfold boundHome
  simp only [frame, latitude, longitude, altitude, ne_eq, not_true_eq_false, if_false,
    trueDiv?_eq_some (exact _), captured, bind, Except.bind, rehash]

end Bound

section Agreement

variable {N : Type} [Field N] [LinearOrder N] [IsStrictOrderedRing N] [FloorRing N] [PyMath N]
  [PyText N] [crypto : Crypto]

/-- What the issuer and the verifier agree on, for the envelope that was issued. `dumps` is
    `model_dump_json`. -/
structure Agrees (host : Host N) (dumps : Json N → String) (privateKey : crypto.PrivateKey)
    (mission : Mission N) (limits : PolicyLimits N) (executor : String) (home : HomeSnapshot N)
    (ttl issued : Int) (envelope : SignedApproval) : Prop where
  /-- The written envelope is read back unchanged. -/
  loaded :
    Cli.loadSignedApproval { host with approvalText := .ok (dumps envelope.dump) } = .ok envelope
  /-- It is accepted exactly within its window. -/
  accepted : ∀ now : Int,
    (∃ returned, verifyApproval envelope (Crypto.publicKey privateKey) mission limits executor now
        maxClockSkewSeconds maxLifetimeSeconds = .ok returned) ↔
      ttl ≤ 300 ∧ issued - 30 ≤ now ∧ now < issued + ttl
  /-- The executor rebuilds the home. -/
  bound : ∃ snapshot : HomeSnapshot N,
    boundHome envelope = .ok snapshot ∧
      snapshot.canonical = home.canonical ∧
      |snapshot.latitudeDeg - home.latitudeDeg| ≤ 1 / 2 / 10 ^ 7 ∧
      |snapshot.longitudeDeg - home.longitudeDeg| ≤ 1 / 2 / 10 ^ 7 ∧
      |snapshot.absoluteAltitudeM - home.absoluteAltitudeM| ≤ 1 / 2 / 10 ^ 3

/-- `build_approval_payload` with a given time and nonce, and `sign_approval`. -/
def issueApproval? (privateKey : crypto.PrivateKey) (mission : Mission N) (limits : PolicyLimits N)
    (executor : String) (home : HomeSnapshot N) (ttl issued clock : Int) (nonce token : String) :
    Except PyExc SignedApproval := do
  let payload ← buildApprovalPayload mission limits executor home ttl (some issued) (some nonce)
    clock token
  signApproval? privateKey payload

variable {privateKey : crypto.PrivateKey} {mission : Mission N} {limits : PolicyLimits N}
  {executor : String} {home : HomeSnapshot N} {ttl issued clock : Int} {nonce token : String}
  {payload : ApprovalPayload}

omit [IsStrictOrderedRing N] in
/-- A payload that was built from writable integers has writable integers. -/
theorem shortInts_built {F : Type}
    (built : buildApprovalPayload mission limits executor home ttl (some issued) (some nonce)
      clock token = .ok payload) :
    (payload.dump : Json F).shortInts = true ↔
      home.canonical.shortInts = true ∧ IsShort issued ∧ IsShort (issued + ttl) := by
  obtain ⟨-, -, -, -, -, -, latitude, longitude, altitude, -, start, finish⟩ :=
    buildApprovalPayload_eq_ok built
  rw [shortInts_payload, shortInts_canonical, latitude, longitude, altitude, start, finish,
    Option.getD_some]
  constructor
  · rintro ⟨degrees, degrees', metres, first, last⟩
    exact ⟨⟨metres, degrees, degrees'⟩, first, last⟩
  · rintro ⟨⟨metres, degrees, degrees'⟩, first, last⟩
    exact ⟨degrees, degrees', metres, first, last⟩

omit [IsStrictOrderedRing N] in
/-- A payload that was built is signed when its integers are written. -/
theorem issueApproval?_of_built
    (built : buildApprovalPayload mission limits executor home ttl (some issued) (some nonce)
      clock token = .ok payload) :
    issueApproval? privateKey mission limits executor home ttl issued clock nonce token =
      if (payload.dump : Json Empty).shortInts then .ok (signApproval privateKey payload)
      else .error .intDigits := by
  simp only [issueApproval?, built, signApproval?, canonicalJsonBytes?, bind, Except.bind]
  by_cases short : (payload.dump : Json Empty).shortInts = true
  · simp only [if_pos short]
  · simp only [if_neg short]

omit [IsStrictOrderedRing N] in
/-- An approval whose integers are written is issued. -/
theorem issueApproval?_returns (privateKey : crypto.PrivateKey) (scales : home.Scales)
    (writable : Writable mission limits home issued ttl)
    (executor_length : 1 ≤ executor.length ∧ executor.length ≤ 64)
    (telemetry : home.source = sourceTelemetry)
    (nonce_length : 32 ≤ nonce.length ∧ nonce.length ≤ 128)
    (positive : 0 < ttl) (nonneg : 0 ≤ issued) (clock : Int) (token : String) :
    ∃ payload, buildApprovalPayload mission limits executor home ttl (some issued) (some nonce)
        clock token = .ok payload ∧ (payload.dump : Json N).shortInts = true ∧
      issueApproval? privateKey mission limits executor home ttl issued clock nonce token =
        .ok (signApproval privateKey payload) := by
  obtain ⟨payload, built, -⟩ := buildApprovalPayload_returns
    ⟨writable.mission, writable.limits, scales, writable.home⟩ positive telemetry executor_length
    nonneg nonce_length clock token
  have short {F : Type} : (payload.dump : Json F).shortInts = true :=
    (shortInts_built built).mpr ⟨writable.home, writable.start, writable.expiry⟩
  refine ⟨payload, built, short, ?_⟩
  rw [issueApproval?_of_built built, if_pos short]

omit [IsStrictOrderedRing N] in
/-- An approval with an integer that is too long is not issued. -/
theorem issueApproval?_of_long (exact : ∀ x : N, PyMath.overflows x = false)
    (long : ¬ Writable mission limits home issued ttl)
    (executor_length : 1 ≤ executor.length ∧ executor.length ≤ 64)
    (telemetry : home.source = sourceTelemetry)
    (nonce_length : 32 ≤ nonce.length ∧ nonce.length ≤ 128)
    (positive : 0 < ttl) (nonneg : 0 ≤ issued) :
    issueApproval? privateKey mission limits executor home ttl issued clock nonce token =
      .error .intDigits := by
  have scales : home.Scales := ⟨exact _, exact _, exact _⟩
  by_cases hashable : Hashable mission limits home
  · obtain ⟨payload, built, -⟩ := buildApprovalPayload_returns hashable positive telemetry
      executor_length nonneg nonce_length clock token
    have unwritten : ¬ (payload.dump : Json Empty).shortInts = true := by
      rw [shortInts_built built]
      rintro ⟨-, start, finish⟩
      exact long ⟨hashable.mission, hashable.limits, hashable.home, start, finish⟩
    rw [issueApproval?_of_built built, if_neg unwritten]
  · simp only [issueApproval?, buildApprovalPayload_of_long scales hashable positive telemetry,
      bind, Except.bind]

/-- **The issuer and the verifier agree.** What is issued with integers that can be written is read
    back, accepted within its window, and rebuilt into its home. With a longer integer nothing is
    issued. -/
theorem issuer_agrees_with_verifier (host : Host N) (dumps : Json N → String)
    (lossless : ∀ j : Json N, j.Plain → j.shortInts = true → host.loads (dumps j) = .ok j)
    (ints : ∀ i, host.intOfJson (.int i) = some i)
    (correct : ∀ (key : crypto.PrivateKey) (data : List UInt8),
      Crypto.verify (crypto.publicKey key) (Crypto.sign key data).val data = true)
    (exact : ∀ x : N, PyMath.overflows x = false)
    (privateKey : crypto.PrivateKey) (mission : Mission N) (limits : PolicyLimits N)
    (executor : String) (home : HomeSnapshot N) (ttl issued clock : Int) (nonce token : String)
    (executor_length : 1 ≤ executor.length ∧ executor.length ≤ 64)
    (telemetry : home.source = sourceTelemetry)
    (nonce_length : 32 ≤ nonce.length ∧ nonce.length ≤ 128)
    (positive : 0 < ttl) (nonneg : 0 ≤ issued) :
    (Writable mission limits home issued ttl → ∃ envelope,
      issueApproval? privateKey mission limits executor home ttl issued clock nonce token =
        .ok envelope ∧
      Agrees host dumps privateKey mission limits executor home ttl issued envelope) ∧
    (¬ Writable mission limits home issued ttl →
      issueApproval? privateKey mission limits executor home ttl issued clock nonce token =
        .error .intDigits) := by
  refine ⟨fun writable => ?_, fun long => issueApproval?_of_long exact long executor_length
    telemetry nonce_length positive nonneg⟩
  obtain ⟨payload, built, short, issuedIs⟩ := issueApproval?_returns privateKey
    ⟨exact _, exact _, exact _⟩ writable executor_length telemetry nonce_length positive nonneg
    clock token
  obtain ⟨-, -, missionHash, policyHash, homeHash, frame, latitude, longitude, altitude, executorIs,
    issuedAt, expiresAt⟩ := buildApprovalPayload_eq_ok built
  refine ⟨signApproval privateKey payload, issuedIs, ⟨?_, ?_, ?_⟩⟩
  · have written : ((signApproval privateKey payload).dump : Json N).shortInts = true := by
      simp only [SignedApproval.dump, shortInts, shortIntsFields, Bool.and_true]
      exact short
    have read := lossless _ (plain_dump (N := N) (signApproval privateKey payload)) written
    simp only [Cli.loadSignedApproval, bind, Except.bind, read, modelValidate_envelope ints]
  · intro now
    have start : payload.issuedAtUnix = issued := issuedAt
    have finish : payload.expiresAtUnix = issued + ttl := expiresAt
    constructor
    · rintro ⟨returned, accepted⟩
      obtain ⟨-, -, early, late, lifetime, -⟩ := verifyApproval_eq_ok_iff.mp accepted
      simp only [signApproval, start, finish, maxClockSkewSeconds, maxLifetimeSeconds]
        at early late lifetime
      omega
    · rintro ⟨brief, early, late⟩
      refine ⟨payload, verifyApproval_eq_ok_iff.mpr
        ⟨rfl, ⟨_, decode_signApproval _ _, correct _ _⟩, ?_, ?_, ?_, missionHash, policyHash,
          executorIs⟩⟩ <;>
        simp only [signApproval, start, finish, maxClockSkewSeconds, maxLifetimeSeconds] <;> omega
  · obtain ⟨snapshot, rebuilt, canonical, lat, lon, alt⟩ :=
      boundHome_returns exact (signApproval privateKey payload) telemetry frame latitude longitude
        altitude homeHash writable.home
    have degrees : ((latLonScale : Int) : N) = 10 ^ 7 := by norm_num [latLonScale]
    have metres : ((altitudeScale : Int) : N) = 10 ^ 3 := by norm_num [altitudeScale]
    refine ⟨snapshot, rebuilt, canonical, ?_, ?_, ?_⟩
    · rw [lat, ← degrees]
      exact abs_latitudeE7_sub_le home
    · rw [lon, ← degrees]
      exact abs_longitudeE7_sub_le home
    · rw [alt, ← metres]
      exact abs_altitudeMm_sub_le home

end Agreement

section Sample

attribute [local instance] Crypto.keyless

/-- A reader of integers that takes nothing but integers. -/
def intOfInt {N : Type} : Json N → Option Int
  | .int i => some i
  | _ => none

theorem intOfInt_int {N : Type} (i : Int) : intOfInt (.int i : Json N) = some i := rfl

/-- The sample mission and its approval as files, and libraries that read canonical text. -/
noncomputable def sampleHost : Host ℚ where
  missionText := .ok (mavsdkSimulationMission ℚ).dump.dumps
  approvalText := .ok ((signApproval () (samplePayload ℚ)).dump : Json ℚ).dumps
  publicKeyBytes := .ok []
  openStore := .ok ()
  loads text := ((loads? text).map Except.ok).getD (.error ⟨.jsonDecodeError, text⟩)
  missionOfJson _ := .ok (mavsdkSimulationMission ℚ)
  intOfJson := intOfInt
  loadPemPublicKey _ := .ok (some ())
  auditDirectory := "logs"

theorem writable_sample :
    Writable (mavsdkSimulationMission ℚ) (.default ℚ) (sampleSnapshot ℚ) 1000 300 where
  mission := hashable_sample.mission
  limits := hashable_sample.limits
  home := hashable_sample.home
  start := (intStr?_isSome_iff _).mp (by decide +kernel)
  expiry := (intStr?_isSome_iff _).mp (by decide +kernel)

/-- The approval of the sample. -/
theorem issuer_agrees_with_verifier_simulation : ∃ envelope,
    issueApproval? () (mavsdkSimulationMission ℚ) (.default ℚ) mavsdkExecutorName
      (sampleSnapshot ℚ) 300 1000 0 sampleNonce "" = .ok envelope ∧
    Agrees sampleHost Json.dumps () (mavsdkSimulationMission ℚ) (.default ℚ)
      mavsdkExecutorName (sampleSnapshot ℚ) 300 1000 envelope :=
  (issuer_agrees_with_verifier sampleHost Json.dumps
    (fun j _ _ => by simp [sampleHost, loads?_dumps]) (intOfInt_int (N := ℚ))
    (fun _ _ => verify_sign_reference rfl) (fun _ => rfl) () _ _ _ _ 300 1000 0 _ _
    (by decide) rfl (by decide) (by decide) (by decide)).1 writable_sample

/-- An approval of the sample cannot be signed for a time of 4301 digits. -/
theorem not_issued_long : ¬ ∃ envelope,
    issueApproval? () (mavsdkSimulationMission ℚ) (.default ℚ) mavsdkExecutorName
      (sampleSnapshot ℚ) 300 ((10 ^ intMaxStrDigits : ℕ) : ℤ) 0 sampleNonce "" = .ok envelope := by
  have long : ¬ Writable (mavsdkSimulationMission ℚ) (.default ℚ) (sampleSnapshot ℚ)
      ((10 ^ intMaxStrDigits : ℕ) : ℤ) 300 := by
    intro writable
    have start : 10 ^ intMaxStrDigits < 10 ^ intMaxStrDigits := writable.start
    exact lt_irrefl _ start
  rintro ⟨envelope, issued⟩
  rw [issueApproval?_of_long (fun _ => rfl) long (by decide) rfl (by decide) (by decide)
    (Int.natCast_nonneg _)] at issued
  cases issued

end Sample

end Nightjar
