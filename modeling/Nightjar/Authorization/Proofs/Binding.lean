import Nightjar.Approval.Sample
import Nightjar.Authorization
import Nightjar.Replay.Proofs.Consume

/-!
# An accepted approval was issued for what it authorizes

The trust assumptions are those of the issuing process: signatures that verify under the trusted
key were made by its holder, the holder signs only payloads built by `build_approval_payload`,
and SHA-256 has no collision among the bytes that are hashed. Then whatever envelope is accepted,
its payload is one that was issued, for the mission and the limits at hand.
-/

namespace Nightjar

open Python Interact Prog

section Consumption

variable {N : Type} [Zero N] [LT N] [PyText N] [crypto : Crypto] {faults : SqliteFaults}
  {envelope : SignedApproval} {publicKey : crypto.PublicKey} {mission : Mission N}
  {limits : PolicyLimits N} {executor : String} {now clockSkew lifetime : Int}
  {table table' : NonceTable} {payload : ApprovalPayload} {e : PyExc}

/-- `verify_and_consume_approval` verifies and inserts one row, or raises and leaves the table. -/
theorem triple_verifyAndConsumeApproval (faults : SqliteFaults) (envelope : SignedApproval)
    (publicKey : crypto.PublicKey) (mission : Mission N) (limits : PolicyLimits N)
    (executor : String) (now clockSkew lifetime : Int) (table : NonceTable) :
    Triple (fun t => t = table)
      (verifyAndConsumeApproval faults envelope publicKey mission limits executor now clockSkew
        lifetime)
      (fun payload t =>
        verifyApproval envelope publicKey mission limits executor now clockSkew lifetime =
          .ok payload ∧ table.insert (payload.row now) = some t)
      (fun e t => t = table ∧ (e.cls = .approvalError ∨ faults.Raises e ∨
        e.cls = .approvalReplayError)) := by
  unfold verifyAndConsumeApproval
  refine triple_bind
    (Q := fun payload t => t = table ∧
      verifyApproval envelope publicKey mission limits executor now clockSkew lifetime =
        .ok payload)
    (triple_lift (fun payload t accepted same => ⟨same, accepted⟩)
      (fun e t refused same => ⟨same, Or.inl (verifyApproval_error refused)⟩)) fun payload => ?_
  refine triple_bind
    (Q := fun _ t => verifyApproval envelope publicKey mission limits executor now clockSkew
      lifetime = .ok payload ∧ table.insert (payload.row now) = some t) ?_ fun _ =>
      triple_pure fun _ both => both
  intro t ⟨same, accepted⟩
  subst same
  have consumed := triple_consume faults (payload.row now) t t rfl
  cases run : consume faults (payload.row now) t with
  | mk r t' =>
    rw [run] at consumed
    cases r with
    | ok _ => exact ⟨accepted, consumed⟩
    | error e => exact ⟨consumed.1, Or.inr consumed.2⟩

theorem verified_of_returned
    (returned : verifyAndConsumeApproval faults envelope publicKey mission limits executor now
      clockSkew lifetime table = (.ok payload, table')) :
    verifyApproval envelope publicKey mission limits executor now clockSkew lifetime =
        .ok payload ∧ table.insert (payload.row now) = some table' :=
  (triple_verifyAndConsumeApproval faults envelope publicKey mission limits executor now
    clockSkew lifetime table).returned rfl returned

/-- Without a fault, what is verified and fresh is consumed. -/
theorem returned_of_verified
    (verified : verifyApproval envelope publicKey mission limits executor now clockSkew lifetime =
      .ok payload) (inserted : table.insert (payload.row now) = some table') :
    verifyAndConsumeApproval .none envelope publicKey mission limits executor now clockSkew lifetime
      table = (.ok payload, table') := by
  simp [verifyAndConsumeApproval, consume, consumeTransaction, SqliteFaults.none, raiseOption, bind,
    pure, handle, Prog.lift, Prog.read, Prog.modify, verified, inserted]

/-- A verified approval whose nonce is in the table is a replay. -/
theorem replayed_of_verified
    (verified : verifyApproval envelope publicKey mission limits executor now clockSkew lifetime =
      .ok payload) (refused : table.insert (payload.row now) = none) :
    verifyAndConsumeApproval .none envelope publicKey mission limits executor now clockSkew lifetime
      table = (.error ⟨.approvalReplayError, "Approval nonce has already been used."⟩, table) := by
  simp [verifyAndConsumeApproval, consume, consumeTransaction, SqliteFaults.none, raiseOption, bind,
    pure, handle, Prog.lift, Prog.read, raise, uniqueViolation, verified, refused]

theorem unchanged_of_raised
    (raised : verifyAndConsumeApproval faults envelope publicKey mission limits executor now
      clockSkew lifetime table = (.error e, table')) : table' = table :=
  ((triple_verifyAndConsumeApproval faults envelope publicKey mission limits executor now
    clockSkew lifetime table).raised rfl raised).1

end Consumption

section Issuing

variable {N : Type} [Field N] [LinearOrder N] [FloorRing N] [PyMath N] [PyText N]
  [crypto : Crypto]

/-- One run of the issuing tool: the arguments and readings of `build_approval_payload`, and the
    payload it returned. -/
structure Issuance (N : Type) [Field N] [LinearOrder N] [FloorRing N] [PyMath N] [PyText N]
    [Crypto] where
  mission : Mission N
  limits : PolicyLimits N
  executor : String
  home : HomeSnapshot N
  ttlSeconds : Int
  nowUnix : Option Int
  nonce : Option String
  clock : Int
  token : String
  payload : ApprovalPayload
  built : buildApprovalPayload mission limits executor home ttlSeconds nowUnix nonce clock
    token = .ok payload

/-- The time of issue. -/
def Issuance.issued (i : Issuance N) : Int := i.nowUnix.getD i.clock

/-- The key holder signs only issued payloads: what verifies under the key is the signing bytes
    of one of them. -/
def SignsOnly (publicKey : crypto.PublicKey) (issuances : Set (Issuance N)) : Prop :=
  ∀ signature data, Crypto.verify publicKey signature data = true →
    ∃ i ∈ issuances, data = approvalSigningBytes i.payload

/-- The bytes hashed for a mission, its limits, and the issuances. -/
def hashedBytes (mission : Mission N) (limits : PolicyLimits N) (issuances : Set (Issuance N)) :
    Set (List UInt8) :=
  {canonicalJsonBytes mission.dump, canonicalJsonBytes limits.asdict} ∪
    (⋃ i ∈ issuances, {canonicalJsonBytes i.mission.dump, canonicalJsonBytes i.limits.asdict})

/-- SHA-256 has no collision among the hashed bytes. -/
def CollisionFree (mission : Mission N) (limits : PolicyLimits N)
    (issuances : Set (Issuance N)) : Prop :=
  Set.InjOn crypto.sha256 (hashedBytes mission limits issuances)

/-- What an accepted envelope says about the issuance behind it. -/
structure IssuedFor (i : Issuance N) (envelope : SignedApproval) (mission : Mission N)
    (limits : PolicyLimits N) (executor : String) (now : Int) (table table' : NonceTable) :
    Prop where
  mission_eq : mission = i.mission
  limits_eq : limits = i.limits
  executor_eq : i.executor = executor
  payload_eq : envelope.payload = i.payload
  frame_eq : envelope.payload.frameId = frameId
  home_integers : envelope.payload.homeLatitudeE7 = i.home.latitudeE7 ∧
    envelope.payload.homeLongitudeE7 = i.home.longitudeE7 ∧
    envelope.payload.homeAltitudeMm = i.home.altitudeMm
  home_hash : envelope.payload.homeSha256 = homeSha256 i.home
  lifetime_le : i.ttlSeconds ≤ 300
  issued_le : i.issued ≤ now + 30
  not_expired : now < i.issued + i.ttlSeconds
  consumed : ∃ row, table'.rows = table.rows ++ [row] ∧ row.nonce = i.payload.nonce ∧
    row.expiresAtUnix = i.issued + i.ttlSeconds ∧ row.expiresAtUnix ≤ now + 330

variable [LawfulFloatText N] {faults : SqliteFaults} {envelope : SignedApproval}
  {publicKey : crypto.PublicKey} {mission : Mission N} {limits : PolicyLimits N}
  {executor : String} {now : Int} {table table' : NonceTable} {payload : ApprovalPayload}

/-- An approval that `verify_and_consume_approval` accepts was issued for this mission, these
    limits and this executor, and its nonce is the one consumed. -/
theorem accepted_issuedFor {issuances : Set (Issuance N)}
    (holder : SignsOnly publicKey issuances)
    (collisionFree : CollisionFree mission limits issuances)
    (returned : verifyAndConsumeApproval faults envelope publicKey mission limits executor now
      maxClockSkewSeconds maxLifetimeSeconds table = (.ok payload, table')) :
    ∃ i ∈ issuances, IssuedFor i envelope mission limits executor now table table' := by
  obtain ⟨verified, inserted⟩ := verified_of_returned returned
  obtain ⟨rfl, ⟨signature, -, signed⟩, issued, expires, lifetime, missionHash, policyHash,
    executorSame⟩ := verifyApproval_eq_ok_iff.mp verified
  obtain ⟨i, member, bytes⟩ := holder signature _ signed
  have same : envelope.payload = i.payload := approvalSigningBytes_injective bytes
  obtain ⟨-, -, builtMission, builtPolicy, builtHome, builtFrame, latitude, longitude, altitude,
    builtExecutor, builtIssued, builtExpires⟩ := buildApprovalPayload_eq_ok i.built
  rw [same] at issued expires lifetime missionHash policyHash executorSame
  have issuedBytes : canonicalJsonBytes i.mission.dump ∈ hashedBytes mission limits issuances ∧
      canonicalJsonBytes i.limits.asdict ∈ hashedBytes mission limits issuances := by
    constructor <;>
      exact Set.mem_union_right _ (Set.mem_biUnion member (by simp))
  have missionBytes := canonicalJsonBytes_eq_of_sha256Hex collisionFree
    (Set.mem_union_left _ (Set.mem_insert _ _)) issuedBytes.1 (missionHash.symm.trans builtMission)
  have policyBytes := canonicalJsonBytes_eq_of_sha256Hex collisionFree
    (Set.mem_union_left _ (Set.mem_insert_of_mem _ rfl)) issuedBytes.2
    (policyHash.symm.trans builtPolicy)
  obtain ⟨-, rows⟩ := NonceTable.insert_eq_some inserted
  unfold maxClockSkewSeconds at issued
  unfold maxLifetimeSeconds at lifetime
  refine ⟨i, member,
    { mission_eq := mission_eq_of_sortKeys (sortKeys_eq_of_canonicalJsonBytes missionBytes)
      limits_eq := limits_eq_of_sortKeys (sortKeys_eq_of_canonicalJsonBytes policyBytes)
      executor_eq := builtExecutor.symm.trans executorSame
      payload_eq := same
      frame_eq := by rw [same]; exact builtFrame
      home_integers := by rw [same]; exact ⟨latitude, longitude, altitude⟩
      home_hash := by rw [same]; exact builtHome
      lifetime_le := ?_
      issued_le := ?_
      not_expired := ?_
      consumed := ?_ }⟩
  · rw [builtIssued, builtExpires] at lifetime
    omega
  · rw [builtIssued] at issued
    exact issued
  · rw [builtExpires] at expires
    exact expires
  · refine ⟨_, rows, by rw [same]; rfl, by rw [same]; exact builtExpires, ?_⟩
    show envelope.payload.expiresAtUnix ≤ now + 330
    rw [same]
    omega

end Issuing

section Sample

/-- Keys that list the data their holder has signed. -/
@[reducible] def Crypto.registry : Crypto :=
  .reference (List (List UInt8)) fun key data => key.contains data

attribute [local instance] Crypto.registry

/-- The issue of the sample approval. -/
def sampleIssuance : Issuance ℚ where
  mission := mavsdkSimulationMission ℚ
  limits := .default ℚ
  executor := mavsdkExecutorName
  home := sampleSnapshot ℚ
  ttlSeconds := 300
  nowUnix := some 1000
  nonce := some sampleNonce
  clock := 0
  token := ""
  payload := samplePayload ℚ
  built := buildApprovalPayload_sample

/-- The key that signed the sample approval and nothing else. -/
def sampleKey : List (List UInt8) := [approvalSigningBytes (samplePayload ℚ)]

theorem signsOnly_sample : SignsOnly sampleKey {sampleIssuance} := by
  intro signature data verified
  have held : sampleKey.contains data = true := (Bool.and_eq_true_iff.mp verified).1
  have same : data = approvalSigningBytes (samplePayload ℚ) := by simpa [sampleKey] using held
  exact ⟨sampleIssuance, rfl, same⟩

/-- The digests of the sample's mission and limits differ. -/
theorem collisionFree_sample :
    CollisionFree (mavsdkSimulationMission ℚ) (.default ℚ) {sampleIssuance} := by
  have bytes : hashedBytes (mavsdkSimulationMission ℚ) (.default ℚ) {sampleIssuance} =
      {canonicalJsonBytes (mavsdkSimulationMission ℚ).dump,
        canonicalJsonBytes (PolicyLimits.default ℚ).asdict} := by
    simp [hashedBytes, sampleIssuance]
  have digests : Crypto.sha256 (canonicalJsonBytes (mavsdkSimulationMission ℚ).dump) ≠
      Crypto.sha256 (canonicalJsonBytes (PolicyLimits.default ℚ).asdict) := by
    decide +kernel
  rw [CollisionFree, bytes, Set.injOn_pair]
  exact fun same => absurd same digests

/-- The sample approval is accepted, and was issued. -/
theorem accepted_issuedFor_sample :
    ∃ table', verifyAndConsumeApproval .none (signApproval sampleKey (samplePayload ℚ)) sampleKey
        (mavsdkSimulationMission ℚ) (.default ℚ) mavsdkExecutorName 1100 maxClockSkewSeconds
        maxLifetimeSeconds .empty = (.ok (samplePayload ℚ), table') ∧
      ∃ i ∈ ({sampleIssuance} : Set (Issuance ℚ)),
        IssuedFor i (signApproval sampleKey (samplePayload ℚ)) (mavsdkSimulationMission ℚ)
          (.default ℚ) mavsdkExecutorName 1100 .empty table' := by
  have verified : verifyApproval (signApproval sampleKey (samplePayload ℚ)) sampleKey
      (mavsdkSimulationMission ℚ) (.default ℚ) mavsdkExecutorName 1100 maxClockSkewSeconds
      maxLifetimeSeconds = .ok (samplePayload ℚ) :=
    verifyApproval_sample ℚ (verify_sign_reference (by simp [sampleKey, Crypto.publicKey]))
      (by decide) (by decide)
  obtain ⟨table', inserted⟩ : ∃ table',
      NonceTable.insert .empty ((samplePayload ℚ).row 1100) = some table' := ⟨_, rfl⟩
  have returned := returned_of_verified verified inserted
  exact ⟨_, returned, accepted_issuedFor signsOnly_sample collisionFree_sample returned⟩

end Sample

end Nightjar
