import Nightjar.Approval.Sample
import Nightjar.Policy.Proofs.Exact

/-!
# The policy hash and equal limits

`PolicyLimits` is a plain dataclass, so a limit may be an `int` or a `float`, and `10 == 10.0`. The
engine sees the value only; the canonical bytes also see how it was written. Equal limits have one
hash exactly when every field is of the same type in both.
-/

namespace Nightjar

open Python Json

namespace PolicyLimits

/-- The fields, in their order. -/
def fields {N : Type} (x : PolicyLimits N) : List (PyNum N) :=
  [x.maxAltitudeM, x.maxDistanceFromHomeM, x.maxHoldSeconds, x.maxMissionActions,
    x.maxTotalHoldSeconds, x.maxTotalHorizontalDistanceM, x.maxGotoActions,
    x.homeHorizontalToleranceM, x.homeVerticalToleranceM]

/-- `x == y`, the equality of the dataclass. -/
def Equal {N : Type} [IntCast N] (x y : PolicyLimits N) : Prop :=
  x.fields.map PyNum.val = y.fields.map PyNum.val

/-- Every field is an `int` in both or a `float` in both. -/
def SameTypes {N : Type} (x y : PolicyLimits N) : Prop :=
  x.fields.map PyNum.isInt = y.fields.map PyNum.isInt

section Equal

variable {N : Type} [Ring N] [CharZero N] {x y : PolicyLimits N}

/-- Equal limits are the same object content exactly when their types agree. -/
theorem Equal.eq_iff (equal : x.Equal y) : x = y ↔ x.SameTypes y := by
  constructor
  · rintro rfl
    exact rfl
  · intro types
    cases x
    cases y
    simp only [Equal, SameTypes, fields, List.map_cons, List.map_nil, List.cons.injEq,
      and_true] at equal types
    simp only [PolicyLimits.mk.injEq]
    obtain ⟨v1, v2, v3, v4, v5, v6, v7, v8, v9⟩ := equal
    obtain ⟨t1, t2, t3, t4, t5, t6, t7, t8, t9⟩ := types
    exact ⟨PyNum.eq_of_val v1 t1, PyNum.eq_of_val v2 t2, PyNum.eq_of_val v3 t3,
      PyNum.eq_of_val v4 t4, PyNum.eq_of_val v5 t5, PyNum.eq_of_val v6 t6, PyNum.eq_of_val v7 t7,
      PyNum.eq_of_val v8 t8, PyNum.eq_of_val v9 t9⟩

end Equal

section Decisions

variable {N : Type} [Field N] [LinearOrder N] [PyMath N] [PyText N] {x y : PolicyLimits N}

/-- The engine approves the same missions under equal limits. -/
theorem Equal.approves_iff (equal : x.Equal y) (actions : List (MissionAction N)) :
    PolicyEngine.Approves x actions ↔ PolicyEngine.Approves y actions := by
  simp only [Equal, fields, List.map_cons, List.map_nil, List.cons.injEq, and_true] at equal
  obtain ⟨v1, v2, v3, v4, v5, v6, v7, -, -⟩ := equal
  have within : ∀ action : MissionAction N,
      PolicySpec.WithinLimits x action ↔ PolicySpec.WithinLimits y action := by
    intro action
    cases action <;> simp only [PolicySpec.WithinLimits, v1, v2, v3]
  simp only [PolicyEngine.approves_iff, PolicyEngine.evaluateReasons_eq_nil, within, v4, v5, v6, v7]

end Decisions

section Hash

variable {N : Type} [Field N] [LinearOrder N] [IsStrictOrderedRing N] [PyText N]
  [LawfulFloatText N] [crypto : Crypto]

/-- What one hash for two limits is for: an approval of the one is accepted under the other. -/
def Interchangeable (x y : PolicyLimits N) : Prop :=
  policySha256 x = policySha256 y ∧
    ∀ envelope publicKey (mission : Mission N) executor now clockSkew lifetime payload,
      verifyApproval envelope publicKey mission x executor now clockSkew lifetime = .ok payload →
        verifyApproval envelope publicKey mission y executor now clockSkew lifetime = .ok payload

/-- Equal limits are interchangeable exactly when each field has one type in both. -/
theorem interchangeable_iff (x y : PolicyLimits N) (equal : x.Equal y)
    (collisionFree : Set.InjOn crypto.sha256
      {canonicalJsonBytes x.asdict, canonicalJsonBytes y.asdict}) :
    Interchangeable x y ↔ x.SameTypes y := by
  rw [← equal.eq_iff]
  constructor
  · rintro ⟨hash, -⟩
    have bytes := canonicalJsonBytes_eq_of_sha256Hex collisionFree (Set.mem_insert _ _)
      (Set.mem_insert_of_mem _ rfl) hash
    exact limits_eq_of_sortKeys (sortKeys_eq_of_canonicalJsonBytes bytes)
  · rintro rfl
    exact ⟨rfl, fun _ _ _ _ _ _ _ _ accepted => accepted⟩

omit [IsStrictOrderedRing N] [LawfulFloatText N] in
/-- An approval that is accepted under one policy is refused under a policy of another hash. -/
theorem verifyApproval_other_policy {x y : PolicyLimits N} {envelope : SignedApproval}
    {publicKey : crypto.PublicKey} {mission : Mission N} {executor : String}
    {now clockSkew lifetime : Int} {payload : ApprovalPayload}
    (accepted : verifyApproval envelope publicKey mission x executor now clockSkew lifetime =
      .ok payload) (differ : policySha256 x ≠ policySha256 y) :
    verifyApproval envelope publicKey mission y executor now clockSkew lifetime =
      .error (.approval "Approval does not match this policy.") := by
  obtain ⟨rfl, ⟨signature, decoded, signed⟩, issued, expires, lives, missionHash, policyHash, -⟩ :=
    verifyApproval_eq_ok_iff.mp accepted
  unfold verifyApproval
  rw [← policyHash] at differ
  simp only [decoded, signed, missionHash, differ, not_lt.mpr issued, not_le.mpr expires,
    not_lt.mpr lives, reduceCtorEq, if_false, ne_eq, not_true_eq_false, not_false_eq_true, if_true]

end Hash

section Sample

attribute [local instance] Crypto.keyless

/-- The default limits with an altitude of `10` for `10.0`. -/
def spelled : PolicyLimits ℚ := { PolicyLimits.default ℚ with maxAltitudeM := .int 10 }

theorem equal_spelled : (PolicyLimits.default ℚ).Equal spelled := by
  unfold Equal
  norm_num [fields, spelled, PolicyLimits.default, PyNum.val]

theorem digests_spelled :
    Crypto.sha256 (canonicalJsonBytes (PolicyLimits.default ℚ).asdict) ≠
      Crypto.sha256 (canonicalJsonBytes spelled.asdict) := by
  decide +kernel

theorem collisionFree_spelled : Set.InjOn Crypto.sha256
    {canonicalJsonBytes (PolicyLimits.default ℚ).asdict, canonicalJsonBytes spelled.asdict} := by
  rw [Set.injOn_pair]
  exact fun same => absurd same digests_spelled

theorem not_sameTypes_spelled : ¬ (PolicyLimits.default ℚ).SameTypes spelled := by
  unfold SameTypes
  decide

/-- An approval issued under the default limits is refused under equal ones. -/
theorem refused_spelled :
    (PolicyLimits.default ℚ).Equal spelled ∧
      policySha256 (PolicyLimits.default ℚ) ≠ policySha256 spelled ∧
      verifyApproval (signApproval () (samplePayload ℚ)) () (mavsdkSimulationMission ℚ)
        (.default ℚ) mavsdkExecutorName 1000 maxClockSkewSeconds maxLifetimeSeconds =
          .ok (samplePayload ℚ) ∧
      verifyApproval (signApproval () (samplePayload ℚ)) () (mavsdkSimulationMission ℚ)
        spelled mavsdkExecutorName 1000 maxClockSkewSeconds maxLifetimeSeconds =
          .error (.approval "Approval does not match this policy.") := by
  have differ : policySha256 (PolicyLimits.default ℚ) ≠ policySha256 spelled := fun hash =>
    digests_spelled (congrArg Crypto.sha256
      (canonicalJsonBytes_eq_of_sha256Hex collisionFree_spelled (Set.mem_insert _ _)
        (Set.mem_insert_of_mem _ rfl) hash))
  have accepted : verifyApproval (signApproval () (samplePayload ℚ)) ()
      (mavsdkSimulationMission ℚ) (.default ℚ) mavsdkExecutorName 1000 maxClockSkewSeconds
      maxLifetimeSeconds = .ok (samplePayload ℚ) :=
    verifyApproval_sample ℚ (verify_sign_reference rfl) (by decide) (by decide)
  exact ⟨equal_spelled, differ, accepted, verifyApproval_other_policy accepted differ⟩

/-- The two are not interchangeable. -/
theorem interchangeable_iff_spelled : ¬ Interchangeable (PolicyLimits.default ℚ) spelled := by
  rw [interchangeable_iff _ _ equal_spelled collisionFree_spelled]
  exact not_sameTypes_spelled

end Sample

end PolicyLimits

end Nightjar
