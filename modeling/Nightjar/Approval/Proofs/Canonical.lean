import Nightjar.Approval.Sample
import Nightjar.Home.Proofs.Snapshot

/-!
# Canonical bytes across kinds

Four kinds of value are hashed or signed: missions, limits, homes and approval payloads. Their
canonical bytes tell the kind and the content, whatever text the values carry: the objects have
different numbers of entries, and within a kind the bytes determine the dump.
-/

namespace Nightjar

open Python Json

variable {N : Type} [Field N] [LinearOrder N] [FloorRing N] [PyText N]

/-- What is hashed or signed. -/
inductive Hashed (N : Type) [Zero N] [LT N] where
  | mission (mission : Mission N)
  | limits (limits : PolicyLimits N)
  | home (snapshot : HomeSnapshot N)
  | approval (payload : ApprovalPayload)

namespace Hashed

/-- The four kinds. -/
inductive Kind where
  | mission
  | limits
  | home
  | approval
  deriving DecidableEq

/-- The kind of a value. -/
def kind : Hashed N → Kind
  | mission _ => .mission
  | limits _ => .limits
  | home _ => .home
  | approval _ => .approval

/-- Its JSON content. -/
def json : Hashed N → Json N
  | mission m => m.dump
  | limits l => l.asdict
  | home h => h.canonical
  | approval p => p.dump

/-- The bytes that `mission_sha256`, `policy_sha256` and `home_sha256` hash, and those that
    `sign_approval` signs. -/
def bytes : Hashed N → List UInt8
  | mission m => canonicalJsonBytes m.dump
  | limits l => canonicalJsonBytes l.asdict
  | home h => canonicalJsonBytes h.canonical
  | approval p => approvalSigningBytes p

end Hashed

namespace Hashed

/-- The number of entries of the object, which differs between the kinds. -/
def Kind.entries : Kind → Nat
  | mission => 3
  | limits => 9
  | home => 4
  | approval => 11

theorem Kind.entries_injective {k l : Kind} (same : k.entries = l.entries) : k = l := by
  revert same
  cases k <;> cases l <;> decide

/-- The bytes are the canonical bytes of the content. -/
theorem bytes_eq (v : Hashed N) : v.bytes = canonicalJsonBytes v.json := by
  cases v with
  | mission m => rfl
  | limits l => rfl
  | home h => rfl
  | approval p =>
    simp [bytes, json, approvalSigningBytes, canonicalJsonBytes, ApprovalPayload.dump, sortKeys,
      sortFields, List.insertionSort, List.orderedInsert, render, renderFields, renderMoreFields]

omit [PyText N] in
/-- The content is an object with as many entries as its kind says. -/
theorem json_sortKeys (v : Hashed N) :
    ∃ fields, v.json.sortKeys = .obj fields ∧ fields.length = v.kind.entries := by
  cases v <;> exact ⟨_, rfl, List.length_insertionSort _ _⟩

omit [PyText N] in
theorem kind_eq_of_sortKeys {v w : Hashed N} (same : v.json.sortKeys = w.json.sortKeys) :
    v.kind = w.kind := by
  obtain ⟨fields, first, count⟩ := json_sortKeys v
  obtain ⟨fields', second, count'⟩ := json_sortKeys w
  rw [first, second] at same
  cases same
  exact Kind.entries_injective (count.symm.trans count')

variable [LawfulFloatText N]

/-- Canonical bytes tell the kind and the content. -/
theorem bytes_injective {v w : Hashed N} (same : v.bytes = w.bytes) :
    v.kind = w.kind ∧ v.json = w.json := by
  have canonical := same
  rw [bytes_eq, bytes_eq] at canonical
  have sorted := sortKeys_eq_of_canonicalJsonBytes canonical
  have kinds := kind_eq_of_sortKeys sorted
  refine ⟨kinds, ?_⟩
  cases v with
  | mission m =>
    cases w with
    | mission n => exact congrArg Mission.dump (mission_eq_of_sortKeys sorted)
    | _ => cases kinds
  | limits x =>
    cases w with
    | limits y => exact congrArg PolicyLimits.asdict (limits_eq_of_sortKeys sorted)
    | _ => cases kinds
  | home g =>
    cases w with
    | home h => exact canonical_eq_of_bytes canonical
    | _ => cases kinds
  | approval p =>
    cases w with
    | approval q => exact congrArg ApprovalPayload.dump (approvalSigningBytes_injective same)
    | _ => cases kinds

/-- Values that share their bytes are of one kind and have one content; missions that share them
    are one mission. -/
theorem eq_of_bytes_eq (v w : Hashed N) (same : v.bytes = w.bytes) :
    v.kind = w.kind ∧ v.json = w.json ∧
      ∀ m n, v = .mission m → w = .mission n → m = n := by
  obtain ⟨kinds, content⟩ := bytes_injective same
  refine ⟨kinds, content, ?_⟩
  rintro m n rfl rfl
  exact mission_eq_of_sortKeys (congrArg Json.sortKeys content)

end Hashed

/-- A home captured again at another time shares its bytes and has the same content. -/
theorem Hashed.eq_of_bytes_eq_recaptured :
    let again : HomeSnapshot ℚ :=
      { sampleSnapshot ℚ with capturedAt := "later", captured_nonempty := by decide }
    (Hashed.home (sampleSnapshot ℚ)).bytes = (Hashed.home again).bytes ∧
      (Hashed.home (sampleSnapshot ℚ)).json = (Hashed.home again).json := by
  intro again
  have same : (Hashed.home (sampleSnapshot ℚ)).bytes = (Hashed.home again).bytes := rfl
  exact ⟨same, (Hashed.eq_of_bytes_eq _ _ same).2.1⟩

end Nightjar
