import Nightjar.Security

/-!
# The canonical bytes determine the value

`canonical_json_bytes` forgets nothing but the order of the entries of an object, so the missions
and the limits are determined by their bytes. Equal hashes mean equal bytes on any set on which
SHA-256 has no collision.
-/

namespace Nightjar

open Python Json

section Bytes

variable {N : Type} [PyText N] [LawfulFloatText N]

/-- Canonical bytes determine the value up to the order of entries. -/
theorem sortKeys_eq_of_canonicalJsonBytes {v w : Json N}
    (same : canonicalJsonBytes v = canonicalJsonBytes w) : v.sortKeys = w.sortKeys := by
  apply render_injective compact_readable
  have bytes := ByteArray.ext (Array.toList_inj.mp same)
  have chars := String.toByteArray_inj.mp bytes
  exact String.ofList_injective chars

end Bytes

section Dumps

variable {N : Type}

/-- The dump of an action determines the action. -/
theorem action_eq_of_sortKeys {a b : MissionAction N} (same : a.dump.sortKeys = b.dump.sortKeys) :
    a = b := by
  cases a <;> cases b <;>
    simp [MissionAction.dump, sortKeys, sortFields, List.insertionSort, List.orderedInsert]
      at same ⊢ <;> simp_all

theorem actions_eq_of_sortItems :
    ∀ as bs : List (MissionAction N),
      sortItems (as.map MissionAction.dump) = sortItems (bs.map MissionAction.dump) → as = bs := by
  intro as
  induction as with
  | nil =>
    intro bs same
    cases bs with
    | nil => rfl
    | cons b bs => cases same
  | cons a as ih =>
    intro bs same
    cases bs with
    | nil => cases same
    | cons b bs =>
      simp only [List.map_cons, sortItems, List.cons.injEq] at same
      rw [action_eq_of_sortKeys same.1, ih bs same.2]

/-- The dump of a mission determines the mission. -/
theorem mission_eq_of_sortKeys [Zero N] [LT N] {m n : Mission N}
    (same : m.dump.sortKeys = n.dump.sortKeys) : m = n := by
  simp [Mission.dump, sortKeys, sortFields, List.insertionSort, List.orderedInsert] at same
  obtain ⟨actions, description, id⟩ := same
  exact Mission.eq_of_fields (UUID.text_injective id) description
    (actions_eq_of_sortItems _ _ actions)

theorem ofPyNum_injective {x y : PyNum N} (same : (ofPyNum x).sortKeys = (ofPyNum y).sortKeys) :
    x = y := by
  cases x <;> cases y <;> simp_all [ofPyNum, sortKeys]

/-- The dump of the limits determines the limits. -/
theorem limits_eq_of_sortKeys {x y : PolicyLimits N}
    (same : x.asdict.sortKeys = y.asdict.sortKeys) : x = y := by
  simp [PolicyLimits.asdict, sortKeys, sortFields, List.insertionSort, List.orderedInsert] at same
  obtain ⟨h1, h2, h3, h4, h5, h6, h7, h8, h9⟩ := same
  cases x
  cases y
  simp only [PolicyLimits.mk.injEq]
  exact ⟨ofPyNum_injective h3, ofPyNum_injective h4, ofPyNum_injective h6, ofPyNum_injective h7,
    ofPyNum_injective h8, ofPyNum_injective h9, ofPyNum_injective h5, ofPyNum_injective h1,
    ofPyNum_injective h2⟩

end Dumps

section Hashes

variable {N : Type} [PyText N] [crypto : Crypto]

/-- The hash of a value has the form that the approval demands. -/
theorem isHex64_sha256Hex (value : Json N) : IsHex64 (sha256Hex value) := by
  unfold IsHex64 sha256Hex
  rw [String.toList_ofList]
  refine ⟨by rw [List.length_map, (Crypto.sha256 _).property], ?_⟩
  intro c member
  obtain ⟨d, -, rfl⟩ := List.mem_map.mp member
  exact ⟨d, rfl⟩

/-- Without a collision among some bytes, equal hashes mean equal bytes. -/
theorem canonicalJsonBytes_eq_of_sha256Hex {hashed : Set (List UInt8)}
    (collisionFree : Set.InjOn crypto.sha256 hashed) {v w : Json N}
    (first : canonicalJsonBytes v ∈ hashed) (second : canonicalJsonBytes w ∈ hashed)
    (same : sha256Hex v = sha256Hex w) : canonicalJsonBytes v = canonicalJsonBytes w := by
  apply collisionFree first second
  have digits := String.ofList_injective same
  exact Subtype.ext (List.map_injective_iff.mpr (fun _ _ => hexDigit_injective) digits)

end Hashes

end Nightjar
