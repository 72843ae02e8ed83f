import Mathlib.Data.List.Sort
import Nightjar.Python.JsonLoads

/-!
# Sorted keys

What `sort_keys=True` leaves as it was: a value with its keys sorted is the same dictionary, and has
the same numbers in it.
-/

namespace Python

namespace Json

variable {N : Type}

/-- Equality of values, in which the order of a dictionary's entries does not count. -/
def Same (v w : Json N) : Prop := v.sortKeys = w.sortKeys

/-- The order of the entries that `sort_keys=True` gives. -/
abbrev KeyLE (a b : String × Json N) : Prop := a.1 ≤ b.1

theorem sortFields_eq_map (fields : List (String × Json N)) :
    sortFields fields = fields.map fun field => (field.1, field.2.sortKeys) := by
  induction fields with
  | nil => rfl
  | cons field fields ih => rw [sortFields, ih, List.map_cons]

theorem keys_sortFields (fields : List (String × Json N)) :
    (sortFields fields).map Prod.fst = fields.map Prod.fst := by
  rw [sortFields_eq_map, List.map_map]
  rfl

/-- What changes the values only goes through the sorting. -/
theorem map_insertionSort_fields {M : Type} (f : Json N → Json M)
    (fields : List (String × Json N)) :
    (fields.insertionSort KeyLE).map (fun field => (field.1, f field.2)) =
      (fields.map fun field => (field.1, f field.2)).insertionSort KeyLE :=
  List.map_insertionSort _ _ _ _ fun _ _ _ _ => Iff.rfl

mutual

/-- Sorted keys are not sorted anew. -/
theorem sortKeys_sortKeys : ∀ v : Json N, v.sortKeys.sortKeys = v.sortKeys
  | .null => rfl
  | .bool _ => rfl
  | .int _ => rfl
  | .float _ => rfl
  | .str _ => rfl
  | .arr items => congrArg Json.arr (sortItems_sortItems items)
  | .obj fields => by
    have sorted : List.Pairwise KeyLE ((sortFields fields).insertionSort KeyLE) :=
      List.pairwise_insertionSort KeyLE _
    have again := map_insertionSort_fields sortKeys (sortFields fields)
    rw [← sortFields_eq_map, ← sortFields_eq_map, sortFields_sortFields fields] at again
    rw [sortKeys, sortKeys, again, sorted.insertionSort_eq]

theorem sortItems_sortItems : ∀ items : List (Json N), sortItems (sortItems items) = sortItems items
  | [] => rfl
  | item :: items => by
    rw [sortItems, sortItems, sortKeys_sortKeys item, sortItems_sortItems items]

theorem sortFields_sortFields :
    ∀ fields : List (String × Json N), sortFields (sortFields fields) = sortFields fields
  | [] => rfl
  | (key, value) :: fields => by
    rw [sortFields, sortFields, sortKeys_sortKeys value, sortFields_sortFields fields]

end

theorem distinctFields_iff {fields : List (String × Json N)} :
    DistinctFields fields ↔ ∀ field ∈ fields, field.2.Distinct := by
  induction fields with
  | nil => simp [DistinctFields]
  | cons field fields ih => rw [DistinctFields, ih, List.forall_mem_cons]

mutual

/-- Sorting keeps the keys distinct. -/
theorem distinct_sortKeys : ∀ v : Json N, v.Distinct → v.sortKeys.Distinct
  | .null => fun _ => trivial
  | .bool _ => fun _ => trivial
  | .int _ => fun _ => trivial
  | .float _ => fun _ => trivial
  | .str _ => fun _ => trivial
  | .arr items => fun distinct => distinct_sortItems items distinct
  | .obj fields => by
    intro distinct
    have perm := List.perm_insertionSort KeyLE (sortFields fields)
    refine ⟨?_, ?_⟩
    · rw [(perm.map Prod.fst).nodup_iff, keys_sortFields]
      exact distinct.1
    · rw [distinctFields_iff]
      intro field member
      exact distinctFields_iff.mp (distinct_sortFields fields distinct.2) field
        (perm.mem_iff.mp member)

theorem distinct_sortItems :
    ∀ items : List (Json N), DistinctItems items → DistinctItems (sortItems items)
  | [] => fun _ => trivial
  | item :: items => fun distinct =>
    ⟨distinct_sortKeys item distinct.1, distinct_sortItems items distinct.2⟩

theorem distinct_sortFields :
    ∀ fields : List (String × Json N), DistinctFields fields → DistinctFields (sortFields fields)
  | [] => fun _ => trivial
  | (_, value) :: fields => fun distinct =>
    ⟨distinct_sortKeys value distinct.1, distinct_sortFields fields distinct.2⟩

end

theorem shortIntsFields_eq_all (fields : List (String × Json N)) :
    shortIntsFields fields = fields.all fun field => field.2.shortInts := by
  induction fields with
  | nil => rfl
  | cons field fields ih => rw [shortIntsFields, ih, List.all_cons]

mutual

/-- Sorting changes no number. -/
theorem shortInts_sortKeys : ∀ v : Json N, v.sortKeys.shortInts = v.shortInts
  | .null => rfl
  | .bool _ => rfl
  | .int _ => rfl
  | .float _ => rfl
  | .str _ => rfl
  | .arr items => shortInts_sortItems items
  | .obj fields => by
    have perm := List.perm_insertionSort KeyLE (sortFields fields)
    rw [sortKeys, shortInts, shortIntsFields_eq_all, perm.all_eq, ← shortIntsFields_eq_all,
      shortInts_sortFields fields]
    rfl

theorem shortInts_sortItems :
    ∀ items : List (Json N), shortIntsItems (sortItems items) = shortIntsItems items
  | [] => rfl
  | item :: items => by
    rw [sortItems, shortIntsItems, shortIntsItems, shortInts_sortKeys item,
      shortInts_sortItems items]

theorem shortInts_sortFields :
    ∀ fields : List (String × Json N), shortIntsFields (sortFields fields) = shortIntsFields fields
  | [] => rfl
  | (_, value) :: fields => by
    rw [sortFields, shortIntsFields, shortIntsFields, shortInts_sortKeys value,
      shortInts_sortFields fields]

end

section MapFloats

variable {F : Type} (f : N → F)

theorem mapFloatsFields_eq_map (fields : List (String × Json N)) :
    mapFloatsFields f fields = fields.map fun field => (field.1, field.2.mapFloats f) := by
  induction fields with
  | nil => rfl
  | cons field fields ih => rw [mapFloatsFields, ih, List.map_cons]

mutual

/-- Other floats have the same keys. -/
theorem mapFloats_sortKeys : ∀ v : Json N, v.sortKeys.mapFloats f = (v.mapFloats f).sortKeys
  | .null => rfl
  | .bool _ => rfl
  | .int _ => rfl
  | .float _ => rfl
  | .str _ => rfl
  | .arr items => congrArg Json.arr (mapFloats_sortItems items)
  | .obj fields => by
    have sorted := map_insertionSort_fields (mapFloats f) (sortFields fields)
    rw [← mapFloatsFields_eq_map, ← mapFloatsFields_eq_map, mapFloats_sortFields fields] at sorted
    exact congrArg Json.obj sorted

theorem mapFloats_sortItems : ∀ items : List (Json N),
    mapFloatsItems f (sortItems items) = sortItems (mapFloatsItems f items)
  | [] => rfl
  | item :: items => by
    rw [sortItems, mapFloatsItems, mapFloatsItems, sortItems, mapFloats_sortKeys item,
      mapFloats_sortItems items]

theorem mapFloats_sortFields : ∀ fields : List (String × Json N),
    mapFloatsFields f (sortFields fields) = sortFields (mapFloatsFields f fields)
  | [] => rfl
  | (_, value) :: fields => by
    rw [sortFields, mapFloatsFields, mapFloatsFields, sortFields, mapFloats_sortKeys value,
      mapFloats_sortFields fields]

end

/-- A value with its keys sorted is the same value. -/
theorem same_sortKeys (v : Json N) : (v.sortKeys.mapFloats f).Same (v.mapFloats f) := by
  rw [Same, mapFloats_sortKeys, sortKeys_sortKeys]

end MapFloats

end Json

end Python
