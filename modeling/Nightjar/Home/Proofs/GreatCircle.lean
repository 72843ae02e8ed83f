import Nightjar.Home.Proofs.Snapshot

/-!
# The home distance is the great-circle distance

A snapshot stands for a point of the unit sphere, whatever its latitude and longitude are. The
haversine formula computes a quarter of the squared chord of two such points, so `asin(sqrt(h))` is
half of the angle between them, and the distance is the arc on a sphere of the given radius.
-/

namespace Nightjar

open Python Geometry InnerProductGeometry

/-- The point of the unit sphere in the direction of a snapshot. -/
noncomputable def HomeSnapshot.direction (h : HomeSnapshot ℝ) : Space :=
  onSphere (PyMath.radians h.latitudeDeg) (PyMath.radians h.longitudeDeg)

/-- The snapshot with the longitude moved by full turns. -/
def HomeSnapshot.turned (h : HomeSnapshot ℝ) (turns : ℤ) : HomeSnapshot ℝ :=
  { h with longitudeDeg := h.longitudeDeg + turns * 360 }

/-- The `h` of `horizontal_distance_m` (`home.py:69`). -/
noncomputable def haversine (a b : HomeSnapshot ℝ) : ℝ :=
  PyMath.sin ((PyMath.radians b.latitudeDeg - PyMath.radians a.latitudeDeg) / 2) ^ 2 +
    PyMath.cos (PyMath.radians a.latitudeDeg) * PyMath.cos (PyMath.radians b.latitudeDeg) *
      PyMath.sin (PyMath.radians (b.longitudeDeg - a.longitudeDeg) / 2) ^ 2

theorem norm_direction (h : HomeSnapshot ℝ) : ‖h.direction‖ = 1 := norm_onSphere _ _

theorem direction_turned (h : HomeSnapshot ℝ) (turns : ℤ) :
    (h.turned turns).direction = h.direction := by
  have radians : PyMath.radians (h.longitudeDeg + turns * 360) =
      PyMath.radians h.longitudeDeg + turns * (2 * Real.pi) := by
    simp only [PyMath.radians]
    ring
  simp only [HomeSnapshot.direction, HomeSnapshot.turned]
  rw [radians, onSphere_add_turn]

theorem haversine_eq_chord_direction (a b : HomeSnapshot ℝ) :
    haversine a b = dist a.direction b.direction ^ 2 / 4 := by
  have difference : PyMath.radians (b.longitudeDeg - a.longitudeDeg) =
      PyMath.radians b.longitudeDeg - PyMath.radians a.longitudeDeg := by
    simp only [PyMath.radians]
    ring
  rw [haversine, difference]
  exact haversine_eq_chord _ _ _ _

theorem haversine_le_one (a b : HomeSnapshot ℝ) : haversine a b ≤ 1 := by
  rw [haversine_eq_chord_direction]
  exact chord_sq_div_four_le_one (norm_direction a) (norm_direction b)

theorem haversine_nonneg (a b : HomeSnapshot ℝ) : 0 ≤ haversine a b := by
  rw [haversine_eq_chord_direction]
  positivity

/-- The arc between two snapshots on a sphere of the radius of the source. -/
noncomputable def arc (a b : HomeSnapshot ℝ) : ℝ := 6371000 * angle a.direction b.direction

/-- The computed distance is the arc. -/
theorem horizontalDistanceM_eq_arc (a b : HomeSnapshot ℝ) :
    horizontalDistanceM a b = .ok (arc a b) := by
  obtain ⟨root, angle⟩ := asin_sqrt_defined (haversine_nonneg a b) (haversine_le_one a b)
  have computed : horizontalDistanceM a b =
      .ok (2 * 6371000 * Real.arcsin (Real.sqrt (haversine a b))) := by
    unfold haversine at root angle ⊢
    simp only [horizontalDistanceM, root, angle]
  rw [computed, haversine_eq_chord_direction,
    arcsin_sqrt_chord (norm_direction a) (norm_direction b), arc]
  congr 1
  ring

theorem arc_comm (a b : HomeSnapshot ℝ) : arc a b = arc b a := by
  rw [arc, arc, angle_comm]

theorem arc_turned (a b : HomeSnapshot ℝ) (turns turns' : ℤ) :
    arc (a.turned turns) (b.turned turns') = arc a b := by
  rw [arc, arc, direction_turned, direction_turned]

theorem arc_bounds (a b : HomeSnapshot ℝ) : 0 ≤ arc a b ∧ arc a b ≤ Real.pi * 6371000 := by
  have low := angle_nonneg a.direction b.direction
  have high := angle_le_pi a.direction b.direction
  unfold arc
  constructor <;> linarith

theorem arc_eq_zero_iff (a b : HomeSnapshot ℝ) : arc a b = 0 ↔ a.direction = b.direction := by
  rw [← angle_eq_zero_iff_eq (norm_direction a) (norm_direction b), arc, mul_eq_zero]
  simp

theorem withinTolerance_eq (bound live : HomeSnapshot ℝ) (horizontalM verticalM : PyNum ℝ) :
    withinTolerance bound live horizontalM verticalM =
      .ok (decide (arc bound live ≤ horizontalM.val) &&
        decide (verticalDifferenceM bound live ≤ verticalM.val)) := by
  rw [withinTolerance, horizontalDistanceM_eq_arc]

/-- What the great-circle distance of two snapshots is. -/
structure GreatCircle (a b : HomeSnapshot ℝ) (distance : ℝ) : Prop where
  /-- The intermediate value is a quarter of the squared chord. -/
  chord : haversine a b = dist a.direction b.direction ^ 2 / 4
  h_bounds : 0 ≤ haversine a b ∧ haversine a b ≤ 1
  /-- `sqrt` and `asin` are defined where they are used. -/
  defined : ∃ root half, sqrt? (haversine a b) = some root ∧ asin? root = some half ∧
    distance = 2 * 6371000 * half
  arc : distance = 6371000 * angle a.direction b.direction
  bounds : 0 ≤ distance ∧ distance ≤ Real.pi * 6371000
  zero : distance = 0 ↔ a.direction = b.direction

/-- **The home distance is the great-circle distance** for any two snapshots. It is symmetric and
    does not depend on full turns of a longitude, and `within_tolerance` returns the same in either
    order. -/
theorem horizontalDistanceM_greatCircle (a b : HomeSnapshot ℝ) :
    ∃ distance, horizontalDistanceM a b = .ok distance ∧ GreatCircle a b distance ∧
      horizontalDistanceM b a = .ok distance ∧
      (∀ turns turns' : ℤ, horizontalDistanceM (a.turned turns) (b.turned turns') = .ok distance) ∧
      ∀ horizontalM verticalM : PyNum ℝ, ∃ within,
        withinTolerance a b horizontalM verticalM = .ok within ∧
          withinTolerance b a horizontalM verticalM = .ok within := by
  obtain ⟨root, half⟩ := asin_sqrt_defined (haversine_nonneg a b) (haversine_le_one a b)
  refine ⟨arc a b, horizontalDistanceM_eq_arc a b, ?_, ?_, ?_, ?_⟩
  · refine ⟨haversine_eq_chord_direction a b, ⟨haversine_nonneg a b, haversine_le_one a b⟩,
      ⟨_, _, root, half, ?_⟩, rfl, arc_bounds a b, arc_eq_zero_iff a b⟩
    rw [haversine_eq_chord_direction, arcsin_sqrt_chord (norm_direction a) (norm_direction b), arc]
    ring
  · rw [horizontalDistanceM_eq_arc, arc_comm]
  · intro turns turns'
    rw [horizontalDistanceM_eq_arc, arc_turned]
  · intro horizontalM verticalM
    refine ⟨_, withinTolerance_eq a b _ _, ?_⟩
    have vertical : verticalDifferenceM b a = verticalDifferenceM a b := abs_sub_comm _ _
    rw [withinTolerance_eq, arc_comm, vertical]

end Nightjar
