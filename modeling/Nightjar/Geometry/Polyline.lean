import Mathlib.Topology.MetricSpace.Basic
import Mathlib.Analysis.InnerProductSpace.PiL2
import Mathlib.Analysis.Normed.Affine.Convex

/-!
# Polygonal paths

The length of a polygonal path in a metric space, and its end: leaving vertices out does not make
a path longer. In a normed space a path is also the set of its points: it stays in every convex set
that holds its vertices, and a detour through one of its points is no longer than the path. The
plane is `EuclideanSpace ℝ (Fin 2)`; `dist_point` is the distance in coordinates.
-/

namespace Geometry

section Metric

variable {α : Type} [PseudoMetricSpace α]

/-- The length of the path that starts at a point and visits others in order. -/
noncomputable def polylineLength : α → List α → ℝ
  | _, [] => 0
  | here, next :: rest => dist here next + polylineLength next rest

@[simp] theorem polylineLength_nil (here : α) : polylineLength here [] = 0 := rfl

@[simp] theorem polylineLength_cons (here next : α) (rest : List α) :
    polylineLength here (next :: rest) = dist here next + polylineLength next rest := rfl

/-- A detour over another start is no shorter. -/
theorem polylineLength_le_dist_add (here there : α) (points : List α) :
    polylineLength here points ≤ dist here there + polylineLength there points := by
  cases points with
  | nil =>
    rw [polylineLength_nil, polylineLength_nil, add_zero]
    exact dist_nonneg
  | cons next rest =>
    have triangle := dist_triangle here there next
    rw [polylineLength_cons, polylineLength_cons]
    linarith

/-- A path does not get longer when vertices are left out. -/
theorem polylineLength_le_of_sublist {fewer points : List α} (sublist : fewer.Sublist points) :
    ∀ here, polylineLength here fewer ≤ polylineLength here points := by
  induction sublist with
  | slnil =>
    intro here
    exact le_rfl
  | @cons _ longer next _ ih =>
    intro here
    rw [polylineLength_cons]
    exact (ih here).trans (polylineLength_le_dist_add here next longer)
  | cons_cons next _ ih =>
    intro here
    have shorter := ih next
    rw [polylineLength_cons, polylineLength_cons]
    linarith

/-- The end of a path. -/
def polylineEnd : α → List α → α
  | here, [] => here
  | _, next :: rest => polylineEnd next rest

omit [PseudoMetricSpace α] in
/-- A path ends at its last vertex. -/
theorem polylineEnd_concat (here last : α) (points : List α) :
    polylineEnd here (points ++ [last]) = last := by
  induction points generalizing here with
  | nil => rfl
  | cons next rest ih => exact ih next

end Metric

section Points

variable {V : Type} [SeminormedAddCommGroup V] [NormedSpace ℝ V]

/-- The points of the path, its legs included. -/
def polyline : V → List V → Set V
  | here, [] => {here}
  | here, next :: rest => segment ℝ here next ∪ polyline next rest

theorem left_mem_polyline (here : V) (points : List V) : here ∈ polyline here points := by
  cases points with
  | nil => rfl
  | cons next rest => exact Or.inl (left_mem_segment ℝ here next)

/-- A convex set that holds the vertices holds the path. -/
theorem polyline_subset {C : Set V} (convex : Convex ℝ C) {here : V} {points : List V}
    (start : here ∈ C) (vertices : ∀ p ∈ points, p ∈ C) : polyline here points ⊆ C := by
  induction points generalizing here with
  | nil => exact Set.singleton_subset_iff.mpr start
  | cons next rest ih =>
    rw [List.forall_mem_cons] at vertices
    exact Set.union_subset (convex.segment_subset start vertices.1) (ih vertices.1 vertices.2)

/-- Going straight to a point of the path, and from there straight to its end, is no longer than
    the path. -/
theorem dist_add_dist_le_polylineLength {here p : V} {points : List V}
    (on : p ∈ polyline here points) :
    dist here p + dist p (polylineEnd here points) ≤ polylineLength here points := by
  induction points generalizing here p with
  | nil =>
    obtain rfl := Set.mem_singleton_iff.mp on
    simp [polylineEnd]
  | cons next rest ih =>
    rw [polylineLength_cons, polylineEnd]
    rcases on with leg | later
    · have straight := dist_add_dist_of_mem_segment leg
      have rest_long := ih (left_mem_polyline next rest)
      rw [dist_self, zero_add] at rest_long
      have triangle := dist_triangle p next (polylineEnd next rest)
      linarith
    · have rest_long := ih later
      have triangle := dist_triangle here next p
      linarith

theorem dist_le_polylineLength {here p : V} {points : List V} (on : p ∈ polyline here points) :
    dist here p ≤ polylineLength here points := by
  have detour := dist_add_dist_le_polylineLength on
  have back : 0 ≤ dist p (polylineEnd here points) := dist_nonneg
  linarith

/-- A path that ends where it starts comes no farther than half its length. -/
theorem dist_le_half_polylineLength {here p : V} {points : List V}
    (on : p ∈ polyline here points) (closed : polylineEnd here points = here) :
    dist here p ≤ polylineLength here points / 2 := by
  have detour := dist_add_dist_le_polylineLength on
  rw [closed, dist_comm p here] at detour
  linarith

end Points

/-- The plane. -/
abbrev Plane : Type := EuclideanSpace ℝ (Fin 2)

/-- The point with the given coordinates. -/
noncomputable def point (x y : ℝ) : Plane := !₂[x, y]

theorem dist_point (x y x' y' : ℝ) :
    dist (point x y) (point x' y') = Real.sqrt ((x' - x) ^ 2 + (y' - y) ^ 2) := by
  rw [EuclideanSpace.dist_eq, Fin.sum_univ_two]
  simp only [point, Real.dist_eq, sq_abs]
  congr 1
  simp only [Matrix.cons_val_zero, Matrix.cons_val_one]
  ring

/-- The way along the axes is not shorter. -/
theorem dist_point_le (x y x' y' : ℝ) :
    dist (point x y) (point x' y') ≤ |x' - x| + |y' - y| := by
  rw [dist_point, Real.sqrt_le_iff]
  constructor
  · positivity
  · have squares : (|x' - x| + |y' - y|) ^ 2 =
        (x' - x) ^ 2 + (y' - y) ^ 2 + 2 * (|x' - x| * |y' - y|) := by
      rw [add_sq, sq_abs, sq_abs]
      ring
    have product : 0 ≤ |x' - x| * |y' - y| := by positivity
    rw [squares]
    linarith

end Geometry
