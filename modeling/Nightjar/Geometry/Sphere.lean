import Mathlib.Analysis.InnerProductSpace.PiL2
import Mathlib.Geometry.Euclidean.Angle.Unoriented.Basic
import Mathlib.Geometry.Euclidean.Triangle

/-!
# The unit sphere

Points on the unit sphere by latitude and longitude, and the central angle of two of them. A
quarter of the squared chord is the squared sine of half the angle, which is what the haversine
formula computes from the coordinates; so `asin` of its root is half the angle.
-/

namespace Geometry

open InnerProductGeometry

section Chord

variable {V : Type} [NormedAddCommGroup V] [InnerProductSpace ℝ V] {u v : V}

/-- A quarter of the squared chord of two unit vectors. -/
theorem chord_sq_div_four (unit : ‖u‖ = 1) (unit' : ‖v‖ = 1) :
    dist u v ^ 2 / 4 = Real.sin (angle u v / 2) ^ 2 := by
  have cosines := norm_sub_sq_eq_norm_sq_add_norm_sq_sub_two_mul_norm_mul_norm_mul_cos_angle u v
  have double := Real.cos_two_mul (angle u v / 2)
  have pythagoras := Real.sin_sq_add_cos_sq (angle u v / 2)
  rw [mul_div_cancel₀ _ two_ne_zero] at double
  rw [unit, unit'] at cosines
  rw [dist_eq_norm, sq, cosines]
  linarith

/-- Half the central angle is the `arcsin` of half the chord. -/
theorem arcsin_sqrt_chord (unit : ‖u‖ = 1) (unit' : ‖v‖ = 1) :
    Real.arcsin (Real.sqrt (dist u v ^ 2 / 4)) = angle u v / 2 := by
  have low := angle_nonneg u v
  have high := angle_le_pi u v
  have sine : 0 ≤ Real.sin (angle u v / 2) :=
    Real.sin_nonneg_of_nonneg_of_le_pi (by linarith) (by linarith)
  rw [chord_sq_div_four unit unit', Real.sqrt_sq sine]
  apply Real.arcsin_sin
  · linarith
  · linarith

theorem chord_sq_div_four_le_one (unit : ‖u‖ = 1) (unit' : ‖v‖ = 1) : dist u v ^ 2 / 4 ≤ 1 := by
  rw [chord_sq_div_four unit unit']
  exact Real.sin_sq_le_one _

/-- Unit vectors with no angle between them are equal. -/
theorem angle_eq_zero_iff_eq (unit : ‖u‖ = 1) (unit' : ‖v‖ = 1) : angle u v = 0 ↔ u = v := by
  constructor
  · intro none
    exact eq_of_angle_eq_zero_of_norm_eq none (unit.trans unit'.symm)
  · rintro rfl
    apply angle_self
    rw [← norm_ne_zero_iff, unit]
    exact one_ne_zero

end Chord

/-- Space. -/
abbrev Space : Type := EuclideanSpace ℝ (Fin 3)

/-- The point of the unit sphere with a latitude and a longitude, in radians. -/
noncomputable def onSphere (latitude longitude : ℝ) : Space :=
  WithLp.toLp _ ![Real.cos latitude * Real.cos longitude, Real.cos latitude * Real.sin longitude,
    Real.sin latitude]

theorem norm_onSphere (latitude longitude : ℝ) : ‖onSphere latitude longitude‖ = 1 := by
  have first := Real.sin_sq_add_cos_sq latitude
  have second := Real.sin_sq_add_cos_sq longitude
  rw [EuclideanSpace.norm_eq, Fin.sum_univ_three, Real.sqrt_eq_one]
  simp only [onSphere, Real.norm_eq_abs, sq_abs, Matrix.cons_val_zero, Matrix.cons_val_one,
    Matrix.cons_val]
  linear_combination Real.cos latitude ^ 2 * second + first

/-- A point stays where it is after a turn of the longitude. -/
theorem onSphere_add_turn (latitude longitude : ℝ) (turns : ℤ) :
    onSphere latitude (longitude + turns * (2 * Real.pi)) = onSphere latitude longitude := by
  rw [onSphere, onSphere, Real.cos_add_int_mul_two_pi, Real.sin_add_int_mul_two_pi]

/-- The haversine formula computes a quarter of the squared chord. -/
theorem haversine_eq_chord (lat1 lon1 lat2 lon2 : ℝ) :
    Real.sin ((lat2 - lat1) / 2) ^ 2 +
        Real.cos lat1 * Real.cos lat2 * Real.sin ((lon2 - lon1) / 2) ^ 2 =
      dist (onSphere lat1 lon1) (onSphere lat2 lon2) ^ 2 / 4 := by
  have half : ∀ x : ℝ, Real.sin (x / 2) ^ 2 = (1 - Real.cos x) / 2 := by
    intro x
    have double := Real.cos_two_mul (x / 2)
    have pythagoras := Real.sin_sq_add_cos_sq (x / 2)
    rw [mul_div_cancel₀ x two_ne_zero] at double
    linarith
  have chord : dist (onSphere lat1 lon1) (onSphere lat2 lon2) ^ 2 =
      (Real.cos lat1 * Real.cos lon1 - Real.cos lat2 * Real.cos lon2) ^ 2 +
        (Real.cos lat1 * Real.sin lon1 - Real.cos lat2 * Real.sin lon2) ^ 2 +
          (Real.sin lat1 - Real.sin lat2) ^ 2 := by
    rw [EuclideanSpace.dist_eq, Real.sq_sqrt (Finset.sum_nonneg fun _ _ => sq_nonneg _),
      Fin.sum_univ_three]
    simp only [onSphere, Real.dist_eq, sq_abs, Matrix.cons_val_zero, Matrix.cons_val_one,
      Matrix.cons_val]
  have first := Real.sin_sq_add_cos_sq lat1
  have second := Real.sin_sq_add_cos_sq lat2
  have third := Real.sin_sq_add_cos_sq lon1
  have fourth := Real.sin_sq_add_cos_sq lon2
  rw [chord, half, half, Real.cos_sub, Real.cos_sub]
  linear_combination (-1 / 4) * first + (-1 / 4) * second - Real.cos lat1 ^ 2 / 4 * third -
    Real.cos lat2 ^ 2 / 4 * fourth

end Geometry
