import Nightjar.Geometry.Sphere
import Nightjar.Home
import Nightjar.Security.Proofs.Canonical

/-!
# Snapshots, their integers and their distance

A snapshot rebuilt from canonical integers has the same integers, and lies within half a unit of
each scale of the original. Over the reals the haversine formula never leaves the domains of
`sqrt` and `asin`, at any latitude, so the comparison of two snapshots returns.
-/

namespace Nightjar

open Python Json Geometry

section Rebuild

variable {N : Type} [Field N] [LinearOrder N] [IsStrictOrderedRing N] [FloorRing N]

/-- The canonical form of a snapshot built from canonical integers. -/
theorem canonical_rebuilt (latitude longitude altitude : Int) (captured : String)
    (nonempty : captured ≠ "") :
    HomeSnapshot.canonical (N := N) ⟨latitude / latLonScale, longitude / latLonScale,
        altitude / altitudeScale, captured, sourceTelemetry, nonempty⟩ =
      .obj [("altitude_mm", .int altitude), ("latitude_e7", .int latitude),
        ("longitude_e7", .int longitude), ("source", .str sourceTelemetry)] := by
  have degrees : ((latLonScale : Int) : N) ≠ 0 := by norm_num [latLonScale]
  have metres : ((altitudeScale : Int) : N) ≠ 0 := by norm_num [altitudeScale]
  simp only [HomeSnapshot.canonical, HomeSnapshot.altitudeMm, HomeSnapshot.latitudeE7,
    HomeSnapshot.longitudeE7, roundHalfEven_div_mul degrees, roundHalfEven_div_mul metres]

/-- The latitude read back from its integer is within half a unit. -/
theorem abs_latitudeE7_sub_le (h : HomeSnapshot N) :
    |(h.latitudeE7 : N) / latLonScale - h.latitudeDeg| ≤ 1 / 2 / latLonScale :=
  abs_roundHalfEven_div_sub_le (by norm_num [latLonScale]) _

theorem abs_longitudeE7_sub_le (h : HomeSnapshot N) :
    |(h.longitudeE7 : N) / latLonScale - h.longitudeDeg| ≤ 1 / 2 / latLonScale :=
  abs_roundHalfEven_div_sub_le (by norm_num [latLonScale]) _

theorem abs_altitudeMm_sub_le (h : HomeSnapshot N) :
    |(h.altitudeMm : N) / altitudeScale - h.absoluteAltitudeM| ≤ 1 / 2 / altitudeScale :=
  abs_roundHalfEven_div_sub_le (by norm_num [altitudeScale]) _

end Rebuild

section Canonical

variable {N : Type} [Field N] [LinearOrder N] [FloorRing N] [PyMath N]

/-- The products of a home with its scales are floats. -/
structure HomeSnapshot.Scales (h : HomeSnapshot N) : Prop where
  altitude : PyMath.overflows (h.absoluteAltitudeM * altitudeScale) = false
  latitude : PyMath.overflows (h.latitudeDeg * latLonScale) = false
  longitude : PyMath.overflows (h.longitudeDeg * latLonScale) = false

/-- A home has its canonical form just when its products are floats. -/
theorem canonical?_eq (h : HomeSnapshot N) :
    h.Scales ∧ h.canonical? = .ok h.canonical ∨
      ¬ h.Scales ∧ h.canonical? = .error .roundInfinity := by
  by_cases scales : h.Scales
  · obtain ⟨altitude, latitude, longitude⟩ := scales
    left
    refine ⟨⟨altitude, latitude, longitude⟩, ?_⟩
    simp only [HomeSnapshot.canonical?, round?_eq_some altitude, round?_eq_some latitude,
      round?_eq_some longitude]
    rfl
  · right
    refine ⟨scales, ?_⟩
    unfold HomeSnapshot.canonical?
    split
    · rename_i altitude latitude longitude
      refine absurd ⟨?_, ?_, ?_⟩ scales
      · exact overflows_of_round? altitude
      · exact overflows_of_round? latitude
      · exact overflows_of_round? longitude
    · rfl

theorem canonical?_of_scales {h : HomeSnapshot N} (scales : h.Scales) :
    h.canonical? = .ok h.canonical := by
  rcases canonical?_eq h with ⟨-, returned⟩ | ⟨overflow, -⟩
  · exact returned
  · exact absurd scales overflow

variable [PyText N] [Crypto]

/-- What is hashed is the canonical form. -/
theorem homeSha256?_eq_ok {h : HomeSnapshot N} {hash : String}
    (returned : homeSha256? h = .ok hash) :
    h.Scales ∧ h.canonical.shortInts = true ∧ hash = homeSha256 h := by
  obtain ⟨value, canonical, hashed⟩ := bind_eq_ok returned
  rcases canonical?_eq h with ⟨scales, same⟩ | ⟨-, overflow⟩
  · rw [same] at canonical
    cases canonical
    obtain ⟨short, rfl⟩ := sha256Hex?_eq_ok hashed
    exact ⟨scales, short, rfl⟩
  · rw [overflow] at canonical
    cases canonical

/-- A home with its canonical form is hashed, when its integers are written. -/
theorem homeSha256?_of_scales {h : HomeSnapshot N} (scales : h.Scales) :
    homeSha256? h = if h.canonical.shortInts then .ok (homeSha256 h) else .error .intDigits := by
  simp only [homeSha256?, canonical?_of_scales scales, bind, Except.bind]
  exact sha256Hex?_eq _

/-- A hash is refused for an infinity or for a long integer. -/
theorem homeSha256?_eq_error {h : HomeSnapshot N} {e : PyExc}
    (raised : homeSha256? h = .error e) : e = .roundInfinity ∨ e = .intDigits := by
  rcases bind_eq_error raised with overflow | ⟨value, -, refused⟩
  · rcases canonical?_eq h with ⟨-, same⟩ | ⟨-, infinity⟩
    · rw [same] at overflow
      cases overflow
    · rw [infinity] at overflow
      exact Or.inl (Except.error.inj overflow).symm
  · exact Or.inr (sha256Hex?_eq_error refused)

end Canonical

section Haversine

/-- The haversine is between zero and one, at any latitude. -/
theorem haversine_bounds (lat1 lat2 dlon : ℝ) :
    0 ≤ PyMath.sin ((lat2 - lat1) / 2) ^ 2 +
        PyMath.cos lat1 * PyMath.cos lat2 * PyMath.sin (dlon / 2) ^ 2 ∧
      PyMath.sin ((lat2 - lat1) / 2) ^ 2 +
        PyMath.cos lat1 * PyMath.cos lat2 * PyMath.sin (dlon / 2) ^ 2 ≤ 1 := by
  have chord := haversine_eq_chord lat1 0 lat2 dlon
  rw [sub_zero] at chord
  simp only [PyMath.sin, PyMath.cos]
  rw [chord]
  constructor
  · positivity
  · exact chord_sq_div_four_le_one (norm_onSphere _ _) (norm_onSphere _ _)

/-- `asin(sqrt(h))` is defined for a haversine. -/
theorem asin_sqrt_defined {h : ℝ} (low : 0 ≤ h) (high : h ≤ 1) :
    sqrt? h = some (Real.sqrt h) ∧
      asin? (Real.sqrt h) = some (Real.arcsin (Real.sqrt h)) := by
  have nonneg : 0 ≤ Real.sqrt h := Real.sqrt_nonneg h
  have small : Real.sqrt h ≤ 1 := Real.sqrt_le_one.mpr high
  refine ⟨if_neg (not_lt.mpr low), if_neg ?_⟩
  rintro (below | above)
  · linarith
  · linarith

/-- Over the reals the horizontal distance of any two snapshots is computed. -/
theorem horizontalDistanceM_returns (a b : HomeSnapshot ℝ) :
    ∃ distance, horizontalDistanceM a b = .ok distance := by
  obtain ⟨low, high⟩ := haversine_bounds (PyMath.radians a.latitudeDeg)
    (PyMath.radians b.latitudeDeg) (PyMath.radians (b.longitudeDeg - a.longitudeDeg))
  obtain ⟨defined, defined'⟩ := asin_sqrt_defined low high
  unfold horizontalDistanceM
  simp only [defined, defined']
  exact ⟨_, rfl⟩

/-- Over the reals `within_tolerance` never raises. -/
theorem withinTolerance_returns (bound live : HomeSnapshot ℝ) (horizontalM verticalM : PyNum ℝ) :
    ∃ ok, withinTolerance bound live horizontalM verticalM = .ok ok := by
  obtain ⟨distance, computed⟩ := horizontalDistanceM_returns bound live
  exact ⟨_, by rw [withinTolerance, computed]⟩

end Haversine

section Hash

variable {N : Type} [Field N] [LinearOrder N] [FloorRing N] [PyText N] [LawfulFloatText N]

/-- The canonical form of a snapshot is determined by its bytes. -/
theorem canonical_eq_of_bytes {g h : HomeSnapshot N}
    (same : canonicalJsonBytes g.canonical = canonicalJsonBytes h.canonical) :
    g.canonical = h.canonical := by
  have sorted := sortKeys_eq_of_canonicalJsonBytes same
  simp [HomeSnapshot.canonical, sortKeys, sortFields, List.insertionSort] at sorted ⊢
  exact sorted

end Hash

end Nightjar
