import Nightjar.Security

/-!
# Home snapshots

The trusted home (`home.py`): the snapshot captured from telemetry, its canonical integers, and
the comparison of two snapshots. A snapshot carries what its validation guarantees: finite
coordinates and a capture time.
-/

namespace Nightjar

open Python

/-- `FRAME_ID` (`home.py:18`). -/
def frameId : String := "home_ned_v1"

/-- `SOURCE_TELEMETRY` (`home.py:19`). -/
def sourceTelemetry : String := "telemetry"

/-- `LAT_LON_SCALE` (`home.py:22`). -/
def latLonScale : Int := 10000000

/-- `ALTITUDE_SCALE` (`home.py:23`). -/
def altitudeScale : Int := 1000

/-- A `float` that a telemetry item carries. -/
inductive Reading (N : Type) where
  | finite (x : N)
  | posInf
  | negInf
  | nan
  deriving DecidableEq

/-- A time stamp, `datetime.now(timezone.utc).isoformat()`. -/
structure Timestamp where
  text : String
  nonempty : text ≠ ""

/-- `HomeSnapshot` (`home.py:26-33`). -/
structure HomeSnapshot (N : Type) where
  latitudeDeg : N
  longitudeDeg : N
  absoluteAltitudeM : N
  capturedAt : String
  source : String
  captured_nonempty : capturedAt ≠ ""

namespace HomeSnapshot

section Canonical

variable {N : Type} [Field N] [LinearOrder N] [FloorRing N]

/-- `latitude_e7` (`home.py:35-37`), where the product is no infinity. -/
def latitudeE7 (h : HomeSnapshot N) : Int := roundHalfEven (h.latitudeDeg * latLonScale)

/-- `longitude_e7` (`home.py:39-41`). -/
def longitudeE7 (h : HomeSnapshot N) : Int := roundHalfEven (h.longitudeDeg * latLonScale)

/-- `altitude_mm` (`home.py:43-45`). -/
def altitudeMm (h : HomeSnapshot N) : Int := roundHalfEven (h.absoluteAltitudeM * altitudeScale)

/-- `canonical` (`home.py:47-54`), where no product is an infinity. -/
def canonical (h : HomeSnapshot N) : Json N :=
  .obj [("altitude_mm", .int h.altitudeMm), ("latitude_e7", .int h.latitudeE7),
    ("longitude_e7", .int h.longitudeE7), ("source", .str h.source)]

/-- `canonical` (`home.py:35-54`): the properties round a product, which may be an infinity. -/
def canonical? [PyMath N] (h : HomeSnapshot N) : Except PyExc (Json N) :=
  match round? (h.absoluteAltitudeM * altitudeScale), round? (h.latitudeDeg * latLonScale),
    round? (h.longitudeDeg * latLonScale) with
  | some altitudeMm, some latitudeE7, some longitudeE7 =>
    .ok (.obj [("altitude_mm", .int altitudeMm), ("latitude_e7", .int latitudeE7),
      ("longitude_e7", .int longitudeE7), ("source", .str h.source)])
  | _, _, _ => .error .roundInfinity

end Canonical

end HomeSnapshot

section Hash

variable {N : Type} [Field N] [LinearOrder N] [FloorRing N] [PyText N] [Crypto]

/-- `home_sha256` (`home.py:57-59`), where the home has canonical integers that are written. -/
def homeSha256 (snapshot : HomeSnapshot N) : String := sha256Hex snapshot.canonical

/-- `home_sha256` (`home.py:57-59`). -/
def homeSha256? [PyMath N] (snapshot : HomeSnapshot N) : Except PyExc String := do
  let canonical ← snapshot.canonical?
  sha256Hex? canonical

end Hash

section Distance

variable {N : Type} [Field N] [LinearOrder N] [PyMath N]

/-- `horizontal_distance_m` (`home.py:62-70`), the haversine formula. -/
def horizontalDistanceM (a b : HomeSnapshot N) : Except PyExc N :=
  let radiusM : N := 6371000
  let lat1 := PyMath.radians a.latitudeDeg
  let lat2 := PyMath.radians b.latitudeDeg
  let dlat := lat2 - lat1
  let dlon := PyMath.radians (b.longitudeDeg - a.longitudeDeg)
  let h := PyMath.sin (dlat / 2) ^ 2 +
    PyMath.cos lat1 * PyMath.cos lat2 * PyMath.sin (dlon / 2) ^ 2
  match sqrt? h with
  | none => .error .mathDomain
  | some root =>
    match asin? root with
    | none => .error .mathDomain
    | some angle => .ok (2 * radiusM * angle)

/-- `vertical_difference_m` (`home.py:73-74`). -/
def verticalDifferenceM (a b : HomeSnapshot N) : N := |a.absoluteAltitudeM - b.absoluteAltitudeM|

/-- `within_tolerance` (`home.py:77-87`). -/
def withinTolerance (bound live : HomeSnapshot N) (horizontalM verticalM : PyNum N) :
    Except PyExc Bool :=
  match horizontalDistanceM bound live with
  | .error e => .error e
  | .ok distance =>
    .ok (decide (distance ≤ horizontalM.val) &&
      decide (verticalDifferenceM bound live ≤ verticalM.val))

end Distance

/-- `captured_at or datetime.now(timezone.utc).isoformat()`. -/
def capturedOr (capturedAt : Option String) (now : Timestamp) : Timestamp :=
  match capturedAt with
  | none => now
  | some given => if nonempty : given ≠ "" then ⟨given, nonempty⟩ else now

/-- `snapshot_from_telemetry` (`home.py:90-103`). `now` is the clock at the call; a value that is
    not finite is refused by the model's validation. -/
def snapshotFromTelemetry {N : Type} (latitudeDeg longitudeDeg absoluteAltitudeM : Reading N)
    (capturedAt : Option String) (now : Timestamp) : Except PyExc (HomeSnapshot N) :=
  match latitudeDeg, longitudeDeg, absoluteAltitudeM with
  | .finite latitude, .finite longitude, .finite altitude =>
    let captured := capturedOr capturedAt now
    .ok ⟨latitude, longitude, altitude, captured.text, sourceTelemetry, captured.nonempty⟩
  | _, _, _ => .error (.validation "HomeSnapshot")

end Nightjar
