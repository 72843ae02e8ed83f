import Nightjar.Interact.Prog
import Nightjar.JavaScript.Html
import Nightjar.JavaScript.Number
import Nightjar.Loaded
import Nightjar.Models

/-!
# The map client

The script of `clients/phase0-map/index.html`: the operator picks a home and a destination on a map
and an altitude on a slider, and sends the mission to the validation service. `Page` is what the
script keeps and shows; the handlers change it, and an exception leaves the changes made before it.
A request is answered later (`settle`), and the operator may go on in the meantime.
-/

namespace Nightjar

open Python Interact JavaScript

namespace Phase0Map

/-- A point of the map, in degrees. -/
structure LatLng (N : Type) where
  lat : N
  lng : N
  deriving DecidableEq

/-- A point in the local frame, in metres. -/
structure Ned (N : Type) where
  northM : N
  eastM : N
  deriving DecidableEq

/-- The position of the altitude slider (`min="1" max="15" step="0.5"`). -/
abbrev Slider : Type := Fin 29

/-- What the script throws. -/
inductive JsError where
  | typeError
  /-- Leaflet's `Error` for a coordinate that is not a number. -/
  | invalidLatLng
  deriving DecidableEq, Repr

section Geodesy

variable {N : Type} [Field N] [JsMath N]

/-- `EARTH_R`. -/
def earthR : N := 6378137

/-- `origin.lat * Math.PI / 180`. -/
def latRad (origin : LatLng N) : N := origin.lat * JsMath.pi / 180

/-- `toNED` (`index.html:303-309`). -/
def toNED (origin point : LatLng N) : Ned N where
  northM := (point.lat - origin.lat) * JsMath.pi / 180 * earthR
  eastM := (point.lng - origin.lng) * JsMath.pi / 180 * earthR * JsMath.cos (latRad origin)

/-- `toWGS84` (`index.html:311-317`). -/
def toWGS84 (origin : LatLng N) (ned : Ned N) : LatLng N where
  lat := origin.lat + ned.northM / earthR * 180 / JsMath.pi
  lng := origin.lng + ned.eastM / (earthR * JsMath.cos (latRad origin)) * 180 / JsMath.pi

/-- `parseFloat($("alt").value)`. -/
def altitudeOf (slider : Slider) : N := 1 + (slider.val : N) / 2

end Geodesy

/-- The object of `buildMission`. -/
structure Proposal (N : Type) where
  missionId : UUID
  description : String
  actions : List (MissionAction N)
  deriving DecidableEq

section Texts

variable {N : Type} [Field N] [LinearOrder N] [FloorRing N]

/-- A number as `JSON.stringify` writes it and `json.loads` reads it: a whole number below the bound
    is written without a fraction, and read as an `int`. -/
def writtenNumber (x : N) : Loaded N :=
  if x = ⌊x⌋ ∧ |x| < fixedBound then .int ⌊x⌋ else .float (.finite x)

/-- An action in the text of a proposal. -/
def writtenAction : MissionAction N → Loaded N
  | .takeoff altitude => .obj [("type", .str "takeoff"), ("altitude_m", writtenNumber altitude)]
  | .hold duration => .obj [("type", .str "hold"), ("duration_seconds", .int duration)]
  | .goto north east altitude =>
    .obj [("type", .str "goto"), ("north_m", writtenNumber north), ("east_m", writtenNumber east),
      ("altitude_m", writtenNumber altitude)]
  | .returnHome => .obj [("type", .str "return_home")]
  | .land => .obj [("type", .str "land")]

/-- The mission of a proposal, as the service reads it. -/
def Proposal.written (p : Proposal N) : Loaded N :=
  .obj [("mission_id", .str p.missionId.text), ("description", .str p.description),
    ("actions", .arr (p.actions.map writtenAction))]

/-- The body of the request: `JSON.stringify({ mission: buildMission() })`. -/
def Proposal.payload (p : Proposal N) : Loaded N := .obj [("mission", p.written)]

end Texts

/-- What the script keeps and shows. -/
structure Page (N : Type) where
  missionId : UUID
  home : Option (LatLng N)
  dest : Option (LatLng N)
  /-- `$("alt")`. -/
  alt : Slider
  homeMarker : Option (LatLng N)
  destMarker : Option (LatLng N)
  proposedLine : Option (List (LatLng N))
  normalizedLine : Option (List (LatLng N))
  /-- The centre of the ring. -/
  fence : Option (LatLng N)
  /-- `$("send").disabled`. -/
  sendDisabled : Bool
  /-- The state and the label of `setWire`. -/
  wire : String × String
  /-- `$("result").innerHTML`. -/
  result : Html.Template
  /-- `$("result").hidden`. -/
  resultHidden : Bool
  /-- `$("result-empty").hidden`. -/
  resultEmptyHidden : Bool

namespace Page

variable {N : Type}

/-- The page when it is loaded (`index.html:284-296`). -/
def load (missionId : UUID) (alt : Slider) : Page N where
  missionId := missionId
  home := none
  dest := none
  alt := alt
  homeMarker := none
  destMarker := none
  proposedLine := none
  normalizedLine := none
  fence := none
  sendDisabled := true
  wire := ("idle", "Idle")
  result := []
  resultHidden := true
  resultEmptyHidden := false

/-- The radius of the ring around the home, in metres (`index.html:351`). -/
def fenceRadius : Nat := 30

/-- A click on the map while there is no home (`index.html:322-329`). -/
def setHome (latlng : LatLng N) (page : Page N) : Page N :=
  { page with home := some latlng, homeMarker := some latlng, fence := some latlng }

/-- A click on the map when there is a home (`index.html:330-343`). `fresh` is
    `crypto.randomUUID()`. -/
def setDest (fresh : UUID) (home latlng : LatLng N) (page : Page N) : Page N :=
  { page with
    dest := some latlng
    missionId := fresh
    destMarker := some latlng
    sendDisabled := false
    proposedLine := some [home, latlng, home] }

/-- The slider is moved (`index.html:479-482`). -/
def setAlt (fresh : UUID) (alt : Slider) (page : Page N) : Page N :=
  { page with alt := alt, missionId := fresh }

/-- `reset` (`index.html:486-501`): all but the slider, and what the hidden box holds. -/
def reset (fresh : UUID) (page : Page N) : Page N :=
  { page with
    home := none
    dest := none
    missionId := fresh
    homeMarker := none
    destMarker := none
    proposedLine := none
    normalizedLine := none
    fence := none
    sendDisabled := true
    resultHidden := true
    resultEmptyHidden := false
    wire := ("idle", "Idle") }

/-- `setWire` (`index.html:377-380`). -/
def setWire (state label : String) (page : Page N) : Page N := { page with wire := (state, label) }

/-- The beginning of every result: the hint is hidden and the box is shown. -/
def showResult (page : Page N) : Page N :=
  { page with resultEmptyHidden := true, resultHidden := false }

/-- The result of `showUnreachable` (`index.html:406-417`). -/
def unreachableTemplate : Html.Template :=
  [.fixed "
    <div class=\"verdict verdict--rejected\">
      <div class=\"verdict__head\">No response</div>
      <p class=\"hint\">The validation service did not answer at that address.
      Start it with <code>python -m nightjar.service</code>, and on a device run
      <code>adb reverse tcp:8787 tcp:8787</code>.</p>
    </div>"]

/-- What `submit` does when no response can be read (`index.html:394-399`). -/
def fail (page : Page N) : Page N :=
  { (page.setWire "idle" "Unreachable").showResult with
    result := unreachableTemplate
    sendDisabled := false }

variable [Field N] [LinearOrder N] [FloorRing N] [JsMath N]

/-- `buildMission` (`index.html:362-375`). Without a home or a destination `toNED` throws. -/
def buildMission (page : Page N) : Except JsError (Proposal N) :=
  match page.home, page.dest with
  | some home, some dest =>
    let ned := toNED home dest
    let altitude := altitudeOf page.alt
    .ok
      { missionId := page.missionId
        description := "ATAK phase 0 probe: operator-selected destination."
        actions :=
          [.takeoff altitude,
            .goto (toFixedNumber 2 ned.northM) (toFixedNumber 2 ned.eastM) altitude,
            .returnHome, .land] }
  | _, _ => .error .typeError

end Page

section Values

variable {N : Type}

/-- The conversions of the language on a value that was read from JSON text, or on `undefined`. -/
structure Js (N : Type) where
  /-- `String(value)`. -/
  string : Option (Loaded N) → Except JsError String
  /-- The number that arithmetic makes of the value; `none` is `NaN`. -/
  number : Option (Loaded N) → Option N

/-- Strings and numbers are converted to themselves. -/
structure Js.Lawful [IntCast N] (js : Js N) : Prop where
  string : ∀ text, js.string (some (.str text)) = .ok text
  float : ∀ x, js.number (some (.float (.finite x))) = some x
  int : ∀ i : Int, js.number (some (.int i)) = some (i : N)

/-- `value.key`. -/
def property (key : String) : Option (Loaded N) → Except JsError (Option (Loaded N))
  | none => .error .typeError
  | some .null => .error .typeError
  | some (.obj fields) => .ok (fields.lookup key)
  | some _ => .ok none

/-- `if (value)`. -/
def truthy [Zero N] [DecidableEq N] : Option (Loaded N) → Bool
  | none => false
  | some .null => false
  | some (.bool b) => b
  | some (.int i) => i ≠ 0
  | some (.float (.finite x)) => x ≠ 0
  | some (.float .nan) => false
  | some (.float .posInf) => true
  | some (.float .negInf) => true
  | some (.str text) => text ≠ ""
  | some (.arr _) => true
  | some (.obj _) => true

/-- What `for (const item of value)` goes through. -/
def iterated : Option (Loaded N) → Except JsError (List (Loaded N))
  | some (.arr items) => .ok items
  | some (.str text) => .ok (text.toList.map fun c => .str (String.ofList [c]))
  | _ => .error .typeError

/-- `body.reasons.map((r) => …).join("")`: the texts of the reasons. -/
def reasonTexts (js : Js N) : Option (Loaded N) → Except JsError (List String)
  | some (.arr items) => items.mapM fun item => js.string (some item)
  | _ => .error .typeError

end Values

section Templates

/-- The list of reasons. -/
def reasonItems (reasons : List String) : Html.Template :=
  reasons.flatMap fun reason => [.fixed "<li>", .escaped reason, .fixed "</li>"]

/-- The result for a body that reports an error (`index.html:425-430`). -/
def malformedTemplate (reasons : List String) (authorization : String) : Html.Template :=
  [.fixed "
      <div class=\"verdict verdict--rejected\">
        <div class=\"verdict__head\">Malformed proposal</div>
        <ul class=\"reasons\">"] ++ reasonItems reasons ++
  [.fixed "</ul>
        <div class=\"stamp-auth\">Authorization: ", .escaped authorization, .fixed "</div>
      </div>"]

/-- The head of a decision, with the reasons of a rejection (`index.html:436-440`). -/
def verdictTemplate : Option (List String) → Html.Template
  | none => [.fixed "
    <div class=\"verdict verdict--approved\">
      <div class=\"verdict__head\">Policy approved</div>
      <p class=\"hint\">Within altitude, distance, aggregate budget and termination limits.</p>"]
  | some reasons => [.fixed "
    <div class=\"verdict verdict--rejected\">
      <div class=\"verdict__head\">Policy rejected</div>
      <ul class=\"reasons\">"] ++ reasonItems reasons ++ [.fixed "</ul>"]

/-- The result for a decision; `rejection` is the reasons when it is not approved
    (`index.html:435-448`). -/
def decidedTemplate (rejection : Option (List String)) (missionSha256 policySha256 : String) :
    Html.Template :=
  verdictTemplate rejection ++
  [.fixed "
      <div class=\"stamp-auth\">Authorization: required — not granted</div>
      <div style=\"margin-top:12px\">
        <div class=\"row\"><span>mission_sha256</span><span></span></div>
        <div class=\"hash\">", .escaped missionSha256, .fixed "</div>
        <div class=\"row\" style=\"margin-top:6px\"><span>policy_sha256</span><span></span></div>
        <div class=\"hash\">", .escaped policySha256, .fixed "</div>
      </div>
    </div>"]

end Templates

section Scripts

variable {N : Type} [Field N] [LinearOrder N] [FloorRing N] [JsMath N]

/-- A part of the script. -/
abbrev Script (N : Type) (α : Type) : Type := Prog (Page N) JsError α

/-- The points that the actions of a mission add to the track (`index.html:459-465`); `none` is a
    point with a coordinate that is not a number. -/
def trackPoints (js : Js N) (home : LatLng N) :
    List (Loaded N) → Except JsError (List (Option (LatLng N)))
  | [] => .ok []
  | action :: rest => do
    let type ← property "type" (some action)
    match type with
    | some (.str "goto") => do
      let north ← property "north_m" (some action)
      let east ← property "east_m" (some action)
      let point := (js.number north).bind fun northM =>
        (js.number east).map fun eastM => toWGS84 home ⟨northM, eastM⟩
      let points ← trackPoints js home rest
      .ok (point :: points)
    | some (.str "return_home") => do
      let points ← trackPoints js home rest
      .ok (some home :: points)
    | _ => trackPoints js home rest

/-- The polyline through points: Leaflet refuses a coordinate that is not a number. -/
def polylineOf (points : List (Option (LatLng N))) : Except JsError (List (LatLng N)) :=
  match points.mapM id with
  | some line => .ok line
  | none => .error .invalidLatLng

/-- `drawNormalized` (`index.html:453-470`). The line of an earlier answer goes first, whatever is
    thrown later. -/
def drawNormalized (js : Js N) (mission : Option (Loaded N)) : Script N Unit := do
  Prog.modify fun page => { page with normalizedLine := none }
  let page ← Prog.read
  match page.home with
  | none => Prog.raise .typeError
  | some home => do
    let actions ← Prog.lift (property "actions" mission)
    let items ← Prog.lift (iterated actions)
    let points ← Prog.lift (trackPoints js home items)
    let line ← Prog.lift (polylineOf (some home :: points))
    Prog.modify fun page => { page with normalizedLine := some line }

/-- The reasons that a decision shows: those of a rejection. -/
def rejectionOf (js : Js N) (body : Option (Loaded N)) :
    Except JsError (Option (List String)) := do
  let approved ← property "approved" body
  if truthy approved then .ok none
  else do
    let reasons ← property "reasons" body
    let texts ← reasonTexts js reasons
    .ok (some texts)

/-- `render` (`index.html:419-451`). -/
def render (js : Js N) (body : Loaded N) : Script N Unit := do
  Prog.modify Page.showResult
  let error ← Prog.lift (property "error" (some body))
  if truthy error then do
    let reasons ← Prog.lift (property "reasons" (some body))
    let texts ← Prog.lift (reasonTexts js reasons)
    let status ← Prog.lift (property "authorization" (some body))
    let authorization ← Prog.lift (js.string status)
    Prog.modify fun page => { page with result := malformedTemplate texts authorization }
  else do
    let rejection ← Prog.lift (rejectionOf js (some body))
    let missionHash ← Prog.lift (property "mission_sha256" (some body))
    let missionSha256 ← Prog.lift (js.string missionHash)
    let policyHash ← Prog.lift (property "policy_sha256" (some body))
    let policySha256 ← Prog.lift (js.string policyHash)
    Prog.modify fun page =>
      { page with result := decidedTemplate rejection missionSha256 policySha256 }
    let mission ← Prog.lift (property "normalized_mission" (some body))
    drawNormalized js mission

/-- What `submit` does with a response (`index.html:401-403`). What is thrown here is not caught,
    and the button stays as it is. -/
def Page.respond (js : Js N) (body : Loaded N) : Script N Unit := do
  Prog.modify (Page.setWire "done" "Response received")
  render js body
  Prog.modify fun page => { page with sendDisabled := false }

end Scripts

end Phase0Map

end Nightjar
