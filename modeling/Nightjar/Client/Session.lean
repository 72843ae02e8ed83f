import Nightjar.Client.Phase0Map
import Nightjar.Interact.Transition

/-!
# A session on the map client

The operator and the network move in any order: the operator clicks on the map, moves the slider,
sends and resets, also while requests are in flight; each request in flight is settled once, by a
response or by a failure, and requests may be settled in any order.
-/

namespace Nightjar

open Python Interact JavaScript

namespace Phase0Map

/-- What happens on the page. -/
inductive Label (N : Type) where
  | click (latlng : LatLng N)
  | slide (alt : Slider)
  | submit
  | reset
  /-- A request is settled, by a response with a body that was read as JSON or by a failure. -/
  | settle (request : Nat) (answer : Option (Loaded N))

/-- The operator changes nothing that is proposed. -/
def Label.Quiet {N : Type} : Label N → Prop
  | .click _ => False
  | .slide _ => False
  | .submit => True
  | .reset => False
  | .settle _ _ => True

/-- The two points stay where they are. -/
def Label.KeepsPoints {N : Type} : Label N → Prop
  | .click _ => False
  | .slide _ => True
  | .submit => True
  | .reset => False
  | .settle _ _ => True

/-- The page, and what went over the network. -/
structure Session (N : Type) where
  page : Page N
  /-- How often `crypto.randomUUID()` was called. -/
  uuids : Nat
  /-- The proposals of the requests, in the order in which they were sent. -/
  sent : List (Proposal N)
  /-- The requests in flight. -/
  inFlight : List Nat

namespace Session

variable {N : Type} (uuid : Nat → UUID)

/-- The session when the page is loaded. -/
def load (alt : Slider) : Session N where
  page := .load (uuid 0) alt
  uuids := 1
  sent := []
  inFlight := []

variable [Field N] [LinearOrder N] [FloorRing N] [JsMath N] (js : Js N)

/-- A click on the map (`index.html:321-345`). -/
def click (latlng : LatLng N) (s : Session N) : Session N :=
  match s.page.home with
  | none => { s with page := s.page.setHome latlng }
  | some home =>
    { s with page := s.page.setDest (uuid s.uuids) home latlng, uuids := s.uuids + 1 }

/-- `submit` up to its first `await` (`index.html:382-392`). A `buildMission` that throws is caught,
    and nothing is sent. -/
def submit (s : Session N) : Session N :=
  let page := { s.page.setWire "sending" "Sending" with sendDisabled := true }
  match page.buildMission with
  | .ok proposal =>
    { s with page := page, sent := s.sent ++ [proposal], inFlight := s.sent.length :: s.inFlight }
  | .error _ => { s with page := page.fail }

/-- The rest of `submit` (`index.html:393-404`). -/
def settle (request : Nat) (answer : Option (Loaded N)) (s : Session N) : Session N :=
  { s with
    inFlight := s.inFlight.erase request
    page := match answer with
      | none => s.page.fail
      | some body => (Page.respond js body s.page).2 }

/-- One event. The button does nothing while it is disabled. -/
def step (s : Session N) : Label N → Option (Session N)
  | .click latlng => some (s.click uuid latlng)
  | .slide alt => some { s with page := s.page.setAlt (uuid s.uuids) alt, uuids := s.uuids + 1 }
  | .submit => if s.page.sendDisabled then none else some s.submit
  | .reset => some { s with page := s.page.reset (uuid s.uuids), uuids := s.uuids + 1 }
  | .settle request answer =>
    if request ∈ s.inFlight then some (s.settle js request answer) else none

/-- A step of a session. -/
def Step (s : Session N) (label : Label N) (t : Session N) : Prop := s.step uuid js label = some t

end Session

end Phase0Map

end Nightjar
