import Nightjar.Interact.Weave
import Nightjar.MavsdkExecutor

/-!
# The course of a flight

The abstract model of a run of `_execute`: where a flight can be (`Stage`), the history that leads
there, and what the flags are. A stage carries what the run has learned, so a history cannot claim
a comparison that was not made. The marks of a history are events; an audit record after takeoff is
an attempt, whatever the writer does, and the item that confirms a landing is tied to the stream
that was opened for it.
-/

namespace Nightjar

open Python Interact

/-- A step of a history. -/
inductive Mark (N : Type) where
  | exactly (event : Event N)
  /-- A record given to the writer, which answers as the environment says. -/
  | attempt (record : AuditRecord N)
  /-- The item on which a landing wait returns. -/
  | landing (item : Flag)

namespace Mark

variable {N : Type}

/-- The item is the first of its stream that is not true, and the stream was opened right after
    a `land` command returned. -/
def ConfirmsLanding (env : Env N) (trace : List (Event N)) (item : Flag) : Prop :=
  ∃ opened seen, trace = opened ++ seen.map Event.inAir ∧
    opened.getLast? = some (.returned .land) ∧ (∀ flag ∈ seen, flag.truthy = true) ∧
    item.truthy = false ∧ seen ++ [item] <+: (env.inAir opened).items

/-- The event of a mark, after a trace. -/
def Happens (env : Env N) (trace : List (Event N)) : Mark N → Event N → Prop
  | exactly event, e => e = event
  | attempt record, e => e = .audit record (env.audit trace record)
  | landing item, e => e = .inAir item ∧ ConfirmsLanding env trace item

/-- Events between the marks: items a wait passes over, and the fallback line of the audit
    writer. -/
def Noise : Event N → Prop
  | .connection isConnected => isConnected = false
  | .health item => item.isOk = false
  | .armed item => item ≠ .exactTrue
  | .inAir item => item.truthy = true
  | .position _ => True
  | .stderr _ => True
  | _ => False

end Mark

section Flight

variable {N : Type} [Field N] [LinearOrder N] [FloorRing N] [PyMath N] [PyText N] [Crypto]

/-- A run's arguments, with the plan that an accepted mission has. -/
structure Flight (N : Type) [Field N] [LinearOrder N] [FloorRing N] [PyMath N] [PyText N]
    [Crypto] where
  x : MavsdkExecutor N
  env : Env N
  mission : Mission N
  approval : SignedApproval
  altitude : N
  holds : List Int
  plan : mission.actions = .takeoff altitude :: (holds.map .hold ++ [.land])

/-- A home that was read: the telemetry item and its snapshot. -/
structure Located (N : Type) where
  reading : HomeReading N
  live : HomeSnapshot N
  captured : ∃ now, snapshotFromTelemetry reading.latitudeDeg reading.longitudeDeg
    reading.absoluteAltitudeM none now = .ok live

/-- A check of a home that was read against the bound home. -/
structure Compared (f : Flight N) extends Located N where
  bound : HomeSnapshot N
  within : Bool
  rebuilt : boundHome f.approval = .ok bound
  checked : f.x.checkHome bound live = .ok (within, homeSha256 bound)

/-- A comparison that found the home within tolerance. -/
structure Passed (f : Flight N) extends Compared f where
  passed : within = true

/-- What must have been learned when `takeoff` is called: the homes before and after arming. -/
structure Cleared (f : Flight N) where
  before : Passed f
  after : Passed f

/-- What must have been learned when the climb is done: a position that was high enough. -/
structure Climbed (f : Flight N) extends Cleared f where
  position : Reading N
  high : position.atLeast (f.x.minimumAltitudeM f.altitude) = true

namespace Flight

variable (f : Flight N)

/-- A record of the mission. -/
def record (event : AuditEvent N) : AuditRecord N := ⟨f.mission.missionId, event⟩

/-- A record that was written. -/
def written (event : AuditEvent N) : Mark N := .exactly (.audit (f.record event) none)

/-- A record that was attempted. -/
def attempted (event : AuditEvent N) : Mark N := .attempt (f.record event)

/-- The record of a comparison. -/
def homeCheck (phase : HomePhase) (c : Compared f) : AuditEvent N :=
  .homeCheck phase (homeSha256 c.bound) c.within c.bound c.live

/-- The marks of a home that was read. -/
def homeMarks (l : Located N) : List (Mark N) :=
  [.exactly (.health .good), .exactly (.home l.reading), .exactly (.confirmed .home)]

/-- The marks of a completed hold. -/
def holdMarks (sequence : Nat) (duration : Int) : List (Mark N) :=
  [f.attempted (.actionStarted sequence (.hold duration)), .exactly (.issued (.sleep duration)),
    .exactly (.returned (.sleep duration)), f.attempted (.actionCompleted sequence .hold)]

/-- The marks of consecutive completed holds. -/
def holdsMarks : Nat → List Int → List (Mark N)
  | _, [] => []
  | sequence, duration :: rest => f.holdMarks sequence duration ++ holdsMarks (sequence + 1) rest

theorem holdsMarks_append (sequence : Nat) (done rest : List Int) :
    f.holdsMarks sequence (done ++ rest) =
      f.holdsMarks sequence done ++ f.holdsMarks (sequence + done.length) rest := by
  induction done generalizing sequence with
  | nil => rfl
  | cons duration done ih =>
    have shift : sequence + 1 + done.length = sequence + (duration :: done).length := by
      simp only [List.length_cons]
      omega
    rw [List.cons_append, holdsMarks, ih, holdsMarks, List.append_assoc, shift]

/-- The sequence number of the landing. -/
def landSequence : Nat := f.holds.length + 2

/-- Up to the connection. -/
def linkHistory : List (Mark N) :=
  [.exactly .systemFactoryCalled, .exactly .systemCreated,
    f.written (.missionStarted f.mission.description f.x.systemAddress),
    .exactly (.issued (.connect f.x.systemAddress)),
    .exactly (.returned (.connect f.x.systemAddress)), .exactly (.connection true),
    .exactly (.confirmed .connection)]

/-- Up to the comparison before arming. -/
def checkHistory (c : Compared f) : List (Mark N) :=
  f.linkHistory ++ homeMarks c.toLocated ++ [f.written (f.homeCheck .preArm c)]

/-- Up to the accepted takeoff altitude. -/
def configureHistory (p : Passed f) : List (Mark N) :=
  f.checkHistory p.toCompared ++
    [f.written (.actionStarted 1 (.takeoff f.altitude)),
      .exactly (.issued (.setTakeoffAltitude f.altitude)),
      .exactly (.returned (.setTakeoffAltitude f.altitude))]

/-- Up to the confirmed arming. -/
def armHistory (p : Passed f) : List (Mark N) :=
  f.configureHistory p ++
    [.exactly (.issued .arm), .exactly (.returned .arm), .exactly (.armed .exactTrue),
      .exactly (.confirmed .armed)]

/-- Up to the comparison after arming. -/
def recheckHistory (p : Passed f) (c : Compared f) : List (Mark N) :=
  f.armHistory p ++ homeMarks c.toLocated ++ [f.written (f.homeCheck .postArm c)]

/-- Up to the takeoff altitude. -/
def climbHistory (c : Climbed f) : List (Mark N) :=
  f.recheckHistory c.before c.after.toCompared ++
    [.exactly (.issued .takeoff), .exactly (.returned .takeoff), .exactly (.position c.position),
      .exactly (.confirmed .altitude)]

/-- Up to some of the holds. -/
def cruiseHistory (c : Climbed f) (done : List Int) : List (Mark N) :=
  f.climbHistory c ++ [f.attempted (.actionCompleted 1 .takeoff)] ++ f.holdsMarks 2 done

/-- Up to the confirmed landing. -/
def landHistory (c : Climbed f) (item : Flag) : List (Mark N) :=
  f.cruiseHistory c f.holds ++
    [f.attempted (.actionStarted f.landSequence .land), .exactly (.issued .land),
      .exactly (.returned .land), .landing item, .exactly (.confirmed .landing)]

/-- The whole flight. -/
def completeHistory (c : Climbed f) (item : Flag) : List (Mark N) :=
  f.landHistory c item ++
    [f.attempted (.actionCompleted f.landSequence .land), f.attempted .missionCompleted]

end Flight

/-- The check of a live home against the bound one raises, in the comparison or in what is to be
    recorded. -/
def MavsdkExecutor.CheckRaises (x : MavsdkExecutor N) (approval : SignedApproval)
    (live : HomeSnapshot N) : Prop :=
  ∃ bound e, boundHome approval = .ok bound ∧ x.checkHome bound live = .error e

/-- The check of a home that was read raises. -/
def Incomparable (f : Flight N) (l : Located N) : Prop := f.x.CheckRaises f.approval l.live

/-- The audit writer can refuse a record of the mission. -/
def Refused (f : Flight N) (event : AuditEvent N) : Prop :=
  ∃ t e, f.env.audit t (f.record event) = some e

/-- Where a flight can fail. The arguments are what was learned before. -/
inductive Stage (f : Flight N) where
  | creating (refused : ∃ t e, f.env.systemFactory t = some e)
  | unstarted (refused : Refused f (.missionStarted f.mission.description f.x.systemAddress))
  | connecting
  | connected
  | linked
  | reachable
  | healthy
  | sighted (reading : HomeReading N)
  | located (l : Located N) (incomparable : Incomparable f l)
  | unchecked (c : Compared f) (refused : Refused f (f.homeCheck .preArm c))
  | mismatched (c : Compared f) (outside : c.within = false)
  | unannounced (p : Passed f) (refused : Refused f (.actionStarted 1 (.takeoff f.altitude)))
  | configuring (p : Passed f)
  | arming (p : Passed f)
  | armSent (p : Passed f)
  | armSeen (p : Passed f)
  | armed (p : Passed f)
  | rehealthy (p : Passed f)
  | resighted (p : Passed f) (reading : HomeReading N)
  | relocated (p : Passed f) (l : Located N) (incomparable : Incomparable f l)
  | unrechecked (p : Passed f) (c : Compared f) (refused : Refused f (f.homeCheck .postArm c))
  | moved (p : Passed f) (c : Compared f) (outside : c.within = false)
  | launching (c : Cleared f)
  | launched (c : Cleared f)
  | high (c : Climbed f)
  | cruising (c : Climbed f) (done : List Int) (some_done : done <+: f.holds)
  | holdAnnounced (c : Climbed f) (done : List Int) (duration : Int)
      (next : done ++ [duration] <+: f.holds)
  | holding (c : Climbed f) (done : List Int) (duration : Int)
      (next : done ++ [duration] <+: f.holds)
  | landAnnounced (c : Climbed f)
  | landing (c : Climbed f)
  | landSent (c : Climbed f)
  | landSeen (c : Climbed f) (item : Flag)
  | reported (c : Climbed f) (item : Flag)

namespace Stage

variable {f : Flight N}

/-- The history that leads to a stage. -/
def history : Stage f → List (Mark N)
  | creating _ => f.linkHistory.take 1
  | unstarted _ =>
      f.linkHistory.take 2 ++
        [f.attempted (.missionStarted f.mission.description f.x.systemAddress)]
  | connecting => f.linkHistory.take 4
  | connected => f.linkHistory.take 5
  | linked => f.linkHistory.take 6
  | reachable => f.linkHistory
  | healthy => f.linkHistory ++ [.exactly (.health .good)]
  | sighted reading =>
      f.linkHistory ++ [.exactly (.health .good), .exactly (.home reading)]
  | located l _ => f.linkHistory ++ Flight.homeMarks l
  | unchecked c _ =>
      f.linkHistory ++ Flight.homeMarks c.toLocated ++ [f.attempted (f.homeCheck .preArm c)]
  | mismatched c _ => f.checkHistory c
  | unannounced p _ =>
      f.checkHistory p.toCompared ++ [f.attempted (.actionStarted 1 (.takeoff f.altitude))]
  | configuring p =>
      f.checkHistory p.toCompared ++ [f.written (.actionStarted 1 (.takeoff f.altitude)),
        .exactly (.issued (.setTakeoffAltitude f.altitude))]
  | arming p => f.configureHistory p ++ [.exactly (.issued .arm)]
  | armSent p => f.configureHistory p ++ [.exactly (.issued .arm), .exactly (.returned .arm)]
  | armSeen p =>
      f.configureHistory p ++ [.exactly (.issued .arm), .exactly (.returned .arm),
        .exactly (.armed .exactTrue)]
  | armed p => f.armHistory p
  | rehealthy p => f.armHistory p ++ [.exactly (.health .good)]
  | resighted p reading =>
      f.armHistory p ++ [.exactly (.health .good), .exactly (.home reading)]
  | relocated p l _ => f.armHistory p ++ Flight.homeMarks l
  | unrechecked p c _ =>
      f.armHistory p ++ Flight.homeMarks c.toLocated ++ [f.attempted (f.homeCheck .postArm c)]
  | moved p c _ => f.recheckHistory p c
  | launching c => f.recheckHistory c.before c.after.toCompared ++ [.exactly (.issued .takeoff)]
  | launched c =>
      f.recheckHistory c.before c.after.toCompared ++
        [.exactly (.issued .takeoff), .exactly (.returned .takeoff)]
  | high c =>
      f.recheckHistory c.before c.after.toCompared ++
        [.exactly (.issued .takeoff), .exactly (.returned .takeoff),
          .exactly (.position c.position)]
  | cruising c done _ => f.cruiseHistory c done
  | holdAnnounced c done duration _ =>
      f.cruiseHistory c done ++ (f.holdMarks (2 + done.length) duration).take 1
  | holding c done duration _ =>
      f.cruiseHistory c done ++ (f.holdMarks (2 + done.length) duration).take 2
  | landAnnounced c =>
      f.cruiseHistory c f.holds ++ [f.attempted (.actionStarted f.landSequence .land)]
  | landing c =>
      f.cruiseHistory c f.holds ++ [f.attempted (.actionStarted f.landSequence .land),
        .exactly (.issued .land)]
  | landSent c =>
      f.cruiseHistory c f.holds ++ [f.attempted (.actionStarted f.landSequence .land),
        .exactly (.issued .land), .exactly (.returned .land)]
  | landSeen c item =>
      f.cruiseHistory c f.holds ++ [f.attempted (.actionStarted f.landSequence .land),
        .exactly (.issued .land), .exactly (.returned .land), .landing item]
  | reported c item =>
      f.landHistory c item ++ [f.attempted (.actionCompleted f.landSequence .land)]

/-- The flags at a stage: recovery is required from the call of `arm` until the landing is
    confirmed, takeoff is attempted from its call on, and the flight is committed once it
    returned. -/
def flags : Stage f → Flags
  | creating _ | unstarted _ | connecting | connected | linked | reachable | healthy | sighted _
  | located _ _ | unchecked _ _ | mismatched _ _ | unannounced _ _ | configuring _ => .initial
  | arming _ | armSent _ | armSeen _ | armed _ | rehealthy _ | resighted _ _ | relocated _ _ _
  | unrechecked _ _ _ | moved _ _ _ => ⟨false, true, false⟩
  | launching _ => ⟨false, true, true⟩
  | launched _ | high _ | cruising _ _ _ | holdAnnounced _ _ _ _ | holding _ _ _ _
  | landAnnounced _ | landing _ | landSent _ | landSeen _ _ => ⟨true, true, true⟩
  | reported _ _ => ⟨true, false, true⟩

/-- The landing is confirmed; only the audit writer is called from here on. -/
def Settled : Stage f → Prop
  | reported _ _ => True
  | _ => False

/-- Before the `try` of `_execute`. -/
def Early : Stage f → Prop
  | creating _ | unstarted _ => True
  | _ => False

end Stage

/-- Where a recovery ends. Before a takeoff was attempted it may end without a choice; otherwise it
    has called `land` unless its time limit is not positive. -/
inductive Cleanup (x : MavsdkExecutor N) (takeoffAttempted : Bool) where
  | begun (undecided : x.landingTimeoutSeconds ≤ 0 ∨ takeoffAttempted = false)
  | refused (truthy : Bool) (grounded : takeoffAttempted = false)
  | disarming (grounded : takeoffAttempted = false)
  | disarmed (grounded : takeoffAttempted = false)
  | landing
  | landSent
  | landSeen (item : Flag)
  | landed (item : Flag)

namespace Cleanup

/-- What precedes the landing of a recovery: nothing after an attempted takeoff, else an item that
    says the vehicle is in the air. -/
def beforeLanding (N : Type) (takeoffAttempted : Bool) : List (Mark N) :=
  if takeoffAttempted = false then [.exactly (.cleanupInAir .exactTrue)] else []

variable {x : MavsdkExecutor N} {takeoffAttempted : Bool}

/-- The marks of a recovery, after its start. -/
def marks : Cleanup x takeoffAttempted → List (Mark N)
  | begun _ => []
  | refused truthy _ => [.exactly (.cleanupInAir (.invalid truthy))]
  | disarming _ => [.exactly (.cleanupInAir .exactFalse), .exactly (.issued .disarm)]
  | disarmed _ =>
      [.exactly (.cleanupInAir .exactFalse), .exactly (.issued .disarm),
        .exactly (.returned .disarm)]
  | landing => beforeLanding N takeoffAttempted ++ [.exactly (.issued .land)]
  | landSent =>
      beforeLanding N takeoffAttempted ++ [.exactly (.issued .land), .exactly (.returned .land)]
  | landSeen item =>
      beforeLanding N takeoffAttempted ++ [.exactly (.issued .land), .exactly (.returned .land),
        .landing item]
  | landed item =>
      beforeLanding N takeoffAttempted ++ [.exactly (.issued .land), .exactly (.returned .land),
        .landing item, .exactly (.confirmed .landing)]

/-- A status that a recovery can report when it came this far. -/
def Reports (c : Cleanup x takeoffAttempted) : RecoveryStatus → Prop
  | .notRequired => False
  | .disarmAccepted => ∃ grounded, c = disarmed grounded
  | .landingConfirmed => ∃ item, c = landed item
  | .failed => True

end Cleanup

/-- What follows the history of a stage in the handler: nothing, or a recovery. -/
def Tail (x : MavsdkExecutor N) (flags : Flags) (status : RecoveryStatus)
    (tail : List (Mark N)) : Prop :=
  (flags.recoveryRequired = false ∧ status = .notRequired ∧ tail = []) ∨
    (flags.recoveryRequired = true ∧ ∃ c : Cleanup x flags.takeoffAttempted, c.Reports status ∧
      tail = .exactly .recoveryStarted :: c.marks)

end Flight

end Nightjar
