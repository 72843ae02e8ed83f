import Nightjar.Cli.HomeSnapshot
import Nightjar.Cli.Proofs.Actions
import Nightjar.Flight.Calm

/-!
# The captured home and the home of a flight

`_home_snapshot` and the two waits of the executor, over the same telemetry: they agree just when
the health items have the attributes that are read, and no home is sighted, or the vehicle is
connected and the first home is finite.
-/

namespace Nightjar

open Python Interact Exec

section Telemetry

variable {N : Type}

/-- The vehicle's `connect` returns, and its telemetry has these items, without delay. -/
structure Vehicle.Offers (vehicle : Vehicle N) (connection : List Bool) (health : List Health)
    (home : List (HomeReading N)) : Prop where
  connects : ∀ trace address, vehicle.command trace (.connect address) = none
  connectionState : ∀ trace, vehicle.connectionState trace = ⟨connection, .exhausted⟩
  exposesHealth : ∀ trace, vehicle.exposesHealth trace = true
  exposesHome : ∀ trace, vehicle.exposesHome trace = true
  health : ∀ trace, vehicle.health trace = ⟨health, .exhausted⟩
  home : ∀ trace, vehicle.home trace = ⟨home, .exhausted⟩
  interrupt : ∀ trace, vehicle.interrupt trace = none

/-- The home that is read: the first, when the health is good at some time. -/
def firstHome (health : List Health) (home : List (HomeReading N)) : Option (HomeReading N) :=
  if health.any Health.isOk then home.head? else none

/-- The item has `is_home_position_ok`, and `is_global_position_ok` where that is true. -/
def Health.Complete (health : Health) : Prop :=
  health.isHomePositionOk ≠ none ∧
    (health.isHomePositionOk = some true → health.isGlobalPositionOk ≠ none)

/-- The items up to the first good one have the attributes that are read of them. -/
def Attributed (health : List Health) : Prop :=
  ∀ item ∈ health.takeWhile fun item => ¬ item.isOk, item.Complete

/-- The snapshot of a reading. -/
def HomeReading.snapshot (reading : HomeReading N) (now : Timestamp) :
    Except PyExc (HomeSnapshot N) :=
  snapshotFromTelemetry reading.latitudeDeg reading.longitudeDeg reading.absoluteAltitudeM none now

/-- A reading whose values are finite. -/
def HomeReading.IsFinite (reading : HomeReading N) : Prop :=
  ∃ latitude longitude altitude, reading.latitudeDeg = .finite latitude ∧
    reading.longitudeDeg = .finite longitude ∧ reading.absoluteAltitudeM = .finite altitude

/-- A reading that is not finite has no snapshot. -/
theorem snapshot_cases (reading : HomeReading N) (now : Timestamp) :
    (reading.IsFinite ∧ ∃ snapshot, reading.snapshot now = .ok snapshot) ∨
      ¬ reading.IsFinite ∧ reading.snapshot now = .error (.validation "HomeSnapshot") := by
  obtain ⟨latitude, longitude, altitude⟩ := reading
  cases latitude with
  | finite x =>
    cases longitude with
    | finite y =>
      cases altitude with
      | finite z => exact Or.inl ⟨⟨x, y, z, rfl, rfl, rfl⟩, _, rfl⟩
      | _ => exact Or.inr ⟨by simp [HomeReading.IsFinite], rfl⟩
    | _ => exact Or.inr ⟨by simp [HomeReading.IsFinite], rfl⟩
  | _ => exact Or.inr ⟨by simp [HomeReading.IsFinite], rfl⟩

variable [Field N] [LinearOrder N] [FloorRing N]

/-- The canonical home does not depend on the time of the reading. -/
theorem canonical_of_snapshot {reading : HomeReading N} {now now' : Timestamp}
    {a b : HomeSnapshot N} (first : reading.snapshot now = .ok a)
    (second : reading.snapshot now' = .ok b) : a.canonical = b.canonical := by
  obtain ⟨latitude, longitude, altitude⟩ := reading
  cases latitude <;> cases longitude <;> cases altitude <;> cases first
  cases second
  rfl

end Telemetry

section Stages

variable {N : Type} {env : Env N} {connection : List Bool} {health : List Health}
  {home : List (HomeReading N)}

/-- The stage that the copies share: the home. -/
def sight (env : Env N) : Exec N (HomeSnapshot N) := do
  let homeStream ← ask env.home
  let home ← awaitItem .home (fun _ => true) homeStream
    (.homeUnavailable "Home stream ended before a position arrived.")
  let now ← ask env.utcNow
  Prog.lift (snapshotFromTelemetry home.latitudeDeg home.longitudeDeg home.absoluteAltitudeM none
    now)

/-- What is sighted: the snapshot of the first home, or no home. -/
def Sighted (first : Option (HomeReading N)) (r : Except PyExc (HomeSnapshot N)) : Prop :=
  match first with
  | none => ∃ text, r = .error (.homeUnavailable text)
  | some reading => ∃ now, r = reading.snapshot now

theorem ends_sight (offers : env.toVehicle.Offers connection health home) :
    Prog.Ends (sight env) (Sighted home.head?) := by
  have first : home.find? (fun _ => true) = home.head? := by
    cases home <;> rfl
  refine Prog.ends_bind_ok (ends_ask offers.home) ?_
  have homed := ends_awaitItem (Event.home (N := N)) (fun _ => true) home
    (.homeUnavailable "Home stream ended before a position arrived.")
  rw [first] at homed
  cases head : home.head? with
  | none =>
    rw [head] at homed
    exact Prog.ends_bind_error homed ⟨_, rfl⟩
  | some reading =>
    rw [head] at homed
    refine Prog.ends_bind_ok homed ?_
    intro s
    exact ⟨env.utcNow s.trace, rfl⟩

/-- A flight waits for a good item, whatever attributes the others lack. -/
theorem ends_healthThenSight (offers : env.toVehicle.Offers connection health home) :
    Prog.Ends (do
      let healthStream ← ask env.health
      let _ ← awaitItem .health Health.isOk healthStream
        (.homeUnavailable "Health stream ended before home was OK.")
      sight env) (Sighted (firstHome health home)) := by
  refine Prog.ends_bind_ok (ends_ask offers.health) ?_
  have healthy := ends_awaitItem (Event.health (N := N)) Health.isOk health
    (.homeUnavailable "Health stream ended before home was OK.")
  cases found : health.find? Health.isOk with
  | none =>
    have bad : health.any Health.isOk = false := by
      rw [List.any_eq_false]
      exact List.find?_eq_none.mp found
    rw [found] at healthy
    refine Prog.ends_bind_error healthy ?_
    rw [firstHome, bad]
    exact ⟨_, rfl⟩
  | some item =>
    have some_good : health.any Health.isOk = true :=
      List.any_eq_true.mpr ⟨item, List.mem_of_find?_eq_some found, List.find?_some found⟩
    rw [found] at healthy
    rw [firstHome, some_good]
    exact Prog.ends_bind_ok healthy (ends_sight offers)

/-- What the command reads of an item: whether it is good, where the attributes are there. -/
theorem readHealth_cases (item : Health) :
    item.Complete ∧ Cli.readHealth item = .ok item.isOk ∨
      ¬ item.Complete ∧ item.isOk = false ∧
        ∃ text, Cli.readHealth item = .error ⟨.other "AttributeError", text⟩ := by
  obtain ⟨homeOk, globalOk⟩ := item
  rcases homeOk with _ | _ | _
  · exact Or.inr ⟨fun complete => complete.1 rfl, rfl, _, rfl⟩
  · exact Or.inl ⟨⟨by simp, by simp⟩, rfl⟩
  · rcases globalOk with _ | global
    · exact Or.inr ⟨fun complete => complete.2 rfl rfl, rfl, _, rfl⟩
    · exact Or.inl ⟨⟨by simp, by simp⟩, rfl⟩

theorem attributed_cons {item : Health} {items : List Health} :
    Attributed (item :: items) ↔ item.isOk = true ∨ item.Complete ∧ Attributed items := by
  cases good : item.isOk with
  | true => simp [Attributed, good]
  | false => simp [Attributed, good]

/-- The loop of the command over the health items finds a good one, or raises where an attribute is
    missing. -/
theorem ends_readHealths (items : List Health) :
    Prog.Ends
      (Prog.forStream
        (fun health => do
          emit (.health health)
          let ok ← Prog.lift (Cli.readHealth health)
          pure (if ok then some () else none))
        items .exhausted : Exec N (Option Unit))
      fun r => Attributed items ∧
          r = .ok (if items.any Health.isOk then some () else none) ∨
        ¬ Attributed items ∧ ∃ text, r = .error ⟨.other "AttributeError", text⟩ := by
  induction items with
  | nil => exact Prog.ends_pure (Or.inl ⟨fun item member => by simp at member, rfl⟩)
  | cons item items ih =>
    rcases readHealth_cases item with ⟨complete, read⟩ | ⟨incomplete, bad, text, raised⟩
    · refine Prog.ends_bind_ok (a := if item.isOk then some () else none)
        (Prog.ends_bind_ok (ends_emit _)
          (Prog.ends_bind_ok (Prog.ends_lift read) (Prog.ends_pure rfl))) ?_
      cases good : item.isOk with
      | true =>
        refine Prog.ends_pure (Or.inl ⟨attributed_cons.mpr (Or.inl good), ?_⟩)
        simp [good]
      | false =>
        refine Prog.ends_conseq ih ?_
        rintro r (⟨attributed, same⟩ | ⟨missing, text, same⟩)
        · refine Or.inl ⟨attributed_cons.mpr (Or.inr ⟨complete, attributed⟩), ?_⟩
          rw [same, List.any_cons, good, Bool.false_or]
        · refine Or.inr ⟨fun attributed => ?_, text, same⟩
          rcases attributed_cons.mp attributed with is_good | ⟨-, rest⟩
          · rw [good] at is_good
            cases is_good
          · exact missing rest
    · refine Prog.ends_bind_error (e := ⟨.other "AttributeError", text⟩)
        (Prog.ends_bind_ok (ends_emit _) (Prog.ends_bind_error (Prog.ends_lift raised) rfl)) ?_
      refine Or.inr ⟨fun attributed => ?_, text, rfl⟩
      rcases attributed_cons.mp attributed with is_good | ⟨complete, -⟩
      · rw [bad] at is_good
        cases is_good
      · exact incomplete complete

/-- The first home is one that a snapshot is taken of. -/
def FirstFinite (health : List Health) (home : List (HomeReading N)) : Prop :=
  ∃ reading, firstHome health home = some reading ∧ reading.IsFinite

theorem not_firstFinite {reading : HomeReading N} (first : firstHome health home = some reading)
    (infinite : ¬ reading.IsFinite) : ¬ FirstFinite health home := by
  rintro ⟨other, found, finite⟩
  rw [first] at found
  cases found
  exact infinite finite

/-- A time-out is replaced by another exception; nothing else is. -/
theorem ends_onTimeout {α : Type} {replacement : PyExc} {p : Exec N α}
    {R : Except PyExc α → Prop} (body : Prog.Ends p R)
    (replaced : ∀ e, R (.error e) → R (.error replacement)) :
    Prog.Ends (onTimeout replacement p) R := by
  refine Prog.ends_handle body (fun a post => post) fun e post => ?_
  by_cases timeout : e.cls = .timeoutError
  · rw [if_pos timeout]
    exact Prog.ends_raise (replaced e post)
  · rw [if_neg timeout]
    exact Prog.ends_raise post

section WaitFor

variable [Zero N] [LinearOrder N]

theorem ends_waitFor {α : Type} {timeout : N} {p : Exec N α} {R : Except PyExc α → Prop}
    (quiet : ∀ trace, env.interrupt trace = none) (positive : 0 < timeout) (body : Prog.Ends p R) :
    Prog.Ends (waitFor env timeout p) R := by
  rw [waitFor, if_neg (not_le.mpr positive)]
  refine Prog.ends_bind body (fun a post => ?_) fun e post => post
  exact Prog.ends_bind_ok (ends_ask quiet)
    (Prog.ends_bind_ok Prog.ends_raiseOption_none (Prog.ends_pure post))

theorem ends_waitFor_expired {α : Type} {timeout : N} {p : Exec N α}
    (quiet : ∀ trace, env.interrupt trace = none) (expired : ¬ 0 < timeout) :
    Prog.Ends (waitFor env timeout p) (· = .error ⟨.timeoutError, ""⟩) := by
  rw [waitFor, if_pos (not_lt.mp expired)]
  exact Prog.ends_bind_ok (ends_ask quiet)
    (Prog.ends_bind_ok Prog.ends_raiseOption_none (Prog.ends_raise rfl))

end WaitFor

/-- How `_read_home` ends: with a snapshot of the first home, or with an exception when that is not
    finite. -/
def Live (health : List Health) (home : List (HomeReading N))
    (r : Except PyExc (HomeSnapshot N)) : Prop :=
  (∃ live now reading, r = .ok live ∧ firstHome health home = some reading ∧
    reading.snapshot now = .ok live) ∨
  (∃ e, r = .error e) ∧ ¬ FirstFinite health home

theorem live_of_sighted {r : Except PyExc (HomeSnapshot N)}
    (sighted : Sighted (firstHome health home) r) : Live health home r := by
  cases first : firstHome health home with
  | none =>
    rw [first] at sighted
    obtain ⟨text, rfl⟩ := sighted
    refine Or.inr ⟨⟨_, rfl⟩, ?_⟩
    rintro ⟨reading, found, -⟩
    rw [first] at found
    cases found
  | some reading =>
    rw [first] at sighted
    obtain ⟨now, rfl⟩ := sighted
    rcases snapshot_cases reading now with ⟨-, live, taken⟩ | ⟨infinite, refused⟩
    · exact Or.inl ⟨live, now, reading, taken, first, taken⟩
    · exact Or.inr ⟨⟨_, refused⟩, not_firstFinite first infinite⟩

variable [Field N] [LinearOrder N] [PyText N] [Crypto] {x : MavsdkExecutor N}

/-- `_wait_for_connection` returns when a state is connected, and there is time. -/
theorem ends_waitForConnection (offers : env.toVehicle.Offers connection health home) :
    Prog.Ends (x.waitForConnection env)
      fun r => r.isOk = true ↔ 0 < x.connectionTimeoutSeconds ∧ true ∈ connection := by
  refine Prog.ends_bind (Q := fun r => r.isOk = true ↔
    0 < x.connectionTimeoutSeconds ∧ true ∈ connection) (ends_onTimeout ?_ fun e post => post)
    (fun a post => ?_) fun e post => post
  · by_cases positive : 0 < x.connectionTimeoutSeconds
    · refine ends_waitFor offers.interrupt positive ?_
      refine Prog.ends_bind_ok (ends_ask offers.connectionState) ?_
      have connects := ends_awaitItem (N := N) Event.connection id connection
        (.mavsdk "MAVSDK connection-state stream ended before PX4 connected.")
      cases found : connection.find? id with
      | none =>
        rw [found] at connects
        refine Prog.ends_bind_error connects ?_
        have absent : true ∉ connection := fun member =>
          absurd rfl (List.find?_eq_none.mp found true member)
        simp [Except.isOk, Except.toBool, absent]
      | some state =>
        rw [found] at connects
        have connected : state = true := List.find?_some found
        have member := List.mem_of_find?_eq_some found
        rw [connected] at member
        refine Prog.ends_bind_ok connects (Prog.ends_pure ?_)
        simp [Except.isOk, Except.toBool, member, positive]
    · refine Prog.ends_conseq (ends_waitFor_expired offers.interrupt positive) ?_
      rintro r rfl
      simp [Except.isOk, Except.toBool, positive]
  · exact Prog.ends_conseq (ends_emit _) fun r same => by rw [same]; exact post

/-- `_read_home` ends as the shared stages do, when there is time. -/
theorem ends_readHome (offers : env.toVehicle.Offers connection health home)
    (positive : 0 < x.connectionTimeoutSeconds) :
    Prog.Ends (x.readHome env) (Live health home) := by
  refine Prog.ends_bind (Q := Live health home) (ends_onTimeout ?_ ?_) (fun live post => ?_) ?_
  · refine ends_waitFor offers.interrupt positive ?_
    have exposed : ∀ trace, (env.exposesHealth trace && env.exposesHome trace) = true := by
      intro trace
      rw [offers.exposesHealth, offers.exposesHome]
      rfl
    refine Prog.ends_bind_ok (ends_ask exposed) ?_
    exact Prog.ends_conseq (ends_healthThenSight offers) fun r => live_of_sighted
  · rintro e (⟨live, now, reading, same, -⟩ | ⟨-, infinite⟩)
    · cases same
    · exact Or.inr ⟨⟨_, rfl⟩, infinite⟩
  · exact Prog.ends_bind_ok (ends_emit _) (Prog.ends_pure post)
  · rintro e (⟨live, now, reading, same, -⟩ | ⟨-, infinite⟩)
    · cases same
    · exact Or.inr ⟨⟨_, rfl⟩, infinite⟩

/-- The two waits of a flight: they succeed when there is time, a state is connected, and the first
    home is finite. -/
theorem ends_waits (offers : env.toVehicle.Offers connection health home) :
    Prog.Ends (do x.waitForConnection env; x.readHome env) fun r =>
      (∃ live now reading, r = .ok live ∧ firstHome health home = some reading ∧
        reading.snapshot now = .ok live ∧ 0 < x.connectionTimeoutSeconds ∧ true ∈ connection) ∨
      (∃ e, r = .error e) ∧ ¬ (0 < x.connectionTimeoutSeconds ∧ true ∈ connection ∧
        FirstFinite health home) := by
  refine Prog.ends_bind (ends_waitForConnection offers) (fun a returned => ?_) ?_
  · obtain ⟨positive, connected⟩ := returned.mp rfl
    refine Prog.ends_conseq (ends_readHome offers positive) ?_
    rintro r (⟨live, now, reading, same, first, taken⟩ | ⟨raised, infinite⟩)
    · exact Or.inl ⟨live, now, reading, same, first, taken, positive, connected⟩
    · exact Or.inr ⟨raised, fun all => infinite all.2.2⟩
  · intro e raised
    refine Or.inr ⟨⟨e, rfl⟩, ?_⟩
    rintro ⟨positive, connected, -⟩
    have returned := raised.mpr ⟨positive, connected⟩
    cases returned

end Stages

section Command

variable {N : Type} {host : CaptureHost N} {env : Env N} {connection : List Bool}
  {health : List Health} {home : List (HomeReading N)}

/-- The command can import `mavsdk`, create a system, print and write its file. A server that does
    not stop raises an `Exception`. -/
structure CaptureHost.Works (host : CaptureHost N) (env : Env N) : Prop where
  imports : host.importError = none
  creates : ∀ trace, env.systemFactory trace = none
  prints : ∀ trace line, env.stdout trace line = none
  writes : ∀ snapshot, host.writeText snapshot = none
  stops : ∀ trace e, env.stop trace = some (some e) → e.cls.isException = true

/-- A server that does not stop is reported. -/
theorem ends_stopDrone (works : host.Works env) :
    Prog.Ends (Cli.stopDrone env) (· = .ok ()) := by
  refine ends_ask_then fun trace => ?_
  cases stop : env.stop trace with
  | none => exact Prog.ends_pure rfl
  | some failure =>
    refine Prog.ends_bind_ok (ends_emit _) ?_
    cases failure with
    | none => exact Prog.ends_pure rfl
    | some e =>
      have caught := works.stops trace e stop
      refine Prog.ends_handle (Q := (· = .error e)) (Prog.ends_raise rfl) ?_ ?_
      · intro a same
        cases same
      · intro e' same
        cases same
        rw [if_pos caught]
        exact ends_printStdout works.prints _

/-- How the telemetry of the command ends: with no home, with a snapshot of the first one, or with
    an exception that is not caught. -/
inductive Captures (health : List Health) (home : List (HomeReading N)) :
    Except PyExc (HomeSnapshot N) → Prop where
  | unavailable (text : String) (attributed : Attributed health)
      (homeless : firstHome health home = none) :
      Captures health home (.error (.homeUnavailable text))
  | taken (snapshot : HomeSnapshot N) (now : Timestamp) (reading : HomeReading N)
      (attributed : Attributed health) (first : firstHome health home = some reading)
      (captured : reading.snapshot now = .ok snapshot) : Captures health home (.ok snapshot)
  | escaped (e : PyExc) (uncaught : Cli.isHomeUnavailable e.cls = false)
      (defect : Attributed health → firstHome health home ≠ none ∧ ¬ FirstFinite health home) :
      Captures health home (.error e)

theorem captures_of_sighted (attributed : Attributed health) {r : Except PyExc (HomeSnapshot N)}
    (sighted : Sighted (firstHome health home) r) : Captures health home r := by
  cases first : firstHome health home with
  | none =>
    rw [first] at sighted
    obtain ⟨text, rfl⟩ := sighted
    exact .unavailable text attributed first
  | some reading =>
    rw [first] at sighted
    obtain ⟨now, rfl⟩ := sighted
    rcases snapshot_cases reading now with ⟨-, snapshot, captured⟩ | ⟨infinite, refused⟩
    · rw [captured]
      exact .taken snapshot now reading attributed first captured
    · rw [refused]
      exact .escaped _ rfl fun _ => ⟨by rw [first]; simp, not_firstFinite first infinite⟩

theorem ends_awaitHealth (offers : env.toVehicle.Offers connection health home) :
    Prog.Ends (Cli.awaitHealth env) fun r =>
      Attributed health ∧ r = (if health.any Health.isOk then .ok () else
        .error (.homeUnavailable "Health stream ended before home was OK.")) ∨
      ¬ Attributed health ∧ ∃ text, r = .error ⟨.other "AttributeError", text⟩ := by
  refine Prog.ends_bind_ok (ends_ask offers.health) ?_
  refine Prog.ends_bind (ends_readHealths health) ?_ ?_
  · rintro found (⟨attributed, same⟩ | ⟨-, text, same⟩)
    · cases good : health.any Health.isOk with
      | true =>
        rw [good] at same
        cases same
        exact Prog.ends_pure (Or.inl ⟨attributed, rfl⟩)
      | false =>
        rw [good] at same
        cases same
        exact Prog.ends_raise (Or.inl ⟨attributed, rfl⟩)
    · cases same
  · rintro e (⟨-, same⟩ | missing)
    · cases same
    · refine Or.inr ⟨missing.1, ?_⟩
      obtain ⟨-, text, same⟩ := missing
      cases same
      exact ⟨text, rfl⟩

/-- The connection states do not matter. -/
theorem ends_captureHome (offers : env.toVehicle.Offers connection health home) :
    Prog.Ends (Cli.captureHome host env) (Captures health home) := by
  refine Prog.ends_bind_ok (ends_command fun trace => offers.connects trace _) ?_
  refine Prog.ends_bind_ok (ends_ask offers.connectionState) ?_
  refine Prog.ends_bind_ok (Prog.ends_forStream
    (fun state => Prog.ends_bind_ok (ends_emit _) (Prog.ends_pure rfl)) connection) ?_
  refine Prog.ends_bind (ends_awaitHealth offers) ?_ ?_
  · rintro ⟨⟩ (⟨attributed, same⟩ | ⟨-, text, same⟩)
    · refine Prog.ends_conseq (ends_sight offers) fun r sighted => ?_
      cases good : health.any Health.isOk with
      | true =>
        have first : firstHome health home = home.head? := by rw [firstHome, good, if_pos rfl]
        exact captures_of_sighted attributed (by rw [first]; exact sighted)
      | false =>
        rw [good] at same
        cases same
    · cases same
  · rintro e (⟨attributed, same⟩ | ⟨missing, text, same⟩)
    · cases good : health.any Health.isOk with
      | true =>
        rw [good] at same
        cases same
      | false =>
        rw [good] at same
        cases same
        exact .unavailable _ attributed (by rw [firstHome, good]; rfl)
    · cases same
      exact .escaped _ rfl fun attributed => absurd attributed missing

/-- How the `try` of the command ends: exit code 6 when no home is sighted, and an escaping
    exception where an attribute is missing or the home is not finite. -/
inductive Tries (health : List Health) (home : List (HomeReading N)) :
    Except PyExc (Except Nat (HomeSnapshot N)) → Prop where
  | unavailable (attributed : Attributed health) (homeless : firstHome health home = none) :
      Tries health home (.ok (.error 6))
  | taken (snapshot : HomeSnapshot N) (now : Timestamp) (reading : HomeReading N)
      (attributed : Attributed health) (first : firstHome health home = some reading)
      (captured : reading.snapshot now = .ok snapshot) : Tries health home (.ok (.ok snapshot))
  | escaped (e : PyExc)
      (defect : Attributed health → firstHome health home ≠ none ∧ ¬ FirstFinite health home) :
      Tries health home (.error e)

theorem ends_tryCapture (works : host.Works env)
    (offers : env.toVehicle.Offers connection health home) :
    Prog.Ends (Cli.tryCapture host env) (Tries health home) := by
  refine Prog.ends_finally ?_ (ends_stopDrone works)
  refine Prog.ends_handle (Q := fun r => ∃ taken, Captures health home taken ∧ r = taken.map .ok)
    ?_ ?_ ?_
  · refine Prog.ends_bind (ends_captureHome offers) (fun snapshot captures => ?_) ?_
    · exact Prog.ends_pure ⟨_, captures, rfl⟩
    · exact fun e captures => ⟨_, captures, rfl⟩
  · rintro a ⟨taken, captures, same⟩
    cases captures with
    | taken snapshot now reading attributed first captured =>
      cases same
      exact .taken snapshot now reading attributed first captured
    | unavailable => cases same
    | escaped => cases same
  · rintro e ⟨taken, captures, same⟩
    cases captures with
    | taken => cases same
    | unavailable text attributed homeless =>
      cases same
      have caught : Cli.isHomeUnavailable (PyExc.homeUnavailable text).cls = true := rfl
      rw [if_pos caught]
      exact Prog.ends_bind_ok (ends_printStdout works.prints _)
        (Prog.ends_pure (.unavailable attributed homeless))
    | escaped e uncaught defect =>
      cases same
      rw [uncaught]
      exact Prog.ends_raise (.escaped _ defect)

theorem ends_createDrone (works : host.Works env) :
    Prog.Ends (Cli.createDrone env) (· = .ok ()) :=
  Prog.ends_bind_ok (ends_emit _) (Prog.ends_bind_ok (ends_ask works.creates)
    (Prog.ends_bind_ok Prog.ends_raiseOption_none (ends_emit _)))

theorem outside_run {α : Type} {p : Exec N α} {r : Except PyExc α} {s t : ExecState N}
    {file : Option (HomeSnapshot N)} (run : p s = (r, t)) :
    Cli.outside p ⟨s, file⟩ = (r, ⟨t, file⟩) := Prog.zoom_of_run run

theorem writeOutput_run (works : host.Works env) (snapshot : HomeSnapshot N) (s : ExecState N) :
    ∃ t, (do
      Cli.writeOutput host snapshot
      Cli.outside (printStdout env s!"Home snapshot written to {host.output}")
      pure 0 : Prog (CaptureState N) PyExc Nat) ⟨s, none⟩ = (.ok 0, ⟨t, some snapshot⟩) := by
  have printed := Prog.run_eq (ends_printStdout works.prints
    s!"Home snapshot written to {host.output}" s)
  have written : Cli.writeOutput host snapshot ⟨s, none⟩ = (.ok (), ⟨s, some snapshot⟩) := by
    rw [Cli.writeOutput, works.writes]
    rfl
  exact ⟨_, (Prog.bind_of_returns written).trans (Prog.bind_of_returns (outside_run printed))⟩

/-- What the command does: the file is written just when it returns 0. -/
theorem homeSnapshot_cases (works : host.Works env)
    (offers : env.toVehicle.Offers connection health home) (s : ExecState N) :
    (Attributed health ∧ firstHome health home = none ∧
      ∃ t, Cli.homeSnapshot host env ⟨s, none⟩ = (.ok 6, ⟨t, none⟩)) ∨
    (∃ reading now snapshot t, Attributed health ∧ firstHome health home = some reading ∧
      reading.snapshot now = .ok snapshot ∧
      Cli.homeSnapshot host env ⟨s, none⟩ = (.ok 0, ⟨t, some snapshot⟩)) ∨
    (Attributed health → firstHome health home ≠ none ∧ ¬ FirstFinite health home) ∧
      ∃ e t, Cli.homeSnapshot host env ⟨s, none⟩ = (.error e, ⟨t, none⟩) := by
  have created := Prog.run_eq (ends_createDrone works s)
  generalize (Cli.createDrone env s).2 = s₁ at created
  have ended := ends_tryCapture works offers s₁
  have tried := Prog.run_eq (p := Cli.tryCapture host env) (s := s₁) rfl
  generalize (Cli.tryCapture host env s₁).2 = s₂ at tried
  generalize (Cli.tryCapture host env s₁).1 = outcome at ended tried
  rw [Cli.homeSnapshot, works.imports]
  cases ended with
  | unavailable attributed homeless =>
    exact Or.inl ⟨attributed, homeless, s₂, (Prog.bind_of_returns (outside_run created)).trans
      (Prog.bind_of_returns (outside_run tried))⟩
  | taken snapshot now reading attributed first captured =>
    obtain ⟨t, saved⟩ := writeOutput_run works snapshot s₂
    exact Or.inr (Or.inl ⟨reading, now, snapshot, t, attributed, first, captured,
      (Prog.bind_of_returns (outside_run created)).trans
        ((Prog.bind_of_returns (outside_run tried)).trans saved)⟩)
  | escaped e defect =>
    exact Or.inr (Or.inr ⟨defect, e, s₂, (Prog.bind_of_returns (outside_run created)).trans
      (Prog.bind_of_raises (outside_run tried))⟩)

end Command

section Agreement

variable {N : Type} [Field N] [LinearOrder N] [FloorRing N] [PyText N] [Crypto]

/-- The command writes a snapshot and returns 0 just when the two waits of a flight succeed, and
    then both have one canonical home; otherwise it writes no file and returns 6. -/
def CaptureAgrees (host : CaptureHost N) (env : Env N) (x : MavsdkExecutor N) (env' : Env N) :
    Prop :=
  ∀ s s' : ExecState N,
    match ((do x.waitForConnection env'; x.readHome env') s').1 with
    | .ok live => ∃ snapshot t,
        Cli.homeSnapshot host env ⟨s, none⟩ = (.ok 0, ⟨t, some snapshot⟩) ∧
          snapshot.canonical = live.canonical
    | .error _ => ∃ t, Cli.homeSnapshot host env ⟨s, none⟩ = (.ok 6, ⟨t, none⟩)

end Agreement

section Sample

attribute [local instance] Crypto.keyless

/-- The command over rational floats. -/
def sampleCaptureHost : CaptureHost ℚ where
  importError := none
  systemAddress := "udpin://0.0.0.0:14540"
  output := "home.json"
  writeText _ := none

/-- The vehicle of the sample, whose connection states are given. -/
def connectingEnv (connection : List Bool) : Env ℚ :=
  { Env.calm (sampleTelemetry ℚ []) 1000 with
    connectionState := fun _ => ⟨connection, .exhausted⟩ }

theorem connectingEnv_offers (connection : List Bool) :
    (connectingEnv connection).toVehicle.Offers connection [.good] [sampleHome ℚ] where
  connects _ _ := rfl
  connectionState _ := rfl
  exposesHealth _ := rfl
  exposesHome _ := rfl
  health _ := rfl
  home _ := rfl
  interrupt _ := rfl

theorem sampleCaptureHost_works (connection : List Bool) :
    sampleCaptureHost.Works (connectingEnv connection) where
  imports := rfl
  creates _ := rfl
  prints _ _ := rfl
  writes _ := rfl
  stops _ _ called := nomatch called

end Sample

end Nightjar
