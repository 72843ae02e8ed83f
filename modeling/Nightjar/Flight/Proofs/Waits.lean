import Nightjar.Flight.Proofs.Primitives
import Nightjar.Home.Proofs.Snapshot

/-!
# What the bounded waits add to a history

The triples of the connection wait, of `_read_home` and `_verify_home`, of the arming, altitude and
landing waits, and of the recovery.
-/

namespace Nightjar

open Interact Prog Exec Python

section Errors

variable {N : Type} [Field N] [LinearOrder N] [FloorRing N] [PyMath N] [PyText N] [Crypto]
  {e : PyExc}

omit [FloorRing N] [PyText N] [Crypto] in
/-- What `within_tolerance` raises is a `ValueError`. -/
theorem isFlight_of_withinTolerance {bound live : HomeSnapshot N} {h v : PyNum N}
    (raised : withinTolerance bound live h v = .error e) : e.cls.isFlight = true := by
  unfold withinTolerance horizontalDistanceM at raised
  dsimp only at raised
  split at raised
  · rename_i e' distance
    cases raised
    split at distance
    · cases distance; rfl
    · split at distance
      · cases distance; rfl
      · cases distance
  · cases raised

omit [Field N] [LinearOrder N] [FloorRing N] [PyMath N] [PyText N] [Crypto] in
theorem isFlight_of_snapshot {latitude longitude altitude : Reading N}
    {captured : Option String} {now : Timestamp}
    (raised : snapshotFromTelemetry latitude longitude altitude captured now = .error e) :
    e.cls.isFlight = true := by
  unfold snapshotFromTelemetry at raised
  split at raised
  · cases raised
  · cases raised; rfl

theorem isFlight_of_homeSha256? {home : HomeSnapshot N}
    (raised : homeSha256? home = .error e) : e.cls.isFlight = true := by
  rcases homeSha256?_eq_error raised with rfl | rfl <;> rfl

theorem isFlight_of_boundHome {approval : SignedApproval}
    (raised : boundHome (N := N) approval = .error e) : e.cls.isFlight = true := by
  unfold boundHome at raised
  dsimp only at raised
  split at raised
  · cases raised; rfl
  · split at raised
    · rcases bind_eq_error raised with invalid | ⟨snapshot, -, raised⟩
      · exact isFlight_of_snapshot invalid
      · rcases bind_eq_error raised with refused | ⟨hash, -, raised⟩
        · exact isFlight_of_homeSha256? refused
        · split at raised
          · cases raised; rfl
          · cases raised
    · cases raised; rfl

/-- A home that was rebuilt has a hash. -/
theorem hashed_of_boundHome {approval : SignedApproval} {bound : HomeSnapshot N}
    (rebuilt : boundHome approval = .ok bound) : ∃ hash, homeSha256? bound = .ok hash := by
  unfold boundHome at rebuilt
  dsimp only at rebuilt
  split at rebuilt
  · cases rebuilt
  · split at rebuilt
    · obtain ⟨snapshot, -, rebuilt⟩ := bind_eq_ok rebuilt
      obtain ⟨hash, hashed, rebuilt⟩ := bind_eq_ok rebuilt
      split at rebuilt
      · cases rebuilt
      · cases rebuilt
        exact ⟨hash, hashed⟩
    · cases rebuilt

/-- What `_verify_home` has computed when it writes its record. -/
theorem checkHome_eq_ok {x : MavsdkExecutor N} {bound live : HomeSnapshot N} {within : Bool}
    {hash : String} (checked : x.checkHome bound live = .ok (within, hash)) :
    withinTolerance bound live x.limits.homeHorizontalToleranceM
      x.limits.homeVerticalToleranceM = .ok within ∧ hash = homeSha256 bound ∧ live.Scales := by
  obtain ⟨found, compared, checked⟩ := bind_eq_ok checked
  obtain ⟨digest, hashed, checked⟩ := bind_eq_ok checked
  obtain ⟨_, -, checked⟩ := bind_eq_ok checked
  obtain ⟨_, returned, checked⟩ := bind_eq_ok checked
  cases checked
  refine ⟨compared, (homeSha256?_eq_ok hashed).2.2, ?_⟩
  rcases canonical?_eq live with ⟨scales, -⟩ | ⟨-, overflow⟩
  · exact scales
  · rw [overflow] at returned
    cases returned

/-- What `_verify_home` raises before it writes its record. -/
theorem isFlight_of_checkHome {x : MavsdkExecutor N} {bound live : HomeSnapshot N}
    (raised : x.checkHome bound live = .error e) : e.cls.isFlight = true := by
  have infinite : ∀ h : HomeSnapshot N, h.canonical? = .error e → e.cls.isFlight = true := by
    intro h overflow
    rcases canonical?_eq h with ⟨-, same⟩ | ⟨-, same⟩ <;> rw [same] at overflow <;> cases overflow
    rfl
  rcases bind_eq_error raised with incomparable | ⟨within, -, raised⟩
  · exact isFlight_of_withinTolerance incomparable
  · rcases bind_eq_error raised with refused | ⟨hash, -, raised⟩
    · exact isFlight_of_homeSha256? refused
    · rcases bind_eq_error raised with overflow | ⟨_, -, raised⟩
      · exact infinite bound overflow
      · rcases bind_eq_error raised with overflow | ⟨_, -, raised⟩
        · exact infinite live overflow
        · cases raised

end Errors

section Waits

variable {N : Type} {env : Env N} {base : List (Event N)} {table : NonceTable}
  {history : List (Mark N)} {flags : Flags} {places : List (Mark N) → Flags → Prop}
  {α β ι : Type}

/-- A question binds the trace at which it is answered. -/
theorem triple_askThen {P : ExecState N → Prop} {R : β → ExecState N → Prop}
    {E : PyExc → ExecState N → Prop} {answer : List (Event N) → α} {next : α → Exec N β}
    (rest : ∀ opened, Triple (fun s => s.trace = opened ∧ P s) (next (answer opened)) R E) :
    Triple P (ask answer >>= next) R E :=
  fun s pre => rest s.trace s ⟨rfl, pre⟩

/-- A wait for an item whose mark is its event. -/
theorem triple_awaitExactly {record : ι → Event N} {accept : ι → Bool} {stream : Stream ι}
    {ended : PyExc} {opened : List (Event N)}
    (rejects : ∀ item, accept item = false → Mark.Noise (record item))
    (flight : ended.cls.isFlight = true)
    (raises : ∀ e, stream.ending = .raised e → env.toVehicle.Raises opened e)
    (place : places history flags) :
    Triple (fun s => s.trace = opened ∧ Hist env base table history flags s)
      (awaitItem record accept stream ended)
      (fun item s => accept item = true ∧
        Hist env base table (history ++ [.exactly (record item)]) flags s)
      (Stop env base table places) :=
  triple_post
    (triple_awaitItem (fun item => .exactly (record item)) (fun _ _ _ _ _ => rfl) rejects flight
      raises place)
    fun _ _ post => ⟨post.1, post.2.2⟩

variable [Field N] [LinearOrder N] [PyText N] [Crypto]
  (x : MavsdkExecutor N)

/-- The connection wait observes a connection. -/
theorem triple_waitForConnection
    (here : places history flags)
    (seen : places (history ++ [.exactly (.connection true)]) flags) :
    Triple (Hist env base table history flags) (x.waitForConnection env)
      (fun _ => Hist env base table
        (history ++ [.exactly (.connection true)] ++ [.exactly (.confirmed .connection)]) flags)
      (Stop env base table places) := by
  unfold MavsdkExecutor.waitForConnection
  refine triple_bind
    (Q := fun _ => Hist env base table (history ++ [.exactly (.connection true)]) flags)
    (triple_onTimeout (triple_waitFor ?_ (fun _ s hist => ⟨_, _, here, hist⟩)
      (fun _ s hist => ⟨_, _, seen, hist⟩)) rfl)
    fun _ => triple_emit _
  refine triple_askThen fun opened => ?_
  refine triple_bind
    (triple_awaitExactly (fun item rejected => rejected) rfl
      (fun e ending => Or.inr (Or.inl ending)) here) fun item => triple_pure ?_
  rintro s ⟨connected, hist⟩
  have same : item = true := connected
  rwa [same] at hist

/-- `_read_home` observes health and a home, and returns its snapshot. -/
theorem triple_readHome
    (here : places history flags)
    (healthy : places (history ++ [.exactly (.health .good)]) flags)
    (sighted : ∀ reading, places
      (history ++ [.exactly (.health .good), .exactly (.home reading)]) flags) :
    Triple (Hist env base table history flags) (x.readHome env)
      (fun live s => ∃ l : Located N, l.live = live ∧
        Hist env base table (history ++ Flight.homeMarks l) flags s)
      (Stop env base table places) := by
  unfold MavsdkExecutor.readHome
  let found : HomeSnapshot N → ExecState N → Prop := fun live s =>
    ∃ l : Located N, l.live = live ∧ Hist env base table
      (history ++ [.exactly (.health .good), .exactly (.home l.reading)]) flags s
  refine triple_bind (Q := found)
    (triple_onTimeout (triple_waitFor ?_ (fun _ s hist => ⟨_, _, here, hist⟩)
      (fun live s ⟨l, _, hist⟩ => ⟨_, _, sighted l.reading, hist⟩)) rfl) fun live => ?_
  · refine triple_askThen fun opened => ?_
    by_cases exposed : (env.exposesHealth opened && env.exposesHome opened) = false
    · rw [if_pos exposed]
      exact triple_raise fun s ⟨_, hist⟩ => hist.stop here rfl
    · rw [if_neg exposed]
      refine triple_pre (K := Hist env base table history flags) ?_ fun _ pre => pre.2
      refine triple_askThen fun healthOpened => ?_
      refine triple_bind
        (triple_awaitExactly (fun item rejected => rejected) rfl
          (fun e ending => Or.inr (Or.inr (Or.inl ending))) here) fun health => ?_
      refine triple_pre (K := Hist env base table
        (history ++ [.exactly (.health .good)]) flags) ?_ ?_
      · refine triple_askThen fun homeOpened => ?_
        refine triple_bind
          (triple_awaitExactly (fun item rejected => nomatch rejected) rfl
            (fun e ending => Or.inr (Or.inr (Or.inr (Or.inl ending)))) healthy) fun home => ?_
        refine triple_askThen fun nowAsked => triple_lift ?_ ?_
        · rintro live s captured ⟨-, -, hist⟩
          refine ⟨⟨home, live, _, captured⟩, rfl, ?_⟩
          rwa [List.append_assoc] at hist
        · rintro e s raised ⟨-, -, hist⟩
          rw [List.append_assoc] at hist
          exact hist.stop (sighted home) (isFlight_of_snapshot raised)
      · rintro s ⟨good, hist⟩
        rwa [Health.isOk_iff.mp good] at hist
  · refine triple_bind (Q := fun _ s => ∃ l : Located N, l.live = live ∧
      Hist env base table (history ++ Flight.homeMarks l) flags s) ?_ fun _ =>
      triple_pure fun _ post => post
    refine triple_exists fun l => triple_fact fun same => ?_
    refine triple_post (triple_emit _) fun _ s hist => ⟨l, same, ?_⟩
    rwa [List.append_assoc] at hist

/-- The arming wait observes an item that is exactly `True`. -/
theorem triple_waitUntilArmed
    (here : places history flags)
    (seen : places (history ++ [.exactly (.armed .exactTrue)]) flags) :
    Triple (Hist env base table history flags) (x.waitUntilArmed env)
      (fun _ => Hist env base table
        (history ++ [.exactly (.armed .exactTrue)] ++ [.exactly (.confirmed .armed)]) flags)
      (Stop env base table places) := by
  unfold MavsdkExecutor.waitUntilArmed
  refine triple_bind
    (Q := fun _ => Hist env base table (history ++ [.exactly (.armed .exactTrue)]) flags)
    (triple_onTimeout (triple_waitFor ?_ (fun _ s hist => ⟨_, _, here, hist⟩)
      (fun _ s hist => ⟨_, _, seen, hist⟩)) rfl)
    fun _ => triple_emit _
  refine triple_askThen fun opened => ?_
  by_cases exposed : env.exposesArmed opened = false
  · rw [if_pos exposed]
    exact triple_raise fun s ⟨_, hist⟩ => hist.stop here rfl
  · rw [if_neg exposed]
    refine triple_pre (K := Hist env base table history flags) ?_ fun _ pre => pre.2
    refine triple_askThen fun opened => ?_
    refine triple_bind
      (triple_awaitExactly
        (fun item rejected => show item ≠ .exactTrue by simpa using rejected) rfl
        (fun e ending => Or.inr (Or.inr (Or.inr (Or.inr (Or.inl ending))))) here)
      fun item => triple_pure ?_
    rintro s ⟨isTrue, hist⟩
    have same : item = .exactTrue := by simpa using isTrue
    rwa [same] at hist

/-- The altitude wait observes a position that is high enough. -/
theorem triple_waitUntilTakeoffAltitude (target : N)
    (here : places history flags)
    (seen : ∀ position : Reading N, position.atLeast (x.minimumAltitudeM target) = true →
      places (history ++ [.exactly (.position position)]) flags) :
    Triple (Hist env base table history flags) (x.waitUntilTakeoffAltitude env target)
      (fun _ s => ∃ position : Reading N,
        position.atLeast (x.minimumAltitudeM target) = true ∧ Hist env base table
          (history ++ [.exactly (.position position)] ++ [.exactly (.confirmed .altitude)]) flags s)
      (Stop env base table places) := by
  unfold MavsdkExecutor.waitUntilTakeoffAltitude
  refine triple_bind
    (Q := fun _ s => ∃ position : Reading N,
      position.atLeast (x.minimumAltitudeM target) = true ∧
        Hist env base table (history ++ [.exactly (.position position)]) flags s)
    (triple_onTimeout (triple_waitFor ?_ (fun _ s hist => ⟨_, _, here, hist⟩)
      (fun _ s ⟨position, high, hist⟩ => ⟨_, _, seen position high, hist⟩)) rfl)
    fun _ => ?_
  · refine triple_askThen fun opened => ?_
    refine triple_bind
      (triple_awaitExactly (fun item rejected => trivial) rfl
        (fun e ending => Or.inr (Or.inr (Or.inr (Or.inr (Or.inr (Or.inr (Or.inl ending)))))))
        here)
      fun item => triple_pure ?_
    rintro s ⟨high, hist⟩
    exact ⟨item, high, hist⟩
  · exact triple_exists fun position => triple_fact fun high =>
      triple_post (triple_emit _) fun _ s hist => ⟨position, high, hist⟩

/-- The landing wait, right after `land` returned, observes the first item of its stream that is
    not true. -/
theorem triple_waitUntilLanded
    (here : places (history ++ [.exactly (.returned .land)]) flags)
    (seen : ∀ item, places
      (history ++ [.exactly (.returned .land)] ++ [.landing item]) flags) :
    Triple
      (fun s => s.trace.getLast? = some (.returned .land) ∧
        Hist env base table (history ++ [.exactly (.returned .land)]) flags s)
      (x.waitUntilLanded env)
      (fun _ s => ∃ item, Hist env base table
        (history ++ [.exactly (.returned .land)] ++ [.landing item] ++
          [.exactly (.confirmed .landing)]) flags s)
      (Stop env base table places) := by
  unfold MavsdkExecutor.waitUntilLanded
  refine triple_bind
    (Q := fun _ s => ∃ item, Hist env base table
      (history ++ [.exactly (.returned .land)] ++ [.landing item]) flags s)
    (triple_onTimeout (triple_waitFor ?_ (fun _ s pre => ⟨_, _, here, pre.2⟩)
      (fun _ s ⟨item, hist⟩ => ⟨_, _, seen item, hist⟩)) rfl)
    fun _ => ?_
  · refine triple_askThen fun opened => ?_
    refine triple_pre (triple_fact (φ := opened.getLast? = some (.returned .land))
      (P := fun s => s.trace = opened ∧
        Hist env base table (history ++ [.exactly (.returned .land)]) flags s) fun last => ?_)
      fun s ⟨same, last, hist⟩ => ⟨same ▸ last, same, hist⟩
    refine triple_bind
      (triple_awaitItem .landing ?_
        (fun item rejected => show item.truthy = true by simpa using rejected) rfl
        (fun e ending => Or.inr (Or.inr (Or.inr (Or.inr (Or.inr (Or.inl ending)))))) here)
      fun item => triple_pure fun s post => ⟨item, post.2.2⟩
    intro passed item position others accepted
    refine ⟨rfl, opened, passed, rfl, last, ?_, by simpa using accepted, position⟩
    intro flag member
    simpa using others flag member
  · exact triple_exists fun item => triple_post (triple_emit _) fun _ s hist => ⟨item, hist⟩

end Waits

end Nightjar
