import Nightjar.Flight.Proofs.Waits

/-!
# `_execute` follows the course of a flight

Every run of `_execute` on an accepted mission is woven from the history of a stage: a run that
returns from the history of the whole flight, a run that raises from the history of the stage where
it failed, followed by the marks of the recovery. The flags the recovery reads are those of the
stage.
-/

namespace Nightjar

open Interact Prog Exec Python

section Refinement

variable {N : Type} [Field N] [LinearOrder N] [FloorRing N] [PyMath N] [PyText N] [Crypto]
  {base : List (Event N)} {table : NonceTable}

/-- The histories and flags of the stages before the landing is confirmed. -/
def AtStage (f : Flight N) (history : List (Mark N)) (flags : Flags) : Prop :=
  ∃ stage : Stage f, ¬ stage.Settled ∧ stage.history = history ∧ stage.flags = flags

/-- The flight failed at a stage; after the confirmed landing only through the writers. -/
def Failed (f : Flight N) (base : List (Event N)) (table : NonceTable) (e : PyExc)
    (s : ExecState N) : Prop :=
  Origin f.env base s.trace e ∧ ∃ stage : Stage f, (stage.Settled → f.env.Rude e) ∧
    Hist f.env base table stage.history stage.flags s

theorem Stop.failed {f : Flight N} {e : PyExc} {s : ExecState N}
    (stop : Stop f.env base table (AtStage f) e s) : Failed f base table e s := by
  obtain ⟨origin, history, flags, ⟨stage, unsettled, rfl, rfl⟩, hist⟩ := stop
  exact ⟨origin, stage, fun settled => absurd settled unsettled, hist⟩

/-- A failure through the writers, at any stage. -/
theorem Hist.failed_rude {f : Flight N} {e : PyExc} {s : ExecState N} (stage : Stage f)
    (rude : f.env.Rude e) (hist : Hist f.env base table stage.history stage.flags s) :
    Failed f base table e s :=
  ⟨Or.inr (Or.inl rude.1), stage, fun _ => rude, hist⟩

/-! ## The audit writer of the phase, and the comparison of homes -/

section Phase

variable {f : Flight N} {history : List (Mark N)} {flags : Flags}

theorem triple_auditPhase_strict (event : AuditEvent N)
    (uncommitted : flags.flightCommitted = false)
    (refused : Refused f event → AtStage f (history ++ [f.attempted event]) flags) :
    Triple (Hist f.env base table history flags)
      (f.x.auditPhase f.env f.mission.missionId event)
      (fun _ => Hist f.env base table (history ++ [f.written event]) flags)
      (Stop f.env base table (AtStage f)) := by
  refine triple_bind_read fun s hist => ?_
  rw [hist.flags_eq, uncommitted]
  refine triple_pre (K := Hist f.env base table history flags) ?_ fun _ same => same ▸ hist
  exact triple_bind (triple_writeAuditRecord _ refused) fun _ =>
    triple_pure fun _ post => post.2

theorem triple_auditPhase_bestEffort (event : AuditEvent N)
    (committed : flags.flightCommitted = true) :
    Triple (Hist f.env base table history flags)
      (f.x.auditPhase f.env f.mission.missionId event)
      (fun _ => Hist f.env base table (history ++ [f.attempted event]) flags)
      (fun e s => f.env.Rude e ∧
        Hist f.env base table (history ++ [f.attempted event]) flags s) := by
  refine triple_bind_read fun s hist => ?_
  rw [hist.flags_eq, committed]
  refine triple_pre (K := Hist f.env base table history flags) ?_ fun _ same => same ▸ hist
  exact triple_bind (triple_writeAuditRecordBestEffort _) fun _ => triple_pure fun _ post => post

/-- `_verify_home` returns only for a home within tolerance, having recorded it. -/
theorem triple_verifyHome {places : List (Mark N) → Flags → Prop} {bound : HomeSnapshot N}
    (rebuilt : boundHome f.approval = .ok bound) (l : Located N) (phase : HomePhase)
    (incomparable : Incomparable f l → places history flags)
    (refused : ∀ c : Compared f, c.toLocated = l → Refused f (f.homeCheck phase c) →
      places (history ++ [f.attempted (f.homeCheck phase c)]) flags)
    (outside : ∀ c : Compared f, c.toLocated = l → c.within = false →
      places (history ++ [f.written (f.homeCheck phase c)]) flags) :
    Triple (Hist f.env base table history flags)
      (f.x.verifyHome f.env f.mission.missionId bound l.live phase)
      (fun _ s => ∃ p : Passed f, p.toLocated = l ∧ Hist f.env base table
        (history ++ [f.written (f.homeCheck phase p.toCompared)]) flags s)
      (Stop f.env base table places) := by
  unfold MavsdkExecutor.verifyHome
  refine triple_bind
    (Q := fun check s => f.x.checkHome bound l.live = .ok check ∧
      Hist f.env base table history flags s)
    (triple_lift (fun _ _ checked hist => ⟨checked, hist⟩)
      (fun e _ raised hist => hist.stop (incomparable ⟨bound, e, rebuilt, raised⟩)
        (isFlight_of_checkHome raised)))
    fun check => triple_fact fun checked => ?_
  obtain ⟨within, hash⟩ := check
  obtain ⟨-, rfl, -⟩ := checkHome_eq_ok checked
  let c : Compared f := { l with bound, within, rebuilt, checked }
  refine triple_bind (triple_writeAuditRecord _ (refused c rfl)) fun _ => ?_
  cases within with
  | false => exact triple_raise fun s post => post.2.stop (outside c rfl rfl) rfl
  | true => exact triple_pure fun s post => ⟨⟨c, rfl⟩, rfl, post.2⟩

end Phase

/-! ## The actions -/

section Actions

variable (f : Flight N)

/-- The takeoff action, from the comparison before arming to the takeoff altitude. -/
theorem triple_takeoff (p : Passed f) :
    Triple (Hist f.env base table (f.checkHistory p.toCompared ++
        [f.written (.actionStarted 1 (.takeoff f.altitude))]) .initial)
      (f.x.executeAction f.env f.mission.missionId p.bound (.takeoff f.altitude))
      (fun _ s => ∃ c : Climbed f,
        Hist f.env base table (f.climbHistory c) ⟨true, true, true⟩ s)
      (Stop f.env base table (AtStage f)) := by
  unfold MavsdkExecutor.executeAction
  refine triple_bind (triple_command _ ⟨.configuring p, id, by simp [Stage.history], rfl⟩)
    fun _ => ?_
  refine triple_bind (triple_setFlags _) fun _ => ?_
  refine triple_bind (triple_command _ ⟨.arming p, id,
    by simp [Stage.history, Flight.configureHistory], rfl⟩) fun _ => ?_
  refine triple_bind (triple_waitUntilArmed f.x
    ⟨.armSent p, id, by simp [Stage.history, Flight.configureHistory], rfl⟩
    ⟨.armSeen p, id, by simp [Stage.history, Flight.configureHistory], rfl⟩) fun _ => ?_
  refine triple_bind (triple_readHome f.x
    ⟨.armed p, id, by simp [Stage.history, Flight.configureHistory, Flight.armHistory], rfl⟩
    ⟨.rehealthy p, id,
      by simp [Stage.history, Flight.configureHistory, Flight.armHistory], rfl⟩
    fun reading => ⟨.resighted p reading, id,
      by simp [Stage.history, Flight.configureHistory, Flight.armHistory], rfl⟩) fun live => ?_
  refine triple_exists fun l => triple_fact fun same => ?_
  subst same
  refine triple_bind (triple_verifyHome p.rebuilt l .postArm
    (fun incomparable => ⟨.relocated p l incomparable, id,
      by simp [Stage.history, Flight.configureHistory, Flight.armHistory], rfl⟩)
    (fun c is_l refused => ⟨.unrechecked p c refused, id,
      by simp [Stage.history, Flight.configureHistory, Flight.armHistory, is_l], rfl⟩)
    fun c is_l outside => ⟨.moved p c outside, id,
      by simp [Stage.history, Flight.configureHistory, Flight.armHistory,
        Flight.recheckHistory, is_l], rfl⟩) fun _ => ?_
  refine triple_exists fun q => triple_fact fun is_l => ?_
  refine triple_bind (triple_setFlags _) fun _ => ?_
  let cleared : Cleared f := ⟨p, q⟩
  refine triple_pre (K := Hist f.env base table (f.recheckHistory p q.toCompared)
    ⟨false, true, true⟩) ?_ fun s hist => by
      simpa [Flight.configureHistory, Flight.armHistory, Flight.recheckHistory, Flags.initial,
        is_l] using hist
  refine triple_bind (triple_command _ ⟨.launching cleared, id, rfl, rfl⟩) fun _ => ?_
  refine triple_bind (triple_setFlags _) fun _ => ?_
  refine triple_post (triple_waitUntilTakeoffAltitude f.x f.altitude
    ⟨.launched cleared, id, by simp [Stage.history, cleared], rfl⟩
    fun position high => ⟨.high { cleared with position, high }, id,
      by simp [Stage.history, cleared], rfl⟩) fun _ s post => ?_
  obtain ⟨position, high, hist⟩ := post
  exact ⟨{ cleared with position, high }, by simpa [Flight.climbHistory] using hist⟩

/-- The landing action and its record. -/
theorem triple_land (c : Climbed f) :
    Triple (Hist f.env base table (f.cruiseHistory c f.holds) ⟨true, true, true⟩)
      (f.x.executeActions f.env f.mission.missionId c.before.bound f.landSequence [.land])
      (fun _ s => ∃ item, Hist f.env base table (f.landHistory c item ++
        [f.attempted (.actionCompleted f.landSequence .land)]) ⟨true, false, true⟩ s)
      (Failed f base table) := by
  unfold MavsdkExecutor.executeActions
  refine triple_bind (triple_except (triple_auditPhase_bestEffort _ rfl)
    fun e s ⟨rude, hist⟩ => hist.failed_rude (.landAnnounced c) rude) fun _ => ?_
  refine triple_bind (Q := fun _ s => ∃ item,
    Hist f.env base table (f.landHistory c item) ⟨true, false, true⟩ s) ?_ fun _ => ?_
  · refine triple_bind (triple_except (triple_command_last _
      ⟨.landing c, id, by simp [Stage.history], rfl⟩) fun _ _ => Stop.failed) fun _ => ?_
    refine triple_bind (triple_except (triple_waitUntilLanded f.x
      ⟨.landSent c, id, by simp [Stage.history], rfl⟩
      fun item => ⟨.landSeen c item, id, by simp [Stage.history], rfl⟩)
      fun _ _ => Stop.failed) fun _ => ?_
    refine triple_exists fun item => triple_post (triple_setFlags _) fun _ s hist => ⟨item, ?_⟩
    simpa [Flight.landHistory] using hist
  · refine triple_exists fun item => ?_
    refine triple_bind (triple_except (triple_auditPhase_bestEffort _ rfl)
      fun e s ⟨rude, hist⟩ => hist.failed_rude (.reported c item) rude) fun _ => ?_
    exact triple_pure fun s hist => ⟨item, hist⟩

/-- The holds that remain, and the landing. The induction is on the holds; the history says which
    are done. -/
theorem triple_cruise (c : Climbed f) :
    ∀ rest done, f.holds = done ++ rest →
      Triple (Hist f.env base table (f.cruiseHistory c done) ⟨true, true, true⟩)
        (f.x.executeActions f.env f.mission.missionId c.before.bound (2 + done.length)
          (rest.map .hold ++ [.land]))
        (fun _ s => ∃ item, Hist f.env base table (f.landHistory c item ++
          [f.attempted (.actionCompleted f.landSequence .land)]) ⟨true, false, true⟩ s)
        (Failed f base table) := by
  intro rest
  induction rest with
  | nil =>
    intro done split
    rw [List.append_nil] at split
    have sequence : 2 + done.length = f.landSequence := by
      rw [Flight.landSequence, split, Nat.add_comm]
    rw [sequence, ← split]
    exact triple_land f c
  | cons duration rest ih =>
    intro done split
    have next : done ++ [duration] <+: f.holds := by
      exact ⟨rest, by rw [split, List.append_assoc, List.singleton_append]⟩
    have finished : f.cruiseHistory c done ++
        [f.attempted (.actionStarted (2 + done.length) (.hold duration))] ++
          [.exactly (.issued (.sleep duration))] ++ [.exactly (.returned (.sleep duration))] ++
          [f.attempted (.actionCompleted (2 + done.length) .hold)] =
        f.cruiseHistory c (done ++ [duration]) := by
      simp [Flight.cruiseHistory, Flight.holdsMarks_append, Flight.holdsMarks, Flight.holdMarks]
    rw [List.map_cons, List.cons_append, MavsdkExecutor.executeActions]
    refine triple_bind (triple_except (triple_auditPhase_bestEffort _ rfl)
      fun e s stop => stop.2.failed_rude (.holdAnnounced c done duration next) stop.1)
      fun _ => ?_
    refine triple_bind (triple_except (triple_command _
      ⟨.holding c done duration next, id, by simp [Stage.history, Flight.holdMarks], rfl⟩)
      fun _ _ => Stop.failed) fun _ => ?_
    refine triple_bind (triple_except (triple_auditPhase_bestEffort _ rfl)
      fun e s stop => ?_) fun _ => ?_
    · obtain ⟨rude, hist⟩ := stop
      refine Hist.failed_rude (.cruising c (done ++ [duration]) next) rude ?_
      rw [Stage.history, ← finished]
      exact hist
    · have remaining := ih (done ++ [duration]) (by rw [split, List.append_cons])
      have sequence : 2 + (done ++ [duration]).length = 2 + done.length + 1 := by
        rw [List.length_append, List.length_singleton]
        omega
      rw [sequence, ← finished] at remaining
      exact remaining

/-- The body of the `try`. -/
theorem triple_fly :
    Triple (Hist f.env base table (f.linkHistory.take 3) .initial)
      (f.x.fly f.env f.mission f.approval)
      (fun _ s => ∃ c item, Hist f.env base table (f.landHistory c item ++
        [f.attempted (.actionCompleted f.landSequence .land)]) ⟨true, false, true⟩ s)
      (Failed f base table) := by
  unfold MavsdkExecutor.fly
  refine triple_bind (triple_except (triple_command _ ⟨.connecting, id, rfl, rfl⟩)
    fun _ _ => Stop.failed) fun _ => ?_
  refine triple_bind (triple_except (triple_waitForConnection f.x ⟨.connected, id, rfl, rfl⟩
    ⟨.linked, id, rfl, rfl⟩) fun _ _ => Stop.failed) fun _ => ?_
  refine triple_bind
    (Q := fun bound s => boundHome f.approval = .ok bound ∧
      Hist f.env base table f.linkHistory .initial s)
    (triple_lift (fun _ _ rebuilt hist => ⟨rebuilt, hist⟩) fun e s raised hist =>
      (hist.stop ⟨.reachable, id, rfl, rfl⟩ (isFlight_of_boundHome raised)).failed)
    fun bound => triple_fact fun rebuilt => ?_
  refine triple_bind (triple_except (triple_readHome f.x ⟨.reachable, id, rfl, rfl⟩
    ⟨.healthy, id, rfl, rfl⟩ fun reading => ⟨.sighted reading, id, rfl, rfl⟩)
    fun _ _ => Stop.failed) fun live => ?_
  refine triple_exists fun l => triple_fact fun same => ?_
  subst same
  refine triple_bind (triple_except (triple_verifyHome rebuilt l .preArm
    (fun incomparable => ⟨.located l incomparable, id, rfl, rfl⟩)
    (fun c is_l refused => ⟨.unchecked c refused, id, by simp [Stage.history, is_l], rfl⟩)
    fun c is_l outside => ⟨.mismatched c outside, id,
      by simp [Stage.history, Flight.checkHistory, is_l], rfl⟩)
    fun _ _ => Stop.failed) fun _ => ?_
  refine triple_exists fun p => triple_fact fun is_l => ?_
  have bound_eq : p.bound = bound := by
    have both := p.rebuilt
    rw [rebuilt] at both
    exact (Except.ok.inj both).symm
  rw [f.plan, MavsdkExecutor.executeActions]
  refine triple_pre (K := Hist f.env base table (f.checkHistory p.toCompared) .initial) ?_
    fun s hist => by simpa [Flight.checkHistory, is_l] using hist
  refine triple_bind (triple_except (triple_auditPhase_strict _ rfl
    fun refused => ⟨.unannounced p refused, id, rfl, rfl⟩) fun _ _ => Stop.failed) fun _ => ?_
  rw [← bound_eq]
  refine triple_bind (triple_except (triple_takeoff f p) fun _ _ => Stop.failed) fun _ => ?_
  refine triple_exists fun c => ?_
  refine triple_bind (triple_except (triple_auditPhase_bestEffort _ rfl)
    fun e s ⟨rude, hist⟩ => ?_) fun _ => ?_
  · refine Hist.failed_rude (.cruising c [] (List.nil_prefix)) rude ?_
    simpa [Stage.history, Stage.flags, Flight.cruiseHistory, Flight.holdsMarks,
      MissionAction.type] using hist
  · have same : c.before.bound = p.bound := by
      have both := c.before.rebuilt
      rw [p.rebuilt] at both
      exact (Except.ok.inj both).symm
    rw [← same]
    refine triple_conseq (triple_cruise f c f.holds [] rfl) (fun s hist => ?_)
      (fun _ s post => ⟨c, post⟩) fun _ _ post => post
    simpa [Flight.cruiseHistory, Flight.holdsMarks, MissionAction.type] using hist

end Actions

end Refinement

end Nightjar
