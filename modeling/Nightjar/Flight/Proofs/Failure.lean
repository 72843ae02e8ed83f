import Nightjar.Flight.Proofs.Execute

/-!
# What fails a mission

The exception that `_execute` raises is the one that its first failing command raised, and the
record of the failure is of that exception and of how the recovery ended.
-/

namespace Nightjar

open Interact Prog Exec Python

section Adds

variable {N : Type} {α β ι : Type} {ok : Event N → Prop}

/-- The events that happened from one state to another are of a kind. -/
def Adds (ok : Event N → Prop) (s₀ s : ExecState N) : Prop :=
  ∃ extra, s.trace = s₀.trace ++ extra ∧ ∀ e ∈ extra, ok e

theorem Adds.refl (s : ExecState N) : Adds ok s s :=
  ⟨[], (List.append_nil _).symm, fun _ member => nomatch member⟩

theorem Adds.emit {s₀ s : ExecState N} {e : Event N} (adds : Adds ok s₀ s) (kind : ok e) :
    Adds ok s₀ { s with trace := s.trace ++ [e] } := by
  obtain ⟨extra, more, all⟩ := adds
  refine ⟨extra ++ [e], by simp [more], fun e' member => ?_⟩
  rcases List.mem_append.mp member with before | last
  · exact all e' before
  · rw [List.mem_singleton.mp last]
    exact kind

/-- A program whose events are all of a kind, whether it returns or raises. -/
def Only (ok : Event N → Prop) (p : Exec N α) : Prop :=
  ∀ s₀, Triple (Adds ok s₀) p (fun _ => Adds ok s₀) (fun _ => Adds ok s₀)

theorem only_pure (a : α) : Only ok (pure a : Exec N α) := fun _ => triple_pure fun _ adds => adds

theorem only_raise (e : PyExc) : Only ok (Prog.raise e : Exec N α) :=
  fun _ => triple_raise fun _ adds => adds

theorem only_lift (r : Except PyExc α) : Only ok (Prog.lift r : Exec N α) :=
  fun _ => triple_lift (fun _ _ _ adds => adds) fun _ _ _ adds => adds

theorem only_raiseOption (r : Option PyExc) : Only ok (Prog.raiseOption r : Exec N Unit) :=
  fun _ => triple_raiseOption (fun _ _ adds => adds) fun _ _ _ adds => adds

theorem only_ask (answer : List (Event N) → α) : Only ok (ask answer) :=
  fun _ _ adds => adds

theorem only_setFlags (f : Flags → Flags) : Only ok (setFlags f : Exec N Unit) :=
  fun _ _ adds => adds

theorem only_emit {e : Event N} (kind : ok e) : Only ok (emit e) :=
  fun _ => triple_modify fun _ adds => adds.emit kind

theorem only_bind {p : Exec N α} {f : α → Exec N β} (first : Only ok p)
    (second : ∀ a, Only ok (f a)) : Only ok (p >>= f) :=
  fun s₀ => triple_bind (first s₀) fun a => second a s₀

theorem only_handle {p : Exec N α} {h : PyExc → Exec N α} (body : Only ok p)
    (handler : ∀ e, Only ok (h e)) : Only ok (Prog.handle p h) :=
  fun s₀ => triple_handle (body s₀) fun e => handler e s₀

theorem only_forStream {body : ι → Exec N (Option β)} (each : ∀ item, Only ok (body item))
    (items : List ι) (ending : Ending PyExc) : Only ok (Prog.forStream body items ending) := by
  induction items with
  | nil => cases ending with
    | exhausted => exact only_pure none
    | raised e => exact only_raise e
  | cons item items ih =>
    refine only_bind (each item) fun found => ?_
    cases found with
    | some b => exact only_pure _
    | none => exact ih

theorem Only.triple {p : Exec N α} (only : Only ok p) (s₀ : ExecState N) :
    Triple (fun s => s = s₀) p (fun _ => Adds ok s₀) (fun _ => Adds ok s₀) := by
  refine triple_pre (only s₀) fun _ same => ?_
  rw [same]
  exact .refl s₀

theorem Adds.trans_mono {ok' : Event N → Prop} {s₀ s s' : ExecState N} (weaker : ∀ e, ok e → ok' e)
    (first : Adds ok' s₀ s) (second : Adds ok s s') : Adds ok' s₀ s' := by
  obtain ⟨extra, more, all⟩ := first
  obtain ⟨extra', more', all'⟩ := second
  refine ⟨extra ++ extra', by rw [more', more, List.append_assoc], fun e member => ?_⟩
  exact (List.mem_append.mp member).elim (all e) fun later => weaker e (all' e later)

theorem Only.mono {ok' : Event N → Prop} {p : Exec N α} (only : Only ok p)
    (weaker : ∀ e, ok e → ok' e) : Only ok' p := fun _ =>
  triple_from fun s adds => triple_conseq (only.triple s) (fun _ same => same)
    (fun _ _ more => adds.trans_mono weaker more) fun _ _ more => adds.trans_mono weaker more

theorem only_awaitItem {record : ι → Event N} (kind : ∀ item, ok (record item)) (accept : ι → Bool)
    (stream : Stream ι) (ended : PyExc) : Only ok (awaitItem record accept stream ended) := by
  refine only_bind (only_forStream (fun item => ?_) _ _) fun found => ?_
  · exact only_bind (only_emit (kind item)) fun _ => only_pure _
  · cases found with
    | some item => exact only_pure item
    | none => exact only_raise ended

theorem only_waitFor [Zero N] [LE N] [DecidableRel (α := N) (· ≤ ·)] (env : Env N) (timeout : N)
    {body : Exec N α} (only : Only ok body) : Only ok (waitFor env timeout body) := by
  unfold waitFor
  split
  · exact only_bind (only_ask _) fun _ => only_bind (only_raiseOption _) fun _ => only_raise _
  · exact only_bind only fun _ => only_bind (only_ask _) fun _ =>
      only_bind (only_raiseOption _) fun _ => only_pure _

theorem only_onTimeout (replacement : PyExc) {body : Exec N α} (only : Only ok body) :
    Only ok (onTimeout replacement body) := by
  refine only_handle only fun e => ?_
  split <;> exact only_raise _

theorem only_writeAuditRecord {record : AuditRecord N}
    (kind : ∀ failure, ok (.audit record failure)) (env : Env N) (directory : String) :
    Only ok (writeAuditRecord env directory record) :=
  only_bind (only_ask _) fun _ => only_bind (only_emit (kind _)) fun _ =>
    only_bind (only_raiseOption _) fun _ => only_pure _

theorem only_printStderr (kind : ∀ line, ok (.stderr line)) (env : Env N) (line : String) :
    Only ok (printStderr env line) :=
  only_bind (only_ask _) fun _ => only_bind (only_emit (kind line)) fun _ => only_raiseOption _

theorem only_writeAuditRecordBestEffort {record : AuditRecord N}
    (kind : ∀ failure, ok (.audit record failure)) (kind' : ∀ line, ok (.stderr line))
    (env : Env N) (directory : String) :
    Only ok (writeAuditRecordBestEffort env directory record) := by
  refine only_handle (only_bind (only_writeAuditRecord kind env directory) fun _ => only_pure _)
    fun exc => ?_
  split
  · refine only_bind (only_handle (only_printStderr kind' env _) fun e => ?_) fun _ => only_pure _
    split
    · exact only_pure ()
    · exact only_raise e
  · exact only_raise exc

end Adds

section Passive

variable {N : Type} [Field N] [LinearOrder N] [PyText N] [Crypto]
  (x : MavsdkExecutor N) (env : Env N)

/-- The event is no command, no start of a recovery and no record of a failed mission. -/
def Event.Passive {N : Type} : Event N → Prop
  | .issued _ | .recoveryStarted => False
  | .audit record _ => record.event.name ≠ "mission_failed"
  | _ => True

omit [Field N] [LinearOrder N] [PyText N] in
theorem only_auditPhase {event : AuditEvent N} (other : event.name ≠ "mission_failed")
    (missionId : UUID) : Only Event.Passive (x.auditPhase env missionId event) := by
  refine only_bind (fun _ _ adds => adds) fun s => ?_
  split
  · exact only_bind (only_writeAuditRecordBestEffort (fun _ => other) (fun _ => trivial) env _)
      fun _ => only_pure ()
  · exact only_bind (only_writeAuditRecord (fun _ => other) env _) fun _ => only_pure ()

theorem only_waitForConnection : Only Event.Passive (x.waitForConnection env) := by
  refine only_bind (only_onTimeout _ (only_waitFor env _ ?_)) fun _ => only_emit trivial
  exact only_bind (only_ask _) fun stream =>
    only_bind (only_awaitItem (fun _ => trivial) _ _ _) fun _ => only_pure ()

theorem only_readHome : Only Event.Passive (x.readHome env) := by
  refine only_bind (only_onTimeout _ (only_waitFor env _ ?_)) fun _ =>
    only_bind (only_emit trivial) fun _ => only_pure _
  refine only_bind (only_ask _) fun exposed => ?_
  split
  · exact only_raise _
  · exact only_bind (only_ask _) fun _ =>
      only_bind (only_awaitItem (fun _ => trivial) _ _ _) fun _ => only_bind (only_ask _) fun _ =>
        only_bind (only_awaitItem (fun _ => trivial) _ _ _) fun _ =>
          only_bind (only_ask _) fun _ => only_lift _

variable [FloorRing N] [PyMath N] in
theorem only_verifyHome (missionId : UUID) (bound live : HomeSnapshot N) (phase : HomePhase) :
    Only Event.Passive (x.verifyHome env missionId bound live phase) := by
  have other : ∀ within hash, (AuditEvent.homeCheck phase hash within bound live).name ≠
      "mission_failed" := fun _ _ => (by decide : "home_check" ≠ "mission_failed")
  refine only_bind (only_lift _) fun check =>
    only_bind (only_writeAuditRecord (fun _ => other check.1 check.2) env _) fun _ => ?_
  split
  · exact only_raise _
  · exact only_pure ()

theorem only_waitUntilArmed : Only Event.Passive (x.waitUntilArmed env) := by
  refine only_bind (only_onTimeout _ (only_waitFor env _ ?_)) fun _ => only_emit trivial
  refine only_bind (only_ask _) fun exposed => ?_
  split
  · exact only_raise _
  · exact only_bind (only_ask _) fun _ =>
      only_bind (only_awaitItem (fun _ => trivial) _ _ _) fun _ => only_pure ()

theorem only_waitUntilTakeoffAltitude (targetAltitudeM : N) :
    Only Event.Passive (x.waitUntilTakeoffAltitude env targetAltitudeM) := by
  refine only_bind (only_onTimeout _ (only_waitFor env _ ?_)) fun _ => only_emit trivial
  exact only_bind (only_ask _) fun stream =>
    only_bind (only_awaitItem (fun _ => trivial) _ _ _) fun _ => only_pure ()

/-- Neither does the landing wait do more, until it returns. -/
def Event.Unlanded {N : Type} (e : Event N) : Prop := e.Passive ∧ e ≠ .confirmed .landing

theorem only_landingWait : Only Event.Unlanded
    (onTimeout
      (.mavsdk s!"Timed out waiting {PyText.general x.landingTimeoutSeconds} seconds for landing.")
      (waitFor env x.landingTimeoutSeconds do
        let stream ← ask env.inAir
        let _ ← awaitItem .inAir (fun isInAir => ¬ isInAir.truthy) stream
          (.mavsdk "MAVSDK in-air telemetry ended before landing was confirmed.")
        pure ()) : Exec N Unit) :=
  only_onTimeout _ (only_waitFor env _ (only_bind (only_ask _) fun _ =>
    only_bind (only_awaitItem (fun _ => ⟨trivial, nofun⟩) _ _ _) fun _ => only_pure ()))

theorem only_waitUntilLanded : Only Event.Passive (x.waitUntilLanded env) :=
  only_bind ((only_landingWait x env).mono fun _ => And.left) fun _ => only_emit trivial

end Passive

section Explained

variable {N : Type} {env : Env N} {e : PyExc} {trace extra past rest : List (Event N)}

/-- An event that is not in the second part of a trace is in the first. -/
theorem split_of_append {event : Event N} (split : trace ++ extra = past ++ event :: rest)
    (absent : event ∉ extra) : ∃ rest', trace = past ++ event :: rest' := by
  rcases List.append_eq_append_iff.mp split with ⟨middle, more, later⟩ | ⟨middle, more, later⟩
  · refine absurd ?_ absent
    rw [later]
    simp
  · cases middle with
    | nil =>
      rw [List.nil_append] at later
      exact absurd (later ▸ List.mem_cons_self) absent
    | cons first middle =>
      obtain ⟨rfl, -⟩ := List.cons.inj later
      exact ⟨middle, more⟩

/-- Every command that was issued has returned. -/
def Returned (env : Env N) (trace : List (Event N)) : Prop :=
  ∀ past rest c, trace = past ++ .issued c :: rest → env.command (past ++ [.issued c]) c = none

/-- A command that did not return raised this exception. -/
def Explains (env : Env N) (e : PyExc) (trace : List (Event N)) : Prop :=
  ∀ past rest c e', trace = past ++ .issued c :: rest →
    env.command (past ++ [.issued c]) c = some e' → e' = e

theorem Returned.explains (returned : Returned env trace) (e : PyExc) : Explains env e trace := by
  intro past rest c e' split raised
  rw [returned past rest c split] at raised
  cases raised

theorem Returned.append (returned : Returned env trace)
    (passive : ∀ event ∈ extra, event.Passive) : Returned env (trace ++ extra) := by
  intro past rest c split
  obtain ⟨rest', before⟩ := split_of_append split fun member => passive _ member
  exact returned past rest' c before

/-- An event of a longer trace is the last one, or was there before. -/
theorem split_of_concat {event last : Event N} (split : trace ++ [last] = past ++ event :: rest) :
    (past = trace ∧ event = last) ∨ ∃ rest', trace = past ++ event :: rest' := by
  rcases List.eq_nil_or_concat rest with rfl | ⟨before, final, rfl⟩
  · obtain ⟨same, single⟩ := List.append_inj' split rfl
    exact Or.inl ⟨same.symm, (List.cons.inj single).1.symm⟩
  · rw [List.concat_eq_append, ← List.cons_append, ← List.append_assoc] at split
    exact Or.inr ⟨before, (List.append_inj' split rfl).1⟩

theorem returned_issued {c : Command N} (returned : Returned env trace)
    (last : env.command (trace ++ [.issued c]) c = none) :
    Returned env (trace ++ [.issued c]) := by
  intro past rest c' split
  rcases split_of_concat split with ⟨rfl, same⟩ | ⟨rest', before⟩
  · cases same
    exact last
  · exact returned past rest' c' before

theorem explains_issued {c : Command N} (returned : Returned env trace)
    (raised : env.command (trace ++ [.issued c]) c = some e) :
    Explains env e (trace ++ [.issued c]) := by
  intro past rest c' e' split failed
  rcases split_of_concat split with ⟨rfl, same⟩ | ⟨rest', before⟩
  · cases same
    rw [raised] at failed
    exact (Option.some.inj failed).symm
  · exact returned.explains e past rest' c' e' before failed

end Explained

section Flown

variable {N : Type} {α : Type} {env : Env N}

/-- The event is no start of a recovery and no record of a failed mission. -/
def Event.Unfailed : Event N → Prop
  | .recoveryStarted => False
  | .audit record _ => record.event.name ≠ "mission_failed"
  | _ => True

theorem Event.Passive.unfailed {event : Event N} (passive : event.Passive) : event.Unfailed := by
  cases event <;> trivial

/-- A flight that has not failed. -/
structure InFlight (env : Env N) (trace : List (Event N)) : Prop where
  returned : Returned env trace
  unfailed : ∀ event ∈ trace, event.Unfailed

/-- A flight that fails with an exception, before it is handled. -/
structure Fails (env : Env N) (e : PyExc) (trace : List (Event N)) : Prop where
  explains : Explains env e trace
  unfailed : ∀ event ∈ trace, event.Unfailed

theorem InFlight.append {trace extra : List (Event N)} (flight : InFlight env trace)
    (passive : ∀ event ∈ extra, event.Passive) : InFlight env (trace ++ extra) :=
  ⟨flight.returned.append passive, List.forall_mem_append.mpr
    ⟨flight.unfailed, fun event member => (passive event member).unfailed⟩⟩

theorem InFlight.fails {trace : List (Event N)} (flight : InFlight env trace) (e : PyExc) :
    Fails env e trace :=
  ⟨flight.returned.explains e, flight.unfailed⟩

/-- A part of a flight: while it runs every command returns, and what it raises explains the one
    that did not. -/
def Explained (env : Env N) (p : Exec N α) : Prop :=
  Triple (fun s => InFlight env s.trace) p (fun _ s => InFlight env s.trace)
    (fun e s => Fails env e s.trace)

theorem explained_of_only {p : Exec N α} (only : Only Event.Passive p) : Explained env p := by
  refine triple_from fun s flight => triple_conseq (only.triple s) (fun _ same => same) ?_ ?_
  · rintro a s' ⟨extra, more, passive⟩
    rw [more]
    exact flight.append passive
  · rintro e s' ⟨extra, more, passive⟩
    rw [more]
    exact (flight.append passive).fails e

theorem explained_bind {β : Type} {p : Exec N α} {f : α → Exec N β} (first : Explained env p)
    (second : ∀ a, Explained env (f a)) : Explained env (p >>= f) :=
  triple_bind first second

theorem explained_command (c : Command N) : Explained env (command env c) := by
  intro s flight
  have unfailed : ∀ event ∈ s.trace ++ [.issued c], event.Unfailed :=
    List.forall_mem_append.mpr ⟨flight.unfailed, by simp [Event.Unfailed]⟩
  cases raised : env.command (s.trace ++ [.issued c]) c with
  | none =>
    simp only [command, bind, emit, Prog.modify, ask, Prog.read, pure, raised, raiseOption]
    have issued : InFlight env (s.trace ++ [.issued c]) :=
      ⟨returned_issued flight.returned raised, unfailed⟩
    exact issued.append (by simp [Event.Passive])
  | some e =>
    simp only [command, bind, emit, Prog.modify, ask, Prog.read, pure, raised, raiseOption,
      Prog.raise]
    exact ⟨explains_issued flight.returned raised, unfailed⟩

variable [Field N] [LinearOrder N] [FloorRing N] [PyMath N] [PyText N] [Crypto]
  (x : MavsdkExecutor N)

theorem explained_executeAction (missionId : UUID) (bound : HomeSnapshot N)
    (action : MissionAction N) : Explained env (x.executeAction env missionId bound action) := by
  cases action with
  | takeoff altitudeM =>
    exact explained_bind (explained_command _) fun _ =>
      explained_bind (explained_of_only (only_setFlags _)) fun _ =>
      explained_bind (explained_command _) fun _ =>
      explained_bind (explained_of_only (only_waitUntilArmed x env)) fun _ =>
      explained_bind (explained_of_only (only_readHome x env)) fun _ =>
      explained_bind (explained_of_only (only_verifyHome x env _ _ _ _)) fun _ =>
      explained_bind (explained_of_only (only_setFlags _)) fun _ =>
      explained_bind (explained_command _) fun _ =>
      explained_bind (explained_of_only (only_setFlags _)) fun _ =>
      explained_of_only (only_waitUntilTakeoffAltitude x env _)
  | hold durationSeconds => exact explained_command _
  | land =>
    exact explained_bind (explained_command _) fun _ =>
      explained_bind (explained_of_only (only_waitUntilLanded x env)) fun _ =>
      explained_of_only (only_setFlags _)
  | goto | returnHome => exact explained_of_only (only_pure ())

theorem explained_executeActions (missionId : UUID) (bound : HomeSnapshot N)
    (actions : List (MissionAction N)) :
    ∀ sequence, Explained env (x.executeActions env missionId bound sequence actions) := by
  induction actions with
  | nil => exact fun _ => explained_of_only (only_pure ())
  | cons action actions ih =>
    intro sequence
    have started : (AuditEvent.actionStarted sequence action).name ≠ "mission_failed" :=
      (by decide : "action_started" ≠ "mission_failed")
    have completed : (AuditEvent.actionCompleted (N := N) sequence action.type).name ≠
        "mission_failed" := (by decide : "action_completed" ≠ "mission_failed")
    exact explained_bind (explained_of_only (only_auditPhase x env started missionId)) fun _ =>
      explained_bind (explained_executeAction x missionId bound action) fun _ =>
      explained_bind (explained_of_only (only_auditPhase x env completed missionId)) fun _ =>
      ih (sequence + 1)

/-- The body of the `try` of `_execute` raises what its failing command raised, if one did. -/
theorem explained_fly (mission : Mission N) (approval : SignedApproval) :
    Explained env (x.fly env mission approval) :=
  explained_bind (explained_command _) fun _ =>
    explained_bind (explained_of_only (only_waitForConnection x env)) fun _ =>
    explained_bind (explained_of_only (only_lift _)) fun _ =>
    explained_bind (explained_of_only (only_readHome x env)) fun _ =>
    explained_bind (explained_of_only (only_verifyHome x env _ _ _ _)) fun _ =>
    explained_executeActions x _ _ _ _

end Flown

section Recovered

variable {N : Type} {α : Type} {env : Env N}

/-- The recovery has landed the vehicle: its landing wait returned, and the recovery task was not
    interrupted when it was done. -/
def LandedByRecovery (env : Env N) (trace : List (Event N)) : Prop :=
  ∃ past rest, trace = past ++ .confirmed .landing :: rest ∧ Event.recoveryStarted ∈ past ∧
    env.interrupt (past ++ [.confirmed .landing]) = none

/-- An event of a recovery before it has landed. -/
def Event.Cleaning (event : Event N) : Prop := event.Unfailed ∧ event ≠ .confirmed .landing

variable (env) in
/-- The best-effort writer raises only what no `except Exception` stops. -/
theorem triple_writeAuditRecordBestEffort_rude (directory : String) (record : AuditRecord N) :
    Triple (fun _ => True) (writeAuditRecordBestEffort env directory record) (fun _ _ => True)
      (fun e _ => e.cls.isException = false) := by
  have rude : ∀ exc : PyExc, Triple (fun _ : ExecState N => True)
      (if exc.cls.isException = true then pure () else Prog.raise exc) (fun _ _ => True)
      (fun e _ => e.cls.isException = false) := by
    intro exc
    split
    · exact triple_pure fun _ _ => trivial
    · rename_i rude
      exact triple_raise fun _ _ => by simpa using rude
  refine triple_handle triple_true fun exc => ?_
  split
  · refine triple_bind (Q := fun _ _ => True) ?_ fun _ => triple_pure fun _ _ => trivial
    exact triple_handle triple_true rude
  · rename_i rude
    exact triple_raise fun _ _ => by simpa using rude

theorem only_command {c : Command N} (env : Env N) : Only Event.Cleaning (command env c) :=
  only_bind (only_emit ⟨trivial, nofun⟩) fun _ => only_bind (only_ask _) fun _ =>
    only_bind (only_raiseOption _) fun _ => only_emit ⟨trivial, nofun⟩

/-- The last event is the confirmed landing of a recovery, which has called `land`. -/
def Lands (s₀ s : ExecState N) : Prop :=
  ∃ extra, s.trace = s₀.trace ++ extra ++ [.confirmed .landing] ∧
    (∀ event ∈ extra, event.Cleaning) ∧ [.issued .land, .returned .land].Sublist extra

/-- A command that returns is issued and returned. -/
theorem triple_command_adds (c : Command N) (s₀ : ExecState N) :
    Triple (Adds Event.Cleaning s₀) (command env c)
      (fun _ s => ∃ extra, s.trace = s₀.trace ++ extra ∧ (∀ event ∈ extra, event.Cleaning) ∧
        [.issued c, .returned c].Sublist extra)
      (fun _ => Adds Event.Cleaning s₀) := by
  have issued : Triple (Adds Event.Cleaning s₀) (emit (.issued c))
      (fun _ s => ∃ extra, s.trace = s₀.trace ++ extra ∧ (∀ event ∈ extra, event.Cleaning) ∧
        [.issued c].Sublist extra) (fun _ => Adds Event.Cleaning s₀) := by
    refine triple_modify ?_
    rintro s ⟨extra, more, cleaning⟩
    refine ⟨extra ++ [.issued c], by simp [more], ?_, List.sublist_append_right _ _⟩
    exact List.forall_mem_append.mpr ⟨cleaning, by simp [Event.Cleaning, Event.Unfailed]⟩
  refine triple_bind issued fun _ => triple_bind (triple_ask _) fun failure => ?_
  refine triple_bind
    (Q := fun _ s => ∃ extra, s.trace = s₀.trace ++ extra ∧ (∀ event ∈ extra, event.Cleaning) ∧
      [.issued c].Sublist extra)
    (triple_raiseOption (fun _ _ asked => asked.2) ?_) fun _ => triple_modify ?_
  · rintro e s - ⟨-, extra, more, cleaning, -⟩
    exact ⟨extra, more, cleaning⟩
  · rintro s ⟨extra, more, cleaning, called⟩
    refine ⟨extra ++ [.returned c], by simp [more], ?_, ?_⟩
    · exact List.forall_mem_append.mpr ⟨cleaning, by simp [Event.Cleaning, Event.Unfailed]⟩
    · exact called.append (List.Sublist.refl [Event.returned c])

/-- The choice of a cleanup lands nothing, and does not report a landing. -/
theorem triple_chooseCleanup_adds (s₀ : ExecState N) :
    Triple (Adds Event.Cleaning s₀) (MavsdkExecutor.chooseCleanup env)
      (fun choice s => Adds Event.Cleaning s₀ s ∧ choice ≠ some .landingConfirmed)
      (fun _ => Adds Event.Cleaning s₀) := by
  refine triple_bind (only_ask _ s₀) fun stream => ?_
  refine triple_bind (triple_forStream (I := fun _ => Adds Event.Cleaning s₀)
    (Q := fun choice s => Adds Event.Cleaning s₀ s ∧ choice ≠ some .landingConfirmed)
    stream.items [] (fun before item after _ => ?_) fun _ _ _ adds => adds) fun chosen => ?_
  · refine triple_bind (only_emit ⟨trivial, nofun⟩ s₀) fun _ => ?_
    cases item with
    | exactFalse =>
      exact triple_bind (only_command env s₀) fun _ => triple_pure fun _ adds => ⟨adds, nofun⟩
    | exactTrue => exact triple_pure fun _ adds => ⟨adds, nofun⟩
    | invalid truthy => exact triple_raise fun _ adds => adds
  · cases chosen with
    | some choice => exact triple_pure fun _ reached => reached
    | none => exact triple_raise fun _ adds => adds

/-- A cleanup that has not landed has not landed by recovery. -/
theorem not_landedByRecovery {start extra : List (Event N)}
    (unfailed : ∀ event ∈ start, event.Unfailed) (cleaning : ∀ event ∈ extra, event.Cleaning) :
    ¬ LandedByRecovery env (start ++ .recoveryStarted :: extra) := by
  rintro ⟨past, rest, split, started, -⟩
  have absent : Event.confirmed .landing ∉ extra := fun member => (cleaning _ member).2 rfl
  rw [List.append_cons] at split
  obtain ⟨rest', before⟩ := split_of_append split absent
  rcases split_of_concat before with ⟨-, same⟩ | ⟨rest'', earlier⟩
  · cases same
  · exact unfailed .recoveryStarted (by rw [earlier]; exact List.mem_append_left _ started)

/-- One that has landed as its last act was not interrupted then. -/
theorem interrupt_of_landedByRecovery {start extra : List (Event N)}
    (unfailed : ∀ event ∈ start, event.Unfailed) (cleaning : ∀ event ∈ extra, event.Cleaning)
    (landed : LandedByRecovery env
      (start ++ .recoveryStarted :: extra ++ [.confirmed .landing])) :
    env.interrupt (start ++ .recoveryStarted :: extra ++ [.confirmed .landing]) = none := by
  obtain ⟨past, rest, split, started, quiet⟩ := landed
  rcases split_of_concat split with ⟨rfl, -⟩ | ⟨rest', before⟩
  · exact quiet
  · exact absurd ⟨past, rest', before, started, quiet⟩ (not_landedByRecovery unfailed cleaning)

/-- After its start the recovery called `land`, which returned, and so did the landing wait. -/
def RecoveryLanded (trace : List (Event N)) : Prop :=
  ∃ flight recovery, trace = flight ++ .recoveryStarted :: recovery ∧
    [.issued .land, .returned .land, .confirmed .landing].Sublist recovery

/-- What the recovery of the handler adds, and how its outcome tells whether it has landed. -/
structure Recovers (env : Env N) (s₀ : ExecState N) (outcome : RecoveryStatus × Option String)
    (s : ExecState N) : Prop where
  adds : ∃ extra, s.trace = s₀.trace ++ extra ∧ (extra = [] ∨ extra.head? = some .recoveryStarted) ∧
    ∀ record failure, .audit record failure ∈ extra → record.event.name ≠ "mission_failed"
  landed : LandedByRecovery env s.trace → outcome = (.landingConfirmed, none)
  reports : outcome.1 = .landingConfirmed → outcome.2 = none ∧ RecoveryLanded s.trace

/-- The recovery after its start, in the terms of the handler. -/
theorem recovers_of_adds {s₀ s : ExecState N} {outcome : RecoveryStatus × Option String}
    (unfailed : ∀ event ∈ s₀.trace, event.Unfailed)
    (reached : (Adds Event.Cleaning { s₀ with trace := s₀.trace ++ [.recoveryStarted] } s ∧
        outcome.1 ≠ .landingConfirmed) ∨
      (Lands { s₀ with trace := s₀.trace ++ [.recoveryStarted] } s ∧
        (env.interrupt s.trace = none → outcome = (.landingConfirmed, none)) ∧
        (outcome.1 = .landingConfirmed → outcome.2 = none))) :
    Recovers env s₀ outcome s := by
  rcases reached with ⟨⟨extra, more, cleaning⟩, other⟩ |
    ⟨⟨extra, more, cleaning, called⟩, quiet, errorless⟩
  · rw [List.append_assoc, List.singleton_append] at more
    refine ⟨⟨_, more, Or.inr rfl, fun record failure member => ?_⟩, fun landed => ?_,
      fun confirmed => absurd confirmed other⟩
    · rcases List.mem_cons.mp member with same | inside
      · cases same
      · exact (cleaning _ inside).1
    · rw [more] at landed
      exact absurd landed (not_landedByRecovery unfailed cleaning)
  · have whole : s.trace =
        s₀.trace ++ .recoveryStarted :: (extra ++ [.confirmed .landing]) := by
      rw [more]
      simp
    refine ⟨⟨_, whole, Or.inr rfl, fun record failure member => ?_⟩, fun landed => quiet ?_,
      fun confirmed => ⟨errorless confirmed, s₀.trace, _, whole,
        called.append (List.Sublist.refl [Event.confirmed .landing])⟩⟩
    · simp only [List.mem_cons, List.mem_append, List.not_mem_nil, or_false,
        reduceCtorEq, false_or] at member
      exact (cleaning _ member).1
    · have ends : s.trace = s₀.trace ++ .recoveryStarted :: extra ++ [.confirmed .landing] := by
        rw [whole]
        simp
      rw [ends] at landed ⊢
      exact interrupt_of_landedByRecovery unfailed cleaning landed

variable [Field N] [LinearOrder N] [PyText N] [Crypto]
  (x : MavsdkExecutor N)

/-- A recovery that returns has landed as its last act, or has not landed; one that raises has
    not. -/
theorem triple_recover_lands (takeoffAttempted : Bool) (s₀ : ExecState N) :
    Triple (Adds Event.Cleaning s₀) (x.recover env takeoffAttempted)
      (fun status s => (Adds Event.Cleaning s₀ s ∧ status ≠ .landingConfirmed) ∨
        (status = .landingConfirmed ∧ Lands s₀ s))
      (fun _ => Adds Event.Cleaning s₀) := by
  have landing : Triple (Adds Event.Cleaning s₀)
      (do
        command env .land
        x.waitUntilLanded env
        pure RecoveryStatus.landingConfirmed)
      (fun status s => (Adds Event.Cleaning s₀ s ∧ status ≠ .landingConfirmed) ∨
        (status = .landingConfirmed ∧ Lands s₀ s))
      (fun _ => Adds Event.Cleaning s₀) := by
    refine triple_bind (triple_command_adds .land s₀) fun _ => ?_
    refine triple_from ?_
    rintro s₁ ⟨called, more, cleaning, commands⟩
    have waited : ∀ s, Adds Event.Unlanded s₁ s → ∃ extra, s.trace = s₀.trace ++ extra ∧
        (∀ event ∈ extra, event.Cleaning) ∧ [.issued .land, .returned .land].Sublist extra := by
      rintro s ⟨extra, after, unlanded⟩
      refine ⟨called ++ extra, by rw [after, more, List.append_assoc],
        List.forall_mem_append.mpr ⟨cleaning, fun event member => ?_⟩,
        commands.trans (List.sublist_append_left _ _)⟩
      exact ⟨(unlanded event member).1.unfailed, (unlanded event member).2⟩
    refine triple_bind (Q := fun _ => Lands s₀)
      (triple_bind (triple_except ((only_landingWait x env).triple s₁) ?_) fun _ =>
        triple_modify ?_) fun _ => triple_pure fun s lands => Or.inr ⟨rfl, lands⟩
    · intro _ s adds
      obtain ⟨extra, after, kinds, -⟩ := waited s adds
      exact ⟨extra, after, kinds⟩
    · intro s adds
      obtain ⟨extra, after, kinds, commands⟩ := waited s adds
      exact ⟨extra, by simp [after], kinds, commands⟩
  unfold MavsdkExecutor.recover
  cases takeoffAttempted with
  | true =>
    refine triple_bind (Q := fun choice s => choice = none ∧ Adds Event.Cleaning s₀ s)
      (triple_pure fun _ adds => ⟨rfl, adds⟩) fun choice => triple_fact ?_
    rintro rfl
    exact landing
  | false =>
    refine triple_bind (triple_chooseCleanup_adds s₀) fun choice => ?_
    cases choice with
    | some status =>
      exact triple_pure fun _ ⟨adds, other⟩ => Or.inl ⟨adds, fun same => other (by rw [same])⟩
    | none => exact triple_pre landing fun _ reached => reached.1

variable (env) in
/-- The recovery task: it may also be interrupted when it has landed. -/
theorem triple_recoverBounded_lands (takeoffAttempted : Bool) (s₀ : ExecState N) :
    Triple (Adds Event.Cleaning s₀)
      (waitFor env x.landingTimeoutSeconds (x.recover env takeoffAttempted))
      (fun status s => (Adds Event.Cleaning s₀ s ∧ status ≠ .landingConfirmed) ∨
        (status = .landingConfirmed ∧ Lands s₀ s))
      (fun e s => Adds Event.Cleaning s₀ s ∨
        (Lands s₀ s ∧ env.interrupt s.trace = some e)) := by
  unfold waitFor
  split
  · refine triple_bind (triple_except (only_ask env.interrupt s₀) fun _ _ adds => Or.inl adds)
      fun interrupted => ?_
    refine triple_bind (triple_except (only_raiseOption interrupted s₀)
      fun _ _ adds => Or.inl adds) fun _ => triple_raise fun _ adds => Or.inl adds
  · refine triple_bind (triple_except (triple_recover_lands x takeoffAttempted s₀)
      fun _ _ adds => Or.inl adds) fun status => ?_
    refine triple_bind (triple_ask _) fun interrupted => ?_
    refine triple_bind (triple_raiseOption (fun _ _ reached => reached.2) ?_) fun _ =>
      triple_pure fun _ reached => reached
    rintro e s raised ⟨asked, reached⟩
    rcases reached with ⟨adds, -⟩ | ⟨-, lands⟩
    · exact Or.inl adds
    · exact Or.inr ⟨lands, asked ▸ raised⟩

theorem triple_recoverStatus_recovers (s₀ : ExecState N)
    (unfailed : ∀ event ∈ s₀.trace, event.Unfailed) :
    Triple (fun s => s = s₀) (x.recoverStatus env) (fun outcome s => Recovers env s₀ outcome s)
      (fun e _ => e.cls.isExceptionOrCancelled = false) := by
  refine triple_bind_read ?_
  rintro s rfl
  cases required : s.flags.recoveryRequired with
  | false =>
    refine triple_pure ?_
    rintro _ rfl
    refine ⟨⟨[], by simp, Or.inl rfl, by simp⟩, ?_, nofun⟩
    rintro ⟨past, rest, split, started, -⟩
    exact absurd (unfailed .recoveryStarted (by rw [split]; exact List.mem_append_left _ started))
      id
  | true =>
    let started : ExecState N := { s with trace := s.trace ++ [.recoveryStarted] }
    have task := triple_recoverBounded_lands env x s.flags.takeoffAttempted started
    refine triple_handle
      (E := fun e s' => Adds Event.Cleaning started s' ∨
        (Lands started s' ∧ env.interrupt s'.trace = some e)) ?_ fun exc => ?_
    · refine triple_bind
        (Q := fun status s' => (Adds Event.Cleaning started s' ∧ status ≠ .landingConfirmed) ∨
          (status = .landingConfirmed ∧ Lands started s')) ?_ fun status =>
        triple_pure fun s' reached => recovers_of_adds unfailed ?_
      · refine triple_bind (Q := fun _ => Adds Event.Cleaning started)
          (triple_modify fun s' same => ?_) fun _ => task
        rw [same]
        exact .refl started
      · rcases reached with unlanded | ⟨rfl, lands⟩
        · exact Or.inl unlanded
        · exact Or.inr ⟨lands, fun _ => rfl, fun _ => rfl⟩
    · by_cases caught : exc.cls.isExceptionOrCancelled = true
      · rw [if_pos caught]
        refine triple_pure fun s' reached => recovers_of_adds unfailed ?_
        rcases reached with adds | ⟨lands, interrupted⟩
        · exact Or.inl ⟨adds, nofun⟩
        · refine Or.inr ⟨lands, fun quiet => ?_, nofun⟩
          rw [quiet] at interrupted
          cases interrupted
      · rw [if_neg caught]
        exact triple_raise fun _ _ => by simpa using caught

end Recovered

section Reported

variable {N : Type} {env : Env N} {e : PyExc} {trace extra : List (Event N)}

/-- What a trace tells about the exception that failed the mission: a command of the flight that
    did not return raised it, and the record of the failure has its text and the recovery. -/
structure Reported (env : Env N) (e : PyExc) (trace : List (Event N)) : Prop where
  flight : ∀ past rest c e', trace = past ++ .issued c :: rest → .recoveryStarted ∉ past →
    env.command (past ++ [.issued c]) c = some e' → e' = e
  record : ∀ record failure text status errorType, .audit record failure ∈ trace →
    record.event = .missionFailed text status errorType →
      text = e.text ∧ (LandedByRecovery env trace → status = .landingConfirmed) ∧
        (status = .landingConfirmed → errorType = none ∧ RecoveryLanded trace)

/-- The event is no command, no record and no landing. -/
def Event.Later (event : Event N) : Prop :=
  event.Unlanded ∧ ∀ record failure, event ≠ .audit record failure

theorem LandedByRecovery.of_append (landed : LandedByRecovery env (trace ++ extra))
    (absent : .confirmed .landing ∉ extra) : LandedByRecovery env trace := by
  obtain ⟨past, rest, split, started, quiet⟩ := landed
  obtain ⟨rest', before⟩ := split_of_append split absent
  exact ⟨past, rest', before, started, quiet⟩

theorem RecoveryLanded.append (landed : RecoveryLanded trace) (extra : List (Event N)) :
    RecoveryLanded (trace ++ extra) := by
  obtain ⟨flight, recovery, split, called⟩ := landed
  exact ⟨flight, recovery ++ extra, by rw [split]; simp,
    called.trans (List.sublist_append_left _ _)⟩

theorem Reported.append (reported : Reported env e trace) (later : ∀ event ∈ extra, event.Later) :
    Reported env e (trace ++ extra) := by
  constructor
  · intro past rest c e' split before raised
    obtain ⟨rest', earlier⟩ := split_of_append split fun member => (later _ member).1.1
    exact reported.flight past rest' c e' earlier before raised
  · intro record failure text status errorType member event
    rcases List.mem_append.mp member with before | inside
    · obtain ⟨same, landing, reports⟩ :=
        reported.record record failure text status errorType before event
      refine ⟨same, fun landed => landing (landed.of_append fun member => (later _ member).1.2 rfl),
        fun confirmed => ?_⟩
      exact ⟨(reports confirmed).1, (reports confirmed).2.append extra⟩
    · exact absurd rfl ((later _ inside).2 record failure)

theorem AuditEvent.name_missionFailed {event : AuditEvent N} {text : String}
    {status : RecoveryStatus} {errorType : Option String}
    (same : event = .missionFailed text status errorType) : event.name = "mission_failed" := by
  rw [same]
  rfl

/-- A flight that fails before its handler has a faithful trace. -/
theorem Fails.reported (fails : Fails env e trace) : Reported env e trace where
  flight past rest c e' split _ raised := fails.explains past rest c e' split raised
  record _ _ _ _ _ member event :=
    absurd (AuditEvent.name_missionFailed event) (fails.unfailed _ member)

/-- The record of the handler, and what the writer prints when it is lost. -/
def Event.Filed (filed : AuditRecord N) : Event N → Prop
  | .audit record _ => record = filed
  | .stderr _ => True
  | _ => False

/-- The trace of the handler: the flight, the recovery, the record. -/
theorem reported_of_recovers {s₀ s s' : ExecState N} {missionId : UUID}
    {outcome : RecoveryStatus × Option String} (fails : Fails env e s₀.trace)
    (recovers : Recovers env s₀ outcome s)
    (filed : Adds (Event.Filed ⟨missionId, .missionFailed e.text outcome.1 outcome.2⟩) s s') :
    Reported env e s'.trace := by
  obtain ⟨⟨extra, more, begins, unfailed⟩, landing, reports⟩ := recovers
  obtain ⟨tail, last, filed⟩ := filed
  constructor
  · intro past rest c e' split before raised
    have absent : Event.issued c ∉ tail := fun member => filed _ member
    rw [last] at split
    obtain ⟨rest', earlier⟩ := split_of_append split absent
    rw [more] at earlier
    rcases begins with rfl | head
    · rw [List.append_nil] at earlier
      exact fails.explains past rest' c e' earlier raised
    · obtain ⟨later, rfl⟩ := List.head?_eq_some_iff.mp head
      rcases List.append_eq_append_iff.mp earlier with ⟨middle, grown, after⟩ |
        ⟨middle, grown, after⟩
      · rcases List.cons_eq_append_iff.mp after with ⟨-, same⟩ | ⟨rest'', same, -⟩
        · cases same
        · refine absurd ?_ before
          rw [grown, same]
          simp
      · cases middle with
        | nil => cases after
        | cons first middle =>
          obtain ⟨same, -⟩ := List.cons.inj after
          rw [← same] at grown
          exact fails.explains past middle c e' grown raised
  · intro record failure text status errorType member event
    have failed := AuditEvent.name_missionFailed event
    rw [last, more, List.mem_append, List.mem_append] at member
    rcases member with (flight | inside) | inside
    · exact absurd failed (fails.unfailed _ flight)
    · exact absurd failed (unfailed record failure inside)
    · have same : record = ⟨missionId, .missionFailed e.text outcome.1 outcome.2⟩ :=
        filed _ inside
      rw [same] at event
      cases event
      rw [last]
      refine ⟨rfl, fun landed => ?_, fun confirmed => ?_⟩
      · rw [landing (landed.of_append fun member => filed _ member)]
      · exact ⟨(reports confirmed).1, (reports confirmed).2.append tail⟩

theorem Event.Aside.later {event : Event N} (aside : event.Aside) : event.Later := by
  cases event with
  | stdout | stderr | serverStopped =>
    exact ⟨⟨trivial, fun same => by cases same⟩, fun _ _ same => by cases same⟩
  | _ => cases aside

variable [Field N] [LinearOrder N] [FloorRing N] [PyMath N] [PyText N] [Crypto]
  (x : MavsdkExecutor N)

omit [FloorRing N] [PyMath N] in
/-- The handler raises the exception that it handles, with a faithful trace. -/
theorem triple_onFailure_reported (missionId : UUID) (exc : PyExc) :
    Triple (fun s => Fails env exc s.trace) (x.onFailure env missionId exc) (fun _ _ => False)
      (fun e s => e.cls.isException = true → Reported env e s.trace) := by
  unfold MavsdkExecutor.onFailure
  by_cases caught : exc.cls.isMissionFailure = true
  · rw [if_pos caught]
    refine triple_from fun s₀ fails => ?_
    refine triple_bind (triple_except (triple_recoverStatus_recovers x s₀ fails.unfailed)
      fun e s uncaught ordinary => ?_) fun outcome => ?_
    · rw [ExcClass.isExceptionOrCancelled_of_isException ordinary] at uncaught
      cases uncaught
    · refine triple_from fun s recovers => ?_
      let record : AuditRecord N := ⟨missionId, .missionFailed exc.text outcome.1 outcome.2⟩
      have only : Only (Event.Filed record)
          (writeAuditRecordBestEffort env x.logDirectory record) :=
        only_writeAuditRecordBestEffort (fun _ => rfl) (fun _ => trivial) env _
      have filed := (triple_and (only.triple s)
        (triple_writeAuditRecordBestEffort_rude env x.logDirectory record))
      refine triple_bind (Q := fun _ s' => Reported env exc s'.trace)
        (triple_conseq filed (fun _ same => ⟨same, trivial⟩)
          (fun _ s' filed => reported_of_recovers fails recovers filed.1) ?_) fun _ =>
        triple_raise fun s' reported _ => reported
      rintro e s' ⟨-, rude⟩ ordinary
      rw [ordinary] at rude
      cases rude
  · rw [if_neg caught]
    exact triple_raise fun s fails _ => fails.reported

/-- A run of `_execute` in which all commands return, or that raises what its failing command
    raised, with a faithful trace. -/
theorem triple_execute'_reported (mission : Mission N) (approval : SignedApproval) :
    Triple (fun s => InFlight env s.trace) (x.execute' env mission approval)
      (fun _ s => InFlight env s.trace)
      (fun e s => e.cls.isException = true → Reported env e s.trace) := by
  have created : Only Event.Passive (MavsdkExecutor.createSystem env) :=
    only_bind (only_emit trivial) fun _ => only_bind (only_ask _) fun _ =>
      only_bind (only_raiseOption _) fun _ => only_bind (only_emit trivial) fun _ =>
        fun _ _ adds => adds
  have started : Only Event.Passive (writeAuditRecord env x.logDirectory
      ⟨mission.missionId, .missionStarted mission.description x.systemAddress⟩) :=
    only_writeAuditRecord (fun _ => (by decide : "mission_started" ≠ "mission_failed")) env _
  have completed : Only Event.Passive (writeAuditRecordBestEffort env x.logDirectory
      ⟨mission.missionId, .missionCompleted⟩) :=
    only_writeAuditRecordBestEffort
      (fun _ => (by decide : "mission_completed" ≠ "mission_failed")) (fun _ => trivial) env _
  have flown : Triple (fun s => InFlight env s.trace)
      (Prog.handle (x.fly env mission approval) (x.onFailure env mission.missionId))
      (fun _ s => InFlight env s.trace)
      (fun e s => e.cls.isException = true → Reported env e s.trace) :=
    triple_handle (explained_fly x mission approval) fun e =>
      triple_post (triple_onFailure_reported x mission.missionId e) fun _ _ never => never.elim
  have early : ∀ (e : PyExc) (s : ExecState N), Fails env e s.trace →
      e.cls.isException = true → Reported env e s.trace := fun _ _ fails _ => fails.reported
  unfold MavsdkExecutor.execute'
  refine triple_bind (triple_except (explained_of_only created) early) fun _ => ?_
  refine triple_bind (triple_except (explained_of_only started) early) fun _ => ?_
  refine triple_bind (triple_except (explained_of_only (only_setFlags _)) early) fun _ => ?_
  refine triple_bind flown fun _ => ?_
  refine triple_bind (triple_except (explained_of_only completed) early) fun _ => ?_
  exact triple_pure fun _ flight => flight

variable {x} {mission : Mission N} {approval : SignedApproval} {s₀ s : ExecState N}

/-- An execution that raises an ordinary exception has a faithful trace. -/
theorem Executed.reported (executed : Executed x env mission approval s₀ (.error e) s)
    (prints : ∀ t line, env.stderr t line = none) (ordinary : e.cls.isException = true)
    (start : InFlight env s₀.trace) : Reported env e s.trace := by
  generalize outcome : (Except.error e : Except PyExc ExecutionResult) = final at executed
  cases executed with
  | refused e' => cases outcome; exact (start.fails e).reported
  | unauthorized e' => cases outcome; exact (start.fails e).reported
  | ran table' result _ s' _ accepted consumed run stopped ending =>
    have failed : result = .error e := by
      rcases ending with rfl | ⟨e', same, rude | ⟨t, line, printed⟩⟩
      · exact outcome.symm
      · cases outcome.trans same
        rw [ordinary] at rude
        cases rude
      · rw [prints t line] at printed
        cases printed
    subst failed
    have authorized : InFlight env (s₀.authorized approval.payload table').trace :=
      start.append (by simp [Event.Passive])
    have reported := (triple_execute'_reported x mission approval).raised authorized run ordinary
    obtain ⟨⟨extra, more, asides⟩, -⟩ := stopped
    rw [more]
    exact reported.append fun event member => (asides event member).later

/-- In an execution that returns every command has returned. -/
theorem Executed.inFlight {r : ExecutionResult}
    (executed : Executed x env mission approval s₀ (.ok r) s) (start : InFlight env s₀.trace) :
    InFlight env s.trace := by
  generalize outcome : (Except.ok r : Except PyExc ExecutionResult) = final at executed
  cases executed with
  | refused | unauthorized => cases outcome
  | ran table' result _ s' _ accepted consumed run stopped ending =>
    have returned : result = .ok r := by
      rcases ending with rfl | ⟨e', same, -⟩
      · exact outcome.symm
      · cases outcome.trans same
    subst returned
    have authorized : InFlight env (s₀.authorized approval.payload table').trace :=
      start.append (by simp [Event.Passive])
    have flown := (triple_execute'_reported x mission approval).returned authorized run
    obtain ⟨⟨extra, more, asides⟩, -⟩ := stopped
    rw [more]
    exact flown.append fun event member => (asides event member).later.1.1

end Reported

end Nightjar
