import Nightjar.Flight.Proofs.Commands
import Nightjar.Interact.Relational

/-!
# The flight does not see the audit

Two runs of `_execute` whose environments differ in how the audit writers fail, from the accepted
takeoff on and in the handler. The two runs go side by side: up to the takeoff their traces are
equal, after it they differ in what the writers left. So they fly alike and end alike.
-/

namespace Nightjar

open Interact Prog Exec Python

section Projections

variable {N : Type}

/-- An event of the audit writers. -/
def Event.ofWriters : Event N → Bool
  | .audit _ _ | .stderr _ => true
  | _ => false

/-- What happened beside the audit writers. -/
def flightEvents (trace : List (Event N)) : List (Event N) := trace.filter fun e => !e.ofWriters

/-- The record that an event attempts to write. -/
def Event.attempted? : Event N → Option (AuditRecord N)
  | .audit record _ => some record
  | _ => none

/-- The records that were given to the writers. -/
def attemptedRecords (trace : List (Event N)) : List (AuditRecord N) :=
  trace.filterMap Event.attempted?

/-- What happened beside the writers from the start of the recovery on. -/
def recoveryDecision (trace : List (Event N)) : List (Event N) :=
  sinceRecovery (flightEvents trace)

/-- The event of the record that the handler writes. -/
def AuditEvent.isMissionFailed : AuditEvent N → Bool
  | .missionFailed _ _ _ => true
  | _ => false

/-- The commands are among what happened beside the writers. -/
theorem commands_flightEvents (trace : List (Event N)) :
    commands (flightEvents trace) = commands trace := by
  rw [commands, flightEvents, List.filterMap_filter]
  refine List.filterMap_congr fun e _ => ?_
  cases e <;> rfl

theorem flightEvents_append (t t' : List (Event N)) :
    flightEvents (t ++ t') = flightEvents t ++ flightEvents t' := List.filter_append t t'

theorem attemptedRecords_append (t t' : List (Event N)) :
    attemptedRecords (t ++ t') = attemptedRecords t ++ attemptedRecords t' :=
  List.filterMap_append

end Projections

section Worlds

variable {N : Type}

/-- The vehicle, its telemetry, the timers and the cancellations depend on the commands issued so
    far. -/
structure Vehicle.Reactive (v : Vehicle N) : Prop where
  command : ∀ t t', commands t = commands t' → v.command t = v.command t'
  connectionState : ∀ t t', commands t = commands t' → v.connectionState t = v.connectionState t'
  exposesHealth : ∀ t t', commands t = commands t' → v.exposesHealth t = v.exposesHealth t'
  exposesHome : ∀ t t', commands t = commands t' → v.exposesHome t = v.exposesHome t'
  exposesArmed : ∀ t t', commands t = commands t' → v.exposesArmed t = v.exposesArmed t'
  health : ∀ t t', commands t = commands t' → v.health t = v.health t'
  home : ∀ t t', commands t = commands t' → v.home t = v.home t'
  armed : ∀ t t', commands t = commands t' → v.armed t = v.armed t'
  inAir : ∀ t t', commands t = commands t' → v.inAir t = v.inAir t'
  position : ∀ t t', commands t = commands t' → v.position t = v.position t'
  interrupt : ∀ t t', commands t = commands t' → v.interrupt t = v.interrupt t'

/-- Once the takeoff was accepted, and in the handler, the audit writers raise an `Exception` if
    anything. -/
structure Env.LosesQuietly (env : Env N) : Prop where
  audit : ∀ t record e, (Event.returned .takeoff ∈ t ∨ record.event.isMissionFailed = true) →
    env.audit t record = some e → e.cls.isException = true
  stderr : ∀ t line e, env.stderr t line = some e → e.cls.isException = true

/-- Two environments that differ only in how the writers fail once the takeoff was accepted, and
    in the handler. -/
structure DifferInAudit (env env' : Env N) : Prop where
  vehicle : env.toVehicle = env'.toVehicle
  reactive : env.toVehicle.Reactive
  factory : env.systemFactory = env'.systemFactory
  before : ∀ t record, Event.returned .takeoff ∉ t → record.event.isMissionFailed = false →
    env.audit t record = env'.audit t record
  quiet : env.LosesQuietly
  quiet' : env'.LosesQuietly

/-- What the vehicle answers is the same in both after the same commands. -/
theorem DifferInAudit.answers {env env' : Env N} (differ : DifferInAudit env env') {γ : Type}
    (field : Vehicle N → List (Event N) → γ)
    (reacts : ∀ t t', commands t = commands t' →
      field env.toVehicle t = field env.toVehicle t') :
    ∀ t t', commands t = commands t' → field env.toVehicle t = field env'.toVehicle t' := by
  rw [← differ.vehicle]
  exact reacts

/-! ## States side by side -/

/-- Before or after the takeoff was accepted. -/
inductive FlightPhase where
  | before
  | after
  deriving DecidableEq, Repr

/-- Two states that differ in what the writers left. -/
structure Alike (s t : ExecState N) : Prop where
  flags : s.flags = t.flags
  flight : flightEvents s.trace = flightEvents t.trace
  records : attemptedRecords s.trace = attemptedRecords t.trace

/-- Two states in a phase: before the takeoff they have the same trace. -/
inductive Aligned : FlightPhase → ExecState N → ExecState N → Prop
  | before {s t : ExecState N} (flags : s.flags = t.flags) (trace : s.trace = t.trace)
      (grounded : Event.returned .takeoff ∉ s.trace)
      (uncommitted : s.flags.flightCommitted = false) : Aligned .before s t
  | after {s t : ExecState N} (alike : Alike s t) (flying : Event.returned .takeoff ∈ s.trace)
      (flying' : Event.returned .takeoff ∈ t.trace)
      (committed : s.flags.flightCommitted = true) : Aligned .after s t

theorem Aligned.alike {phase : FlightPhase} {s t : ExecState N} (aligned : Aligned phase s t) :
    Alike s t := by
  cases aligned with
  | before flags trace => exact ⟨flags, by rw [trace], by rw [trace]⟩
  | after alike => exact alike

theorem Alike.commands {s t : ExecState N} (alike : Alike s t) :
    commands s.trace = commands t.trace := by
  rw [← commands_flightEvents s.trace, alike.flight, commands_flightEvents]

/-- Events beside the takeoff keep states aligned. -/
theorem Aligned.emit {phase : FlightPhase} {s t : ExecState N} (aligned : Aligned phase s t)
    {e : Event N} (other : e ≠ .returned .takeoff) :
    Aligned phase { s with trace := s.trace ++ [e] } { t with trace := t.trace ++ [e] } := by
  cases aligned with
  | before flags trace grounded uncommitted =>
    refine .before flags (congrArg (· ++ [e]) trace) ?_ uncommitted
    simp [grounded, Ne.symm other]
  | after alike flying flying' committed =>
    refine .after ⟨alike.flags, ?_, ?_⟩ (List.mem_append_left _ flying)
      (List.mem_append_left _ flying') committed
    · rw [flightEvents_append, flightEvents_append, alike.flight]
    · rw [attemptedRecords_append, attemptedRecords_append, alike.records]

/-- So do assignments that leave `flight_committed`. -/
theorem Aligned.setFlags {phase : FlightPhase} {s t : ExecState N} (aligned : Aligned phase s t)
    {assign : Flags → Flags}
    (leaves : (assign s.flags).flightCommitted = s.flags.flightCommitted) :
    Aligned phase { s with flags := assign s.flags } { t with flags := assign t.flags } := by
  cases aligned with
  | before flags trace grounded uncommitted =>
    exact .before (congrArg assign flags) trace grounded (leaves.trans uncommitted)
  | after alike flying flying' committed =>
    exact .after ⟨congrArg assign alike.flags, alike.flight, alike.records⟩ flying flying'
      (leaves.trans committed)

/-- Both runs raised the same, in aligned states. -/
def BothRaised (e f : PyExc) (s t : ExecState N) : Prop :=
  e = f ∧ ∃ phase, Aligned phase s t

end Worlds

section Primitives

variable {N : Type} {env env' : Env N} {phase : FlightPhase} {α β ι : Type}

/-- What runs in lockstep raises the same in aligned states. -/
theorem relates_of_lockstep {p q : Exec N α} (lockstep : Lockstep (Aligned phase) p q) :
    Relates (Aligned phase) p q (fun a b s t => a = b ∧ Aligned phase s t) BothRaised :=
  relates_except lockstep fun _ _ _ _ post => ⟨post.1, phase, post.2⟩

/-- A step in lockstep, and then the rest. -/
theorem relates_step {p q : Exec N α} {f g : α → Exec N β}
    {Q : β → β → ExecState N → ExecState N → Prop} (first : Lockstep (Aligned phase) p q)
    (rest : ∀ a, Relates (Aligned phase) (f a) (g a) Q BothRaised) :
    Relates (Aligned phase) (p >>= f) (q >>= g) Q BothRaised :=
  relates_bind (relates_of_lockstep first) fun a _ => relates_fact fun same => same ▸ rest a

theorem lockstep_emit (e : Event N) (other : e ≠ .returned .takeoff) :
    Lockstep (Aligned phase) (emit e) (emit e) :=
  lockstep_modify fun _ _ aligned => aligned.emit other

theorem lockstep_setFlags {assign : Flags → Flags}
    (leaves : ∀ flags, (assign flags).flightCommitted = flags.flightCommitted) :
    Lockstep (Aligned (N := N) phase) (setFlags assign) (setFlags assign) :=
  lockstep_modify fun _ _ aligned => aligned.setFlags (leaves _)

/-- A question that depends on the commands is answered alike. -/
theorem lockstep_ask {answer answer' : List (Event N) → α}
    (agree : ∀ t t', commands t = commands t' → answer t = answer' t') :
    Lockstep (Aligned phase) (ask answer) (ask answer') :=
  fun s t aligned => ⟨agree s.trace t.trace aligned.alike.commands, aligned⟩

/-- Before the takeoff it is enough that the answer depends on the trace. -/
theorem lockstep_askBefore {answer answer' : List (Event N) → α}
    (agree : ∀ t, Event.returned .takeoff ∉ t → answer t = answer' t) :
    Lockstep (Aligned .before) (ask answer) (ask answer') := by
  intro s t aligned
  refine ⟨?_, aligned⟩
  cases aligned with
  | before flags trace grounded =>
    show answer s.trace = answer' t.trace
    rw [← trace]
    exact agree _ grounded

/-- A command but the takeoff. -/
theorem lockstep_command (differ : DifferInAudit env env') (c : Command N) (other : c ≠ .takeoff) :
    Lockstep (Aligned phase) (command env c) (command env' c) := by
  unfold command
  refine lockstep_bind (lockstep_emit _ (by simp)) fun _ => ?_
  refine lockstep_bind (lockstep_ask fun t t' same => congrFun
    (differ.answers Vehicle.command differ.reactive.command t t' same) c) fun failure => ?_
  refine lockstep_bind (lockstep_raiseOption failure) fun _ => ?_
  exact lockstep_emit _ (by simp [other])

theorem lockstep_awaitItem {record : ι → Event N} {accept : ι → Bool} (stream : Stream ι)
    {ended : PyExc} (other : ∀ item, record item ≠ .returned .takeoff) :
    Lockstep (Aligned phase) (awaitItem record accept stream ended)
      (awaitItem record accept stream ended) := by
  unfold awaitItem
  refine lockstep_bind (lockstep_forStream (fun item => ?_) stream.ending stream.items)
    fun found => ?_
  · exact lockstep_bind (lockstep_emit _ (other item)) fun _ => lockstep_pure _
  · cases found with
    | some item => exact lockstep_pure item
    | none => exact lockstep_raise ended

theorem lockstep_waitFor [Zero N] [LE N] [DecidableRel (α := N) (· ≤ ·)]
    (differ : DifferInAudit env env') (timeout : N) {body body' : Exec N α}
    (inner : Lockstep (Aligned phase) body body') :
    Lockstep (Aligned phase) (waitFor env timeout body) (waitFor env' timeout body') := by
  have interrupted := differ.answers Vehicle.interrupt differ.reactive.interrupt
  unfold waitFor
  split
  · exact lockstep_bind (lockstep_ask interrupted) fun failure =>
      lockstep_bind (lockstep_raiseOption failure) fun _ => lockstep_raise _
  · refine lockstep_bind inner fun a => lockstep_bind (lockstep_ask interrupted) fun failure => ?_
    exact lockstep_bind (lockstep_raiseOption failure) fun _ => lockstep_pure a

theorem lockstep_onTimeout {replacement : PyExc} {body body' : Exec N α}
    (inner : Lockstep (Aligned phase) body body') :
    Lockstep (Aligned phase) (onTimeout replacement body) (onTimeout replacement body') := by
  refine lockstep_handle inner fun e => ?_
  split <;> exact lockstep_raise _

/-- The strict writer, before the takeoff. -/
theorem lockstep_writeAuditRecord (differ : DifferInAudit env env') (logDirectory : String)
    (record : AuditRecord N) (other : record.event.isMissionFailed = false) :
    Lockstep (Aligned .before) (writeAuditRecord env logDirectory record)
      (writeAuditRecord env' logDirectory record) := by
  unfold writeAuditRecord
  refine lockstep_bind (lockstep_askBefore fun t grounded => differ.before t record grounded other)
    fun failure => ?_
  refine lockstep_bind (lockstep_emit _ (by simp)) fun _ => ?_
  exact lockstep_bind (lockstep_raiseOption failure) fun _ => lockstep_pure _

/-- The best-effort writer returns where the writers lose quietly, and leaves only events of the
    writers. -/
theorem returns_writeAuditRecordBestEffort (quiet : env.LosesQuietly) (logDirectory : String)
    (record : AuditRecord N) (s : ExecState N)
    (late : Event.returned .takeoff ∈ s.trace ∨ record.event.isMissionFailed = true) :
    ∃ path more, writeAuditRecordBestEffort env logDirectory record s =
        (.ok path, { s with trace := s.trace ++ more }) ∧
      flightEvents more = [] ∧ attemptedRecords more = [record] := by
  unfold writeAuditRecordBestEffort writeAuditRecord
  cases refused : env.audit s.trace record with
  | none =>
    refine ⟨some (auditPath logDirectory record.missionId), [.audit record none], ?_, rfl, rfl⟩
    simp [handle, bind, ask, Prog.read, pure, emit, Prog.modify, raiseOption, refused]
  | some e =>
    have ordinary := quiet.audit _ _ _ late refused
    refine ⟨none, [.audit record (some e), .stderr (auditFallbackLine record e)], ?_, rfl, rfl⟩
    cases printed : env.stderr (s.trace ++ [.audit record (some e)])
        (auditFallbackLine record e) with
    | none =>
      simp [handle, bind, ask, Prog.read, pure, emit, Prog.modify, raiseOption, raise, refused,
        ordinary, emitAuditFallback, printStderr, printed]
    | some e' =>
      have ordinary' := quiet.stderr _ _ _ printed
      simp [handle, bind, ask, Prog.read, pure, emit, Prog.modify, raiseOption, raise, refused,
        ordinary, emitAuditFallback, printStderr, printed, ordinary']

theorem Alike.write {s t : ExecState N} (alike : Alike s t) {more more' : List (Event N)}
    {record : AuditRecord N} (silent : flightEvents more = [])
    (attempted : attemptedRecords more = [record]) (silent' : flightEvents more' = [])
    (attempted' : attemptedRecords more' = [record]) :
    Alike { s with trace := s.trace ++ more } { t with trace := t.trace ++ more' } := by
  refine ⟨alike.flags, ?_, ?_⟩
  · rw [flightEvents_append, flightEvents_append, silent, silent', alike.flight]
  · rw [attemptedRecords_append, attemptedRecords_append, attempted, attempted', alike.records]

/-- After the takeoff the best-effort writers keep states aligned. -/
theorem relates_writeAuditRecordBestEffort (differ : DifferInAudit env env')
    (logDirectory : String) (record : AuditRecord N) {E : PyExc → PyExc → ExecState N →
      ExecState N → Prop} :
    Relates (Aligned .after) (writeAuditRecordBestEffort env logDirectory record)
      (writeAuditRecordBestEffort env' logDirectory record) (fun _ _ => Aligned .after) E := by
  refine relates_of_returns fun s t aligned => ?_
  cases aligned with
  | after alike flying flying' committed =>
    obtain ⟨path, more, left, silent, attempted⟩ :=
      returns_writeAuditRecordBestEffort differ.quiet logDirectory record s (Or.inl flying)
    obtain ⟨path', more', right, silent', attempted'⟩ :=
      returns_writeAuditRecordBestEffort differ.quiet' logDirectory record t (Or.inl flying')
    exact ⟨path, path', _, _, left, right, .after
      (alike.write silent attempted silent' attempted') (List.mem_append_left _ flying)
      (List.mem_append_left _ flying') committed⟩

/-- In the handler they leave states alike. -/
theorem relates_writeMissionFailed (differ : DifferInAudit env env') (logDirectory : String)
    (record : AuditRecord N) (failed : record.event.isMissionFailed = true)
    {E : PyExc → PyExc → ExecState N → ExecState N → Prop} :
    Relates (Aligned phase) (writeAuditRecordBestEffort env logDirectory record)
      (writeAuditRecordBestEffort env' logDirectory record) (fun _ _ => Alike) E := by
  refine relates_of_returns fun s t aligned => ?_
  obtain ⟨path, more, left, silent, attempted⟩ :=
    returns_writeAuditRecordBestEffort differ.quiet logDirectory record s (Or.inr failed)
  obtain ⟨path', more', right, silent', attempted'⟩ :=
    returns_writeAuditRecordBestEffort differ.quiet' logDirectory record t (Or.inr failed)
  exact ⟨path, path', _, _, left, right,
    aligned.alike.write silent attempted silent' attempted'⟩

theorem lockstep_chooseCleanup (differ : DifferInAudit env env') :
    Lockstep (Aligned phase) (MavsdkExecutor.chooseCleanup env)
      (MavsdkExecutor.chooseCleanup env') := by
  have streams := differ.answers Vehicle.inAir differ.reactive.inAir
  unfold MavsdkExecutor.chooseCleanup
  refine lockstep_bind (lockstep_ask streams) fun stream => ?_
  refine lockstep_bind (lockstep_forStream (fun item => ?_) stream.ending stream.items)
    fun chosen => ?_
  · refine lockstep_bind (lockstep_emit _ (by simp)) fun _ => ?_
    cases item with
    | exactFalse =>
      exact lockstep_bind (lockstep_command differ .disarm (by simp)) fun _ => lockstep_pure _
    | exactTrue => exact lockstep_pure _
    | invalid truthy => exact lockstep_raise _
  · cases chosen with
    | some choice => exact lockstep_pure choice
    | none => exact lockstep_raise _

/-- The accepted takeoff takes both runs from one phase to the next. -/
theorem relates_takeoff (differ : DifferInAudit env env') {f g : Unit → Exec N Unit}
    {assign : Flags → Flags}
    (commits : ∀ flags, (assign flags).flightCommitted = true)
    (rest : Relates (Aligned .after) (f ()) (g ()) (fun _ _ => Aligned .after) BothRaised) :
    Relates (Aligned .before) (command env .takeoff >>= fun _ => setFlags assign >>= f)
      (command env' .takeoff >>= fun _ => setFlags assign >>= g) (fun _ _ => Aligned .after)
      BothRaised := by
  have accepted : Relates (Aligned .before) (command env .takeoff) (command env' .takeoff)
      (fun _ _ s t => Alike s t ∧ Event.returned .takeoff ∈ s.trace ∧
        Event.returned .takeoff ∈ t.trace) BothRaised := by
    unfold command
    refine relates_step (lockstep_emit _ (by simp)) fun _ => ?_
    refine relates_step (lockstep_ask fun t t' same => congrFun
      (differ.answers Vehicle.command differ.reactive.command t t' same) _) fun failure => ?_
    refine relates_step (lockstep_raiseOption failure) fun _ => ?_
    intro s t aligned
    refine ⟨⟨aligned.alike.flags, ?_, ?_⟩, by simp, by simp⟩
    · rw [flightEvents_append, flightEvents_append, aligned.alike.flight]
    · rw [attemptedRecords_append, attemptedRecords_append, aligned.alike.records]
  refine relates_bind accepted fun _ _ => relates_bind (Q := fun _ _ => Aligned .after)
    (fun s t ⟨alike, flying, flying'⟩ => ?_) fun _ _ => rest
  exact .after ⟨congrArg assign alike.flags, alike.flight, alike.records⟩ flying flying'
    (commits s.flags)

end Primitives

section Waits

variable {N : Type} [Field N] [LinearOrder N] [PyText N] [Crypto]
  {env env' : Env N} {phase : FlightPhase} (differ : DifferInAudit env env')
  (x : MavsdkExecutor N)

include differ

/-! ## The waits and the recovery -/

theorem lockstep_waitForConnection :
    Lockstep (Aligned phase) (x.waitForConnection env) (x.waitForConnection env') := by
  have streams := differ.answers Vehicle.connectionState differ.reactive.connectionState
  unfold MavsdkExecutor.waitForConnection
  refine lockstep_bind (lockstep_onTimeout (lockstep_waitFor differ _ ?_)) fun _ =>
    lockstep_emit _ (by simp)
  refine lockstep_bind (lockstep_ask streams) fun stream => ?_
  exact lockstep_bind (lockstep_awaitItem stream (by simp)) fun _ => lockstep_pure _

/-- The home is read before the takeoff only, so the clock may depend on the trace. -/
theorem lockstep_readHome :
    Lockstep (Aligned .before) (x.readHome env) (x.readHome env') := by
  have health := differ.answers Vehicle.exposesHealth differ.reactive.exposesHealth
  have home := differ.answers Vehicle.exposesHome differ.reactive.exposesHome
  unfold MavsdkExecutor.readHome
  refine lockstep_bind (lockstep_onTimeout (lockstep_waitFor differ _ ?_)) fun snapshot =>
    lockstep_bind (lockstep_emit _ (by simp)) fun _ => lockstep_pure snapshot
  refine lockstep_bind (lockstep_ask fun t t' same => by rw [health t t' same, home t t' same])
    fun exposed => ?_
  split
  · exact lockstep_raise _
  · refine lockstep_bind (lockstep_ask (differ.answers Vehicle.health differ.reactive.health))
      fun healthStream => lockstep_bind (lockstep_awaitItem healthStream (by simp)) fun _ => ?_
    refine lockstep_bind (lockstep_ask (differ.answers Vehicle.home differ.reactive.home))
      fun homeStream => lockstep_bind (lockstep_awaitItem homeStream (by simp)) fun home => ?_
    have clock : ∀ t, Event.returned .takeoff ∉ t → env.utcNow t = env'.utcNow t := fun t _ =>
      congrFun (congrArg Vehicle.utcNow differ.vehicle) t
    exact lockstep_bind (lockstep_askBefore clock) fun now => lockstep_lift _

variable [FloorRing N] [PyMath N] in
theorem lockstep_verifyHome (missionId : UUID) (bound live : HomeSnapshot N)
    (homePhase : HomePhase) :
    Lockstep (Aligned .before) (x.verifyHome env missionId bound live homePhase)
      (x.verifyHome env' missionId bound live homePhase) := by
  unfold MavsdkExecutor.verifyHome
  refine lockstep_bind (lockstep_lift _) fun check => ?_
  refine lockstep_bind (lockstep_writeAuditRecord differ _ _ rfl) fun _ => ?_
  split
  · exact lockstep_raise _
  · exact lockstep_pure _

theorem lockstep_waitUntilArmed :
    Lockstep (Aligned phase) (x.waitUntilArmed env) (x.waitUntilArmed env') := by
  have exposes := differ.answers Vehicle.exposesArmed differ.reactive.exposesArmed
  have streams := differ.answers Vehicle.armed differ.reactive.armed
  unfold MavsdkExecutor.waitUntilArmed
  refine lockstep_bind (lockstep_onTimeout (lockstep_waitFor differ _ ?_)) fun _ =>
    lockstep_emit _ (by simp)
  refine lockstep_bind (lockstep_ask exposes) fun exposed => ?_
  split
  · exact lockstep_raise _
  · refine lockstep_bind (lockstep_ask streams) fun stream => ?_
    exact lockstep_bind (lockstep_awaitItem stream (by simp)) fun _ => lockstep_pure _

theorem lockstep_waitUntilTakeoffAltitude (altitude : N) :
    Lockstep (Aligned phase) (x.waitUntilTakeoffAltitude env altitude)
      (x.waitUntilTakeoffAltitude env' altitude) := by
  have streams := differ.answers Vehicle.position differ.reactive.position
  unfold MavsdkExecutor.waitUntilTakeoffAltitude
  refine lockstep_bind (lockstep_onTimeout (lockstep_waitFor differ _ ?_)) fun _ =>
    lockstep_emit _ (by simp)
  refine lockstep_bind (lockstep_ask streams) fun stream => ?_
  exact lockstep_bind (lockstep_awaitItem stream (by simp)) fun _ => lockstep_pure _

theorem lockstep_waitUntilLanded :
    Lockstep (Aligned phase) (x.waitUntilLanded env) (x.waitUntilLanded env') := by
  have streams := differ.answers Vehicle.inAir differ.reactive.inAir
  unfold MavsdkExecutor.waitUntilLanded
  refine lockstep_bind (lockstep_onTimeout (lockstep_waitFor differ _ ?_)) fun _ =>
    lockstep_emit _ (by simp)
  refine lockstep_bind (lockstep_ask streams) fun stream => ?_
  exact lockstep_bind (lockstep_awaitItem stream (by simp)) fun _ => lockstep_pure _

theorem lockstep_recover (takeoffAttempted : Bool) :
    Lockstep (Aligned phase) (x.recover env takeoffAttempted)
      (x.recover env' takeoffAttempted) := by
  have lands : Lockstep (Aligned phase)
      (do command env .land; x.waitUntilLanded env; pure RecoveryStatus.landingConfirmed)
      (do command env' .land; x.waitUntilLanded env'; pure RecoveryStatus.landingConfirmed) := by
    refine lockstep_bind (lockstep_command differ .land (by simp)) fun _ => ?_
    exact lockstep_bind (lockstep_waitUntilLanded differ x) fun _ => lockstep_pure _
  unfold MavsdkExecutor.recover
  cases takeoffAttempted with
  | true =>
    refine lockstep_bind (lockstep_pure none) fun choice => ?_
    cases choice with
    | some status => exact lockstep_pure status
    | none => exact lands
  | false =>
    refine lockstep_bind (lockstep_chooseCleanup differ) fun choice => ?_
    cases choice with
    | some status => exact lockstep_pure status
    | none => exact lands

/-- The recovery takes the same decision in both runs. -/
theorem lockstep_recoverStatus :
    Lockstep (Aligned phase) (x.recoverStatus env) (x.recoverStatus env') := by
  refine relates_bind_read fun s t aligned => ?_
  rw [← aligned.alike.flags]
  have here : ∀ s' t', (s' = s ∧ t' = t) → Aligned phase s' t' := by
    rintro s' t' ⟨rfl, rfl⟩
    exact aligned
  refine relates_conseq ?_ here (fun _ _ _ _ h => h) fun _ _ _ _ h => h
  split
  · refine lockstep_handle ?_ fun exc => ?_
    · refine lockstep_bind (lockstep_bind (lockstep_emit _ (by simp)) fun _ =>
        lockstep_waitFor differ _ (lockstep_recover differ x _)) fun status => lockstep_pure _
    · split
      · exact lockstep_pure _
      · exact lockstep_raise _
  · exact lockstep_pure _

end Waits

section Run

variable {N : Type} [Field N] [LinearOrder N] [FloorRing N] [PyMath N] [PyText N] [Crypto]
  {env env' : Env N} {phase : FlightPhase} (differ : DifferInAudit env env')
  (x : MavsdkExecutor N)

include differ

/-! ## The run -/

omit [Field N] [LinearOrder N] [FloorRing N] [PyMath N] [PyText N] in
/-- A record of a phase is strict before the takeoff, and cannot fail after it. -/
theorem lockstep_auditPhase (missionId : UUID) (event : AuditEvent N)
    (other : event.isMissionFailed = false) :
    Lockstep (Aligned phase) (x.auditPhase env missionId event)
      (x.auditPhase env' missionId event) := by
  refine relates_bind_read fun s t aligned => ?_
  rw [← aligned.alike.flags]
  have here : ∀ s' t', (s' = s ∧ t' = t) → Aligned phase s' t' := by
    rintro s' t' ⟨rfl, rfl⟩
    exact aligned
  refine relates_conseq ?_ here (fun _ _ _ _ h => h) fun _ _ _ _ h => h
  cases aligned with
  | before flags trace grounded uncommitted =>
    rw [uncommitted]
    exact lockstep_bind (lockstep_writeAuditRecord differ _ _ other) fun _ => lockstep_pure _
  | after alike flying flying' committed =>
    rw [committed]
    exact relates_bind (relates_writeAuditRecordBestEffort differ _ _) fun _ _ =>
      relates_pure fun _ _ aligned => ⟨rfl, aligned⟩

/-- The first action, the takeoff. -/
theorem relates_executeTakeoff (missionId : UUID) (bound : HomeSnapshot N) (altitude : N) :
    Relates (Aligned .before) (x.executeAction env missionId bound (.takeoff altitude))
      (x.executeAction env' missionId bound (.takeoff altitude)) (fun _ _ => Aligned .after)
      BothRaised := by
  refine relates_step (lockstep_command differ _ (by simp)) fun _ => ?_
  refine relates_step (lockstep_setFlags fun _ => rfl) fun _ => ?_
  refine relates_step (lockstep_command differ _ (by simp)) fun _ => ?_
  refine relates_step (lockstep_waitUntilArmed differ x) fun _ => ?_
  refine relates_step (lockstep_readHome differ x) fun home => ?_
  refine relates_step (lockstep_verifyHome differ x _ _ _ _) fun _ => ?_
  refine relates_step (lockstep_setFlags fun _ => rfl) fun _ => ?_
  refine relates_takeoff differ (fun _ => rfl) ?_
  exact relates_conseq (relates_of_lockstep (lockstep_waitUntilTakeoffAltitude differ x altitude))
    (fun _ _ h => h) (fun _ _ _ _ post => post.2) fun _ _ _ _ post => post

/-- The actions after the takeoff. -/
theorem lockstep_executeActions (missionId : UUID) (bound : HomeSnapshot N)
    (actions : List (MissionAction N)) (later : ∀ action ∈ actions, action.type ≠ .takeoff) :
    ∀ sequence, Lockstep (Aligned .after)
      (x.executeActions env missionId bound sequence actions)
      (x.executeActions env' missionId bound sequence actions) := by
  induction actions with
  | nil => exact fun _ => lockstep_pure ()
  | cons action actions ih =>
    intro sequence
    refine lockstep_bind (lockstep_auditPhase differ x _ _ rfl) fun _ => lockstep_bind ?_ fun _ =>
      lockstep_bind (lockstep_auditPhase differ x _ _ rfl) fun _ =>
        ih (fun other member => later other (List.mem_cons_of_mem _ member)) (sequence + 1)
    cases action with
    | takeoff altitude => exact absurd rfl (later _ List.mem_cons_self)
    | hold duration => exact lockstep_command differ _ (by simp)
    | land =>
      refine lockstep_bind (lockstep_command differ _ (by simp)) fun _ => ?_
      exact lockstep_bind (lockstep_waitUntilLanded differ x) fun _ =>
        lockstep_setFlags fun _ => rfl
    | goto north east altitude => exact lockstep_pure ()
    | returnHome => exact lockstep_pure ()

/-- The body of the `try`, for a mission that takes off once and first. -/
theorem relates_fly (mission : Mission N) (approval : SignedApproval) {altitude : N}
    {rest : List (MissionAction N)} (plan : mission.actions = .takeoff altitude :: rest)
    (once : ∀ action ∈ rest, action.type ≠ .takeoff) :
    Relates (Aligned .before) (x.fly env mission approval) (x.fly env' mission approval)
      (fun _ _ => Aligned .after) BothRaised := by
  unfold MavsdkExecutor.fly
  refine relates_step (lockstep_command differ _ (by simp)) fun _ => ?_
  refine relates_step (lockstep_waitForConnection differ x) fun _ => ?_
  refine relates_step (lockstep_lift _) fun bound => ?_
  refine relates_step (lockstep_readHome differ x) fun live => ?_
  refine relates_step (lockstep_verifyHome differ x _ _ _ _) fun _ => ?_
  rw [plan]
  refine relates_step (lockstep_auditPhase differ x _ _ rfl) fun _ => ?_
  refine relates_bind (relates_executeTakeoff differ x _ _ _) fun _ _ => ?_
  refine relates_step (lockstep_auditPhase differ x _ _ rfl) fun _ => ?_
  exact relates_conseq (relates_of_lockstep (lockstep_executeActions differ x _ _ rest once _))
    (fun _ _ h => h) (fun _ _ _ _ post => post.2) fun _ _ _ _ post => post

omit [FloorRing N] [PyMath N] in
/-- The handler raises the same in both runs. -/
theorem relates_onFailure (missionId : UUID) (exc : PyExc)
    {Q : Unit → Unit → ExecState N → ExecState N → Prop} :
    Relates (fun s t => ∃ phase, Aligned phase s t) (x.onFailure env missionId exc)
      (x.onFailure env' missionId exc) Q (fun e f s t => e = f ∧ Alike s t) := by
  refine relates_exists fun phase => ?_
  unfold MavsdkExecutor.onFailure
  split
  · refine relates_bind (relates_except (lockstep_recoverStatus differ x)
      fun e f s t post => ⟨post.1, post.2.alike⟩) fun outcome _ => relates_fact fun same => ?_
    subst same
    refine relates_bind (relates_writeMissionFailed differ _ _ rfl) fun _ _ => ?_
    exact relates_raise fun _ _ alike => ⟨rfl, alike⟩
  · exact relates_raise fun _ _ aligned => ⟨rfl, aligned.alike⟩

/-- The whole run. -/
theorem relates_execute' (mission : Mission N) (approval : SignedApproval) {altitude : N}
    {rest : List (MissionAction N)} (plan : mission.actions = .takeoff altitude :: rest)
    (once : ∀ action ∈ rest, action.type ≠ .takeoff) :
    Relates (Aligned .before) (x.execute' env mission approval) (x.execute' env' mission approval)
      (fun a b s t => a = b ∧ Alike s t) (fun e f s t => e = f ∧ Alike s t) := by
  have start : ∀ {α : Type} {p q : Exec N α}, Lockstep (Aligned .before) p q →
      Relates (Aligned .before) p q (fun a b s t => a = b ∧ Aligned .before s t)
        (fun e f s t => e = f ∧ Alike s t) := fun lockstep =>
    relates_except lockstep fun _ _ _ _ post => ⟨post.1, post.2.alike⟩
  unfold MavsdkExecutor.execute'
  refine relates_bind (start ?_) fun _ _ => relates_fact fun _ => ?_
  · unfold MavsdkExecutor.createSystem
    rw [← differ.factory]
    refine lockstep_bind (lockstep_emit _ (by simp)) fun _ => ?_
    refine lockstep_bind (lockstep_askBefore fun _ _ => rfl) fun failure => ?_
    refine lockstep_bind (lockstep_raiseOption failure) fun _ => ?_
    refine lockstep_bind (lockstep_emit _ (by simp)) fun _ => lockstep_modify fun s t aligned => ?_
    cases aligned with
    | before flags trace grounded uncommitted => exact .before flags trace grounded uncommitted
  refine relates_bind (start (lockstep_writeAuditRecord differ _ _ rfl)) fun path _ =>
    relates_fact fun same => ?_
  subst same
  refine relates_bind (Q := fun _ _ => Aligned .before) (fun s t aligned => ?_) fun _ _ => ?_
  · cases aligned with
    | before flags trace grounded => exact .before rfl trace grounded rfl
  refine relates_bind (relates_handle (relates_fly differ x mission approval plan once)
    fun e e' => relates_fact fun same => same ▸ relates_onFailure differ x _ e) fun _ _ => ?_
  refine relates_bind (relates_writeAuditRecordBestEffort differ _ _) fun _ _ => ?_
  exact relates_pure fun _ _ aligned => ⟨rfl, aligned.alike⟩

end Run

section Blind

variable {N : Type} [Field N] [LinearOrder N] [FloorRing N] [PyMath N] [PyText N] [Crypto]

/-- Two runs that fly alike and end alike. -/
structure SameFlight (first second : Except PyExc ExecutionResult × ExecState N) : Prop where
  outcome : first.1 = second.1
  /-- The commands and sleeps. -/
  commands : commands first.2.trace = commands second.2.trace
  recovery : recoveryDecision first.2.trace = recoveryDecision second.2.trace
  /-- Everything beside the writers' events. -/
  flight : flightEvents first.2.trace = flightEvents second.2.trace
  /-- What was to be recorded, the recovery status among it. -/
  records : attemptedRecords first.2.trace = attemptedRecords second.2.trace

/-- **The audit does not influence the flight.** Two runs of `_execute` on an accepted mission whose
    environments differ only in how the audit writers fail, once the takeoff was accepted and in
    the handler, fly alike and end alike. -/
theorem run_ignoresAudit (x : MavsdkExecutor N) (env env' : Env N) (mission : Mission N)
    (approval : SignedApproval) (table : NonceTable)
    (accepted : x.validateMission mission = .ok ()) (differ : DifferInAudit env env') :
    SameFlight (x.execute' env mission approval (.init N table))
      (x.execute' env' mission approval (.init N table)) := by
  obtain ⟨altitude, holds, plan, -⟩ := plan_of_validateMission accepted
  have once : ∀ action ∈ (holds.map .hold ++ [.land] : List (MissionAction N)),
      action.type ≠ .takeoff := by
    intro action member
    rcases List.mem_append.mp member with hold | land
    · obtain ⟨duration, -, rfl⟩ := List.mem_map.mp hold
      simp [MissionAction.type]
    · rw [List.mem_singleton.mp land]
      simp [MissionAction.type]
  have start : Aligned .before (ExecState.init N table) (.init N table) :=
    .before rfl rfl List.not_mem_nil rfl
  obtain ⟨outcome, alike⟩ := (relates_execute' differ x mission approval plan once).outcomes start
  exact ⟨outcome, alike.commands, congrArg sinceRecovery alike.flight, alike.flight, alike.records⟩

end Blind

section Sample

attribute [local instance] Crypto.keyless

/-- The takeoff was accepted. -/
def Event.acceptsTakeoff : Event ℚ → Bool
  | .returned .takeoff => true
  | _ => false

/-- A calm environment in which no record can be written once the takeoff was accepted, nor the
    loss be reported. -/
def lossyEnv : Env ℚ :=
  { Env.calm (sampleTelemetry ℚ [.exactFalse]) 1000 with
    audit := fun t _ => if t.any Event.acceptsTakeoff then some ⟨.osError, "disk full"⟩ else none
    stderr := fun _ _ => some ⟨.osError, "stderr closed"⟩ }

theorem differInAudit_sample :
    DifferInAudit (Env.calm (sampleTelemetry ℚ [.exactFalse]) 1000) lossyEnv where
  vehicle := rfl
  reactive := by constructor <;> exact fun _ _ _ => rfl
  factory := rfl
  before t record grounded _ := by
    have none : t.any Event.acceptsTakeoff = false := by
      rw [List.any_eq_false]
      intro e member accepts
      unfold Event.acceptsTakeoff at accepts
      split at accepts
      · exact grounded member
      · cases accepts
    exact (if_neg (by rw [none]; decide)).symm
  quiet := ⟨fun _ _ _ _ raised => (nomatch raised), fun _ _ _ raised => (nomatch raised)⟩
  quiet' := by
    refine ⟨fun t record e _ raised => ?_, fun t line e raised => ?_⟩
    · unfold lossyEnv at raised
      dsimp only at raised
      split at raised <;> cases raised
      rfl
    · cases raised
      rfl

/-- The simulation mission, with and without its records. -/
theorem run_ignoresAudit_simulation :
    SameFlight
      ((sampleExecutor ()).execute' (.calm (sampleTelemetry ℚ [.exactFalse]) 1000)
        (mavsdkSimulationMission ℚ) (signApproval () (samplePayload ℚ)) (.init ℚ .empty))
      ((sampleExecutor ()).execute' lossyEnv (mavsdkSimulationMission ℚ)
        (signApproval () (samplePayload ℚ)) (.init ℚ .empty)) :=
  run_ignoresAudit (sampleExecutor ()) _ _ _ _ _ (validateMission_sample ()) differInAudit_sample

end Sample

end Nightjar
