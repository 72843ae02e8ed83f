import Nightjar.Flight.History

/-!
# What the primitives add to a history

One triple for each primitive of the runtime and the audit writers: which marks it adds to the
history, and in which history it can raise. `Hist` is the assertion throughout; `Stop` is the
exceptional postcondition, which also says where the exception comes from.
-/

namespace Nightjar

open Interact Prog Exec

section Assertions

variable {N : Type}

/-- What the vehicle can raise after a trace. -/
def Vehicle.Raises (v : Vehicle N) (trace : List (Event N)) (e : PyExc) : Prop :=
  (∃ c, v.command trace c = some e) ∨ (v.connectionState trace).ending = .raised e ∨
    (v.health trace).ending = .raised e ∨ (v.home trace).ending = .raised e ∨
    (v.armed trace).ending = .raised e ∨ (v.inAir trace).ending = .raised e ∨
    (v.position trace).ending = .raised e ∨ v.interrupt trace = some e

/-- What the audit writers can raise: what writing a record raises, or printing the fallback line
    for a record that was refused. -/
def Env.WritersRaise (env : Env N) (e : PyExc) : Prop :=
  ∃ trace record e', env.audit trace record = some e' ∧
    (e = e' ∨ ∃ trace' line, env.stderr trace' line = some e)

/-- The audit writers raise something that no `except Exception` stops. -/
def Env.Rude (env : Env N) (e : PyExc) : Prop :=
  env.WritersRaise e ∧ e.cls.isException = false

/-- Where an exception comes from: the flight code raised it, or the writers did, or the vehicle
    after some trace between the base and now. -/
def Origin (env : Env N) (base trace : List (Event N)) (e : PyExc) : Prop :=
  e.cls.isFlight = true ∨ env.WritersRaise e ∨
    ∃ t, base <+: t ∧ t <+: trace ∧ env.toVehicle.Raises t e

/-- What can raise an exception in `_execute`. -/
def Env.Causes (env : Env N) (e : PyExc) : Prop :=
  e.cls.isFlight = true ∨ env.WritersRaise e ∨ (∃ t, env.toVehicle.Raises t e) ∨
    ∃ t, env.systemFactory t = some e

theorem Origin.causes {env : Env N} {base trace : List (Event N)} {e : PyExc}
    (origin : Origin env base trace e) : env.Causes e := by
  rcases origin with flight | writers | ⟨t, -, -, raised⟩
  · exact Or.inl flight
  · exact Or.inr (Or.inl writers)
  · exact Or.inr (Or.inr (Or.inl ⟨t, raised⟩))

/-- The state after a history: its trace, flags and nonce table. -/
structure Hist (env : Env N) (base : List (Event N)) (table : NonceTable)
    (history : List (Mark N)) (flags : Flags) (s : ExecState N) : Prop where
  woven : Weave (Mark.Happens env) (fun _ => Mark.Noise) base history s.trace
  flags_eq : s.flags = flags
  nonces_eq : s.nonces = table

/-- An exception was raised in one of the given histories. -/
def Stop (env : Env N) (base : List (Event N)) (table : NonceTable)
    (places : List (Mark N) → Flags → Prop) (e : PyExc) (s : ExecState N) : Prop :=
  Origin env base s.trace e ∧ ∃ history flags, places history flags ∧
    Hist env base table history flags s

end Assertions

section Triples

variable {N : Type} {env : Env N} {base : List (Event N)} {table : NonceTable}
  {history : List (Mark N)} {flags : Flags} {places : List (Mark N) → Flags → Prop}
  {α ι : Type}

/-- An exception of the flight code, raised here. -/
theorem Hist.stop {e : PyExc} {s : ExecState N} (hist : Hist env base table history flags s)
    (place : places history flags) (flight : e.cls.isFlight = true) :
    Stop env base table places e s := ⟨Or.inl flight, history, flags, place, hist⟩

/-- An exception of the vehicle, raised here. -/
theorem Hist.stop_vehicle {e : PyExc} {s : ExecState N} {t : List (Event N)}
    (hist : Hist env base table history flags s) (place : places history flags)
    (since : base <+: t) (before : t <+: s.trace) (raised : env.toVehicle.Raises t e) :
    Stop env base table places e s :=
  ⟨Or.inr (Or.inr ⟨t, since, before, raised⟩), history, flags, place, hist⟩

theorem Hist.base_prefix {s : ExecState N} (hist : Hist env base table history flags s) :
    base <+: s.trace := hist.woven.base_prefix

theorem Hist.step {s : ExecState N} {mark : Mark N} {event : Event N}
    (hist : Hist env base table history flags s)
    (happens : Mark.Happens env s.trace mark event) :
    Hist env base table (history ++ [mark]) flags { s with trace := s.trace ++ [event] } :=
  ⟨hist.woven.step happens, hist.flags_eq, hist.nonces_eq⟩

theorem Hist.noise {s : ExecState N} {event : Event N}
    (hist : Hist env base table history flags s) (noise : Mark.Noise event) :
    Hist env base table history flags { s with trace := s.trace ++ [event] } :=
  ⟨hist.woven.noise noise, hist.flags_eq, hist.nonces_eq⟩

/-- Recording an event adds its mark. -/
theorem triple_emit {E : PyExc → ExecState N → Prop} (event : Event N) :
    Triple (Hist env base table history flags) (emit event)
      (fun _ => Hist env base table (history ++ [.exactly event]) flags) E :=
  triple_modify fun _ hist => hist.step rfl

theorem triple_setFlags {E : PyExc → ExecState N → Prop} (assign : Flags → Flags) :
    Triple (Hist env base table history flags) (setFlags assign)
      (fun _ => Hist env base table history (assign flags)) E :=
  triple_modify fun _ hist => ⟨hist.woven, congrArg assign hist.flags_eq, hist.nonces_eq⟩

/-- A question is answered for the trace at hand. -/
theorem triple_ask {P : ExecState N → Prop} {E : PyExc → ExecState N → Prop}
    (answer : List (Event N) → α) :
    Triple P (ask answer) (fun a s => a = answer s.trace ∧ P s) E :=
  triple_bind_read fun s pre => triple_pure fun _ same => by rw [same]; exact ⟨rfl, pre⟩

/-- A command is issued; it raises in the history that ends with the call, and its return is the
    last event of the trace. -/
theorem triple_command_last (c : Command N)
    (place : places (history ++ [.exactly (.issued c)]) flags) :
    Triple (Hist env base table history flags) (command env c)
      (fun _ s => s.trace.getLast? = some (.returned c) ∧ Hist env base table
        (history ++ [.exactly (.issued c)] ++ [.exactly (.returned c)]) flags s)
      (Stop env base table places) := by
  unfold command
  refine triple_bind (triple_emit (.issued c)) fun _ => ?_
  refine triple_bind (triple_ask _) fun failure => ?_
  refine triple_bind
    (Q := fun _ => Hist env base table (history ++ [.exactly (.issued c)]) flags)
    (triple_raiseOption (fun _ _ post => post.2) ?_) fun _ =>
    triple_modify fun s hist => ⟨List.getLast?_concat,
      hist.step (show Mark.Happens env s.trace (.exactly (.returned c)) (.returned c) from rfl)⟩
  rintro e s rfl ⟨asked, hist⟩
  exact hist.stop_vehicle place hist.base_prefix List.prefix_rfl (Or.inl ⟨c, asked.symm⟩)

theorem triple_command (c : Command N)
    (place : places (history ++ [.exactly (.issued c)]) flags) :
    Triple (Hist env base table history flags) (command env c)
      (fun _ => Hist env base table
        (history ++ [.exactly (.issued c)] ++ [.exactly (.returned c)]) flags)
      (Stop env base table places) :=
  triple_post (triple_command_last c place) fun _ _ post => post.2

/-- A wait for an item passes over the others. The mark of the accepted item may depend on the
    stream's position in the trace. -/
theorem triple_awaitItem {record : ι → Event N} {accept : ι → Bool} {stream : Stream ι}
    {ended : PyExc} {opened : List (Event N)} (mark : ι → Mark N)
    (accepts : ∀ seen item, seen ++ [item] <+: stream.items →
      (∀ other ∈ seen, accept other = false) → accept item = true →
      Mark.Happens env (opened ++ seen.map record) (mark item) (record item))
    (rejects : ∀ item, accept item = false → Mark.Noise (record item))
    (flight : ended.cls.isFlight = true)
    (raises : ∀ e, stream.ending = .raised e → env.toVehicle.Raises opened e)
    (place : places history flags) :
    Triple (fun s => s.trace = opened ∧ Hist env base table history flags s)
      (awaitItem record accept stream ended)
      (fun item s => accept item = true ∧ item ∈ stream.items ∧
        Hist env base table (history ++ [mark item]) flags s)
      (Stop env base table places) := by
  unfold awaitItem
  let invariant : List ι → ExecState N → Prop := fun seen s =>
    base <+: opened ∧ s.trace = opened ++ seen.map record ∧
      (∀ other ∈ seen, accept other = false) ∧ Hist env base table history flags s
  let found : ι → ExecState N → Prop := fun item s =>
    accept item = true ∧ item ∈ stream.items ∧
      Hist env base table (history ++ [mark item]) flags s
  refine triple_bind (triple_pre (triple_forStream (I := invariant) (Q := found) stream.items []
    ?_ ?_) ?_) fun result => ?_
  · intro before item after split s pre
    obtain ⟨since, at_, rejected, hist⟩ := pre
    rw [List.nil_append] at at_ rejected
    have position : before ++ [item] <+: stream.items := by
      rw [split]
      exact ⟨after, by simp⟩
    by_cases accepted : accept item = true
    · simp only [bind, emit, Prog.modify, if_pos accepted]
      have happens := accepts before item position rejected accepted
      rw [← at_] at happens
      exact ⟨accepted, by rw [split]; simp, hist.step happens⟩
    · simp only [bind, emit, Prog.modify, if_neg accepted]
      have refused : accept item = false := by simpa using accepted
      refine ⟨since, by simp [at_], ?_, hist.noise (rejects _ refused)⟩
      intro other member
      rcases List.mem_append.mp member with earlier | last
      · exact rejected other (by simpa using earlier)
      · rw [List.mem_singleton.mp last]
        exact refused
  · rintro e s ending ⟨since, at_, -, hist⟩
    refine hist.stop_vehicle place since ?_ (raises e ending)
    rw [at_]
    exact List.prefix_append _ _
  · rintro s ⟨same, hist⟩
    refine ⟨?_, by simpa using same, by simp, hist⟩
    rw [← same]
    exact hist.base_prefix
  · cases result with
    | some item => exact triple_pure fun _ post => post
    | none => exact triple_raise fun _ post => post.2.2.2.stop place flight

/-- A bounded wait does what its body does; where the body is done, or was not begun, it may still
    raise. -/
theorem triple_waitFor [Zero N] [LE N] [DecidableRel (α := N) (· ≤ ·)] {timeout : N}
    {body : Exec N α} {P : ExecState N → Prop} {Q : α → ExecState N → Prop}
    (inner : Triple P body Q (Stop env base table places))
    (before : timeout ≤ 0 → ∀ s, P s → ∃ h g, places h g ∧ Hist env base table h g s)
    (after : ∀ a s, Q a s → ∃ h g, places h g ∧ Hist env base table h g s) :
    Triple P (waitFor env timeout body) Q (Stop env base table places) := by
  have interrupted : ∀ (s : ExecState N) (e : PyExc), env.interrupt s.trace = some e →
      (∃ h g, places h g ∧ Hist env base table h g s) → Stop env base table places e s := by
    rintro s e raised ⟨h, g, place, hist⟩
    exact hist.stop_vehicle place hist.base_prefix List.prefix_rfl
      (Or.inr (Or.inr (Or.inr (Or.inr (Or.inr (Or.inr (Or.inr raised)))))))
  unfold waitFor
  by_cases started : timeout ≤ 0
  · rw [if_pos started]
    refine triple_bind (triple_ask _) fun result => ?_
    refine triple_bind (Q := fun _ => P) (triple_raiseOption (fun _ _ post => post.2) ?_)
      fun _ => triple_raise fun s pre => ?_
    · rintro e s rfl ⟨asked, pre⟩
      exact interrupted s e asked.symm (before started s pre)
    · obtain ⟨h, g, place, hist⟩ := before started s pre
      exact hist.stop place rfl
  · rw [if_neg started]
    refine triple_bind inner fun a => triple_bind (triple_ask _) fun result => ?_
    refine triple_bind (triple_raiseOption (fun _ _ post => post.2) ?_) fun _ =>
      triple_pure fun _ post => post
    rintro e s rfl ⟨asked, post⟩
    exact interrupted s e asked.symm (after a s post)

theorem triple_onTimeout {body : Exec N α} {replacement : PyExc} {P : ExecState N → Prop}
    {Q : α → ExecState N → Prop} (inner : Triple P body Q (Stop env base table places))
    (flight : replacement.cls.isFlight = true) :
    Triple P (onTimeout replacement body) Q (Stop env base table places) := by
  refine triple_handle inner fun e => ?_
  by_cases timedOut : e.cls = .timeoutError
  · rw [if_pos timedOut]
    exact triple_raise fun _ ⟨_, h, g, place, hist⟩ => hist.stop place flight
  · rw [if_neg timedOut]
    exact triple_raise fun _ stop => stop

/-- The strict writer writes the record, or raises. -/
theorem triple_writeAuditRecord {logDirectory : String} (record : AuditRecord N)
    (refused : (∃ t e, env.audit t record = some e) →
      places (history ++ [.attempt record]) flags) :
    Triple (Hist env base table history flags) (writeAuditRecord env logDirectory record)
      (fun path s => path = auditPath logDirectory record.missionId ∧
        Hist env base table (history ++ [.exactly (.audit record none)]) flags s)
      (Stop env base table places) := by
  unfold writeAuditRecord
  refine triple_bind (triple_ask _) fun failure => ?_
  cases failure with
  | none =>
    refine triple_bind (triple_pre (triple_emit _) fun _ post => post.2) fun _ => ?_
    exact triple_bind (triple_pure fun _ post => post) fun _ =>
      triple_pure fun _ post => ⟨rfl, post⟩
  | some e =>
    refine triple_bind
      (Q := fun _ s => (∃ t, env.audit t record = some e) ∧
        Hist env base table (history ++ [.attempt record]) flags s) ?_ fun _ => ?_
    · exact triple_modify fun s ⟨asked, hist⟩ => ⟨⟨_, asked.symm⟩, hist.step (by rw [asked]; rfl)⟩
    · refine triple_bind (Q := fun _ _ => False) ?_ fun _ => triple_pure fun _ impossible =>
        impossible.elim
      exact triple_raise fun s ⟨⟨t, raised⟩, hist⟩ =>
        ⟨Or.inr (Or.inl ⟨t, record, e, raised, Or.inl rfl⟩), _, flags, refused ⟨t, e, raised⟩, hist⟩

/-- The best-effort writer attempts the record. It raises only what no `except Exception` stops. -/
theorem triple_writeAuditRecordBestEffort {logDirectory : String} (record : AuditRecord N) :
    Triple (Hist env base table history flags)
      (writeAuditRecordBestEffort env logDirectory record)
      (fun _ => Hist env base table (history ++ [.attempt record]) flags)
      (fun e s => env.Rude e ∧ Hist env base table (history ++ [.attempt record]) flags s) := by
  have attempt : Triple (Hist env base table history flags)
      (do
        let path ← writeAuditRecord env logDirectory record
        pure (some path))
      (fun _ => Hist env base table (history ++ [.attempt record]) flags)
      (fun e s => (∃ t, env.audit t record = some e) ∧
        Hist env base table (history ++ [.attempt record]) flags s) := by
    unfold writeAuditRecord
    refine triple_bind (Q := fun _ => Hist env base table (history ++ [.attempt record]) flags)
      ?_ fun _ => triple_pure fun _ post => post
    refine triple_bind (triple_ask _) fun failure => ?_
    refine triple_bind
      (Q := fun _ s => Hist env base table (history ++ [.attempt record]) flags s ∧
        ∀ e, failure = some e → ∃ t, env.audit t record = some e) ?_ fun _ => ?_
    · refine triple_modify fun s ⟨asked, hist⟩ => ⟨hist.step (by rw [asked]; rfl), ?_⟩
      rintro e rfl
      exact ⟨_, asked.symm⟩
    · refine triple_bind (triple_raiseOption (fun _ _ post => post.1) ?_) fun _ =>
        triple_pure fun _ post => post
      exact fun e s raised ⟨hist, refused⟩ => ⟨refused e raised, hist⟩
  refine triple_handle attempt fun exc => triple_fact fun ⟨t, refused⟩ => ?_
  by_cases ordinary : exc.cls.isException = true
  · rw [if_pos ordinary]
    refine triple_bind (Q := fun _ => Hist env base table (history ++ [.attempt record]) flags)
      (triple_handle
        (Q := fun _ => Hist env base table (history ++ [.attempt record]) flags)
        (E := fun e s => env.WritersRaise e ∧
          Hist env base table (history ++ [.attempt record]) flags s) ?_ fun e => ?_)
      fun _ => triple_pure fun _ post => post
    · unfold printStderr
      refine triple_bind (triple_ask _) fun failure => ?_
      refine triple_bind
        (Q := fun _ s => Hist env base table (history ++ [.attempt record]) flags s ∧
          ∀ e, failure = some e → env.WritersRaise e) ?_ fun _ => ?_
      · refine triple_modify fun s ⟨asked, hist⟩ => ⟨hist.noise trivial, ?_⟩
        rintro e rfl
        exact ⟨t, record, exc, refused, Or.inr ⟨_, _, asked.symm⟩⟩
      · exact triple_raiseOption (fun _ _ post => post.1)
          fun e s raised ⟨hist, writers⟩ => ⟨writers e raised, hist⟩
    · by_cases quiet : e.cls.isException = true
      · rw [if_pos quiet]
        exact triple_pure fun _ post => post.2
      · rw [if_neg quiet]
        exact triple_raise fun _ ⟨raised, hist⟩ => ⟨⟨raised, by simpa using quiet⟩, hist⟩
  · rw [if_neg ordinary]
    exact triple_raise fun _ hist =>
      ⟨⟨⟨t, record, exc, refused, Or.inl rfl⟩, by simpa using ordinary⟩, hist⟩

end Triples

end Nightjar
