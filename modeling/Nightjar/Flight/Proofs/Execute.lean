import Nightjar.Authorization.Proofs.Binding
import Nightjar.Flight.Proofs.Plan
import Nightjar.Flight.Proofs.Recovery

/-!
# What `execute` does around `_execute`

`execute` is refused by the validation, or fails to consume the approval, or runs `_execute` after
the consumption and then stops the server.
-/

namespace Nightjar

open Interact Prog Exec Python

section Asides

variable {N : Type} {env : Env N}

/-- An event beside the mission: the stop of the server, or a printed line. -/
def Event.Aside : Event N → Prop
  | .serverStopped | .stdout _ | .stderr _ => True
  | _ => False

/-- Only asides happened from one state to the other. -/
structure Asides (s s' : ExecState N) : Prop where
  extends_ : ∃ extra, s'.trace = s.trace ++ extra ∧ ∀ e ∈ extra, e.Aside
  nonces_eq : s'.nonces = s.nonces

theorem Asides.refl (s : ExecState N) : Asides s s :=
  ⟨⟨[], (List.append_nil _).symm, fun _ member => nomatch member⟩, rfl⟩

theorem Asides.emit {s s' : ExecState N} {e : Event N} (asides : Asides s s') (aside : e.Aside) :
    Asides s { s' with trace := s'.trace ++ [e] } := by
  obtain ⟨⟨extra, more, all⟩, same⟩ := asides
  refine ⟨⟨extra ++ [e], by simp [more], fun e' member => ?_⟩, same⟩
  rcases List.mem_append.mp member with earlier | last
  · exact all e' earlier
  · rw [List.mem_singleton.mp last]
    exact aside

theorem Asides.trans {s s' s'' : ExecState N} (first : Asides s s') (second : Asides s' s'') :
    Asides s s'' := by
  obtain ⟨⟨extra, more, all⟩, same⟩ := first
  obtain ⟨⟨extra', more', all'⟩, same'⟩ := second
  refine ⟨⟨extra ++ extra', by rw [more', more, List.append_assoc], fun e member => ?_⟩,
    same'.trans same⟩
  exact (List.mem_append.mp member).elim (all e) (all' e)

/-- Printing to stderr is an aside; it raises what stderr raises. -/
theorem triple_printStderr (s₀ : ExecState N) (line : String) :
    Triple (Asides s₀) (printStderr env line) (fun _ => Asides s₀)
      (fun e s => Asides s₀ s ∧ ∃ t line, env.stderr t line = some e) := by
  unfold printStderr
  refine triple_bind (triple_ask _) fun printed => ?_
  refine triple_bind
    (Q := fun _ s => Asides s₀ s ∧ ∀ e, printed = some e → ∃ t line, env.stderr t line = some e)
    (triple_modify fun s ⟨asked, asides⟩ => ⟨asides.emit trivial, ?_⟩) fun _ => ?_
  · rintro e rfl
    exact ⟨_, _, asked.symm⟩
  · exact triple_raiseOption (fun _ _ post => post.1)
      fun e _ raised ⟨asides, printing⟩ => ⟨asides, printing e raised⟩

variable (env) in
/-- Stopping the server raises only what no `except Exception` stops, or what stderr raises. -/
theorem triple_stopServers (s₀ : ExecState N) :
    Triple (fun s => s = s₀) (MavsdkExecutor.stopServers env) (fun _ => Asides s₀)
      (fun e s => Asides s₀ s ∧
        (e.cls.isException = false ∨ ∃ t line, env.stderr t line = some e)) := by
  unfold MavsdkExecutor.stopServers
  refine triple_bind_read fun s same => ?_
  subst same
  split
  · exact triple_pure fun s' same => same ▸ Asides.refl _
  · exact triple_pure fun s' same => same ▸ Asides.refl _
  · rename_i failure _ _
    refine triple_bind (Q := fun _ => Asides s)
      (triple_modify fun s' same => by rw [same]; exact (Asides.refl _).emit trivial) fun _ => ?_
    refine triple_handle (E := fun _ => Asides s)
      (triple_raiseOption (fun _ _ asides => asides) fun _ _ _ asides => asides) fun exc => ?_
    by_cases ordinary : exc.cls.isException = true
    · rw [if_pos ordinary]
      exact triple_except (triple_printStderr s _) fun e s' post => ⟨post.1, Or.inr post.2⟩
    · rw [if_neg ordinary]
      exact triple_raise fun s' asides => ⟨asides, Or.inl (by simpa using ordinary)⟩

end Asides

section Execute

variable {N : Type} [Field N] [LinearOrder N] [FloorRing N] [PyMath N] [PyText N] [Crypto]

/-- The state in which `_execute` starts, after the approval was consumed. -/
def ExecState.authorized (s : ExecState N) (payload : ApprovalPayload) (table : NonceTable) :
    ExecState N :=
  { s with trace := s.trace ++ [.approvalConsumed payload], nonces := table }

/-- How a run of `execute` goes, from a state. -/
inductive Executed (x : MavsdkExecutor N) (env : Env N) (mission : Mission N)
    (approval : SignedApproval) (s₀ : ExecState N) :
    Except PyExc ExecutionResult → ExecState N → Prop
  | refused (e : PyExc) (raised : x.validateMission mission = .error e) :
      Executed x env mission approval s₀ (.error e) s₀
  | unauthorized (e : PyExc) (accepted : x.validateMission mission = .ok ())
      (raised : verifyAndConsumeApproval env.sqlite approval x.publicKey mission x.limits
        mavsdkExecutorName env.clock maxClockSkewSeconds maxLifetimeSeconds s₀.nonces =
          (.error e, s₀.nonces)) :
      Executed x env mission approval s₀ (.error e) s₀
  | ran (table' : NonceTable) (result final : Except PyExc ExecutionResult)
      (s s' : ExecState N) (accepted : x.validateMission mission = .ok ())
      (consumed : verifyAndConsumeApproval env.sqlite approval x.publicKey mission x.limits
        mavsdkExecutorName env.clock maxClockSkewSeconds maxLifetimeSeconds s₀.nonces =
          (.ok approval.payload, table'))
      (run : x.execute' env mission approval (s₀.authorized approval.payload table') = (result, s))
      (stopped : Asides s s')
      (outcome : final = result ∨ ∃ e, final = .error e ∧
        (e.cls.isException = false ∨ ∃ t line, env.stderr t line = some e)) :
      Executed x env mission approval s₀ final s'

/-- A run of `execute` that returns has accepted the mission. -/
theorem Executed.validated {x : MavsdkExecutor N} {env : Env N} {mission : Mission N}
    {approval : SignedApproval} {s₀ s : ExecState N} {r : ExecutionResult}
    (executed : Executed x env mission approval s₀ (.ok r) s) :
    x.validateMission mission = .ok () := by
  generalize outcome : (Except.ok r : Except PyExc ExecutionResult) = final at executed
  cases executed with
  | refused | unauthorized => cases outcome
  | ran _ _ _ _ _ accepted => exact accepted

/-- Every run of `execute` goes in one of the three ways. -/
theorem triple_execute (x : MavsdkExecutor N) (env : Env N) (mission : Mission N)
    (approval : SignedApproval) (s₀ : ExecState N) :
    Triple (fun s => s = s₀) (x.execute env mission approval)
      (fun result s => Executed x env mission approval s₀ (.ok result) s)
      (fun e s => Executed x env mission approval s₀ (.error e) s) := by
  unfold MavsdkExecutor.execute
  refine triple_bind
    (Q := fun _ s => s = s₀ ∧ x.validateMission mission = .ok ())
    (triple_lift (fun _ s accepted same => ⟨same, accepted⟩) fun e s raised same => ?_) fun _ => ?_
  · rw [same]
    exact .refused e raised
  let consumption := verifyAndConsumeApproval env.sqlite approval x.publicKey mission x.limits
    mavsdkExecutorName env.clock maxClockSkewSeconds maxLifetimeSeconds
  refine triple_bind
    (Q := fun payload s => payload = approval.payload ∧ x.validateMission mission = .ok () ∧
      ∃ table', consumption s₀.nonces = (.ok approval.payload, table') ∧
        s = { s₀ with nonces := table' })
    (triple_zoom ?_ ?_) fun payload => ?_
  · rintro s payload table' ⟨rfl, accepted⟩ consumed
    have same := (verifyApproval_eq_ok_iff.mp (verified_of_returned consumed).1).1
    rw [same] at consumed
    exact ⟨same, accepted, table', consumed, rfl⟩
  · rintro s e table' ⟨rfl, accepted⟩ raised
    have same : table' = s.nonces := unchanged_of_raised raised
    subst same
    exact .unauthorized e accepted raised
  refine triple_bind
    (Q := fun _ s => x.validateMission mission = .ok () ∧
      ∃ table', consumption s₀.nonces = (.ok approval.payload, table') ∧
        s = s₀.authorized approval.payload table')
    (triple_modify ?_) fun _ => ?_
  · rintro s ⟨rfl, accepted, table', consumed, rfl⟩
    exact ⟨accepted, table', consumed, rfl⟩
  rintro s ⟨accepted, table', consumed, rfl⟩
  unfold finally_
  cases run : x.execute' env mission approval (s₀.authorized approval.payload table') with
  | mk result t =>
  have stopping := triple_stopServers env t t rfl
  cases stops : MavsdkExecutor.stopServers env t with
  | mk outcome t' =>
  rw [stops] at stopping
  simp only [stops]
  cases outcome with
  | error e =>
    exact .ran table' result _ t t' accepted consumed run stopping.1
      (Or.inr ⟨e, rfl, stopping.2⟩)
  | ok _ =>
    have ran := Executed.ran table' result result t t' accepted consumed run stopping
      (Or.inl rfl)
    cases result with
    | ok r => exact ran
    | error e => exact ran

theorem executed_execute (x : MavsdkExecutor N) (env : Env N) (mission : Mission N)
    (approval : SignedApproval) (s₀ : ExecState N) :
    Executed x env mission approval s₀ (x.execute env mission approval s₀).1
      (x.execute env mission approval s₀).2 := by
  have ran := triple_execute x env mission approval s₀ s₀ rfl
  cases run : x.execute env mission approval s₀ with
  | mk result s =>
    rw [run] at ran
    cases result <;> exact ran

/-- A run whose approval is refused does nothing. -/
theorem execute_unauthorized (x : MavsdkExecutor N) (env : Env N) (mission : Mission N)
    (approval : SignedApproval) (s₀ : ExecState N) {e : PyExc}
    (accepted : x.validateMission mission = .ok ())
    (refused : verifyAndConsumeApproval env.sqlite approval x.publicKey mission x.limits
      mavsdkExecutorName env.clock maxClockSkewSeconds maxLifetimeSeconds s₀.nonces =
        (.error e, s₀.nonces)) : x.execute env mission approval s₀ = (.error e, s₀) := by
  simp [MavsdkExecutor.execute, bind, Prog.lift, accepted, zoom, refused]

/-- A run ends as its flight does when the servers stop. -/
theorem execute_returns (x : MavsdkExecutor N) (env : Env N) (mission : Mission N)
    (approval : SignedApproval) (s₀ : ExecState N) {s : ExecState N} {table' : NonceTable}
    {outcome : Except PyExc ExecutionResult}
    (accepted : x.validateMission mission = .ok ())
    (consumed : verifyAndConsumeApproval env.sqlite approval x.publicKey mission x.limits
      mavsdkExecutorName env.clock maxClockSkewSeconds maxLifetimeSeconds s₀.nonces =
        (.ok approval.payload, table'))
    (flown : x.execute' env mission approval (s₀.authorized approval.payload table') = (outcome, s))
    (unstopped : env.stop s.trace = none) : x.execute env mission approval s₀ = (outcome, s) := by
  have stopping : MavsdkExecutor.stopServers env s = (.ok (), s) := by
    simp only [MavsdkExecutor.stopServers, bind, Prog.read, unstopped]
    cases s.droneHolder <;> rfl
  unfold ExecState.authorized at flown
  cases outcome <;>
    simp [MavsdkExecutor.execute, bind, Prog.lift, accepted, zoom, consumed, emit, Prog.modify,
      finally_, flown, stopping]

end Execute

end Nightjar
