import Nightjar.Approval.Proofs.Agreement
import Nightjar.Flight.Proofs.Completion

/-!
# What the exit codes say

The exit code of `nightjar run --executor mavsdk` says whether the approval was consumed and
whether the mission was flown: codes 1 to 4 that nothing was done, codes 5 to 7 that the approval
was consumed and the mission not completed, and 0 that both were done.
-/

namespace Nightjar

open Interact Prog Exec Python Cli

section Printing

variable {N : Type} {env : Env N}

/-- Printing to a stdout that does not fail is an aside. -/
theorem triple_printStdout {E : PyExc → ExecState N → Prop}
    (prints : ∀ t line, env.stdout t line = none) (s₀ : ExecState N) (line : String) :
    Triple (Asides s₀) (printStdout env line) (fun _ => Asides s₀) E := by
  unfold printStdout
  refine triple_bind (triple_ask _) fun printed => ?_
  refine triple_bind (Q := fun _ s => printed = none ∧ Asides s₀ s)
    (triple_modify fun s ⟨asked, asides⟩ => ⟨?_, asides.emit trivial⟩) fun _ => ?_
  · rw [asked, prints]
  · exact triple_raiseOption (fun _ _ post => post.2)
      fun e s raised ⟨printed, _⟩ => by rw [printed] at raised; cases raised

theorem triple_printLines {E : PyExc → ExecState N → Prop}
    (prints : ∀ t line, env.stdout t line = none) (s₀ : ExecState N) (lines : List String) :
    Triple (Asides s₀) (printLines env lines) (fun _ => Asides s₀) E := by
  induction lines with
  | nil => exact triple_pure fun _ asides => asides
  | cons line lines ih => exact triple_bind (triple_printStdout prints s₀ line) fun _ => ih

theorem triple_exitWith {E : PyExc → ExecState N → Prop}
    (prints : ∀ t line, env.stdout t line = none) (s₀ : ExecState N) (line : String)
    (code : Nat) :
    Triple (Asides s₀) (exitWith env line code) (fun c s => c = code ∧ Asides s₀ s) E :=
  triple_bind (triple_printStdout prints s₀ line) fun _ => triple_pure fun _ asides => ⟨rfl, asides⟩

end Printing

section Failures

theorem isAuthorization_iff (c : ExcClass) :
    c.isAuthorization = true ↔ isBlocked c = true ∨
      (c = .unsupportedMavsdkActionError ∨ c = .mavsdkPolicyRejectedError) := by
  simp [ExcClass.isAuthorization, isBlocked, or_assoc]

theorem isException_of_isAuthorization {c : ExcClass} (refusal : c.isAuthorization = true) :
    c.isException = true := by
  cases c <;> first | rfl | cases refusal

variable {N : Type} {env : Env N}

/-- The `except` clauses give code 4 to a refusal, and codes 5 to 7 to any other exception. -/
theorem triple_mavsdkFailure (prints : ∀ t line, env.stdout t line = none) (exc : PyExc)
    (s₀ : ExecState N) :
    Triple (Asides s₀) (mavsdkFailure env exc)
      (fun code s => Asides s₀ s ∧ exc.cls.isException = true ∧
        ((exc.cls.isAuthorization = true ∧ code = 4) ∨
          (exc.cls.isAuthorization = false ∧ 5 ≤ code ∧ code ≤ 7)))
      (fun _ _ => True) := by
  have exits : ∀ (line : String) (code : Nat), exc.cls.isException = true →
      ((exc.cls.isAuthorization = true ∧ code = 4) ∨
        (exc.cls.isAuthorization = false ∧ 5 ≤ code ∧ code ≤ 7)) →
      Triple (Asides s₀) (exitWith env line code)
        (fun code s => Asides s₀ s ∧ exc.cls.isException = true ∧
          ((exc.cls.isAuthorization = true ∧ code = 4) ∨
            (exc.cls.isAuthorization = false ∧ 5 ≤ code ∧ code ≤ 7)))
        (fun _ _ => True) := by
    intro line code ordinary meaning
    refine triple_post (triple_exitWith prints s₀ line code) ?_
    rintro c s ⟨rfl, asides⟩
    exact ⟨asides, ordinary, meaning⟩
  have refusal := isAuthorization_iff exc.cls
  unfold mavsdkFailure
  split_ifs with blocked refused unavailable mismatch mavsdk ordinary
  · have told := refusal.mpr (Or.inl blocked)
    exact exits _ 4 (isException_of_isAuthorization told) (Or.inl ⟨told, rfl⟩)
  · have told := refusal.mpr (Or.inr refused)
    exact exits _ 4 (isException_of_isAuthorization told) (Or.inl ⟨told, rfl⟩)
  · exact exits _ 6 (by rw [unavailable]; rfl) (Or.inr ⟨by rw [unavailable]; rfl, by decide⟩)
  · exact exits _ 7 (by rw [mismatch]; rfl) (Or.inr ⟨by rw [mismatch]; rfl, by decide⟩)
  · have other : exc.cls.isAuthorization = false :=
      Bool.eq_false_iff.mpr fun told => (refusal.mp told).elim blocked refused
    exact exits _ 5 (ExcClass.isException_of_isMavsdkExecutorError mavsdk)
      (Or.inr ⟨other, by decide⟩)
  · have other : exc.cls.isAuthorization = false :=
      Bool.eq_false_iff.mpr fun told => (refusal.mp told).elim blocked refused
    exact exits _ 5 ordinary (Or.inr ⟨other, by decide⟩)
  · exact triple_raise fun _ _ => trivial

end Failures

section Meaning

variable {N : Type} [Field N] [LinearOrder N] [FloorRing N] [PyMath N] [PyText N] [Crypto]

/-- The mission and the approval on the command line, and the row of the approval added. -/
def Spent (host : Host N) (env : Env N) (table : NonceTable) (s : ExecState N)
    (mission : Mission N) : Prop :=
  loadMission host = .ok mission ∧ ∃ envelope, loadSignedApproval host = .ok envelope ∧
    s.nonces.rows = table.rows ++ [envelope.payload.row env.clock]

/-- What an exit code says about a run that started with a nonce table and ended in a state. -/
structure ExitMeaning (host : Host N) (env : Env N) (table : NonceTable) (code : Nat)
    (s : ExecState N) : Prop where
  known : code ≤ 7
  refused : 1 ≤ code → code ≤ 4 → s.nonces = table ∧ Event.systemFactoryCalled ∉ s.trace
  failed : 5 ≤ code → ∃ mission, Spent host env table s mission ∧ ¬ FlownToTheEnd mission s.trace
  completed : code = 0 → ∃ mission, Spent host env table s mission ∧ FlownToTheEnd mission s.trace

variable {host : Host N} {env : Env N} {table : NonceTable}

omit [FloorRing N] [PyMath N] [PyText N] in
/-- Nothing happened but printing. -/
theorem ExitMeaning.of_refused {code : Nat} {s : ExecState N} (some_code : 1 ≤ code)
    (low : code ≤ 4) (asides : Asides (.init N table) s) : ExitMeaning host env table code s := by
  obtain ⟨⟨extra, more, all⟩, same⟩ := asides
  refine ⟨by omega, fun _ _ => ⟨same, fun member => ?_⟩, by omega, by omega⟩
  rw [more] at member
  exact all _ member

omit [FloorRing N] [Crypto] in
/-- The mission was approved if `print_decision` returned so. -/
theorem triple_printDecision (prints : ∀ t line, env.stdout t line = none) (s₀ : ExecState N)
    (mission : Mission N) (limits : PolicyLimits N) :
    Triple (Asides s₀) (printDecision env mission limits)
      (fun approved s => Asides s₀ s ∧
        (approved = true → PolicyEngine.Approves limits mission.actions))
      (fun _ _ => True) := by
  unfold printDecision
  refine triple_bind
    (Q := fun decision s => Asides s₀ s ∧ PolicyEngine.evaluate limits mission = .ok decision)
    (triple_lift (fun _ _ evaluated asides => ⟨asides, evaluated⟩) fun _ _ _ _ => trivial)
    fun decision => ?_
  intro s ⟨asides, evaluated⟩
  refine triple_bind (triple_printLines prints s₀ _) (fun _ => triple_pure fun s asides => ?_) s
    asides
  exact ⟨asides, fun approved => ⟨decision, evaluated, approved⟩⟩

omit [FloorRing N] [PyMath N] [PyText N] in
theorem loadMaterial_eq_ok {envelope : SignedApproval} {publicKey : Crypto.PublicKey}
    (loaded : loadMaterial host = .ok (envelope, publicKey)) :
    loadSignedApproval host = .ok envelope := by
  unfold loadMaterial at loaded
  cases envelopes : loadSignedApproval host with
  | error e => rw [envelopes] at loaded; cases loaded
  | ok envelope' =>
    rw [envelopes] at loaded
    cases keys : loadEd25519PublicKey host with
    | error e => rw [keys] at loaded; cases loaded
    | ok key =>
      rw [keys] at loaded
      cases store : host.openStore with
      | error e => rw [store] at loaded; cases loaded
      | ok _ => rw [store] at loaded; cases loaded; rfl

/-- The exit codes of the `mavsdk` path. -/
theorem triple_runMavsdk (unambiguous : env.Unambiguous) {mission : Mission N}
    {envelope : SignedApproval} (limits : PolicyLimits N) (publicKey : Crypto.PublicKey)
    (approved : PolicyEngine.Approves limits mission.actions)
    (missionLoaded : loadMission host = .ok mission)
    (envelopeLoaded : loadSignedApproval host = .ok envelope) :
    Triple (Asides (.init N table)) (runMavsdk host env mission limits envelope publicKey)
      (fun code s => ExitMeaning host env table code s) (fun _ _ => True) := by
  refine triple_from fun s₁ before => ?_
  have quiet : ∀ e : Event N, ¬ e.Aside → e ∉ s₁.trace := by
    obtain ⟨⟨extra, more, all⟩, -⟩ := before
    intro e loud member
    rw [more] at member
    exact loud (all e member)
  have spent : ∀ {s s' : ExecState N}, Consumed env envelope s₁ s → Asides s s' →
      Spent host env table s' mission := by
    intro s s' consumed asides
    refine ⟨missionLoaded, envelope, envelopeLoaded, ?_⟩
    rw [asides.nonces_eq, consumed, before.nonces_eq]
    rfl
  let x := mavsdkExecutor host publicKey limits
  unfold runMavsdk
  refine triple_bind
    (Q := fun result s => match result with
      | .inl _ => Consumed env envelope s₁ s ∧ FlownToTheEnd mission s.trace
      | .inr code => ExitMeaning host env table code s)
    (triple_handle (E := fun e s => Executed x env mission envelope s₁ (.error e) s)
      (triple_bind (triple_execute x env mission envelope s₁) fun result => ?_) fun exc => ?_)
    fun result => ?_
  · exact triple_pure fun s executed => executed.returned (quiet _ id)
  · refine triple_from fun s executed => ?_
    refine triple_bind (triple_pre (triple_mavsdkFailure unambiguous.stdout exc s) ?_)
      fun code => triple_pure fun s' ⟨asides, ordinary, meaning⟩ => ?_
    · rintro _ rfl
      exact .refl _
    · rcases executed.raised unambiguous approved ordinary (quiet _ id) (quiet _ id) with
        ⟨told, rfl⟩ | ⟨told, consumed, unflown⟩
      · rcases meaning with ⟨-, rfl⟩ | ⟨other, -⟩
        · exact .of_refused (by omega) (by omega) (before.trans asides)
        · rw [told] at other
          cases other
      · rcases meaning with ⟨other, -⟩ | ⟨-, high, low⟩
        · rw [told] at other
          cases other
        · exact ⟨low, by omega, fun _ => ⟨mission, spent consumed asides, unflown s' asides⟩,
            by omega⟩
  · cases result with
    | inr code => exact triple_pure fun s meaning => meaning
    | inl result =>
      refine triple_from fun s ⟨consumed, flown⟩ => ?_
      have printed := triple_printStdout (E := fun _ _ => True) unambiguous.stdout s
      refine triple_pre (K := Asides s) ?_ fun t same => same ▸ .refl s
      refine triple_bind (printed _) fun _ => triple_bind (printed _) fun _ =>
        triple_pure fun t asides => ⟨by omega, by omega, by omega, fun _ => ?_⟩
      exact ⟨mission, spent consumed asides, flown.of_asides asides⟩

/-- The exit codes of the whole command. -/
theorem triple_run (host : Host N) (unambiguous : env.Unambiguous) (table : NonceTable) :
    Triple (fun s => s = .init N table) (Cli.run host env .mavsdk)
      (fun code s => ExitMeaning host env table code s) (fun _ _ => True) := by
  have exits : ∀ (line : String) (code : Nat), 1 ≤ code → code ≤ 4 →
      Triple (Asides (.init N table)) (exitWith env line code)
        (fun code s => ExitMeaning host env table code s) (fun _ _ => True) := by
    intro line code some_code low
    refine triple_post (triple_exitWith unambiguous.stdout _ line code) ?_
    rintro c s ⟨rfl, asides⟩
    exact .of_refused some_code low asides
  refine triple_pre (K := Asides (.init N table)) ?_ fun s same => same ▸ .refl _
  unfold Cli.run
  cases missionLoaded : loadMission host with
  | error exc =>
    dsimp only
    split_ifs
    · exact exits _ 2 (by omega) (by omega)
    · exact triple_raise fun _ _ => trivial
  | ok mission =>
    refine triple_bind (triple_printDecision unambiguous.stdout _ mission _) fun approved => ?_
    dsimp only
    split_ifs with rejected
    · exact triple_pure fun s ⟨asides, _⟩ => .of_refused (by omega) (by omega) asides
    · have accepted : approved = true := by simpa using rejected
      refine triple_from fun s ⟨asides, approves⟩ => triple_pre
        (K := Asides (.init N table)) ?_ fun t same => same ▸ asides
      cases material : loadMaterial host with
      | error exc =>
        dsimp only
        split_ifs
        · exact exits _ 3 (by omega) (by omega)
        · exact triple_raise fun _ _ => trivial
      | ok both =>
        exact triple_runMavsdk unambiguous _ both.2 (approves accepted) missionLoaded
          (loadMaterial_eq_ok material)

/-- **The exit codes tell the truth.** In an unambiguous environment, when `nightjar run` with the
    `mavsdk` executor returns a code, the nonce table and the flight are as the code says. -/
theorem run_exitMeaning (host : Host N) (env : Env N) (table : NonceTable) (code : Nat)
    (s : ExecState N) (unambiguous : env.Unambiguous)
    (returned : Cli.run host env .mavsdk (.init N table) = (.ok code, s)) :
    ExitMeaning host env table code s :=
  (triple_run host unambiguous table).returned rfl returned

end Meaning

section Sample

attribute [local instance] Crypto.keyless

theorem loadMission_sample : loadMission sampleHost = .ok (mavsdkSimulationMission ℚ) := by
  simp [loadMission, sampleHost, bind, Except.bind, Json.loads?_dumps]

theorem loadMaterial_sample :
    loadMaterial sampleHost = .ok (signApproval () (samplePayload ℚ), ()) := by
  simp [loadMaterial, loadSignedApproval, loadEd25519PublicKey, sampleHost, bind, Except.bind,
    Json.loads?_dumps, modelValidate_envelope intOfInt_int]

/-- A run whose mission is approved and whose execution returns exits with code 0. -/
theorem run_returns {N : Type} [Field N] [LinearOrder N] [FloorRing N] [PyMath N] [PyText N]
    [Crypto] {host : Host N} {env : Env N} {mission : Mission N} {envelope : SignedApproval}
    {publicKey : Crypto.PublicKey} {s₀ s₁ s₂ : ExecState N} {result : ExecutionResult}
    (prints : ∀ t line, env.stdout t line = none) (missionLoaded : loadMission host = .ok mission)
    (decided : printDecision env mission (.default N) s₀ = (.ok true, s₁))
    (material : loadMaterial host = .ok (envelope, publicKey))
    (executed : (mavsdkExecutor host publicKey (.default N)).execute env mission envelope s₁ =
      (.ok result, s₂)) : (Cli.run host env .mavsdk s₀).1 = .ok 0 := by
  simp [Cli.run, missionLoaded, bind, decided, material, runMavsdk, handle, executed, pure,
    printStdout, ask, Prog.read, prints, emit, Prog.modify, raiseOption]

theorem verifyApproval_sampleHost :
    verifyApproval (signApproval () (samplePayload ℚ)) () (mavsdkSimulationMission ℚ) (.default ℚ)
      mavsdkExecutorName 1000 maxClockSkewSeconds maxLifetimeSeconds = .ok (samplePayload ℚ) :=
  verifyApproval_sample ℚ (verify_sign_reference rfl) (by decide) (by decide)

/-- The sample is approved. -/
theorem printDecision_sample :
    (printDecision (.calm (sampleTelemetry ℚ [.exactFalse]) 1000) (mavsdkSimulationMission ℚ)
      (.default ℚ) (.init ℚ .empty)).1 = .ok true := by
  decide +kernel

/-- The run of the sample in a calm environment exits with code 0. -/
theorem run_exitMeaning_simulation :
    ∃ s, Cli.run sampleHost (.calm (sampleTelemetry ℚ [.exactFalse]) 1000) .mavsdk
        (.init ℚ .empty) = (.ok 0, s) ∧
      ExitMeaning sampleHost (.calm (sampleTelemetry ℚ [.exactFalse]) 1000) .empty 0 s := by
  let env := Env.calm (sampleTelemetry ℚ [.exactFalse]) 1000
  let x := mavsdkExecutor sampleHost () (.default ℚ)
  let approval := signApproval () (samplePayload ℚ)
  let decided := (printDecision env (mavsdkSimulationMission ℚ) (.default ℚ) (.init ℚ .empty)).2
  let table' : NonceTable := ⟨[approval.payload.row 1000], List.nodup_singleton _⟩
  have inserted : decided.nonces.insert (approval.payload.row 1000) = some table' := rfl
  have consumed := returned_of_verified verifyApproval_sampleHost inserted
  have flown : (x.execute' env (mavsdkSimulationMission ℚ) approval
      (decided.authorized approval.payload table')).1 = simulationResult := by
    decide +kernel
  have executed := execute_returns x env (mavsdkSimulationMission ℚ) approval decided
    (validateMission_sample ()) consumed (run_eq flown) rfl
  have returned := run_eq (run_returns (fun _ _ => rfl) loadMission_sample
    (run_eq printDecision_sample) loadMaterial_sample executed)
  exact ⟨_, returned, run_exitMeaning _ _ _ _ _ (Env.unambiguous_calm _ _) returned⟩

end Sample

end Nightjar
