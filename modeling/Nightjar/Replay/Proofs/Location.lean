import Nightjar.Authorization.Proofs.OneExecution
import Nightjar.Replay.Location

/-!
# Which file protects against replays

The default file does not depend on the working directory exactly when the state root is absolute
once `~` is expanded. The audit directory treats an empty `XDG_STATE_HOME` as unset; the nonce
store takes it for the working directory, so that each directory has a store of its own.
-/

namespace Nightjar

open Python Interact

namespace Environment

/-- `XDG_STATE_HOME` is unset, or expands to an absolute path, or cannot be expanded. -/
def StateRootAbsolute (env : Environment) : Prop :=
  ∀ value, env.xdgStateHome = some value → ∀ expanded,
    env.expanduser (.ofString value) = some expanded → expanded.absolute = true

theorem expanduser_localState (env : Environment) :
    env.expanduser env.localState = some env.localState :=
  PosixPath.expanduser_absolute _ _ env.home_absolute

end Environment

/-- The directory that `default_replay_db_path` starts from. -/
def Environment.stateRoot (env : Environment) : Option PosixPath :=
  match env.xdgStateHome with
  | some value => env.expanduser (.ofString value)
  | none => some env.localState

theorem Environment.stateRootAbsolute_iff (env : Environment) :
    env.StateRootAbsolute ↔ ∀ root, env.stateRoot = some root → root.absolute = true := by
  unfold StateRootAbsolute stateRoot
  cases set : env.xdgStateHome with
  | none =>
    refine ⟨fun _ root same => ?_, fun _ value unset => nomatch unset⟩
    cases same
    exact env.home_absolute
  | some value =>
    constructor
    · exact fun absolute root => absolute value rfl root
    · intro absolute other same
      cases same
      exact absolute

theorem defaultReplayDbPath_eq (env : Environment) (cwd : Directory) :
    defaultReplayDbPath env cwd =
      (env.stateRoot.map (PosixPath.resolve cwd)).map fun p =>
        p.join ["nightjar", "approvals.sqlite3"] := by
  unfold defaultReplayDbPath Environment.stateRoot
  cases set : env.xdgStateHome with
  | none => simp [env.expanduser_localState]
  | some value => cases expands : env.expanduser (.ofString value) <;> simp [expands]

/-- The default file is the same from every working directory. -/
theorem defaultReplayDbPath_independent_iff (env : Environment) :
    (∀ cwd cwd', defaultReplayDbPath env cwd = defaultReplayDbPath env cwd') ↔
      env.StateRootAbsolute := by
  rw [Environment.stateRootAbsolute_iff, ← PosixPath.resolve_independent_iff]
  refine forall_congr' fun cwd => forall_congr' fun cwd' => ?_
  rw [defaultReplayDbPath_eq, defaultReplayDbPath_eq]
  exact (Option.map_injective (PosixPath.join_injective _)).eq_iff

/-- The directory that `default_audit_directory` starts from: an empty value counts as unset. -/
def Environment.auditRoot (env : Environment) : Option PosixPath :=
  if env.xdgStateHome = some "" then some env.localState else env.stateRoot

theorem defaultAuditDirectory_eq (env : Environment) (cwd : Directory) :
    defaultAuditDirectory env cwd =
      (env.auditRoot.map fun p => p.join ["nightjar", "audit"]).map (PosixPath.resolve cwd) := by
  unfold defaultAuditDirectory Environment.auditRoot Environment.stateRoot
  cases set : env.xdgStateHome with
  | none => simp [env.expanduser_localState]
  | some value =>
    by_cases empty : value = ""
    · simp [empty, env.expanduser_localState]
    · cases expands : env.expanduser (.ofString value) <;> simp [empty, expands]

/-- The audit directory is the same from every working directory also when the value is empty. -/
theorem defaultAuditDirectory_independent_iff (env : Environment) :
    (∀ cwd cwd', defaultAuditDirectory env cwd = defaultAuditDirectory env cwd') ↔
      env.xdgStateHome = some "" ∨ env.StateRootAbsolute := by
  have resolves : (∀ cwd cwd', defaultAuditDirectory env cwd = defaultAuditDirectory env cwd') ↔
      ∀ root, env.auditRoot = some root → root.absolute = true := by
    simp only [defaultAuditDirectory_eq]
    rw [PosixPath.resolve_independent_iff]
    cases env.auditRoot with
    | none => simp
    | some root => simp [PosixPath.join]
  rw [resolves, Environment.stateRootAbsolute_iff]
  unfold Environment.auditRoot
  by_cases empty : env.xdgStateHome = some ""
  · rw [if_pos empty]
    refine ⟨fun _ => Or.inl empty, fun _ root same => ?_⟩
    cases same
    exact env.home_absolute
  · rw [if_neg empty]
    simp [empty]

/-- An approval that was consumed from one directory is refused as a replay from the other, as long
    as its row is still in its file. -/
def ReplaysRefused (N : Type) [Field N] [LinearOrder N] [PyText N] [Crypto] (env : Environment)
    (cwd cwd' : Directory) : Prop :=
  ∀ (a b : Attempt N) faults databases payload after later,
    a.consumeFrom env cwd faults databases = (.ok payload, after) →
    (∀ path, (after path).rows ⊆ (later path).rows) →
    b.envelope = a.envelope → b.verify = .ok payload →
    b.consumeFrom env cwd' .none later =
      (.error ⟨.approvalReplayError, "Approval nonce has already been used."⟩, later)

section Replays

variable {N : Type} [Field N] [LinearOrder N] [PyText N] [crypto : Crypto]

/-- A call works on the table in its file. -/
theorem Attempt.consumeFrom_eq {a : Attempt N} {env : Environment} {cwd : Directory}
    {faults : SqliteFaults} {databases : Databases} {path : PosixPath}
    {result : Except PyExc ApprovalPayload} {table : NonceTable}
    (located : defaultReplayDbPath env cwd = some path)
    (ran : a.verifyAndConsume faults (databases path) = (result, table)) :
    a.consumeFrom env cwd faults databases =
      (result, Function.update databases path table) := by
  unfold consumeFrom
  rw [located]
  simp only [Prog.zoom]
  rw [ran]

/-- The row of a call that returned is in its table. -/
theorem Attempt.row_mem {a : Attempt N} {faults : SqliteFaults} {table table' : NonceTable}
    {payload : ApprovalPayload}
    (returned : a.verifyAndConsume faults table = (.ok payload, table')) :
    a.row ∈ table'.rows := by
  obtain ⟨verified, inserted⟩ := verified_of_returned returned
  rw [(NonceTable.insert_eq_some inserted).2, ← Attempt.row_of_verify verified]
  exact List.mem_append_right _ (List.mem_singleton.mpr rfl)

/-- An accepted approval whose nonce is in the table is refused as a replay. -/
theorem Attempt.verifyAndConsume_replay {b : Attempt N} {table : NonceTable} {row : NonceRow}
    {payload : ApprovalPayload} (verified : b.verify = .ok payload) (used : row ∈ table.rows)
    (same : row.nonce = payload.nonce) :
    b.verifyAndConsume .none table =
      (.error ⟨.approvalReplayError, "Approval nonce has already been used."⟩, table) := by
  have stale : (payload.row b.clock).nonce ∈ table.rows.map NonceRow.nonce :=
    List.mem_map.mpr ⟨row, used, same⟩
  rw [Attempt.verifyAndConsume_accepted verified (consume_duplicate _ _ stale)]
  rfl

/-- Directories with one default file refuse each other's replays. -/
theorem replaysRefused_of_same {env : Environment} {cwd cwd' : Directory}
    (same : defaultReplayDbPath env cwd = defaultReplayDbPath env cwd') :
    ReplaysRefused N env cwd cwd' := by
  intro a b faults databases payload after later consumed kept envelope verified
  cases located : defaultReplayDbPath env cwd with
  | none =>
    unfold Attempt.consumeFrom at consumed
    rw [located] at consumed
    cases consumed
  | some path =>
    cases ran : a.verifyAndConsume faults (databases path) with
    | mk result table =>
      rw [Attempt.consumeFrom_eq located ran] at consumed
      obtain ⟨rfl, rfl⟩ := Prod.mk.inj consumed
      have used : a.row ∈ (later path).rows := kept path (by
        rw [Function.update_self]
        exact Attempt.row_mem ran)
      have nonce : a.row.nonce = payload.nonce := by
        rw [Attempt.payload_of_verify verified, envelope]
        rfl
      rw [Attempt.consumeFrom_eq (same ▸ located)
        (Attempt.verifyAndConsume_replay verified used nonce), Function.update_eq_self]

/-- The default store protects against replays from other directories exactly when the state root
    is absolute. -/
theorem replayProtection_iff (env : Environment) :
    (∀ cwd cwd', defaultReplayDbPath env cwd = defaultReplayDbPath env cwd' ∧
      ReplaysRefused N env cwd cwd') ↔ env.StateRootAbsolute := by
  rw [← defaultReplayDbPath_independent_iff]
  constructor
  · exact fun protection cwd cwd' => (protection cwd cwd').1
  · exact fun independent cwd cwd' =>
      ⟨independent cwd cwd', replaysRefused_of_same (independent cwd cwd')⟩

end Replays

section Empty

attribute [local instance] Crypto.keyless

/-- `XDG_STATE_HOME` is set to the empty text. -/
def emptyStateHome : Environment where
  home := "/home/operator"
  home_absolute := by decide
  xdgStateHome := some ""
  userHome _ := none

/-- Two working directories. -/
def firstDirectory : Directory := ⟨["first"], by decide⟩

def secondDirectory : Directory := ⟨["second"], by decide⟩

/-- The nonce store of a directory. -/
def storeIn (name : String) : PosixPath := ⟨true, [name, "nightjar", "approvals.sqlite3"]⟩

theorem defaultReplayDbPath_empty :
    defaultReplayDbPath emptyStateHome firstDirectory = some (storeIn "first") ∧
      defaultReplayDbPath emptyStateHome secondDirectory = some (storeIn "second") := by
  decide

/-- With an empty `XDG_STATE_HOME` the same approval is consumed once in each directory. -/
theorem consumed_in_both_directories :
    defaultReplayDbPath emptyStateHome firstDirectory ≠
        defaultReplayDbPath emptyStateHome secondDirectory ∧
      ∃ after later,
        (raceAttempts true).consumeFrom emptyStateHome firstDirectory .none (fun _ => .empty) =
            (.ok (samplePayload ℚ), after) ∧
          (raceAttempts true).consumeFrom emptyStateHome secondDirectory .none after =
            (.ok (samplePayload ℚ), later) := by
  let table : NonceTable := ⟨[(samplePayload ℚ).row 1000], List.nodup_singleton _⟩
  have returned : (raceAttempts true).verifyAndConsume .none .empty =
      (.ok (samplePayload ℚ), table) :=
    returned_of_verified (verify_race true) rfl
  obtain ⟨first, second⟩ := defaultReplayDbPath_empty
  have apart : defaultReplayDbPath emptyStateHome firstDirectory ≠
      defaultReplayDbPath emptyStateHome secondDirectory := by
    rw [first, second]
    decide
  have untouched : Function.update (fun _ => NonceTable.empty) (storeIn "first") table
      (storeIn "second") = .empty := Function.update_of_ne (by decide) _ _
  exact ⟨apart, _, _, Attempt.consumeFrom_eq first returned,
    Attempt.consumeFrom_eq second (untouched.symm ▸ returned)⟩

end Empty

end Nightjar
