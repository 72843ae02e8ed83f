import Nightjar.AcceptanceHarness
import Nightjar.Approval.Sample

/-!
# Where a scenario keeps its audit

The harness looks for the audit file of a scenario where the process writes it, whatever the
environment and the working directories are, and no two scenarios share a file.
-/

namespace Nightjar

open Python Interact

namespace AcceptanceHarness

/-- Names that go down. -/
def GoesDown (part : String) : Prop := PosixPath.IsPart part ∧ part ≠ ".."

instance (part : String) : Decidable (GoesDown part) :=
  inferInstanceAs (Decidable ((part ≠ "" ∧ part ≠ "." ∧ '/' ∉ part.toList) ∧ part ≠ ".."))

theorem goesDown_keyPath (keyDir : Directory) {name : String} (down : GoesDown name) :
    ∀ part ∈ (keyPath keyDir [name]).parts, GoesDown part := by
  intro part member
  rcases List.mem_append.mp member with above | last
  · obtain ⟨some, here, up, slash⟩ := keyDir.proper part above
    exact ⟨⟨some, here, slash⟩, up⟩
  · rw [List.mem_singleton.mp last]
    exact down

/-- Such names are kept when a path is resolved. -/
theorem walk_goesDown (parts : List String) (down : ∀ part ∈ parts, part ≠ "..") :
    ∀ here : List String, PosixPath.walk here parts = here ++ parts := by
  induction parts with
  | nil =>
    intro here
    exact (List.append_nil here).symm
  | cons part parts ih =>
    intro here
    obtain ⟨first, rest⟩ := List.forall_mem_cons.mp down
    rw [PosixPath.walk, if_neg first, ih rest, List.append_assoc]
    rfl

theorem text_ne_empty {p : PosixPath} (absolute : p.absolute = true) : p.text ≠ "" := by
  intro empty
  have chars := congrArg String.toList empty
  simp [PosixPath.text, absolute] at chars

/-- `default_audit_directory` in the environment of a scenario is the directory that the harness
    expects. -/
theorem defaultAuditDirectory_isolated {stateHome : PosixPath}
    (absolute : stateHome.absolute = true)
    (parts : ∀ part ∈ stateHome.parts, PosixPath.IsPart part) (env : Environment)
    (cwd cwd' : Directory) :
    defaultAuditDirectory (isolatedEnv env stateHome) cwd' =
      some (expectedAuditDir stateHome cwd) := by
  have from_root : (stateHome.join ["nightjar", "audit"]).absolute = true := absolute
  simp [defaultAuditDirectory, isolatedEnv, expectedAuditDir, text_ne_empty absolute,
    PosixPath.ofString_text absolute parts, Environment.expanduser,
    PosixPath.expanduser_absolute _ _ absolute, PosixPath.resolve_absolute from_root cwd' cwd]

/-- The file of a scenario. -/
theorem auditFile_expected {keyDir : Directory} {name : String} (down : GoesDown name)
    (cwd : Directory) (id : UUID) :
    auditFile (expectedAuditDir (keyPath keyDir [name]) cwd) id =
      ⟨true, keyDir.parts ++ [name, "nightjar", "audit", id.text ++ ".jsonl"]⟩ := by
  have below : ∀ part ∈ (keyPath keyDir [name]).parts ++ ["nightjar", "audit"], part ≠ ".." := by
    intro part member
    rcases List.mem_append.mp member with above | last
    · exact (goesDown_keyPath keyDir down part above).2
    · simp only [List.mem_cons, List.not_mem_nil, or_false] at last
      rcases last with rfl | rfl <;> decide
  simp only [auditFile, expectedAuditDir, PosixPath.resolve, PosixPath.join]
  rw [walk_goesDown _ below]
  simp [keyPath, PosixPath.join]

/-- **A scenario keeps its audit to itself.** In the environment of a scenario, started anywhere
    with any settings, Nightjar writes to the directory that the harness looks into; and the audit
    files of two scenarios are the same file only for the same scenario and mission. -/
theorem audit_isolated {keyDir : Directory} {name name' : String} (down : GoesDown name)
    (down' : GoesDown name') (env : Environment) (cwd cwd' : Directory) (id id' : UUID) :
    defaultAuditDirectory (isolatedEnv env (keyPath keyDir [name])) cwd' =
        some (expectedAuditDir (keyPath keyDir [name]) cwd) ∧
      (auditFile (expectedAuditDir (keyPath keyDir [name]) cwd) id =
          auditFile (expectedAuditDir (keyPath keyDir [name']) cwd') id' ↔
        name = name' ∧ id = id') := by
  refine ⟨defaultAuditDirectory_isolated rfl (fun part member =>
    (goesDown_keyPath keyDir down part member).1) env cwd cwd', ?_⟩
  rw [auditFile_expected down, auditFile_expected down']
  constructor
  · intro same
    have parts := List.append_cancel_left (congrArg PosixPath.parts same)
    simp only [List.cons.injEq, and_true, true_and] at parts
    obtain ⟨names, files⟩ := parts
    exact ⟨names, UUID.text_injective ((String.append_left_inj ".jsonl").mp files)⟩
  · rintro ⟨rfl, rfl⟩
    rfl

/-- The audit files of the first two scenarios, with `XDG_STATE_HOME` set by the operator. -/
theorem audit_isolated_replay :
    let keyDir := PosixPath.nested "tmp" 1 (by decide)
    let env : Environment := ⟨"/home/pilot", by decide, some "~/state", fun _ => none⟩
    let id := (mavsdkSimulationMission ℚ).missionId
    defaultAuditDirectory (isolatedEnv env (keyPath keyDir ["state-success"])) keyDir =
        some (expectedAuditDir (keyPath keyDir ["state-success"]) keyDir) ∧
      auditFile (expectedAuditDir (keyPath keyDir ["state-success"]) keyDir) id ≠
        auditFile (expectedAuditDir (keyPath keyDir ["state-replay"]) keyDir) id := by
  intro keyDir env id
  have success : GoesDown "state-success" := by decide
  have replay : GoesDown "state-replay" := by decide
  obtain ⟨expected, apart⟩ := audit_isolated success replay env keyDir keyDir id id
  exact ⟨expected, fun same => absurd (apart.mp same).1 (by decide)⟩

end AcceptanceHarness

end Nightjar
