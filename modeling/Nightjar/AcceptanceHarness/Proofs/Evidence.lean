import Nightjar.AcceptanceHarness

/-!
# The evidence bundle

The verdict of a scenario is written to several places: the result file, the manifest, the summary,
the output and the exit code. In every run of the harness that ends they agree, and a process that
was ended because of its timeout never passes.
-/

namespace Nightjar

open Python Interact Prog

namespace AcceptanceHarness

section Bundles

variable {N : Type} {a b c : Bundle N}

/-- Files and lines are only added. -/
structure Grows (a b : Bundle N) : Prop where
  files : a.files ⊆ b.files
  printed : a.printed ⊆ b.printed

theorem Grows.refl (b : Bundle N) : Grows b b := ⟨fun _ member => member, fun _ member => member⟩

theorem Grows.trans (first : Grows a b) (second : Grows b c) : Grows a c :=
  ⟨fun _ member => second.files (first.files member),
    fun _ member => second.printed (first.printed member)⟩

/-- A part of the harness that only adds, also when it is stopped. -/
def Adds {α : Type} (part : Harness N α) : Prop := ∀ b, Grows b (part b).2

theorem adds_write (path : String) (content : Content N) : Adds (write path content) :=
  fun _ => ⟨List.subset_append_left _ _, fun _ member => member⟩

theorem adds_print (line : String) : Adds (N := N) (print line) :=
  fun _ => ⟨fun _ member => member, List.subset_append_left _ _⟩

theorem adds_bind {α β : Type} {part : Harness N α} {rest : α → Harness N β} (first : Adds part)
    (second : ∀ a, Adds (rest a)) : Adds (part >>= rest) := by
  intro b
  have so_far := first b
  cases ran : part b with
  | mk outcome b' =>
    rw [ran] at so_far
    cases outcome with
    | ok a =>
      rw [bind_of_returns ran]
      exact so_far.trans (second a b')
    | error e =>
      rw [bind_of_raises ran]
      exact so_far

/-- What is written is there, and so is what was. -/
theorem written {path : String} {content : Content N} (ran : write path content a = (.ok (), b)) :
    Grows a b ∧ (path, content) ∈ b.files := by
  cases ran
  exact ⟨adds_write path content a, List.mem_append_right _ List.mem_cons_self⟩

theorem printed {line : String} (ran : print line a = (.ok (), b)) :
    Grows a b ∧ line ∈ b.printed := by
  cases ran
  exact ⟨adds_print line a, List.mem_append_right _ List.mem_cons_self⟩

end Bundles

section Scenarios

variable {N : Type} {a b c : Bundle N} {check : Check} {process : Process}
  {audit : Option (List UInt8)} {name notes : String} {command : List String} {s : Scenario}

/-- A check that does not pass the exit code of an ended process. -/
def RefusesTimeouts (check : Check) : Prop :=
  ∀ stdout file, ∃ detail, check 124 stdout file = .ok (false, detail)

/-- What the bundle holds of a scenario: the exit code, and one verdict in each place. -/
structure Evidence (b : Bundle N) (name : String) (process : Process) (s : Scenario) : Prop where
  named : s.name = name
  exitCode : s.exitCode = (runCommand process).exitCode
  codeFile : (name ++ "/exit_code.txt", .text (toString s.exitCode ++ "\n")) ∈ b.files
  stdoutFile : (name ++ "/stdout.txt", .text (runCommand process).stdout) ∈ b.files
  resultFile : (name ++ "/result.txt", .text (label s.passed ++ ": " ++ s.detail ++ "\n")) ∈ b.files
  shown : ∃ detail, s.detail = timedOutPrefix (runCommand process).timedOut ++ detail ∧
    s!"  {label s.passed}: {detail}" ∈ b.printed
  timedOut : process.communicate = none → s.passed = false ∧ s.exitCode = 124

theorem Evidence.grows (evidence : Evidence a name process s) (more : Grows a b) :
    Evidence b name process s :=
  { evidence with
    codeFile := more.files evidence.codeFile
    stdoutFile := more.files evidence.stdoutFile
    resultFile := more.files evidence.resultFile
    shown := by
      obtain ⟨detail, is_detail, member⟩ := evidence.shown
      exact ⟨detail, is_detail, more.printed member⟩ }

/-- A scenario that passed is one of a process that ended by itself and that the check accepts. -/
def PassedBy (check : Check) (process : Process) (audit : Option (List UInt8)) (s : Scenario) :
    Prop :=
  s.passed = true → ∃ returncode stdout stderr detail,
    process.communicate = some (returncode, stdout, stderr) ∧
      check (returncode.getD 1) stdout audit = .ok (true, detail)

theorem writeScenario_returned {result : Finished} {passed : Bool} {detail : String}
    (ran : writeScenario name command result audit notes passed detail a = (.ok s, b)) :
    s = ⟨name, result.exitCode, command, audit.isSome, passed, detail, notes⟩ ∧ Grows a b ∧
      (name ++ "/exit_code.txt", .text (toString result.exitCode ++ "\n")) ∈ b.files ∧
      (name ++ "/stdout.txt", .text result.stdout) ∈ b.files ∧
      (name ++ "/result.txt", .text (label passed ++ ": " ++ detail ++ "\n")) ∈ b.files := by
  obtain ⟨_, b₁, first, ran⟩ := returned_bind ran
  obtain ⟨_, b₂, code, ran⟩ := returned_bind ran
  obtain ⟨_, b₃, stdout, ran⟩ := returned_bind ran
  obtain ⟨_, b₄, stderr, ran⟩ := returned_bind ran
  obtain ⟨_, b₅, noted, ran⟩ := returned_bind ran
  obtain ⟨_, b₆, concluded, ran⟩ := returned_bind ran
  obtain ⟨_, b₇, copied, ran⟩ := returned_bind ran
  have last : Grows b₆ b₇ := by
    cases audit with
    | none =>
      cases copied
      exact Grows.refl _
    | some data => exact (written copied).1
  cases ran
  have from₅ := (written concluded).1.trans last
  have from₃ := ((written stderr).1.trans (written noted).1).trans from₅
  have from₂ := (written stdout).1.trans from₃
  refine ⟨rfl, ((written first).1.trans (written code).1).trans from₂, from₂.files (written code).2,
    from₃.files (written stdout).2, last.files (written concluded).2⟩

/-- What is recorded of a scenario that ends. -/
theorem runScenario_returned (refuses : RefusesTimeouts check)
    (ran : runScenario name notes command check process audit a = (.ok s, b)) :
    Grows a b ∧ Evidence b name process s ∧ PassedBy check process audit s := by
  obtain ⟨verdict, b₁, checked, ran⟩ := returned_bind ran
  obtain ⟨judged, same⟩ := Prod.mk.inj checked
  obtain ⟨s', b₂, recorded, ran⟩ := returned_bind ran
  obtain ⟨_, b₃, shown, ran⟩ := returned_bind ran
  obtain ⟨_, b₄, output, ran⟩ := returned_bind ran
  cases ran
  obtain ⟨rfl, grows, codeFile, stdoutFile, resultFile⟩ := writeScenario_returned recorded
  obtain ⟨longer, line⟩ := printed shown
  have after := longer.trans (printed output).1
  rw [same]
  -- An ended process has the code that no check passes.
  have ended : process.communicate = none →
      (runCommand process).timedOut = true ∧ (runCommand process).exitCode = 124 ∧
        verdict.1 = false := by
    intro expired
    have code : (runCommand process).exitCode = 124 := by rw [runCommand, expired]
    obtain ⟨detail, refused⟩ := refuses (runCommand process).stdout audit
    rw [code, refused] at judged
    exact ⟨by rw [runCommand, expired], code, (congrArg Prod.fst (Except.ok.inj judged)).symm⟩
  have by_itself : ∀ outcome, process.communicate = some outcome →
      runCommand process = ⟨outcome.1.getD 1, outcome.2.1, outcome.2.2, false⟩ := by
    intro outcome in_time
    rw [runCommand, in_time]
  have passed : (verdict.1 && !(runCommand process).timedOut) = verdict.1 := by
    cases communicate : process.communicate with
    | none =>
      obtain ⟨-, -, refused⟩ := ended communicate
      rw [refused, Bool.false_and]
    | some outcome =>
      rw [by_itself outcome communicate, Bool.not_false, Bool.and_true]
  refine ⟨grows.trans after, ⟨rfl, rfl, after.files codeFile, after.files stdoutFile,
    after.files resultFile, ⟨verdict.2, rfl, ?_⟩, ?_⟩, ?_⟩
  · rw [passed]
    exact (printed output).1.printed line
  · intro expired
    obtain ⟨-, code, refused⟩ := ended expired
    rw [passed]
    exact ⟨refused, code⟩
  · intro success
    rw [passed] at success
    cases communicate : process.communicate with
    | none => exact absurd success (Bool.eq_false_iff.mp (ended communicate).2.2)
    | some outcome =>
      rw [by_itself outcome communicate] at judged
      refine ⟨outcome.1, outcome.2.1, outcome.2.2, verdict.2, rfl, ?_⟩
      rw [judged, ← success]

end Scenarios

section Checks

variable {N : Type} (reader : Reader N)

theorem refusesTimeouts_signed : RefusesTimeouts (AcceptanceChecks.signedMissionPassed reader) :=
  fun _ _ => ⟨_, if_pos (by decide)⟩

variable [Zero N] [DecidableEq N] [PyText N]

theorem refusesTimeouts_controlled :
    RefusesTimeouts (AcceptanceChecks.controlledFailureRecovered reader) :=
  fun _ _ => ⟨_, if_pos (by decide)⟩

end Checks

section Main

variable {N : Type} [Field N] [LinearOrder N] [FloorRing N] [PyMath N] [PyText N] [Crypto]
  {set : Setting N} {a b : Bundle N}

omit [FloorRing N] [PyMath N] [PyText N] in
theorem refusesTimeouts_replay : RefusesTimeouts set.replayCheck :=
  fun _ _ => ⟨_, congrArg Except.ok (if_pos (by decide))⟩

omit [FloorRing N] [PyMath N] [PyText N] in
theorem adds_restart : Adds set.restart := by
  unfold Setting.restart
  split
  · exact adds_write _ _
  · exact adds_write _ _
  · exact adds_bind (adds_print _) fun _ => adds_write _ _

/-- What the three scenarios leave. -/
structure Ran (set : Setting N) (mission : Mission N) (b : Bundle N)
    (success replay failure : Scenario) : Prop where
  first : Evidence b "signed_mission" (set.process 0) success
  signed : PassedBy (AcceptanceChecks.signedMissionPassed set.reader) (set.process 0)
    (set.audit 0 "state-success" mission) success
  second : Evidence b "replay_rejection" (set.process 1) replay
  replayed : PassedBy set.replayCheck (set.process 1) (set.audit 1 "state-replay" mission) replay
  third : Evidence b "controlled_failure" (set.process 2) failure
  controlled : PassedBy (AcceptanceChecks.controlledFailureRecovered set.reader) (set.process 2)
    (set.audit 2 "state-failure" mission) failure

omit [FloorRing N] [PyMath N] in
theorem Ran.grows {mission : Mission N} {success replay failure : Scenario}
    (ran : Ran set mission a success replay failure) (more : Grows a b) :
    Ran set mission b success replay failure :=
  { ran with
    first := ran.first.grows more
    second := ran.second.grows more
    third := ran.third.grows more }

theorem runScenarios_returned {mission : Mission N} {home : HomeSnapshot N}
    {success replay failure : Scenario}
    (ran : set.runScenarios mission home a = (.ok (success, replay, failure), b)) :
    Ran set mission b success replay failure := by
  obtain ⟨_, b₁, -, ran⟩ := returned_bind ran
  obtain ⟨_, b₂, -, ran⟩ := returned_bind ran
  obtain ⟨_, b₃, -, ran⟩ := returned_bind ran
  obtain ⟨success', b₄, first, ran⟩ := returned_bind ran
  obtain ⟨_, b₅, heading, ran⟩ := returned_bind ran
  obtain ⟨replay', b₆, second, ran⟩ := returned_bind ran
  obtain ⟨_, b₇, heading', ran⟩ := returned_bind ran
  obtain ⟨_, b₈, restarted, ran⟩ := returned_bind ran
  obtain ⟨approval, b₉, issued, ran⟩ := returned_bind ran
  obtain ⟨_, b₁₀, copied, ran⟩ := returned_bind ran
  obtain ⟨failure', b₁₁, third, ran⟩ := returned_bind ran
  cases ran
  obtain ⟨-, one, signed⟩ := runScenario_returned (refusesTimeouts_signed set.reader) first
  obtain ⟨grows₂, two, replayed⟩ := runScenario_returned refusesTimeouts_replay second
  obtain ⟨grows₃, three, controlled⟩ :=
    runScenario_returned (refusesTimeouts_controlled set.reader) third
  have restart : Grows b₇ b₈ := by
    have adds : Adds set.restart := adds_restart
    have added := adds b₇
    rwa [restarted] at added
  have issue : Grows b₈ b₉ := by
    rw [(Prod.mk.inj issued).2]
    exact Grows.refl _
  have from₆ : Grows b₆ b :=
    ((((printed heading').1.trans restart).trans issue).trans (written copied).1).trans grows₃
  have from₄ : Grows b₄ b := ((printed heading).1.trans grows₂).trans from₆
  exact ⟨one.grows from₄, signed, two.grows from₆, replayed, three, controlled⟩

/-- How `main` gets to its end. -/
theorem main_returned {code : Nat} (returned : set.main ⟨[], []⟩ = (.ok code, b)) :
    (code = 2 ∧ set.homeFile = none) ∨
      ∃ mission success replay failure overall, set.loadMission = .ok mission ∧
        Ran set mission b success replay failure ∧
        overall = (success.passed && replay.passed && failure.passed) ∧
        code = (if overall then 0 else 1) ∧
        ("manifest.json", .json (set.manifest mission overall [success, replay, failure])) ∈
          b.files ∧
        ("SUMMARY.md", .text ("\n".intercalate (set.summary overall success replay failure) ++
          "\n")) ∈ b.files ∧
        s!"\nOverall: {label overall}" ∈ b.printed := by
  obtain ⟨_, b₁, -, ran⟩ := returned_bind returned
  obtain ⟨_, b₂, -, ran⟩ := returned_bind ran
  obtain ⟨_, b₃, -, ran⟩ := returned_bind ran
  obtain ⟨mission, b₄, loaded, ran⟩ := returned_bind ran
  obtain ⟨_, b₅, -, ran⟩ := returned_bind ran
  have is_mission := (Prod.mk.inj loaded).1
  cases file : set.homeFile with
  | none =>
    simp only [file] at ran
    obtain ⟨_, b₆, -, ran⟩ := returned_bind ran
    cases ran
    exact Or.inl ⟨rfl, rfl⟩
  | some bytes =>
    simp only [file] at ran
    obtain ⟨home, b₆, -, ran⟩ := returned_bind ran
    obtain ⟨_, b₇, -, ran⟩ := returned_bind ran
    obtain ⟨⟨success, replay, failure⟩, b₈, scenarios, ran⟩ := returned_bind ran
    obtain ⟨_, b₉, manifest, ran⟩ := returned_bind ran
    obtain ⟨_, b₁₀, summary, ran⟩ := returned_bind ran
    obtain ⟨_, b₁₁, overall, ran⟩ := returned_bind ran
    obtain ⟨_, b₁₂, last, ran⟩ := returned_bind ran
    obtain ⟨is_code, rfl⟩ := Prod.mk.inj ran
    have from₁₁ := (printed last).1
    have from₁₀ := (printed overall).1.trans from₁₁
    have from₉ := (written summary).1.trans from₁₀
    have from₈ := (written manifest).1.trans from₉
    exact Or.inr ⟨mission, success, replay, failure, _, is_mission,
      (runScenarios_returned scenarios).grows from₈, rfl, (Except.ok.inj is_code).symm,
      from₉.files (written manifest).2, from₁₀.files (written summary).2,
      from₁₁.printed (printed overall).2⟩

/-- What the exit code of a run to the end says. -/
structure Concluded (set : Setting N) (mission : Mission N) (code : Nat) (b : Bundle N)
    (success replay failure : Scenario) : Prop where
  first : Evidence b "signed_mission" (set.process 0) success
  second : Evidence b "replay_rejection" (set.process 1) replay
  third : Evidence b "controlled_failure" (set.process 2) failure
  known : code = 0 ∨ code = 1
  overall : code = 0 ↔ success.passed = true ∧ replay.passed = true ∧ failure.passed = true
  manifest : ("manifest.json", .json (set.manifest mission (decide (code = 0))
    [success, replay, failure])) ∈ b.files
  summary : ("SUMMARY.md", .text ("\n".intercalate
    (set.summary (decide (code = 0)) success replay failure) ++ "\n")) ∈ b.files
  shown : s!"\nOverall: {label (decide (code = 0))}" ∈ b.printed

/-- **The places of a verdict agree.** When `main` returns, the home snapshot was missing, or there
    is a manifest and a summary. Then for each scenario the printed verdict, the result file, the
    manifest and the summary are the same; a process that was ended has failed, with the code 124;
    and the exit code, the output, the manifest and the summary say that all passed just when all
    did. -/
theorem main_evidence {code : Nat} (returned : set.main ⟨[], []⟩ = (.ok code, b)) :
    (code = 2 ∧ set.homeFile = none) ∨
      ∃ mission success replay failure, set.loadMission = .ok mission ∧
        Concluded set mission code b success replay failure := by
  rcases main_returned returned with missing | ⟨mission, success, replay, failure, overall, loaded,
    ran, is_overall, is_code, manifest, summary, shown⟩
  · exact Or.inl missing
  · have verdict : overall = decide (code = 0) := by
      rw [is_code]
      cases overall <;> rfl
    have all : code = 0 ↔
        success.passed = true ∧ replay.passed = true ∧ failure.passed = true := by
      have both := (decide_eq_true_iff (p := code = 0)).symm
      rw [both, ← verdict, is_overall, Bool.and_eq_true, Bool.and_eq_true, and_assoc]
    have known : code = 0 ∨ code = 1 := by
      rw [is_code]
      cases overall with
      | true => exact Or.inl rfl
      | false => exact Or.inr rfl
    rw [verdict] at manifest summary shown
    exact Or.inr ⟨mission, success, replay, failure, loaded, ran.first, ran.second, ran.third,
      known, all, manifest, summary, shown⟩

end Main

end AcceptanceHarness

end Nightjar
