import Nightjar.AcceptanceChecks.Observed
import Nightjar.Cli.Proofs.Course

/-!
# What the replay check accepts

Exit code 4 has six causes, and the check tells them apart by a phrase in the output. The output
also holds the description of the mission, so the check accepts only replays for a mission whose
description does not have the phrase.
-/

namespace Nightjar

open Interact Prog Exec Python Cli AcceptanceChecks

section Phrase

/-- The text has one of the two phrases of the check (`acceptance_checks.py:67`). -/
def SaysUsed (lower : String → String) (text : String) : Prop :=
  occursIn "already been used" text ∨ occursIn "already used" (lower text)

/-- What is documented of `str.lower`: ASCII text is mapped character by character, and how a text
    is mapped does not depend on what is beyond a line break or a blank. -/
structure Lowers (lower : String → String) : Prop where
  ascii : ∀ text : String, (∀ c ∈ text.toList, c.toNat < 128) →
    lower text = String.ofList (text.toList.map Char.toLower)
  newline : ∀ before after : String,
    lower (before ++ "\n" ++ after) = lower before ++ "\n" ++ lower after
  blank : ∀ before after : String,
    lower (before ++ " " ++ after) = lower before ++ " " ++ lower after

variable {lower : String → String}

theorem replayRejected_true_iff {exitCode : Int} {stdout : String} {fileExists : Bool} :
    (∃ detail, replayRejected lower exitCode stdout fileExists = (true, detail)) ↔
      exitCode = 4 ∧ SaysUsed lower stdout ∧ fileExists = false := by
  unfold replayRejected SaysUsed
  split_ifs with code phrase found <;> simp_all
  tauto

/-- ASCII text says what its characters say in lower case. -/
theorem not_saysUsed_of_ascii (lowers : Lowers lower) {text : String}
    (ascii : ∀ c ∈ text.toList, c.toNat < 128) (unsaid : ¬ occursIn "already been used" text)
    (unsaid' : ¬ "already used".toList <:+: text.toList.map Char.toLower) :
    ¬ SaysUsed lower text := by
  rintro (found | found)
  · exact unsaid found
  · rw [lowers.ascii text ascii, occursIn_ofList] at found
    exact unsaid' found

/-- ASCII text without a letter of both phrases says neither. -/
theorem not_saysUsed_of_letter (lowers : Lowers lower) {text : String} {c : Char}
    (needed : c ∈ "already used".toList) (needed' : c ∈ "already been used".toList)
    (small : c.toLower = c) (ascii : ∀ d ∈ text.toList, d.toNat < 128 ∧ d.toLower ≠ c) :
    ¬ SaysUsed lower text := by
  refine not_saysUsed_of_ascii lowers (fun d member => (ascii d member).1) (fun found => ?_)
    fun found => ?_
  · exact (ascii c (found.subset needed')).2 small
  · obtain ⟨d, member, same⟩ := List.mem_map.mp (found.subset needed)
    exact (ascii d member).2 same

/-- A word without an `a` before a blank changes nothing. -/
theorem saysUsed_word_append (lowers : Lowers lower) {word : String}
    (ascii : ∀ c ∈ word.toList, c.toNat < 128 ∧ c.toLower ≠ 'a') (text : String) :
    SaysUsed lower (word ++ " " ++ text) ↔ SaysUsed lower text := by
  have upper : 'a' ∉ (word ++ " ").toList := by
    rw [String.toList_append, List.mem_append, not_or]
    exact ⟨fun member => (ascii 'a' member).2 (by decide), by decide⟩
  have mapped : 'a' ∉ (lower word ++ " ").toList := by
    rw [lowers.ascii word fun c member => (ascii c member).1, String.toList_append,
      String.toList_ofList, List.mem_append, not_or, List.mem_map]
    exact ⟨fun ⟨c, member, same⟩ => (ascii c member).2 same, by decide⟩
  have split : ∀ before after : String,
      (before ++ after).toList = before.toList ++ after.toList := fun _ _ => String.toList_append
  unfold SaysUsed occursIn
  rw [lowers.blank, split (word ++ " "), split (lower word ++ " ")]
  have starts : "already been used".toList.head? = some 'a' := by decide
  have starts' : "already used".toList.head? = some 'a' := by decide
  exact or_congr (infix_append_iff_of_head starts upper) (infix_append_iff_of_head starts' mapped)

/-- The output says what one of its lines says. -/
theorem saysUsed_stdoutText {N : Type} (lowers : Lowers lower) (trace : List (Event N)) :
    SaysUsed lower (stdoutText trace) ↔ ∃ line ∈ stdoutLines trace, SaysUsed lower line := by
  have mapped : ∀ lines : List String,
      lower (String.ofList (lines.flatMap fun line => line.toList ++ ['\n'])) =
        String.ofList ((lines.map lower).flatMap fun line => line.toList ++ ['\n']) := by
    intro lines
    induction lines with
    | nil => exact lowers.ascii "" fun _ member => nomatch member
    | cons line lines ih =>
      have split : ∀ (line : String) (rest : List Char),
          String.ofList (line.toList ++ ['\n'] ++ rest) = line ++ "\n" ++ String.ofList rest := by
        intro line rest
        apply String.toList_injective
        simp
      rw [List.flatMap_cons, split, lowers.newline, ih, List.map_cons, List.flatMap_cons, split]
  have second : occursIn "already used" (lower (stdoutText trace)) ↔
      ∃ line ∈ stdoutLines trace, occursIn "already used" (lower line) := by
    rw [stdoutText, mapped, occursIn_ofList, infix_lines_iff (by decide) (by decide)]
    simp [occursIn]
  rw [SaysUsed, second, occursIn_stdoutText (by decide) (by decide), ← exists_or]
  exact exists_congr fun line => and_or_left.symm

theorem stdoutLines_printed {N : Type} (s : ExecState N) (lines : List String) :
    stdoutLines (s.printed lines).trace = stdoutLines s.trace ++ lines := by
  have printed : (lines.map (Event.stdout (N := N))).filterMap Event.line? = lines := by
    rw [List.filterMap_map]
    exact List.filterMap_some
  rw [stdoutLines, ExecState.printed, List.filterMap_append, printed]
  rfl

theorem auditLog_printed {N : Type} (s : ExecState N) (lines : List String) :
    auditLog (s.printed lines).trace = auditLog s.trace := by
  have silent : (lines.map (Event.stdout (N := N))).filterMap Event.written? = [] := by
    rw [List.filterMap_map]
    exact List.filterMap_eq_nil_iff.mpr fun _ _ => rfl
  rw [auditLog, ExecState.printed, List.filterMap_append, silent, List.append_nil]
  rfl

theorem saysUsed_description (lowers : Lowers lower) (description : String) :
    SaysUsed lower ("Description: " ++ description) ↔ SaysUsed lower description := by
  have word : "Description: " = "Description:" ++ " " := by decide
  rw [word]
  exact saysUsed_word_append lowers (List.all_iff_forall_prop.mp rfl) description

theorem saysUsed_blocked (lowers : Lowers lower) (text : String) :
    SaysUsed lower ("Execution blocked: " ++ text) ↔ SaysUsed lower text := by
  have words : "Execution blocked: " ++ text =
      "Execution" ++ " " ++ ("blocked:" ++ " " ++ text) := by
    rw [← String.append_assoc, ← String.append_assoc]
    rfl
  rw [words, saysUsed_word_append lowers (List.all_iff_forall_prop.mp rfl),
    saysUsed_word_append lowers (List.all_iff_forall_prop.mp rfl)]

theorem verdict_of_refusal {launcher : Launcher} {exc : PyExc}
    (refusal : exc.cls.isAuthorization = true) :
    (launcher.verdict exc).2 = "Execution blocked: " ++ exc.text := by
  rw [isAuthorization_iff] at refusal
  rw [Launcher.verdict, if_pos refusal]

end Phrase

section Refusals

variable {N : Type} [Field N] [LinearOrder N] [FloorRing N] [PyMath N] [PyText N] [Crypto]
  {lower : String → String}

omit [Crypto] in
theorem not_saysUsed_mission (lowers : Lowers lower) (id : UUID) :
    ¬ SaysUsed lower ("Mission: " ++ id.text) := by
  refine not_saysUsed_of_letter (c := 'u') lowers (by decide) (by decide) (by decide) ?_
  intro d member
  have digit : ∀ d : Fin 16, (hexDigit d).toNat < 128 ∧ (hexDigit d).toLower ≠ 'u' := by decide
  have text : id.text.toList = id.chars := String.toList_ofList
  rw [String.toList_append, text, List.mem_append] at member
  rcases member with word | member
  · revert d
    exact List.all_iff_forall_prop.mp rfl
  · by_cases dash : d = '-'
    · rw [dash]
      decide
    · have kept : d ∈ id.chars.filter (· ≠ '-') := List.mem_filter.mpr ⟨member, by simpa using dash⟩
      rw [UUID.filter_chars] at kept
      obtain ⟨e, -, rfl⟩ := List.mem_map.mp kept
      exact digit e

omit [FloorRing N] [PyMath N] in
/-- The texts of `verify_approval` do not say it. -/
theorem not_saysUsed_verifyApproval (lowers : Lowers lower) {envelope : SignedApproval}
    {publicKey : Crypto.PublicKey} {mission : Mission N} {limits : PolicyLimits N}
    {executor : String} {now skew lifetime : Int} {e : PyExc}
    (refused : verifyApproval envelope publicKey mission limits executor now skew lifetime =
      .error e) : ¬ SaysUsed lower e.text := by
  unfold verifyApproval at refused
  split at refused
  · cases refused
    exact not_saysUsed_of_ascii lowers (List.all_iff_forall_prop.mp rfl) (by decide) (by decide)
  · dsimp only at refused
    split_ifs at refused <;> cases refused <;>
      exact not_saysUsed_of_ascii lowers (List.all_iff_forall_prop.mp rfl) (by decide) (by decide)

omit [FloorRing N] in
/-- The text for unsupported actions does not say it. -/
theorem not_saysUsed_validateMission (lowers : Lowers lower) {x : MavsdkExecutor N}
    {mission : Mission N} {e : PyExc}
    (approved : PolicyEngine.Approves x.limits mission.actions)
    (raised : x.validateMission mission = .error e) : ¬ SaysUsed lower e.text := by
  obtain ⟨decision, evaluated, accepted⟩ := approved
  unfold MavsdkExecutor.validateMission PolicyEngine.evaluate at raised
  simp only [evaluated, bind, Except.bind, accepted, Bool.true_eq_false, if_false] at raised
  split_ifs at raised
  cases raised
  refine not_saysUsed_of_letter (c := 'l') lowers (by decide) (by decide) (by decide) ?_
  intro d member
  simp only [String.toList_append, List.mem_append] at member
  rcases member with (text | names) | text
  · revert d
    exact List.all_iff_forall_prop.mp rfl
  · replace names := mem_intercalate names
    rcases names with between | ⟨name, among, inside⟩
    · revert d
      exact List.all_iff_forall_prop.mp rfl
    · rw [List.mem_eraseDups, List.mem_map] at among
      obtain ⟨action, filtered, rfl⟩ := among
      have unsupported : ¬ action.Supported := by simpa using (List.mem_filter.mp filtered).2
      unfold MissionAction.Supported at unsupported
      revert d
      cases type : action.type with
      | takeoff | hold | land => exact absurd type (by simp_all)
      | goto | returnHome => exact List.all_iff_forall_prop.mp rfl
  · revert d
    exact List.all_iff_forall_prop.mp rfl

end Refusals

section Accepted

variable {N : Type} [Field N] [LinearOrder N] [FloorRing N] [PyMath N] [PyText N] [Crypto]

/-- SQLite's messages do not have the phrase. -/
def SqliteSilent (lower : String → String) (faults : SqliteFaults) : Prop :=
  ∀ e, faults.Raises e → ¬ SaysUsed lower e.text

/-- The approval was verified, and the nonce store raised `ApprovalReplayError`. -/
def EndedByReplay (host : Host N) (env : Env N) (table : NonceTable) : Prop :=
  ∃ mission envelope publicKey payload e, loadMission host = .ok mission ∧
    loadMaterial host = .ok (envelope, publicKey) ∧
    (mavsdkExecutor host publicKey (.default N)).validateMission mission = .ok () ∧
    verifyApproval envelope publicKey mission (.default N) mavsdkExecutorName env.clock
      maxClockSkewSeconds maxLifetimeSeconds = .ok payload ∧
    consume env.sqlite (payload.row env.clock) table = (.error e, table) ∧
    e.cls = .approvalReplayError

/-- In every run on the mission that starts without an audit file, the check is positive only if
    the run ended by a replay. -/
def AcceptsOnlyReplays (lower : String → String) (mission : Mission N) : Prop :=
  ∀ (host : Host N) (env : Env N) (table : NonceTable) (code : Nat) (s : ExecState N)
    (file : Option (List UInt8)) (detail : String), loadMission host = .ok mission →
    env.Unambiguous → SqliteSilent lower env.sqlite →
    Cli.run host env .mavsdk (.init N table) = (.ok code, s) → AuditFile s.trace file →
    replayRejected lower code (stdoutText s.trace) file.isSome = (true, detail) →
    EndedByReplay host env table

variable {lower : String → String} {host : Host N} {env : Env N} {table : NonceTable}
  {mission : Mission N}

omit [FloorRing N] [PyMath N] in
/-- What `verify_and_consume_approval` raises with the phrase is a replay. -/
theorem replay_of_saysUsed (lowers : Lowers lower) (silent : SqliteSilent lower env.sqlite)
    {envelope : SignedApproval} {publicKey : Crypto.PublicKey} {e : PyExc}
    (raised : verifyAndConsumeApproval env.sqlite envelope publicKey mission (.default N)
      mavsdkExecutorName env.clock maxClockSkewSeconds maxLifetimeSeconds table =
        (.error e, table)) (phrase : SaysUsed lower e.text) :
    ∃ payload, verifyApproval envelope publicKey mission (.default N) mavsdkExecutorName env.clock
        maxClockSkewSeconds maxLifetimeSeconds = .ok payload ∧
      consume env.sqlite (payload.row env.clock) table = (.error e, table) ∧
      e.cls = .approvalReplayError := by
  unfold verifyAndConsumeApproval at raised
  cases verified : verifyApproval envelope publicKey mission (.default N) mavsdkExecutorName
      env.clock maxClockSkewSeconds maxLifetimeSeconds with
  | error e' =>
    simp only [bind, lift, verified, Prod.mk.injEq, Except.error.injEq, and_true] at raised
    subst raised
    exact absurd phrase (not_saysUsed_verifyApproval lowers verified)
  | ok payload =>
    simp only [bind, lift, verified] at raised
    cases consumed : consume env.sqlite (payload.row env.clock) table with
    | mk outcome table' =>
    rw [consumed] at raised
    cases outcome with
    | ok _ => cases raised
    | error e' =>
      cases raised
      refine ⟨payload, rfl, consumed, ?_⟩
      rcases ((triple_consume _ _ _).raised rfl consumed).2 with fault | replay
      · exact absurd phrase (silent _ fault)
      · exact replay

/-- For a mission whose description does not say it, the check accepts only replays. -/
theorem acceptsOnlyReplays_of_description (lowers : Lowers lower)
    (unsaid : ¬ SaysUsed lower mission.description) : AcceptsOnlyReplays lower mission := by
  intro host env table code s file detail loaded unambiguous silent returned _ positive
  obtain ⟨four, phrase, -⟩ := replayRejected_true_iff.mp ⟨detail, positive⟩
  have course : Course host env .commandLine (.init N table) code s :=
    course_of_run unambiguous.stdout returned
  cases course with
  | unexecuted code lines some_code low => omega
  | returned => cases four
  | raised mission' envelope publicKey decision e s' loaded' evaluated approved material executed
      ordinary =>
    rw [loaded] at loaded'
    cases loaded'
    have refusal := (verdict_eq_four_iff .commandLine e).mp (by exact_mod_cast four)
    have approves : PolicyEngine.Approves (PolicyLimits.default N) mission.actions :=
      ⟨decision, evaluated, approved⟩
    -- Without an execution the lines are known, and only the last can say it.
    have said : s' = (ExecState.init N table).printed (decisionLines mission decision) →
        SaysUsed lower e.text := by
      rintro rfl
      rw [ExecState.printed_append, saysUsed_stdoutText lowers, stdoutLines_printed,
        decisionLines_approved evaluated approved, verdict_of_refusal refusal] at phrase
      obtain ⟨line, member, phrase⟩ := phrase
      simp only [stdoutLines, ExecState.init, List.filterMap_nil, List.nil_append, List.mem_append,
        List.mem_cons, List.not_mem_nil, or_false] at member
      rcases member with (rfl | rfl | rfl) | rfl
      · exact absurd phrase (not_saysUsed_mission lowers _)
      · exact absurd ((saysUsed_description lowers _).mp phrase) unsaid
      · exact absurd phrase (not_saysUsed_of_ascii lowers (List.all_iff_forall_prop.mp rfl)
          (by decide) (by decide))
      · exact (saysUsed_blocked lowers _).mp phrase
    have ran := (triple_execute _ _ _ _ _).raised rfl executed
    generalize outcome : (Except.error e : Except PyExc ExecutionResult) = final at ran
    have quiet : ∀ event : Event N, (∀ line, event ≠ .stdout line) →
        event ∉ ((ExecState.init N table).printed (decisionLines mission decision)).trace := by
      intro event other member
      simp only [ExecState.printed, ExecState.init, List.nil_append, List.mem_map] at member
      obtain ⟨line, -, same⟩ := member
      exact other line same.symm
    cases ran with
    | refused e' raised =>
      cases outcome
      exact absurd (said rfl) (not_saysUsed_validateMission lowers approves raised)
    | unauthorized e' accepted raised =>
      cases outcome
      obtain ⟨payload, verified, consumed, replay⟩ := replay_of_saysUsed lowers silent raised
        (said rfl)
      exact ⟨mission, envelope, publicKey, payload, e, loaded, material, accepted, verified,
        consumed, replay⟩
    | ran table' result _ s'' _ accepted consumed run stopped ending =>
      rw [← outcome] at ending
      have told := (unlanded_of_ran unambiguous accepted run ending ordinary
        (quiet _ fun _ same => by cases same) (quiet _ fun _ same => by cases same)).2.1
      rw [told] at refusal
      cases refusal

end Accepted

section Unsigned

variable {N : Type} [Field N] [LinearOrder N] [FloorRing N] [PyMath N] [PyText N] [Crypto]

/-- An approval of a mission whose signature is not base64. -/
def unsignedApproval (mission : Mission N) : SignedApproval where
  payload :=
    { missionSha256 := missionSha256 mission
      policySha256 := policySha256 (PolicyLimits.default N)
      homeSha256 := policySha256 (PolicyLimits.default N)
      frameId := frameId
      homeLatitudeE7 := 0
      homeLongitudeE7 := 0
      homeAltitudeMm := 0
      executor := mavsdkExecutorName
      issuedAtUnix := 1000
      expiresAtUnix := 1300
      nonce := sampleNonce
      valid :=
        { mission_hex := isHex64_sha256Hex _
          policy_hex := isHex64_sha256Hex _
          home_hex := isHex64_sha256Hex _
          frame_length := (by decide : 1 ≤ frameId.length ∧ frameId.length ≤ 64)
          executor_length :=
            (by decide : 1 ≤ mavsdkExecutorName.length ∧ mavsdkExecutorName.length ≤ 64)
          issued_nonneg := (by decide : (0 : Int) ≤ 1000)
          expires_pos := (by decide : (0 : Int) < 1300)
          nonce_length := (by decide : 32 ≤ sampleNonce.length ∧ sampleNonce.length ≤ 128)
          window := (by decide : (1000 : Int) < 1300) } }
  signatureB64 := "!"
  signature_length := by decide

/-- The files of a run on a mission with that approval. -/
def unsignedHost (mission : Mission N) (publicKey : Crypto.PublicKey) : Host N where
  missionText := .ok "mission"
  approvalText := .ok "approval"
  publicKeyBytes := .ok []
  openStore := .ok ()
  loads text := .ok (if text = "approval" then (unsignedApproval mission).dump else mission.dump)
  missionOfJson _ := .ok mission
  intOfJson := intOfInt
  loadPemPublicKey _ := .ok (some publicKey)
  auditDirectory := "logs"

omit [FloorRing N] [PyMath N] in
theorem loadMaterial_unsigned (mission : Mission N) (publicKey : Crypto.PublicKey) :
    loadMaterial (unsignedHost mission publicKey) = .ok (unsignedApproval mission, publicKey) := by
  simp [loadMaterial, loadSignedApproval, loadEd25519PublicKey, unsignedHost, bind, Except.bind,
    modelValidate_envelope intOfInt_int]

omit [FloorRing N] [PyMath N] in
theorem verifyApproval_unsigned (mission mission' : Mission N) (limits : PolicyLimits N)
    (publicKey : Crypto.PublicKey) (executor : String) (now skew lifetime : Int) :
    verifyApproval (unsignedApproval mission) publicKey mission' limits executor now skew lifetime =
      .error (.approval "Approval signature is not valid base64.") := by
  have undecodable : Base64.decode "!".toList = none := by decide
  unfold verifyApproval
  rw [show (unsignedApproval mission).signatureB64 = "!" from rfl, undecodable]

/-- A telemetry that nothing reads. -/
def unreadTelemetry : Telemetry N where
  home := ⟨.finite 0, .finite 0, .finite 0⟩
  position := .finite 0
  inAir := []
  now := ⟨"unread", by decide⟩

/-- An execution with that approval is refused, before anything is done. -/
theorem execute_unsigned {mission : Mission N} {env : Env N} {publicKey : Crypto.PublicKey}
    (approves : PolicyEngine.Approves (PolicyLimits.default N) mission.actions)
    (host : Host N) (s : ExecState N) :
    ∃ e, e.cls.isAuthorization = true ∧
      (mavsdkExecutor host publicKey (.default N)).execute env mission (unsignedApproval mission)
        s = (.error e, s) := by
  cases valid : (mavsdkExecutor host publicKey (.default N)).validateMission mission with
  | error e =>
    refine ⟨e, ?_, by simp [MavsdkExecutor.execute, bind, lift, valid]⟩
    rw [unsupported_of_validateMission (x := mavsdkExecutor host publicKey (.default N)) approves
      valid]
    rfl
  | ok _ =>
    refine ⟨.approval "Approval signature is not valid base64.", rfl, ?_⟩
    simp [MavsdkExecutor.execute, bind, lift, valid, zoom, verifyAndConsumeApproval,
      verifyApproval_unsigned]

/-- For a mission whose description has the phrase, the check accepts a forged signature. -/
theorem not_acceptsOnlyReplays {lower : String → String} (lowers : Lowers lower)
    {mission : Mission N}
    (approves : PolicyEngine.Approves (PolicyLimits.default N) mission.actions)
    (publicKey : Crypto.PublicKey) (phrase : SaysUsed lower mission.description) :
    ¬ AcceptsOnlyReplays lower mission := by
  intro only
  obtain ⟨decision, evaluated, approved⟩ := approves
  let host := unsignedHost mission publicKey
  let env : Env N := .calm unreadTelemetry 1000
  have loaded : loadMission host = .ok mission := by
    simp [host, loadMission, unsignedHost, bind, Except.bind]
  have material := loadMaterial_unsigned mission publicKey
  let lines := decisionLines mission decision
  obtain ⟨e, refusal, executed⟩ := execute_unsigned
    ⟨decision, evaluated, approved⟩ host ((ExecState.init N .empty).printed lines)
  have ordinary := isException_of_isAuthorization refusal
  have returned : Cli.run host env .mavsdk (.init N .empty) =
      (.ok 4, ((ExecState.init N .empty).printed lines).printed
        ["Execution blocked: " ++ e.text]) := by
    have silent : ∀ t line, env.stdout t line = none := fun _ _ => rfl
    have ran : Launcher.commandLine.run host env (.init N .empty) = _ :=
      run_eq_executing silent loaded evaluated approved material
    rw [Launcher.executing, show Launcher.commandLine.environment env = env from rfl, executed,
      Launcher.report, if_pos ordinary, (verdict_eq_four_iff _ _).mpr refusal,
      verdict_of_refusal refusal] at ran
    exact ran
  have said : SaysUsed lower (stdoutText (((ExecState.init N .empty).printed lines).printed
      ["Execution blocked: " ++ e.text]).trace) := by
    rw [saysUsed_stdoutText lowers, stdoutLines_printed, stdoutLines_printed,
      show lines = _ from decisionLines_approved evaluated approved]
    exact ⟨"Description: " ++ mission.description, by simp,
      (saysUsed_description lowers _).mpr phrase⟩
  obtain ⟨detail, positive⟩ := replayRejected_true_iff.mpr ⟨(rfl : (4 : Int) = 4), said, rfl⟩
  have unwritten : AuditFile (((ExecState.init N .empty).printed lines).printed
      ["Execution blocked: " ++ e.text]).trace none := by
    refine ⟨[], ?_, Or.inr ⟨rfl, rfl⟩⟩
    rw [ExecState.printed_append, auditLog_printed]
    exact .nil
  obtain ⟨mission', envelope, key, payload, e', -, loaded', -, verified, -⟩ := only host env .empty
    4 _ none detail loaded (Env.unambiguous_calm _ _) (fun e raised => by
      rcases raised with h | h | h | h <;> cases h) returned unwritten positive
  rw [material] at loaded'
  cases loaded'
  rw [verifyApproval_unsigned] at verified
  cases verified

/-- **The replay check accepts only replays** in the runs on a mission that schema and policy
    accept, just when the description of the mission does not have the phrase of the check. -/
theorem acceptsOnlyReplays_iff {lower : String → String} (lowers : Lowers lower)
    (mission : Mission N)
    (approves : PolicyEngine.Approves (PolicyLimits.default N) mission.actions)
    (publicKey : Crypto.PublicKey) :
    AcceptsOnlyReplays lower mission ↔ ¬ SaysUsed lower mission.description :=
  ⟨fun only phrase => not_acceptsOnlyReplays lowers approves publicKey phrase only,
    acceptsOnlyReplays_of_description lowers⟩

end Unsigned

section Sample

attribute [local instance] Crypto.keyless

/-- `str.lower` on ASCII text; other characters stay. -/
def asciiLower (text : String) : String := String.ofList (text.toList.map Char.toLower)

theorem asciiLower_lowers : Lowers asciiLower where
  ascii _ _ := rfl
  newline before after := by
    apply String.toList_injective
    simp [asciiLower]
  blank before after := by
    apply String.toList_injective
    simp [asciiLower]

/-- The policy approves the simulation mission. -/
theorem approves_sample :
    PolicyEngine.Approves (PolicyLimits.default ℚ) (mavsdkSimulationMission ℚ).actions :=
  (validateMission_eq_ok_iff.mp (validateMission_sample (N := ℚ) ())).1

/-- The simulation mission does not have the phrase. -/
theorem acceptsOnlyReplays_simulation :
    AcceptsOnlyReplays asciiLower (mavsdkSimulationMission ℚ) := by
  refine (acceptsOnlyReplays_iff asciiLower_lowers _ approves_sample ()).mpr ?_
  exact not_saysUsed_of_letter (c := 'y') asciiLower_lowers (by decide) (by decide) (by decide)
    (List.all_iff_forall_prop.mp rfl)

/-- The simulation mission with a description that has it. -/
def rewordedMission : Mission ℚ :=
  { mavsdkSimulationMission ℚ with
    description := "Repeat the flight that has already been used as a demonstration."
    description_length := by decide }

/-- A rejected signature on that mission counts as a replay. -/
theorem not_acceptsOnlyReplays_reworded : ¬ AcceptsOnlyReplays asciiLower rewordedMission :=
  not_acceptsOnlyReplays asciiLower_lowers approves_sample () (Or.inl (by decide))

end Sample

end Nightjar
