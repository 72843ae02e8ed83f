import Nightjar.AcceptanceChecks.Proofs.Malformed
import Nightjar.Audit.Journal
import Nightjar.JsonReader

/-!
# Reading the audit file of a run

The checks read back the records that a run has written: every line is one, in order, and what they
look up in it is what the record holds.
-/

namespace Nightjar

open Python AcceptanceChecks

section Lines

variable {N : Type} [Field N] [LinearOrder N] [FloorRing N] [PyText N]

omit [PyText N] in
/-- The entries of a written record, in the order of their keys. -/
theorem stamped_sortKeys (record : AuditRecord N) (timestamp : String) :
    (record.stamped timestamp).sortKeys =
      .obj [("details", record.event.details.sortKeys), ("event", .str record.event.name),
        ("mission_id", .str record.missionId.text), ("timestamp_utc", .str timestamp)] :=
  Journal.recordOf_sortKeys record.missionId (Journal.entryOf record timestamp)

/-- A line begins with a brace and ends with one. -/
theorem line_toList (record : AuditRecord N) (timestamp : String) :
    ∃ middle, (record.line timestamp).toList = '{' :: (middle ++ ['}']) := by
  have text : (record.line timestamp).toList =
      Json.render Json.ascii (record.stamped timestamp).sortKeys := String.toList_ofList
  rw [text, stamped_sortKeys]
  exact ⟨_, rfl⟩

theorem printable_line [LawfulFloatText N] (record : AuditRecord N) (timestamp : String) :
    ∀ c ∈ (record.line timestamp).toList, Json.Printable c := by
  have text : (record.line timestamp).toList =
      Json.render Json.ascii (record.stamped timestamp).sortKeys := String.toList_ofList
  rw [text]
  exact Json.printable_render _

/-- The file has the lines that were written. -/
theorem auditLines_of_lines [LawfulFloatText N] {lines : List String}
    (written : ∀ line ∈ lines, ∃ (record : AuditRecord N) (timestamp : String),
      line = record.line timestamp) :
    auditLines (String.ofList (lines.flatMap fun line => line.toList ++ ['\n'])) = lines := by
  have text : (String.ofList (lines.flatMap fun line => line.toList ++ ['\n'])).toList =
      (lines.map String.toList).flatMap fun line => line ++ ['\n'] := by
    rw [List.flatMap_map]
    exact String.toList_ofList
  have records : ∀ chars ∈ lines.map String.toList, ∃ (record : AuditRecord N)
      (timestamp : String), chars = (record.line timestamp).toList := by
    intro chars member
    obtain ⟨line, among, rfl⟩ := List.mem_map.mp member
    obtain ⟨record, timestamp, rfl⟩ := written line among
    exact ⟨record, timestamp, rfl⟩
  have split : splitlines ((lines.map String.toList).flatMap fun line => line ++ ['\n']) =
      lines.map String.toList := by
    refine splitlines_flatMap fun chars member => ?_
    obtain ⟨record, timestamp, rfl⟩ := records chars member
    exact printable_line record timestamp
  have stripped : (lines.map String.toList).map strip = lines.map String.toList := by
    refine (List.map_congr_left (g := id) fun chars member => ?_).trans (List.map_id _)
    obtain ⟨record, timestamp, rfl⟩ := records chars member
    obtain ⟨middle, braces⟩ := line_toList record timestamp
    rw [braces]
    exact strip_eq_self (by decide) (by decide)
  have kept : (lines.map String.toList).filter (fun line => line ≠ []) =
      lines.map String.toList := by
    refine List.filter_eq_self.mpr fun chars member => ?_
    obtain ⟨record, timestamp, rfl⟩ := records chars member
    obtain ⟨middle, braces⟩ := line_toList record timestamp
    simp [braces]
  rw [auditLines, text, split, stripped, kept, List.map_map]
  exact (List.map_congr_left fun line _ => String.ofList_toList).trans (List.map_id _)

/-- A trace leaves some file. -/
theorem exists_auditFile (trace : List (Event N)) : ∃ file, AuditFile trace file := by
  let lines := (auditLog trace).map fun record => record.line "2026-01-01T00:00:00+00:00"
  refine ⟨_, lines, ?_, Or.inl rfl⟩
  exact List.forall₂_map_right_iff.mpr (List.forall₂_same.mpr fun record _ => ⟨_, rfl⟩)

/-- The machine of `json.loads` reads back the records whose integers `json.dumps` writes. -/
theorem jsonReader_readsBack [LawfulFloatText N] {floats : Loads.Floats (Reading N)}
    {describe : Loads.Failure → String → String} {decodeError : List UInt8 → String}
    (roundTrips : floats.RoundTrips .finite) {records : List (AuditRecord N)}
    (short : ∀ record ∈ records, record.event.details.shortInts = true) :
    (jsonReader floats describe decodeError).ReadsBack records := by
  intro record member timestamp
  have distinct : (record.stamped timestamp).sortKeys.Distinct :=
    Json.distinct_sortKeys _
      (Journal.distinct_recordOf record.missionId (Journal.entryOf record timestamp))
  have details := short record member
  have written : (record.stamped timestamp).sortKeys.shortInts = true := by
    rw [Json.shortInts_sortKeys]
    simp only [AuditRecord.stamped, Json.shortInts, Json.shortIntsFields, Bool.true_and, details]
  rw [AuditRecord.line]
  exact jsonReader_render roundTrips distinct written

/-- The value that is read back for a record. -/
def ReadAs (record : AuditRecord N) (value : Loaded N) : Prop :=
  ∃ timestamp, value = loaded (record.stamped timestamp).sortKeys

/-- What is read from the file of a run: a value for each record, in order. -/
theorem contents_of_auditFile [LawfulFloatText N] {reader : Reader N} {trace : List (Event N)}
    (back : reader.ReadsBack (auditLog trace)) {file : Option (List UInt8)}
    (written : AuditFile trace file) :
    ∃ values, List.Forall₂ ReadAs (auditLog trace) values ∧
      (contents reader file = some (.ok values) ∨ contents reader file = none ∧ values = []) := by
  obtain ⟨lines, each, stored⟩ := written
  generalize auditLog trace = records at each back ⊢
  have loads : ∃ values, List.Forall₂ ReadAs records values ∧
      lines.mapM reader.loads = .ok values ∧ ∀ line ∈ lines, ∃ (record : AuditRecord N)
        (timestamp : String), line = record.line timestamp := by
    clear stored
    induction each with
    | nil => exact ⟨[], .nil, rfl, fun line member => nomatch member⟩
    | @cons record line records lines first rest ih =>
      obtain ⟨timestamp, rfl⟩ := first
      obtain ⟨values, read, mapped, all⟩ :=
        ih fun later member => back later (List.mem_cons_of_mem _ member)
      refine ⟨_, .cons ⟨timestamp, rfl⟩ read, ?_,
        List.forall_mem_cons.mpr ⟨⟨record, timestamp, rfl⟩, all⟩⟩
      simp only [List.mapM_cons, back record List.mem_cons_self timestamp, mapped, bind,
        Except.bind, pure, Except.pure]
  obtain ⟨values, read, mapped, all⟩ := loads
  refine ⟨values, read, ?_⟩
  rcases stored with rfl | ⟨rfl, rfl⟩
  · left
    simp only [contents, Option.bind_eq_bind, Option.bind_some, decodeUtf8_encodeUtf8,
      auditLines_of_lines all, mapped]
  · right
    cases mapped
    exact ⟨rfl, rfl⟩

end Lines

section Related

variable {α β : Type} {related : α → β → Prop} {as : List α} {bs : List β}

theorem exists_left_of_mem (all : List.Forall₂ related as bs) {b : β} (member : b ∈ bs) :
    ∃ a ∈ as, related a b := by
  induction all with
  | nil => cases member
  | cons first rest ih =>
    rcases List.mem_cons.mp member with rfl | later
    · exact ⟨_, List.mem_cons_self, first⟩
    · obtain ⟨a, among, holds⟩ := ih later
      exact ⟨a, List.mem_cons_of_mem _ among, holds⟩

theorem exists_right_of_mem (all : List.Forall₂ related as bs) {a : α} (member : a ∈ as) :
    ∃ b ∈ bs, related a b := by
  have flipped : List.Forall₂ (flip related) bs as := all.flip
  exact exists_left_of_mem flipped member

end Related

section Verdicts

variable {N : Type} {reader : Reader N} {exitCode : Int} {stdout : String}
  {file : Option (List UInt8)} {values : List (Loaded N)}

/-- The check of a signed mission, on a file of objects. -/
theorem signed_true_iff
    (read : contents reader file = some (.ok values) ∨ contents reader file = none ∧ values = [])
    (objects : ∀ value ∈ values, value.isObject = true) :
    (∃ detail, signedMissionPassed reader exitCode stdout file = .ok (true, detail)) ↔
      exitCode = 0 ∧ occursIn "MAVSDK simulation complete" stdout ∧
        ∃ value ∈ values, HasEvent "mission_completed" value = true := by
  constructor
  · rintro ⟨detail, passed⟩
    obtain ⟨code, shown, records, found, completed⟩ := evidence_of_signed passed
    refine ⟨code, shown, ?_⟩
    rcases read with read | ⟨none, -⟩
    · rw [read] at found
      cases found
      exact completed
    · rw [none] at found
      cases found
  · rintro ⟨rfl, shown, value, member, completed⟩
    rcases read with read | ⟨-, rfl⟩
    · refine ⟨"signed mission completed with audit confirmation", ?_⟩
      have kept : values.filter (HasEvent "mission_completed") ≠ [] :=
        List.ne_nil_of_mem (List.mem_filter.mpr ⟨member, completed⟩)
      rw [signed_eq_judge shown, judge_objects read (List.ne_nil_of_mem member) objects,
        signedVerdict, if_neg kept]
    · cases member

variable [Zero N] [DecidableEq N] [PyText N]

/-- The check of a controlled failure, on a file of objects: the last failed record decides. -/
theorem controlled_true_iff
    (read : contents reader file = some (.ok values) ∨ contents reader file = none ∧ values = [])
    (objects : ∀ value ∈ values, value.isObject = true) :
    (∃ detail, controlledFailureRecovered reader exitCode stdout file = .ok (true, detail)) ↔
      exitCode = 5 ∧ occursIn injectedError stdout ∧
        ∃ value, (values.filter (HasEvent "mission_failed")).getLast? = some value ∧
          ∃ details, field "details" value = some details ∧ RecoveredDetails details := by
  constructor
  · rintro ⟨detail, passed⟩
    obtain ⟨code, shown, records, found, -⟩ := evidence_of_controlled passed
    rcases read with read | ⟨none, -⟩
    · subst code
      have some : values ≠ [] := by
        rintro rfl
        rw [controlled_eq_judge shown, judge, readAudit_values read] at passed
        cases passed
      rw [controlled_eq_judge shown, judge_objects read some objects] at passed
      refine ⟨rfl, shown, ?_⟩
      cases last : (values.filter (HasEvent "mission_failed")).getLast? with
      | none => simp [controlledVerdict, last] at passed
      | some value =>
        rw [controlledVerdict, last] at passed
        have member := List.mem_of_mem_filter (List.mem_of_getLast? last)
        exact ⟨value, rfl, recoveredDetails_of_checkFailed (objects value member) passed⟩
    · rw [none] at found
      cases found
  · rintro ⟨rfl, shown, value, last, details, found, recovered⟩
    have member := List.mem_of_mem_filter (List.mem_of_getLast? last)
    rcases read with read | ⟨-, rfl⟩
    · rw [controlled_eq_judge shown, judge_objects read (List.ne_nil_of_mem member) objects,
        controlledVerdict, last]
      exact checkFailed_recovered (objects value member) found recovered
    · cases member

end Verdicts

section Values

variable {N : Type} [Field N] [LinearOrder N] [FloorRing N] {record : AuditRecord N}
  {value : Loaded N}

theorem ReadAs.isObject (read : ReadAs record value) : value.isObject = true := by
  obtain ⟨timestamp, rfl⟩ := read
  rfl

theorem ReadAs.hasEvent_iff (read : ReadAs record value) (event : String) :
    HasEvent event value = true ↔ record.event.name = event := by
  obtain ⟨timestamp, rfl⟩ := read
  rw [stamped_sortKeys]
  simp [HasEvent, field, loaded, loadedFields, List.lookup_cons, isText]

/-- The details of a failed mission that the check accepts are those of a confirmed landing. -/
theorem ReadAs.recovered_iff [PyText N] (read : ReadAs record value) {text : String}
    {status : RecoveryStatus} {errorType : Option String}
    (failed : record.event = .missionFailed text status errorType) :
    (∃ details, field "details" value = some details ∧ RecoveredDetails details) ↔
      status = .landingConfirmed ∧ errorType = none ∧ occursIn injectedError text := by
  obtain ⟨timestamp, rfl⟩ := read
  have entries : (AuditEvent.missionFailed (N := N) text status errorType).details.sortKeys =
      .obj [("error", .str text), ("executor", .str mavsdkExecutorName),
        ("recovery_error_type", match errorType with
          | none => .null
          | some name => .str name), ("recovery_status", .str status.value)] := by
    cases errorType <;> simp [AuditEvent.details, Json.sortKeys, Json.sortFields,
      List.insertionSort, List.orderedInsert]
  rw [stamped_sortKeys, failed, entries]
  constructor
  · rintro ⟨details, found, object, confirmed, errorless, injected⟩
    simp only [field, loaded, loadedFields, List.lookup_cons] at found
    cases found
    refine ⟨?_, ?_, injected⟩
    · cases status <;> first | rfl | cases confirmed
    · cases errorType with
      | none => rfl
      | some name =>
        rcases errorless with missing | null
        · cases missing
        · cases null
  · rintro ⟨rfl, rfl, injected⟩
    exact ⟨_, rfl, rfl, rfl, Or.inr rfl, injected⟩

end Values

end Nightjar
