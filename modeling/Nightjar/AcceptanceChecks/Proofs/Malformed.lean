import Nightjar.AcceptanceChecks
import Nightjar.Python.Rational

/-!
# Malformed audit files

When the checks return a verdict, and what a positive one takes. Bytes that are not UTF-8 and lines
that are not JSON are reported; but `r.get` is called on whatever a line holds, so a line that is
JSON and not an object lets an `AttributeError` escape, and so do details that are neither an
object nor false.
-/

namespace Nightjar

open Python

namespace AcceptanceChecks

section Records

variable {N : Type} {event key : String}

/-- The value of a key, when there is one. -/
def field (key : String) : Loaded N → Option (Loaded N)
  | .obj fields => fields.lookup key
  | _ => none

theorem get_object {value : Loaded N} (object : value.isObject = true) :
    get key value = .ok (field key value) := by
  cases value with
  | obj fields => rfl
  | _ => cases object

theorem get_eq_ok {value : Loaded N} {found : Option (Loaded N)}
    (returned : get key value = .ok found) : value.isObject = true ∧ found = field key value := by
  cases value with
  | obj fields => exact ⟨rfl, (Except.ok.inj returned).symm⟩
  | _ => cases returned

/-- The record has the event. -/
def HasEvent (event : String) (record : Loaded N) : Bool := isText event (field "event" record)

/-- A list of objects is filtered by the event. -/
theorem withEvent_objects (event : String) {records : List (Loaded N)}
    (objects : ∀ record ∈ records, record.isObject = true) :
    withEvent event records = .ok (records.filter (HasEvent event)) := by
  induction records with
  | nil => rfl
  | cons record records ih =>
    rw [List.forall_mem_cons] at objects
    simp only [withEvent, get_object objects.1, ih objects.2, bind, Except.bind, List.filter_cons,
      HasEvent]
    rfl

/-- A list that is filtered is a list of objects. -/
theorem objects_of_withEvent {records found : List (Loaded N)}
    (returned : withEvent event records = .ok found) :
    ∀ record ∈ records, record.isObject = true := by
  induction records generalizing found with
  | nil => exact fun record member => nomatch member
  | cons record records ih =>
    rw [withEvent] at returned
    cases first : get "event" record with
    | error e => simp [first, bind, Except.bind] at returned
    | ok value =>
      cases rest : withEvent event records with
      | error e => simp [first, rest, bind, Except.bind] at returned
      | ok others => exact List.forall_mem_cons.mpr ⟨(get_eq_ok first).1, ih rest⟩

end Records

section Files

variable {N : Type} {reader : Reader N} {file : Option (List UInt8)} {records : List (Loaded N)}
  {e : PyExc}

/-- What `json.loads` makes of the lines that are not blank: the values, or the first exception.
    `none` when there is no file or it is not UTF-8. -/
def contents (reader : Reader N) (file : Option (List UInt8)) :
    Option (Except PyExc (List (Loaded N))) := do
  let bytes ← file
  let text ← decodeUtf8 bytes
  some ((auditLines text).mapM reader.loads)

/-- Every line is an object; or the first line that cannot be read is reported as such. -/
def Objects (reader : Reader N) (file : Option (List UInt8)) : Prop :=
  match contents reader file with
  | none => True
  | some (.ok records) => ∀ record ∈ records, record.isObject = true
  | some (.error e) => isParseError e.cls = true

theorem readAudit_unreadable (unreadable : contents reader file = none) :
    readAudit reader file = .ok (.ok []) ∨ ∃ text, readAudit reader file = .ok (.error text) := by
  cases file with
  | none => exact Or.inl rfl
  | some bytes =>
    cases decoded : decodeUtf8 bytes with
    | none =>
      refine Or.inr ⟨"audit could not be parsed: " ++ reader.decodeError bytes, ?_⟩
      simp [readAudit, readRecords, decoded, isParseError]
    | some text => simp [contents, decoded] at unreadable

theorem readAudit_values (values : contents reader file = some (.ok records)) :
    readAudit reader file = .ok (.ok records) := by
  cases file with
  | none => cases values
  | some bytes =>
    cases decoded : decodeUtf8 bytes with
    | none => simp [contents, decoded] at values
    | some text =>
      have loaded : (auditLines text).mapM reader.loads = .ok records := by
        simpa [contents, decoded] using values
      simp [readAudit, readRecords, decoded, loaded]

theorem readAudit_broken (broken : contents reader file = some (.error e)) :
    readAudit reader file =
      if isParseError e.cls then .ok (.error ("audit could not be parsed: " ++ e.text))
      else .error e := by
  cases file with
  | none => cases broken
  | some bytes =>
    cases decoded : decodeUtf8 bytes with
    | none => simp [contents, decoded] at broken
    | some text =>
      have loaded : (auditLines text).mapM reader.loads = .error e := by
        simpa [contents, decoded] using broken
      simp [readAudit, readRecords, decoded, loaded]

end Files

section Judge

variable {N : Type} {reader : Reader N} {file : Option (List UInt8)} {records : List (Loaded N)}
  {event : String} {verdict : List (Loaded N) → Except PyExc (Bool × String)} {detail : String}

/-- What the two checks have in common: read the file, and decide over the records of an event. -/
def judge (reader : Reader N) (file : Option (List UInt8)) (event : String)
    (verdict : List (Loaded N) → Except PyExc (Bool × String)) : Except PyExc (Bool × String) := do
  match ← readAudit reader file with
  | .error error => .ok (false, error)
  | .ok [] => .ok (false, "required audit log is missing")
  | .ok records => do
    let found ← withEvent event records
    verdict found

/-- Over objects the records of the event decide. -/
theorem judge_objects (read : contents reader file = some (.ok records)) (some : records ≠ [])
    (objects : ∀ record ∈ records, record.isObject = true) :
    judge reader file event verdict = verdict (records.filter (HasEvent event)) := by
  cases records with
  | nil => exact absurd rfl some
  | cons record records =>
    simp only [judge, readAudit_values read, withEvent_objects event objects, bind, Except.bind]

/-- A decision is reached unless the lines are neither objects nor reported, or the records of the
    event raise. -/
theorem judge_returns_iff :
    (∃ result, judge reader file event verdict = .ok result) ↔
      Objects reader file ∧ ∀ records, contents reader file = some (.ok records) → records ≠ [] →
        ∃ result, verdict (records.filter (HasEvent event)) = .ok result := by
  unfold Objects
  cases read : contents reader file with
  | none =>
    rcases readAudit_unreadable read with audit | ⟨text, audit⟩ <;>
      simp [judge, audit, bind, Except.bind]
  | some result =>
    cases result with
    | error e =>
      cases parse : isParseError e.cls <;>
        simp [judge, readAudit_broken read, parse, bind, Except.bind]
    | ok records =>
      have audit := readAudit_values read
      constructor
      · rintro ⟨result, returned⟩
        cases records with
        | nil => exact ⟨fun record member => (nomatch member), fun _ same empty => by simp_all⟩
        | cons record records =>
          cases found : withEvent event (record :: records) with
          | error e => simp [judge, audit, found, bind, Except.bind] at returned
          | ok others =>
            have objects := objects_of_withEvent found
            rw [judge_objects read (List.cons_ne_nil _ _) objects] at returned
            refine ⟨objects, fun others same _ => ?_⟩
            cases same
            exact ⟨result, returned⟩
      · rintro ⟨objects, decides⟩
        cases records with
        | nil => exact ⟨_, by simp [judge, audit, bind, Except.bind]; rfl⟩
        | cons record records =>
          rw [judge_objects read (List.cons_ne_nil _ _) objects]
          exact decides _ rfl (List.cons_ne_nil _ _)

/-- A positive decision is that of the records of the event, among objects. -/
theorem judge_true (passed : judge reader file event verdict = .ok (true, detail)) :
    ∃ records, contents reader file = some (.ok records) ∧
      (∀ record ∈ records, record.isObject = true) ∧
      verdict (records.filter (HasEvent event)) = .ok (true, detail) := by
  have objects := (judge_returns_iff.mp ⟨_, passed⟩).1
  unfold Objects at objects
  cases read : contents reader file with
  | none =>
    rcases readAudit_unreadable read with audit | ⟨text, audit⟩ <;>
      simp [judge, audit, bind, Except.bind] at passed
  | some result =>
    rw [read] at objects
    cases result with
    | error e =>
      have parse : isParseError e.cls = true := objects
      simp [judge, readAudit_broken read, parse, bind, Except.bind] at passed
    | ok records =>
      cases records with
      | nil => simp [judge, readAudit_values read, bind, Except.bind] at passed
      | cons record records =>
        rw [judge_objects read (List.cons_ne_nil _ _) objects] at passed
        exact ⟨_, rfl, objects, passed⟩

end Judge

section Signed

variable {N : Type} {reader : Reader N} {exitCode : Int} {stdout : String}
  {file : Option (List UInt8)} {records : List (Loaded N)} {detail : String}

/-- The verdict of `signed_mission_passed` over the completed records. -/
def signedVerdict (completed : List (Loaded N)) : Except PyExc (Bool × String) :=
  if completed = [] then .ok (false, "audit does not contain mission_completed")
  else .ok (true, "signed mission completed with audit confirmation")

theorem signed_eq_judge (shown : occursIn "MAVSDK simulation complete" stdout) :
    signedMissionPassed reader 0 stdout file =
      judge reader file "mission_completed" signedVerdict := by
  simp only [signedMissionPassed, shown]
  rfl

/-- The check returns unless it comes to read a file whose lines are not objects. -/
theorem signed_returns_iff :
    (∃ result, signedMissionPassed reader exitCode stdout file = .ok result) ↔
      (exitCode = 0 → occursIn "MAVSDK simulation complete" stdout → Objects reader file) := by
  by_cases code : exitCode = 0
  case neg => simp [signedMissionPassed, code]
  subst code
  by_cases shown : occursIn "MAVSDK simulation complete" stdout
  case neg => simp [signedMissionPassed, shown]
  rw [signed_eq_judge shown, judge_returns_iff]
  have decides : ∀ found : List (Loaded N), ∃ result, signedVerdict found = .ok result := by
    intro found
    unfold signedVerdict
    split <;> exact ⟨_, rfl⟩
  simp [shown, decides]

/-- A positive verdict has read a `mission_completed` record. -/
theorem evidence_of_signed
    (passed : signedMissionPassed reader exitCode stdout file = .ok (true, detail)) :
    exitCode = 0 ∧ occursIn "MAVSDK simulation complete" stdout ∧
      ∃ records, contents reader file = some (.ok records) ∧
        ∃ record ∈ records, HasEvent "mission_completed" record = true := by
  by_cases code : exitCode = 0
  case neg => simp [signedMissionPassed, code] at passed
  subst code
  by_cases shown : occursIn "MAVSDK simulation complete" stdout
  case neg => simp [signedMissionPassed, shown] at passed
  rw [signed_eq_judge shown] at passed
  obtain ⟨records, read, -, decided⟩ := judge_true passed
  refine ⟨rfl, shown, records, read, ?_⟩
  by_contra nothing
  have none : records.filter (HasEvent "mission_completed") = [] :=
    List.filter_eq_nil_iff.mpr fun record member has => nothing ⟨record, member, has⟩
  simp [signedVerdict, none] at decided

end Signed

section Controlled

variable {N : Type} [Zero N] [DecidableEq N] [PyText N] {reader : Reader N} {exitCode : Int}
  {stdout : String} {file : Option (List UInt8)} {records : List (Loaded N)} {record : Loaded N}
  {detail : String}

/-- The verdict of `controlled_failure_recovered` over the failed records: the last one decides. -/
def controlledVerdict (failed : List (Loaded N)) : Except PyExc (Bool × String) :=
  match failed.getLast? with
  | none => .ok (false, "audit does not contain mission_failed")
  | some record => checkFailed record

theorem controlled_eq_judge (shown : occursIn injectedError stdout) :
    controlledFailureRecovered reader 5 stdout file =
      judge reader file "mission_failed" controlledVerdict := by
  simp only [controlledFailureRecovered, shown]
  rfl

omit [PyText N] in
/-- The details are an object, missing, or false. -/
def DetailsUsable (record : Loaded N) : Prop :=
  ∀ details, field "details" record = some details → details.truthy = true →
    details.isObject = true

omit [PyText N] in
theorem detailsUsable_iff :
    DetailsUsable record ↔ (orEmpty (field "details" record)).isObject = true := by
  unfold DetailsUsable orEmpty
  cases found : field "details" record with
  | none => simp [Json.isObject]
  | some details => cases truthy : details.truthy <;> simp [truthy, Json.isObject]

/-- The last checks return when the details can be used. -/
theorem checkFailed_returns_iff (object : record.isObject = true) :
    (∃ result, checkFailed record = .ok result) ↔ DetailsUsable record := by
  rw [detailsUsable_iff]
  constructor
  · rintro ⟨result, returned⟩
    simp only [checkFailed, get_object object, bind, Except.bind] at returned
    cases status : get "recovery_status" (orEmpty (field "details" record)) with
    | error e => simp [status] at returned
    | ok found => exact (get_eq_ok status).1
  · intro usable
    simp only [checkFailed, get_object object, get_object usable, bind, Except.bind]
    split
    · exact ⟨_, rfl⟩
    · split
      · split <;> exact ⟨_, rfl⟩
      · split <;> exact ⟨_, rfl⟩
      · exact ⟨_, rfl⟩

/-- What a positive verdict has read in the last failed record. -/
structure RecoveredDetails (details : Loaded N) : Prop where
  object : details.isObject = true
  status : isText "landing_confirmed" (field "recovery_status" details) = true
  no_error : field "recovery_error_type" details = none ∨
    field "recovery_error_type" details = some .null
  injected : occursIn injectedError ((field "error" details).getD (.str "")).pyStr

omit [PyText N] in
/-- Details with a status are those of the record. -/
theorem details_of_status {status : String}
    (found : isText status (field "recovery_status" (orEmpty (field "details" record))) = true) :
    field "details" record = some (orEmpty (field "details" record)) := by
  unfold orEmpty at found ⊢
  cases given : field "details" record with
  | none =>
    rw [given] at found
    cases found
  | some details =>
    cases truthy : details.truthy with
    | true => simp [truthy]
    | false =>
      rw [given] at found
      simp only [truthy, Bool.false_eq_true, if_false] at found
      cases found

theorem recoveredDetails_of_checkFailed (object : record.isObject = true)
    (passed : checkFailed record = .ok (true, detail)) :
    ∃ details, field "details" record = some details ∧ RecoveredDetails details := by
  have usable := detailsUsable_iff.mp ((checkFailed_returns_iff object).mp ⟨_, passed⟩)
  simp only [checkFailed, get_object object, get_object usable, bind, Except.bind] at passed
  split at passed
  · cases passed
  · rename_i status
    have status := not_not.mp status
    refine ⟨_, details_of_status status, usable, status, ?_, ?_⟩
    · split at passed
      · rename_i unset
        exact Or.inl unset
      · rename_i null
        exact Or.inr null
      · cases passed
    · split at passed
      · split at passed
        · cases passed
        · rename_i injected
          exact not_not.mp injected
      · split at passed
        · cases passed
        · rename_i injected
          exact not_not.mp injected
      · cases passed

/-- The details that a positive verdict needs are enough for it. -/
theorem checkFailed_recovered {details : Loaded N} (object : record.isObject = true)
    (found : field "details" record = some details) (recovered : RecoveredDetails details) :
    ∃ detail, checkFailed record = .ok (true, detail) := by
  have truthy : details.truthy = true := by
    have status := recovered.status
    cases details with
    | obj fields =>
      cases fields with
      | nil => cases status
      | cons entry entries => simp [Json.truthy]
    | _ => cases recovered.object
  have chosen : orEmpty (field "details" record) = details := by
    simp [found, orEmpty, truthy]
  refine ⟨"injected failure recovered with landing_confirmed", ?_⟩
  simp only [checkFailed, get_object object, chosen, get_object recovered.object, bind, Except.bind,
    recovered.status]
  rcases recovered.no_error with none | null
  · simp [none, recovered.injected]
  · simp [null, recovered.injected]

/-- The check returns unless it comes to read a file whose lines are not objects, or whose last
    failed record has details that cannot be used. -/
theorem controlled_returns_iff :
    (∃ result, controlledFailureRecovered reader exitCode stdout file = .ok result) ↔
      (exitCode = 5 → occursIn injectedError stdout → Objects reader file ∧
        ∀ records record, contents reader file = some (.ok records) →
          (records.filter (HasEvent "mission_failed")).getLast? = some record →
          DetailsUsable record) := by
  by_cases code : exitCode = 5
  case neg => simp [controlledFailureRecovered, code]
  subst code
  by_cases shown : occursIn injectedError stdout
  case neg => simp [controlledFailureRecovered, shown]
  rw [controlled_eq_judge shown, judge_returns_iff]
  simp only [shown, forall_const]
  refine and_congr_right fun objects => ?_
  have object : ∀ records, contents reader file = some (.ok records) → ∀ record : Loaded N,
      (records.filter (HasEvent "mission_failed")).getLast? = some record →
      record.isObject = true := by
    intro records read record last
    unfold Objects at objects
    rw [read] at objects
    exact objects record (List.mem_of_mem_filter (List.mem_of_getLast? last))
  constructor
  · intro decides records record read last
    have some : records ≠ [] := by
      rintro rfl
      cases last
    have returned := decides records read some
    rw [controlledVerdict, last] at returned
    exact (checkFailed_returns_iff (object records read record last)).mp returned
  · intro usable records read _
    cases last : (records.filter (HasEvent "mission_failed")).getLast? with
    | none => exact ⟨_, by rw [controlledVerdict, last]⟩
    | some record =>
      rw [controlledVerdict, last]
      exact (checkFailed_returns_iff (object records read record last)).mpr
        (usable records record read last)

/-- A positive verdict has read a `mission_failed` record with the details of a recovery. -/
theorem evidence_of_controlled
    (passed : controlledFailureRecovered reader exitCode stdout file = .ok (true, detail)) :
    exitCode = 5 ∧ occursIn injectedError stdout ∧
      ∃ records, contents reader file = some (.ok records) ∧
        ∃ record ∈ records, HasEvent "mission_failed" record = true ∧
          ∃ details, field "details" record = some details ∧ RecoveredDetails details := by
  by_cases code : exitCode = 5
  case neg => simp [controlledFailureRecovered, code] at passed
  subst code
  by_cases shown : occursIn injectedError stdout
  case neg => simp [controlledFailureRecovered, shown] at passed
  rw [controlled_eq_judge shown] at passed
  obtain ⟨records, read, objects, decided⟩ := judge_true passed
  refine ⟨rfl, shown, records, read, ?_⟩
  cases last : (records.filter (HasEvent "mission_failed")).getLast? with
  | none => simp [controlledVerdict, last] at decided
  | some record =>
    rw [controlledVerdict, last] at decided
    have member := List.mem_filter.mp (List.mem_of_getLast? last)
    exact ⟨record, member.1, member.2,
      recoveredDetails_of_checkFailed (objects record member.1) decided⟩

end Controlled

section Robust

variable {N : Type} [Zero N] [DecidableEq N] [PyText N] (reader : Reader N) (exitCode : Int)
  (stdout : String) (file : Option (List UInt8))

/-- Both checks return a verdict, and a positive one has read what it is about: the file is UTF-8,
    its lines that are not blank are JSON, and one is an object with the event, and for the recovery
    with an object of details that has the status. -/
structure Robust : Prop where
  signed_returns : ∃ result, signedMissionPassed reader exitCode stdout file = .ok result
  controlled_returns : ∃ result, controlledFailureRecovered reader exitCode stdout file = .ok result
  signed_evidence : ∀ detail,
    signedMissionPassed reader exitCode stdout file = .ok (true, detail) →
      ∃ bytes text records, file = some bytes ∧ decodeUtf8 bytes = some text ∧
        (auditLines text).mapM reader.loads = .ok records ∧
        ∃ fields, Json.obj fields ∈ records ∧
          isText "mission_completed" (fields.lookup "event") = true
  controlled_evidence : ∀ detail,
    controlledFailureRecovered reader exitCode stdout file = .ok (true, detail) →
      ∃ bytes text records, file = some bytes ∧ decodeUtf8 bytes = some text ∧
        (auditLines text).mapM reader.loads = .ok records ∧
        ∃ fields, Json.obj fields ∈ records ∧
          isText "mission_failed" (fields.lookup "event") = true ∧
          ∃ details, fields.lookup "details" = some (.obj details) ∧
            isText "landing_confirmed" (details.lookup "recovery_status") = true

/-- What the checks come to read can be read. -/
structure Readable : Prop where
  signed : exitCode = 0 → occursIn "MAVSDK simulation complete" stdout → Objects reader file
  controlled : exitCode = 5 → occursIn injectedError stdout → Objects reader file ∧
    ∀ records record, contents reader file = some (.ok records) →
      (records.filter (HasEvent "mission_failed")).getLast? = some record → DetailsUsable record

variable {reader exitCode stdout file}

omit [Zero N] [DecidableEq N] [PyText N] in
theorem exists_of_contents {records : List (Loaded N)}
    (read : contents reader file = some (.ok records)) :
    ∃ bytes text, file = some bytes ∧ decodeUtf8 bytes = some text ∧
      (auditLines text).mapM reader.loads = .ok records := by
  cases file with
  | none => cases read
  | some bytes =>
    cases decoded : decodeUtf8 bytes with
    | none => simp [contents, decoded] at read
    | some text => exact ⟨bytes, text, rfl, decoded, by simpa [contents, decoded] using read⟩

omit [Zero N] [DecidableEq N] [PyText N] in
/-- A record with an event is an object. -/
theorem exists_of_hasEvent {event : String} {record : Loaded N}
    (has : HasEvent event record = true) :
    ∃ fields, record = .obj fields ∧ isText event (fields.lookup "event") = true := by
  cases record with
  | obj fields => exact ⟨fields, rfl, has⟩
  | _ => cases has

/-- The checks return a verdict, and a positive one only on evidence, just when what they come to
    read can be read. -/
theorem robust_iff : Robust reader exitCode stdout file ↔ Readable reader exitCode stdout file := by
  constructor
  · intro robust
    exact ⟨signed_returns_iff.mp robust.signed_returns,
      controlled_returns_iff.mp robust.controlled_returns⟩
  · intro readable
    refine ⟨signed_returns_iff.mpr readable.signed, controlled_returns_iff.mpr readable.controlled,
      fun detail passed => ?_, fun detail passed => ?_⟩
    · obtain ⟨-, -, records, read, record, member, has⟩ := evidence_of_signed passed
      obtain ⟨bytes, text, file, decoded, loaded⟩ := exists_of_contents read
      obtain ⟨fields, rfl, has⟩ := exists_of_hasEvent has
      exact ⟨bytes, text, records, file, decoded, loaded, fields, member, has⟩
    · obtain ⟨-, -, records, read, record, member, has, details, given, recovered⟩ :=
        evidence_of_controlled passed
      obtain ⟨bytes, text, file, decoded, loaded⟩ := exists_of_contents read
      obtain ⟨fields, rfl, has⟩ := exists_of_hasEvent has
      refine ⟨bytes, text, records, file, decoded, loaded, fields, member, has, ?_⟩
      cases details with
      | obj details => exact ⟨details, given, recovered.status⟩
      | _ => cases recovered.object

/-- `json.loads`, as it is for the text of an empty list. -/
def listReader : Reader ℚ where
  loads line :=
    if line = "[]" then .ok (.arr [])
    else .error ⟨.jsonDecodeError, "Expecting value: line 1 column 1 (char 0)"⟩
  decodeError _ := "'utf-8' codec can't decode byte 0xff in position 0: invalid start byte"

/-- An empty list is JSON and not an object: with `[]` for an audit file the check of a signed
    mission raises. -/
theorem list_line_raises :
    signedMissionPassed listReader 0 "MAVSDK simulation complete." (some (encodeUtf8 "[]")) =
      .error ⟨.other "AttributeError", "'list' object has no attribute 'get'"⟩ := by
  have shown : occursIn "MAVSDK simulation complete" "MAVSDK simulation complete." := by
    decide +kernel
  have lines : auditLines "[]" = ["[]"] := by decide +kernel
  have loaded : contents listReader (some (encodeUtf8 "[]")) = some (.ok [.arr []]) := by
    simp only [contents, decodeUtf8_encodeUtf8, lines, Option.bind_eq_bind, Option.bind_some]
    rfl
  rw [signed_eq_judge shown]
  simp only [judge, readAudit_values loaded]
  rfl

/-- The check of a signed mission does not answer for every file. -/
theorem not_robust_of_list_line :
    ¬ Robust listReader 0 "MAVSDK simulation complete." (some (encodeUtf8 "[]")) := by
  intro robust
  obtain ⟨result, returned⟩ := robust.signed_returns
  rw [list_line_raises] at returned
  cases returned

end Robust

end AcceptanceChecks

end Nightjar
