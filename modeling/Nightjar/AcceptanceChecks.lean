import Nightjar.Exceptions
import Nightjar.Loaded
import Nightjar.Python.Text

/-!
# The acceptance checks

`acceptance_checks.py`: the verdicts over an exit code, the standard output and the audit file of a
run. An audit file is absent or has some bytes. `json.loads` and the text of its errors are the
parameter `Reader`; an exception that a check lets through is the error of its result.
-/

namespace Nightjar

open Python

/-- The text of the injected failure (`acceptance_checks.py:14`,
    `acceptance_failure_adapter.py:45`). -/
def injectedError : String := "Acceptance-only injected failure during hold."

namespace AcceptanceChecks

/-- The lines of an audit file that are not blank, stripped (`acceptance_checks.py:23-25`). -/
def auditLines (text : String) : List String :=
  (((splitlines text.toList).map strip).filter fun line => line ≠ []).map String.ofList

/-- `except (json.JSONDecodeError, OSError, UnicodeDecodeError)`. -/
def isParseError (c : ExcClass) : Bool :=
  c = .jsonDecodeError || c.isOSError || c = .unicodeDecodeError

section Checks

variable {N : Type} (reader : Reader N)

/-- The `try` of `_read_audit` (`acceptance_checks.py:22-26`). -/
def readRecords (bytes : List UInt8) : Except PyExc (List (Loaded N)) :=
  match decodeUtf8 bytes with
  | none => .error ⟨.unicodeDecodeError, reader.decodeError bytes⟩
  | some text => (auditLines text).mapM reader.loads

/-- `_read_audit` (`acceptance_checks.py:17-29`): the records, or the text of an error. -/
def readAudit (file : Option (List UInt8)) : Except PyExc (Except String (List (Loaded N))) :=
  match file with
  | none => .ok (.ok [])
  | some bytes =>
    match readRecords reader bytes with
    | .ok records => .ok (.ok records)
    | .error e =>
      if isParseError e.cls then .ok (.error ("audit could not be parsed: " ++ e.text))
      else .error e

omit reader in
/-- `value.get(key)`; only a dictionary has the method. -/
def get (key : String) : Loaded N → Except PyExc (Option (Loaded N))
  | .obj fields => .ok (fields.lookup key)
  | value => .error ⟨.other "AttributeError",
      "'" ++ value.typeName ++ "' object has no attribute 'get'"⟩

omit reader in
/-- `value == text`, for a text. -/
def isText (text : String) : Option (Loaded N) → Bool
  | some (.str s) => s = text
  | _ => false

omit reader in
/-- `[r for r in records if r.get("event") == event]`. -/
def withEvent (event : String) : List (Loaded N) → Except PyExc (List (Loaded N))
  | [] => .ok []
  | record :: records => do
      let found ← get "event" record
      let rest ← withEvent event records
      .ok (if isText event found then record :: rest else rest)

/-- `signed_mission_passed` (`acceptance_checks.py:32-48`). -/
def signedMissionPassed (exitCode : Int) (stdout : String) (file : Option (List UInt8)) :
    Except PyExc (Bool × String) :=
  if exitCode ≠ 0 then .ok (false, s!"exit code {exitCode}, expected 0")
  else if ¬ occursIn "MAVSDK simulation complete" stdout then
    .ok (false, "missing success confirmation in stdout")
  else do
    match ← readAudit reader file with
    | .error error => .ok (false, error)
    | .ok [] => .ok (false, "required audit log is missing")
    | .ok records => do
      let completed ← withEvent "mission_completed" records
      if completed = [] then .ok (false, "audit does not contain mission_completed")
      else .ok (true, "signed mission completed with audit confirmation")

omit reader in
/-- `replay_rejected` (`acceptance_checks.py:51-74`). `lower` is `str.lower`, and the file is looked
    at for its existence only. -/
def replayRejected (lower : String → String) (exitCode : Int) (stdout : String)
    (fileExists : Bool) : Bool × String :=
  if exitCode ≠ 4 then (false, s!"exit code {exitCode}, expected 4")
  else if ¬ occursIn "already been used" stdout ∧ ¬ occursIn "already used" (lower stdout) then
    (false, "missing already-used rejection in stdout")
  else if fileExists then
    (false, "replay produced an audit log (supporting evidence of early progress)")
  else
    (true, "replay rejected with already-used; no audit written " ++
      "(supporting evidence; system-creation proof is in regression tests)")

variable [Zero N] [DecidableEq N] [PyText N]

omit reader [PyText N] in
/-- `found or {}`. -/
def orEmpty (found : Option (Loaded N)) : Loaded N :=
  match found with
  | some value => if value.truthy then value else .obj []
  | none => .obj []

omit reader [Zero N] [DecidableEq N] in
/-- `repr` of what `get` returned. -/
def reprFound (found : Option (Loaded N)) : String :=
  match found with
  | some value => value.pyRepr
  | none => "None"

omit reader in
/-- The checks of the last `mission_failed` record (`acceptance_checks.py:96-105`). -/
def checkFailed (record : Loaded N) : Except PyExc (Bool × String) := do
  let found ← get "details" record
  let details := orEmpty found
  let status ← get "recovery_status" details
  if ¬ isText "landing_confirmed" status then
    .ok (false, s!"recovery_status is {reprFound status}, expected landing_confirmed")
  else do
    let errorType ← get "recovery_error_type" details
    match errorType with
    | none | some .null => do
      let error ← get "error" details
      if ¬ occursIn injectedError (error.getD (.str "")).pyStr then
        .ok (false, "injected error not preserved in audit details")
      else .ok (true, "injected failure recovered with landing_confirmed")
    | errorType => .ok (false, s!"recovery_error_type is {reprFound errorType}")

/-- `controlled_failure_recovered` (`acceptance_checks.py:77-105`). -/
def controlledFailureRecovered (exitCode : Int) (stdout : String) (file : Option (List UInt8)) :
    Except PyExc (Bool × String) :=
  if exitCode ≠ 5 then .ok (false, s!"exit code {exitCode}, expected 5")
  else if ¬ occursIn injectedError stdout then .ok (false, "injected error not visible in stdout")
  else do
    match ← readAudit reader file with
    | .error error => .ok (false, error)
    | .ok [] => .ok (false, "required audit log is missing")
    | .ok records => do
      let failed ← withEvent "mission_failed" records
      match failed.getLast? with
      | none => .ok (false, "audit does not contain mission_failed")
      | some record => checkFailed record

end Checks

end AcceptanceChecks

end Nightjar
