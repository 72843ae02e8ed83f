import Nightjar.Schema

/-!
# The planner's output

`parse_planner_output` (`planner.py`), which reads a mission from what a planning component wrote.
-/

namespace Nightjar

open Python

namespace Planner

/-- `PlannerError` (`planner.py:8-9`). -/
def plannerError : ExcClass := .other "PlannerError"

variable {N : Type} [Zero N] [LT N] [DecidableRel (α := N) (· < ·)]
  (reader : Reader N) (P : Pydantic N) (errorText : List FieldError → String)

/-- `parse_planner_output` (`planner.py:12-27`). `fresh` is `uuid4()` at the call. -/
def parsePlannerOutput (fresh : UUID) (rawOutput : String) : Except PyExc (Mission N) :=
  match reader.loads rawOutput with
  | .error exc =>
    if exc.cls = .jsonDecodeError then
      .error ⟨plannerError, s!"Planner output is not valid JSON: {exc.text}"⟩
    else .error exc
  | .ok payload =>
    match Mission.validated P errorText fresh payload with
    | .ok mission => .ok mission
    | .error exc =>
      if exc.cls.isException then
        .error ⟨plannerError, s!"Planner output violates the mission schema: {exc.text}"⟩
      else .error exc

end Planner

end Nightjar
