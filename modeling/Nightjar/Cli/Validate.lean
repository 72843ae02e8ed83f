import Nightjar.Cli
import Nightjar.Python.Newlines
import Nightjar.Schema

/-!
# `nightjar validate`

The mission file from its bytes on: `load_mission` (`cli.py:21-23`) with the decoding that
`read_text` does, and `main` for `nightjar validate` (`cli.py:119-138`).
-/

namespace Nightjar

open Python Interact Exec Cli

/-- What is found at `args.mission`. -/
inductive MissionFile where
  | bytes (data : List UInt8)
  /-- No file, or one that cannot be read. -/
  | unreadable (exc : PyExc) (os : exc.cls.isOSError = true)

namespace MissionFile

variable {N : Type}

/-- `path.read_text(encoding="utf-8")`. -/
def readText (reader : Reader N) : MissionFile → Except PyExc String
  | unreadable exc _ => .error exc
  | bytes data =>
    match decodeUtf8 data with
    | none => .error ⟨.unicodeDecodeError, reader.decodeError data⟩
    | some text => .ok (String.ofList (universalNewlines text.toList))

variable [Zero N] [LT N] [DecidableRel (α := N) (· < ·)]
  (reader : Reader N) (P : Pydantic N) (errorText : List FieldError → String) (fresh : UUID)

/-- `load_mission` (`cli.py:21-23`). `fresh` is `uuid4()` at the call. -/
def loadMission (file : MissionFile) : Except PyExc (Mission N) := do
  let text ← file.readText reader
  let payload ← reader.loads text
  Mission.validated P errorText fresh payload

end MissionFile

namespace Cli

variable {N : Type} [Field N] [LinearOrder N] [PyMath N] [PyText N]

/-- `main` for `nightjar validate` (`cli.py:119-138`), after `load_mission`. -/
def mainValidate (env : Env N) (mission : Except PyExc (Mission N)) : Exec N Nat :=
  match mission with
  | .error exc =>
    if isMissionLoadError exc.cls then exitWith env s!"Mission could not be loaded: {exc.text}" 2
    else Prog.raise exc
  | .ok mission => do
    let approved ← printDecision env mission (.default N)
    if approved = false then pure 1 else pure 0

/-- `nightjar validate`. -/
def validate (reader : Reader N) (P : Pydantic N) (errorText : List FieldError → String)
    (fresh : UUID) (env : Env N) (file : MissionFile) : Exec N Nat :=
  mainValidate env (file.loadMission reader P errorText fresh)

/-- `nightjar run` goes as `nightjar validate` on the same mission, unless that ends with 0. -/
theorem run_eq_mainValidate [FloorRing N] [Crypto] (host : Host N) (env : Env N)
    (executor : ExecutorChoice) {s : ExecState N}
    (stops : (mainValidate env (loadMission host) s).1 ≠ .ok 0) :
    Cli.run host env executor s = mainValidate env (loadMission host) s := by
  unfold Cli.run mainValidate
  unfold mainValidate at stops
  cases loaded : loadMission host with
  | error exc => rfl
  | ok mission =>
    rw [loaded] at stops
    simp only [bind] at stops ⊢
    cases decided : printDecision env mission (.default N) s with
    | mk r s' =>
      rw [decided] at stops
      cases r with
      | error exc => rfl
      | ok approved =>
        cases approved with
        | false => rfl
        | true => exact absurd rfl stops

end Cli

end Nightjar
