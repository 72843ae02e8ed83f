import Nightjar.Authorization.Concurrent
import Nightjar.Python.Path

/-!
# Where the state is kept

The default file of the nonce store (`default_replay_db_path`) and the default audit directory
(`default_audit_directory`) on a POSIX platform, as functions of the environment and the working
directory, and the call of `verify_and_consume_approval` on the table in that file.
-/

namespace Nightjar

open Python Interact

/-- What the default paths are read from. -/
structure Environment where
  /-- `HOME`. -/
  home : String
  home_absolute : (PosixPath.ofString home).absolute = true
  /-- `XDG_STATE_HOME`, when it is set. -/
  xdgStateHome : Option String
  /-- The home directories of the password database. -/
  userHome : String → Option String

namespace Environment

/-- `Path.home() / ".local" / "state"`. -/
def localState (env : Environment) : PosixPath :=
  (PosixPath.ofString env.home).join [".local", "state"]

/-- `path.expanduser()`. -/
def expanduser (env : Environment) (p : PosixPath) : Option PosixPath :=
  p.expanduser env.home env.userHome

end Environment

/-- `default_replay_db_path` (`replay.py:14-24`); `none` is the `RuntimeError` of `expanduser`. -/
def defaultReplayDbPath (env : Environment) (cwd : Directory) : Option PosixPath := do
  let stateRoot := match env.xdgStateHome with
    | some value => PosixPath.ofString value
    | none => env.localState
  let expanded ← env.expanduser stateRoot
  some ((expanded.resolve cwd).join ["nightjar", "approvals.sqlite3"])

/-- `default_audit_directory` (`audit.py:12-21`). -/
def defaultAuditDirectory (env : Environment) (cwd : Directory) : Option PosixPath := do
  let base := match env.xdgStateHome with
    | some value => if value = "" then env.localState else PosixPath.ofString value
    | none => env.localState
  let expanded ← env.expanduser base
  some ((expanded.join ["nightjar", "audit"]).resolve cwd)

/-- The nonce tables of the file system; a file that does not exist holds no row. -/
abbrev Databases : Type := PosixPath → NonceTable

/-- `verify_and_consume_approval` with the default store, started in a working directory. -/
def Attempt.consumeFrom {N : Type} [Field N] [LinearOrder N] [PyText N] [Crypto] (a : Attempt N)
    (env : Environment) (cwd : Directory) (faults : SqliteFaults) :
    Prog Databases PyExc ApprovalPayload :=
  match defaultReplayDbPath env cwd with
  | none => Prog.raise ⟨.other "RuntimeError", "Could not determine home directory."⟩
  | some path =>
    Prog.zoom (fun databases => databases path)
      (fun table databases => Function.update databases path table) (a.verifyAndConsume faults)

end Nightjar
