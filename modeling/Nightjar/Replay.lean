import Nightjar.Exceptions
import Nightjar.Interact.Prog
import Mathlib.Data.List.Nodup

/-!
# The nonce store

`SQLiteNonceStore` (`replay.py`). The table `consumed_approvals` is a list of rows whose nonces
are distinct, as its primary key demands, and the only change it knows is an insertion. SQLite
may fail at each of the four points of `consume` that reach the database; a transaction that
fails leaves the table as it was.
-/

namespace Nightjar

open Interact

/-- A row of `consumed_approvals` (`replay.py:69-78`). -/
structure NonceRow where
  nonce : String
  missionSha256 : String
  policySha256 : String
  executor : String
  expiresAtUnix : Int
  consumedAtUnix : Int
  deriving DecidableEq

/-- The table, with its primary key. -/
structure NonceTable where
  rows : List NonceRow
  primaryKey : (rows.map NonceRow.nonce).Nodup

namespace NonceTable

/-- The empty table. -/
def empty : NonceTable := ⟨[], List.nodup_nil⟩

/-- `INSERT`; `none` is `sqlite3.IntegrityError`. -/
def insert (table : NonceTable) (row : NonceRow) : Option NonceTable :=
  if fresh : row.nonce ∉ table.rows.map NonceRow.nonce then
    some
      { rows := table.rows ++ [row]
        primaryKey := by
          rw [List.map_append, List.nodup_append]
          refine ⟨table.primaryKey, List.nodup_singleton _, ?_⟩
          rintro a member b single rfl
          rw [List.map_singleton, List.mem_singleton] at single
          exact fresh (single ▸ member) }
  else none

theorem insert_eq_some {table table' : NonceTable} {row : NonceRow}
    (inserted : table.insert row = some table') :
    row.nonce ∉ table.rows.map NonceRow.nonce ∧ table'.rows = table.rows ++ [row] := by
  unfold insert at inserted
  split at inserted
  · rename_i fresh
    cases inserted
    exact ⟨fresh, rfl⟩
  · cases inserted

theorem insert_eq_none {table : NonceTable} {row : NonceRow} :
    table.insert row = none ↔ row.nonce ∈ table.rows.map NonceRow.nonce := by
  unfold insert
  split
  · rename_i fresh
    exact ⟨(nomatch ·), fun member => absurd member fresh⟩
  · rename_i stale
    exact ⟨fun _ => not_not.mp stale, fun _ => rfl⟩

end NonceTable

/-- What SQLite raises at the points of `consume`. -/
structure SqliteFaults where
  /-- `sqlite3.connect` (`replay.py:59`). -/
  connect : Option PyExc
  /-- `BEGIN IMMEDIATE`: the write lock is not obtained in time (`replay.py:102`). -/
  beginImmediate : Option PyExc
  /-- `INSERT`, for another reason than its key. -/
  insert : Option PyExc
  /-- The commit at the end of the `with` block; the block rolls back when it fails. -/
  commit : Option PyExc

namespace SqliteFaults

/-- Nothing fails. -/
def none : SqliteFaults := ⟨.none, .none, .none, .none⟩

/-- SQLite fails with `sqlite3.Error` only. -/
structure OnlySqlite (faults : SqliteFaults) : Prop where
  connect : ∀ e, faults.connect = some e → e.cls.isSqliteError = true
  beginImmediate : ∀ e, faults.beginImmediate = some e → e.cls.isSqliteError = true
  insert : ∀ e, faults.insert = some e → e.cls.isSqliteError = true
  commit : ∀ e, faults.commit = some e → e.cls.isSqliteError = true

end SqliteFaults

/-- The violation of the primary key. -/
def uniqueViolation : PyExc :=
  ⟨.integrityError, "UNIQUE constraint failed: consumed_approvals.nonce"⟩

/-- The transaction of `consume` (`replay.py:101-123`). -/
def consumeTransaction (faults : SqliteFaults) (row : NonceRow) : Prog NonceTable PyExc Unit := do
  Prog.raiseOption faults.connect
  Prog.raiseOption faults.beginImmediate
  Prog.raiseOption faults.insert
  let table ← Prog.read
  match table.insert row with
  | none => Prog.raise uniqueViolation
  | some table' =>
    Prog.raiseOption faults.commit
    Prog.modify fun _ => table'

/-- `consume` (`replay.py:86-125`). -/
def consume (faults : SqliteFaults) (row : NonceRow) : Prog NonceTable PyExc Unit :=
  Prog.handle (consumeTransaction faults row) fun e =>
    if e.cls = .integrityError then
      Prog.raise ⟨.approvalReplayError, "Approval nonce has already been used."⟩
    else Prog.raise e

end Nightjar
