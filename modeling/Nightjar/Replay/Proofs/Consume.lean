import Nightjar.Replay

/-!
# What `consume` does

`consume` either returns having inserted its row, or raises having changed nothing, whatever
SQLite does.
-/

namespace Nightjar

open Interact Prog

section Transaction

variable {faults : SqliteFaults} {row : NonceRow} {table table' : NonceTable} {e : PyExc}

/-- One of SQLite's failures. -/
def SqliteFaults.Raises (faults : SqliteFaults) (e : PyExc) : Prop :=
  faults.connect = some e ∨ faults.beginImmediate = some e ∨ faults.insert = some e ∨
    faults.commit = some e

theorem SqliteFaults.OnlySqlite.of_raises (only : faults.OnlySqlite) (raised : faults.Raises e) :
    e.cls.isSqliteError = true := by
  rcases raised with h | h | h | h
  · exact only.connect e h
  · exact only.beginImmediate e h
  · exact only.insert e h
  · exact only.commit e h

/-- The transaction inserts the row and returns, or raises without a change. -/
theorem triple_consumeTransaction (faults : SqliteFaults) (row : NonceRow) (table : NonceTable) :
    Triple (fun t => t = table) (consumeTransaction faults row)
      (fun _ t => table.insert row = some t)
      (fun e t => t = table ∧
        (faults.Raises e ∨ (e = uniqueViolation ∧ table.insert row = none))) := by
  unfold consumeTransaction
  refine triple_bind (Q := fun _ t => t = table) (triple_raiseOption (fun _ _ same => same) ?_)
    fun _ => ?_
  · exact fun e s raised same => ⟨same, Or.inl (Or.inl raised)⟩
  refine triple_bind (Q := fun _ t => t = table) (triple_raiseOption (fun _ _ same => same) ?_)
    fun _ => ?_
  · exact fun e s raised same => ⟨same, Or.inl (Or.inr (Or.inl raised))⟩
  refine triple_bind (Q := fun _ t => t = table) (triple_raiseOption (fun _ _ same => same) ?_)
    fun _ => ?_
  · exact fun e s raised same => ⟨same, Or.inl (Or.inr (Or.inr (Or.inl raised)))⟩
  refine triple_bind_read ?_
  rintro t rfl
  cases found : t.insert row with
  | none => exact triple_raise fun s same => ⟨same, Or.inr ⟨rfl, rfl⟩⟩
  | some t' =>
    refine triple_bind (Q := fun _ s => s = t) (triple_raiseOption (fun _ _ same => same) ?_)
      fun _ => triple_modify fun s same => rfl
    exact fun e s raised same => ⟨same, Or.inl (Or.inr (Or.inr (Or.inr raised)))⟩

/-- `consume` inserts the row and returns, or raises without a change. -/
theorem triple_consume (faults : SqliteFaults) (row : NonceRow) (table : NonceTable) :
    Triple (fun t => t = table) (consume faults row)
      (fun _ t => table.insert row = some t)
      (fun e t => t = table ∧ (faults.Raises e ∨ e.cls = .approvalReplayError)) := by
  refine triple_handle (triple_consumeTransaction faults row table) fun e => ?_
  by_cases duplicate : e.cls = .integrityError
  · rw [if_pos duplicate]
    exact triple_raise fun s raised => ⟨raised.1, Or.inr rfl⟩
  · rw [if_neg duplicate]
    refine triple_raise fun s raised => ⟨raised.1, ?_⟩
    rcases raised.2 with fault | ⟨rfl, -⟩
    · exact Or.inl fault
    · exact absurd rfl duplicate

/-- A duplicate nonce raises, and is reported as a replay when SQLite itself does not fail. -/
theorem consume_duplicate (row : NonceRow) (table : NonceTable)
    (used : row.nonce ∈ table.rows.map NonceRow.nonce) :
    consume .none row table =
      (.error ⟨.approvalReplayError, "Approval nonce has already been used."⟩, table) := by
  have refused := NonceTable.insert_eq_none.mpr used
  simp [consume, consumeTransaction, handle, raiseOption, SqliteFaults.none, Prog.read, bind, pure,
    refused, Prog.raise, uniqueViolation]

end Transaction

end Nightjar
