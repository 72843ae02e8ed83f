import Nightjar.Replay

/-!
# The database behind the nonce store

What is assumed of SQLite when several connections share a file: a write transaction starts with
`BEGIN IMMEDIATE`, there is at most one at a time, it works on its own view of the table, and a
commit publishes that view at once. A transaction that is rolled back, or whose process dies,
leaves no trace.
-/

namespace Nightjar

/-- The database: what is committed, and the open write transaction with its connection and its
    view of the table. -/
structure NonceDatabase (ι : Type) where
  committed : NonceTable
  writer : Option (ι × NonceTable)

namespace NonceDatabase

variable {ι : Type} [DecidableEq ι]

/-- A database without an open transaction. -/
def ofTable (ι : Type) (table : NonceTable) : NonceDatabase ι := ⟨table, none⟩

/-- `BEGIN IMMEDIATE`; it does not succeed while another transaction holds the write lock. -/
def beginImmediate (db : NonceDatabase ι) (i : ι) : Option (NonceDatabase ι) :=
  match db.writer with
  | none => some { db with writer := some (i, db.committed) }
  | some _ => none

/-- The view of a connection's transaction. -/
def view (db : NonceDatabase ι) (i : ι) : Option NonceTable :=
  match db.writer with
  | some (j, table) => if j = i then some table else none
  | none => none

/-- The transaction of a connection sees another table. -/
def update (db : NonceDatabase ι) (i : ι) (table : NonceTable) : NonceDatabase ι :=
  { db with writer := some (i, table) }

/-- `COMMIT`. -/
def commit (db : NonceDatabase ι) (i : ι) : Option (NonceDatabase ι) :=
  (db.view i).map fun table => { committed := table, writer := none }

/-- `ROLLBACK`, also of a process that dies; nothing happens without a transaction. -/
def rollback (db : NonceDatabase ι) (i : ι) : NonceDatabase ι :=
  if (db.view i).isSome then { db with writer := none } else db

theorem view_eq_some {db : NonceDatabase ι} {i : ι} {table : NonceTable} :
    db.view i = some table ↔ db.writer = some (i, table) := by
  unfold view
  cases held : db.writer with
  | none => simp
  | some writer =>
    obtain ⟨j, table'⟩ := writer
    by_cases same : j = i
    · simp [same]
    · simp [same]

omit [DecidableEq ι] in
theorem beginImmediate_eq_some {db db' : NonceDatabase ι} {i : ι}
    (begun : db.beginImmediate i = some db') :
    db.writer = none ∧ db' = ⟨db.committed, some (i, db.committed)⟩ := by
  unfold beginImmediate at begun
  cases held : db.writer with
  | none =>
    rw [held] at begun
    exact ⟨rfl, (Option.some.inj begun).symm⟩
  | some writer =>
    rw [held] at begun
    cases begun

theorem commit_eq_some {db db' : NonceDatabase ι} {i : ι} (done : db.commit i = some db') :
    ∃ table, db.writer = some (i, table) ∧ db' = ⟨table, none⟩ := by
  obtain ⟨table, seen, rfl⟩ := Option.map_eq_some_iff.mp done
  exact ⟨table, view_eq_some.mp seen, rfl⟩

/-- A connection commits its own transaction. -/
theorem commit_own {db : NonceDatabase ι} {i : ι} {table : NonceTable}
    (held : db.writer = some (i, table)) : db.commit i = some (.ofTable ι table) := by
  rw [commit, view_eq_some.mpr held]
  rfl

/-- A connection gives up its own transaction. -/
theorem rollback_own {db : NonceDatabase ι} {i : ι} {table : NonceTable}
    (held : db.writer = some (i, table)) : db.rollback i = .ofTable ι db.committed := by
  rw [rollback, view_eq_some.mpr held]
  rfl

@[simp] theorem committed_rollback (db : NonceDatabase ι) (i : ι) :
    (db.rollback i).committed = db.committed := by
  unfold rollback
  split <;> rfl

/-- A rollback ends the connection's own transaction and no other. -/
theorem writer_rollback_eq_some {db : NonceDatabase ι} {i j : ι} {table : NonceTable} :
    (db.rollback i).writer = some (j, table) ↔ db.writer = some (j, table) ∧ j ≠ i := by
  unfold rollback
  cases seen : db.view i with
  | none =>
    simp only [Option.isSome_none, Bool.false_eq_true, if_false]
    refine ⟨fun held => ⟨held, ?_⟩, And.left⟩
    rintro rfl
    rw [view_eq_some.mpr held] at seen
    cases seen
  | some table' =>
    have held := view_eq_some.mp seen
    simp only [Option.isSome_some, if_true]
    rw [held]
    refine ⟨(nomatch ·), ?_⟩
    rintro ⟨same, other⟩
    cases same
    exact absurd rfl other

end NonceDatabase

end Nightjar
