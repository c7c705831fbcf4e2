import TypedSql.Session.World

namespace TypedSql

/-! Transactions.  A transaction opens its connection when it is first used, so one that never runs
a statement never touches the store.  The connection is used by one thing at a time. -/

namespace Transaction

open Session

variable {σ α : Type}

def setUp (d : Driver σ) (t : Transaction) (connection : Nat) : Session σ OpenConnection := do
  let isolation ← call d (.isolation connection)
  if let some wanted := t.isolation then
    if isolation ≠ some wanted then call d (.setIsolation connection wanted)
  let autocommit ← call d (.autocommit connection)
  if autocommit then call d (.setAutocommit connection false)
  return ⟨connection, isolation, autocommit⟩

/-- Opens the connection of a transaction; one that cannot be set up is closed again. -/
def connect (d : Driver σ) (t : Transaction) : Session σ OpenConnection := do
  let connection ← call d .connect
  match ← (t.setUp d connection).attempt with
  | .ok opened => return opened
  | .error e =>
      reporting .warn .transaction "Could not close the connection after a failed setup"
        (call d (.close connection))
      throw e

def idle (t : Transaction) : Session σ TransactionState := do
  let s := (← get).state t
  if s.inUse then throw (.usage .connectionInUse)
  return s

/-- Runs something on the connection of a transaction, which stays with the transaction however
the run ends. -/
def withConnection (d : Driver σ) (t : Transaction) (f : Nat → Session σ α) : Session σ α := do
  let opened ←
    match (← t.idle).opened with
    | some opened => pure opened
    | none => t.connect d
  modify (·.setState t ⟨some opened, true⟩)
  let outcome ← (f opened.connection).attempt
  modify fun w => w.setState t { w.state t with inUse := false }
  conclude outcome

def commit (d : Driver σ) (t : Transaction) : Session σ Unit := do
  if let some opened := (← t.idle).opened then
    log .debug .transaction "Commit"
    call d (.commit opened.connection)

def rollback (d : Driver σ) (t : Transaction) : Session σ Unit := do
  if let some opened := (← t.idle).opened then
    log .debug .transaction "Rollback"
    call d (.rollback opened.connection)

def release (d : Driver σ) (t : Transaction) (opened : OpenConnection) : Session σ Unit := do
  if let some captured := opened.isolation then
    if t.isolation.any (· ≠ captured) then
      reporting .warn .transaction s!"Could not restore isolation {captured.sqlName}"
        (call d (.setIsolation opened.connection captured))
  if opened.autocommit then
    reporting .warn .transaction "Could not restore autocommit"
      (call d (.setAutocommit opened.connection true))
  reporting .warn .transaction "Could not close the transaction connection"
    (call d (.close opened.connection))

def close (d : Driver σ) (t : Transaction) : Session σ Unit := do
  let s := (← get).state t
  if s.inUse then
    log .error .transaction "Could not close the transaction, its connection is in use"
  else
    modify (·.setState t {})
    if let some opened := s.opened then t.release d opened
  modify (·.unbind t)

end Transaction

end TypedSql
