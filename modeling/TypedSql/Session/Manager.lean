import TypedSql.Session.Transaction

namespace TypedSql

inductive Manager (σ : Type) where
  | threaded (id : Nat) (driver : Driver σ) (isolation : Option Isolation)
  /-- Someone else owns the transactions; only connections come from here. -/
  | external (provider : Driver σ)

namespace Manager

open Session

variable {σ α : Type}

def driver : Manager σ → Driver σ
  | threaded _ d _ => d
  | external d => d

def defaultIsolation : Manager σ → Option Isolation
  | threaded _ _ isolation => isolation
  | external _ => none

/-- The transaction of the running thread.  There is none when someone else owns them, even while
one is open. -/
def current? (m : Manager σ) : Session σ (Option Transaction) := do
  match m with
  | threaded id _ _ => return (← get).current? id
  | external _ => return none

def begin (m : Manager σ) (isolation : Option Isolation) : Session σ Transaction := do
  match m with
  | external _ => throw (.usage .transactionsExternal)
  | threaded id d _ =>
      let w ← get
      if (w.current? id).isSome then throw (.usage .transactionActive)
      let t : Transaction := ⟨w.transactions.length, id, isolation⟩
      set ({ w with transactions := w.transactions ++ [({} : TransactionState)] }.bind t)
      log .debug .transaction s!"Transaction began on {d.name}"
      return t

/-- Ends a transaction after its scope: a failure rolls back when the rule says so, a panic rolls
back always, and everything else commits.  The scope's own failure is the one that counts. -/
def finish (m : Manager σ) (t : Transaction) (rollsBack : Error → Bool) (outcome : Except Error α) :
    Session σ α := do
  match outcome with
  | .ok a =>
      let ended ← (t.commit m.driver).attempt
      t.close m.driver
      conclude ended
      return a
  | .error e =>
      if e.isPanic then
        reporting .error .transaction "Could not roll back the transaction" (t.rollback m.driver)
        t.close m.driver
      else
        let ended ← (if rollsBack e then t.rollback m.driver else t.commit m.driver).attempt
        t.close m.driver
        reporting .error .transaction "Could not end the transaction" (conclude ended)
      throw e

/-- Runs something inside a transaction.  A scope that finds a transaction joins it and leaves the
end to the scope that began it. -/
def useTransaction (m : Manager σ) (isolation : Option Isolation) (rollsBack : Error → Bool)
    (body : Transaction → Session σ α) : Session σ α := do
  match ← m.current? with
  | some t => body t
  | none =>
      let t ← m.begin (isolation.or m.defaultIsolation)
      m.finish t rollsBack (← (body t).attempt)

def useConnection (m : Manager σ) (f : Nat → Session σ α) : Session σ α := do
  match ← m.current? with
  | some t => t.withConnection m.driver f
  | none =>
      let connection ← call m.driver .connect
      let outcome ← (f connection).attempt
      reporting .warn .transaction "Could not close the connection"
        (call m.driver (.close connection))
      conclude outcome

end Manager

end TypedSql
