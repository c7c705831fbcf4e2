import TypedSql.Session.Manager

namespace TypedSql

open Session

variable {σ α : Type}

/-- A connection that has been lent, and what becomes of the world when it is given back. -/
structure Loan (σ : Type) where
  connection : Nat
  giveBack : World σ → World σ

namespace Loan

/-- A loan is given back however its use ends. -/
def use (l : Loan σ) (f : Nat → Session σ α) : Session σ α :=
  fun w => ((f l.connection w).1, l.giveBack (f l.connection w).2)

end Loan

namespace Session

theorem reporting_fst (level : LogLevel) (source : LogSource) (what : String)
    (x : Session σ Unit) (w : World σ) : (reporting level source what x w).1 = .ok () := by
  rw [reporting, Run.bind_apply, Run.attempt_apply]
  cases (x w).1 with
  | ok _ => rfl
  | error e => rfl

end Session

namespace Transaction

def loan (t : Transaction) (o : OpenConnection) : Loan σ :=
  ⟨o.connection, fun w => w.setState t { w.state t with inUse := false }⟩

def lend (d : Driver σ) (t : Transaction) : Session σ (Loan σ) := do
  let opened ←
    match (← t.idle).opened with
    | some opened => pure opened
    | none => t.connect d
  modify (·.setState t ⟨some opened, true⟩)
  return t.loan opened

theorem withConnection_eq (d : Driver σ) (t : Transaction) (f : Nat → Session σ α) :
    t.withConnection d f = t.lend d >>= fun loan => loan.use f := by
  have hused (o : OpenConnection) (w : World σ) : (do
      let outcome ← (f o.connection).attempt
      modify fun w => w.setState t { w.state t with inUse := false }
      conclude outcome : Session σ α) w = (t.loan o).use f w := by
    simp [Loan.use, loan, Run.bind_apply, conclude]
  rw [withConnection, lend, bind_assoc]
  refine bind_congr fun s => ?_
  cases s.opened with
  | some opened =>
      simp only [pure_bind, bind_assoc]
      exact bind_congr fun _ => funext (hused opened)
  | none =>
      simp only [pure_bind, bind_assoc]
      exact bind_congr fun opened => bind_congr fun _ => funext (hused opened)

end Transaction

namespace Manager

def lend (m : Manager σ) : Session σ (Loan σ) := do
  match ← m.current? with
  | some t => t.lend m.driver
  | none =>
      let connection ← call m.driver .connect
      return ⟨connection, fun w => (reporting .warn .transaction "Could not close the connection"
        (call m.driver (.close connection)) w).2⟩

/-- What is done with a connection has no part in whether it is lent and how it is given back. -/
theorem useConnection_eq (m : Manager σ) (f : Nat → Session σ α) :
    m.useConnection f = m.lend >>= fun loan => loan.use f := by
  rw [useConnection, lend, bind_assoc]
  refine bind_congr fun bound => ?_
  cases bound with
  | some t => exact t.withConnection_eq m.driver f
  | none =>
      rw [bind_assoc]
      refine bind_congr fun connection => ?_
      funext w
      have hclosed := reporting_fst .warn .transaction "Could not close the connection"
        (call m.driver (.close connection)) (f connection w).2
      simp only [Loan.use, Run.bind_apply, Run.attempt_apply, Run.pure_apply, conclude]
      cases hrun : reporting .warn .transaction "Could not close the connection"
          (call m.driver (.close connection)) (f connection w).2 with
      | mk result w' =>
          rw [hrun] at hclosed
          cases hclosed
          simp only [Run.ofExcept_apply]

end Manager

end TypedSql
