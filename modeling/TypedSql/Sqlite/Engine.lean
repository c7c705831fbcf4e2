import TypedSql.Sqlite.Storage
import TypedSql.Store.Driver

namespace TypedSql.Sqlite

/-! The engine below a connection.  Nothing is assumed of it here; what a theorem needs it to do is
said there. -/

inductive Control where
  | begin
  | commit
  | rollback
  | setReadUncommitted (on : Bool)
deriving DecidableEq, Repr

structure Outcome where
  labels : List String := []
  rows : List (List Storage) := []
  changes : Nat := 0
  failure : Option Error := none

structure Engine (ε : Type) where
  version : String
  inTransaction : ε → Bool
  readsUncommitted : ε → Bool
  control : Control → Run ε Unit
  prepare : (sql : String) → Run ε Unit
  execute : (sql : String) → (parameters : Nat → Storage) → Run ε Outcome

end TypedSql.Sqlite
