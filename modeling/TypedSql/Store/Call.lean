import TypedSql.Table.Result
import TypedSql.Writer.Config

namespace TypedSql

/-! What a store can be asked to do, and what it answers.  Connections are known by their number.
While autocommit is off, every statement belongs to the transaction that the next commit or
rollback ends. -/

inductive Isolation where
  | readUncommitted | readCommitted | repeatableRead | serializable
deriving DecidableEq, Repr

namespace Isolation

def sqlName : Isolation → String
  | readUncommitted => "READ UNCOMMITTED"
  | readCommitted => "READ COMMITTED"
  | repeatableRead => "REPEATABLE READ"
  | serializable => "SERIALIZABLE"

def tag : Isolation → String
  | readUncommitted => "ReadUncommitted"
  | readCommitted => "ReadCommitted"
  | repeatableRead => "RepeatableRead"
  | serializable => "Serializable"

def all : List Isolation := [readUncommitted, readCommitted, repeatableRead, serializable]

end Isolation

structure Prepared where
  connection : Nat
  sql : String
  generatedKeys : Bool
deriving DecidableEq, Repr

structure RowStream where
  rows : List Row := []
  failure : Option Error := none

inductive Call where
  | connect
  | metadata (connection : Nat)
  | prepare (statement : Prepared)
  | bind (statement : Prepared) (bound : BindCall)
  | executeUpdate (statement : Prepared)
  | executeQuery (statement : Prepared)
  | commit (connection : Nat)
  | rollback (connection : Nat)
  | isolation (connection : Nat)
  | setIsolation (connection : Nat) (isolation : Isolation)
  | autocommit (connection : Nat)
  | setAutocommit (connection : Nat) (on : Bool)
  | close (connection : Nat)
deriving DecidableEq

namespace Call

/-- What a call that succeeds gives: a new connection has its number, and a store that does not
know its isolation gives none. -/
abbrev Answer : Call → Type
  | connect => Nat
  | metadata _ => StoreMetadata
  | executeUpdate _ => RowsAffected
  | executeQuery _ => RowStream
  | isolation _ => Option Isolation
  | autocommit _ => Bool
  | _ => Unit

def connection? : Call → Option Nat
  | connect => none
  | prepare s | bind s _ | executeUpdate s | executeQuery s => some s.connection
  | metadata c | commit c | rollback c | isolation c | setIsolation c _ | autocommit c
  | setAutocommit c _ | close c => some c

end Call

inductive CallKind where
  | connect | metadata | prepare | bind | bindNull | executeUpdate | executeQuery | commit
  | rollback | isolation | setIsolation | autocommit | setAutocommit | close
deriving DecidableEq, Repr

namespace Call

def kind : Call → CallKind
  | connect => .connect
  | metadata _ => .metadata
  | prepare _ => .prepare
  | bind _ (.bind _ _) => .bind
  | bind _ (.bindNull _ _) => .bindNull
  | executeUpdate _ => .executeUpdate
  | executeQuery _ => .executeQuery
  | commit _ => .commit
  | rollback _ => .rollback
  | isolation _ => .isolation
  | setIsolation _ _ => .setIsolation
  | autocommit _ => .autocommit
  | setAutocommit _ _ => .setAutocommit
  | close _ => .close

end Call

end TypedSql
