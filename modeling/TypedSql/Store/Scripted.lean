import TypedSql.Store.Driver

namespace TypedSql

/-! A store that keeps no data.  It notes what it is asked to do and answers as it has been told,
so that what reaches a store can be looked at without one. -/

inductive StoreEvent where
  | opened (connection : Nat)
  | prepared (sql : String) (generatedKeys : Bool)
  | bound (call : BindCall)
  | executed (sql : String)
  | committed (connection : Nat)
  | rolledBack (connection : Nat)
  | isolationSet (connection : Nat) (isolation : Isolation)
  | autocommitSet (connection : Nat) (on : Bool)
  | closed (connection : Nat)
deriving DecidableEq

structure ConnectionSettings where
  autocommit : Bool := true
  isolation : Option Isolation := some .readCommitted
deriving DecidableEq, Repr

structure ScriptedRows where
  labels : List String := []
  rows : List (List Value) := []
deriving DecidableEq

inductive Reply where
  | answer (affected : RowsAffected) (rows : ScriptedRows)
  | failure (message : String)
  | uniqueViolation (constraint : String)
deriving DecidableEq

/-- Calls of a kind that fail before they reach the store, forever or a number of times. -/
structure Fault where
  kind : CallKind
  message : String
  times : Option Nat := none
deriving DecidableEq

namespace Fault

def strikes (f : Fault) (kind : CallKind) : Bool :=
  f.kind = kind && f.times ≠ some 0

def spend (f : Fault) : Fault := { f with times := f.times.map (· - 1) }

def take (kind : CallKind) : List Fault → Option (String × List Fault)
  | [] => none
  | f :: fs =>
      if f.strikes kind then some (f.message, f.spend :: fs)
      else (take kind fs).map fun (message, rest) => (message, f :: rest)

end Fault

structure ScriptedStore where
  metadata : StoreMetadata := { product := "MockDB", version := "1.0" }
  events : List StoreEvent := []
  connections : List ConnectionSettings := []
  /-- Beginnings of statements with the constraints that they violate. -/
  violations : List (String × String) := []
  losesSession : Bool := false
  queued : List ScriptedRows := []
  nextKey : Nat := 1
  faults : List Fault := []
  replies : Option (List Reply) := none
  isolationUnknown : Bool := false
  reportedIsolation : Option Isolation := none
  reportsAutocommitOff : Bool := false

namespace ScriptedStore

def note (s : ScriptedStore) (event : StoreEvent) : ScriptedStore :=
  { s with events := s.events ++ [event] }

def settings (s : ScriptedStore) (connection : Nat) : ConnectionSettings :=
  s.connections.getD (connection - 1) {}

def change (s : ScriptedStore) (connection : Nat) (f : ConnectionSettings → ConnectionSettings) :
    ScriptedStore :=
  { s with connections := s.connections.modify (connection - 1) f }

def respond (s : ScriptedStore) (rows : ScriptedRows) : ScriptedStore :=
  { s with queued := s.queued ++ [rows] }

def violated? (s : ScriptedStore) (sql : String) : Option String :=
  (s.violations.find? fun p => p.1.toList.isPrefixOf sql.toList).map Prod.snd

def assignKey (s : ScriptedStore) : Value × ScriptedStore :=
  (.some (.integer .int64 (.clamp .int64 s.nextKey)), { s with nextKey := s.nextKey + 1 })

/-- Executes a statement: notes it, and fails when it violates a constraint or its reply is a
failure.  Gives the reply, if replies are scripted. -/
def execute (sql : String) : Run ScriptedStore (Option (RowsAffected × ScriptedRows)) := do
  modify (·.note (.executed sql))
  let s ← get
  match s.violated? sql with
  | some c => throw (.uniqueViolation c)
  | none =>
      match s.replies with
      | none => return none
      | some [] => return some ({}, {})
      | some (reply :: rest) =>
          set { s with replies := some rest }
          match reply with
          | .answer affected rows => return some (affected, rows)
          | .failure message => throw (.plain message)
          | .uniqueViolation c => throw (.uniqueViolation c)

def update (p : Prepared) : Run ScriptedStore RowsAffected := do
  match ← execute p.sql with
  | some (affected, _) => return affected
  | none =>
      if p.generatedKeys then
        let (key, s) := (← get).assignKey
        set s
        return ⟨1, [key]⟩
      else return ⟨1, []⟩

def query (p : Prepared) : Run ScriptedStore RowStream := do
  let reply ← execute p.sql
  if let some (_, rows) := reply then modify (·.respond rows)
  let s ← get
  match s.queued with
  | [] => return {}
  | response :: rest =>
      set { s with queued := rest }
      return { rows := response.rows.map (Row.ofValues response.labels) }

def perform : (call : Call) → Run ScriptedStore call.Answer
  | .connect => do
      let s ← get
      let id := s.connections.length + 1
      set ({ s with connections := s.connections ++ [({} : ConnectionSettings)] }.note (.opened id))
      return id
  | .metadata _ => return (← get).metadata
  | .prepare p => modify (·.note (.prepared p.sql p.generatedKeys))
  | .bind _ bound => modify (·.note (.bound bound))
  | .executeUpdate p => update p
  | .executeQuery p => query p
  | .commit c => modify (·.note (.committed c))
  | .rollback c => modify (·.note (.rolledBack c))
  | .isolation c => do
      let s ← get
      if s.isolationUnknown then return none
      else return s.reportedIsolation.or (s.settings c).isolation
  | .setIsolation c level =>
      modify fun s => (s.note (.isolationSet c level)).change c fun x =>
        { x with isolation := some level }
  | .autocommit c => do
      let s ← get
      return !s.reportsAutocommitOff && (s.settings c).autocommit
  | .setAutocommit c on => do
      if !on && (← get).losesSession then throw (.plain "The session was closed by the store")
      modify fun s => (s.note (.autocommitSet c on)).change c fun x => { x with autocommit := on }
  | .close c => modify (·.note (.closed c))

/-- What the store answers: a fault that strikes keeps the call from reaching it. -/
def answer (call : Call) : Run ScriptedStore call.Answer := do
  let s ← get
  match Fault.take call.kind s.faults with
  | some (message, faults) =>
      set { s with faults }
      throw (.plain message)
  | none => perform call

def driver (wireTypes : List WireType) : Driver ScriptedStore where
  name := "mock"
  wireTypes
  run := answer

end ScriptedStore

end TypedSql
