import TypedSql.Log
import TypedSql.Store.Driver

namespace TypedSql

/-! What the threads of a program share while they use databases: the store, the transactions, and
the reports. -/

inductive LogSink where
  | collecting
  | console
deriving DecidableEq, Repr

structure Logging where
  level : Option LogLevel := some .debug
  sink : Option LogSink := some .collecting
  records : List LogRecord := []
deriving DecidableEq

namespace LogSink

def mildest : LogSink → LogLevel
  | collecting => .debug
  | console => .info

end LogSink

namespace Logging

def takes (l : Logging) (level : LogLevel) : Bool :=
  match l.level, l.sink with
  | some wanted, some sink => level.rank ≤ wanted.rank && level.rank ≤ sink.mildest.rank
  | _, _ => false

def add (l : Logging) (r : LogRecord) : Logging :=
  if l.takes r.level then { l with records := l.records ++ [r] } else l

def ensure (l : Logging) : Bool × Logging :=
  if l.level.isNone && l.sink.isNone then
    (true, { l with level := some .info, sink := some .console })
  else (false, l)

end Logging

structure OpenConnection where
  connection : Nat
  isolation : Option Isolation
  autocommit : Bool
deriving DecidableEq, Repr

/-- Where a transaction stands.  The connection is missing before the first use and again when the
transaction has been closed. -/
structure TransactionState where
  opened : Option OpenConnection := none
  inUse : Bool := false
deriving DecidableEq, Repr

structure Transaction where
  id : Nat
  manager : Nat
  isolation : Option Isolation
deriving DecidableEq, Repr

structure World (σ : Type) where
  store : σ
  thread : Nat := 0
  threads : Nat := 1
  managers : Nat := 0
  /-- The transaction that a thread has begun with a manager and not closed yet. -/
  bound : List ((Nat × Nat) × Transaction) := []
  transactions : List TransactionState := []
  logging : Logging := {}

namespace World

variable {σ : Type}

def current? (w : World σ) (manager : Nat) : Option Transaction :=
  w.bound.lookup (w.thread, manager)

def bind (w : World σ) (t : Transaction) : World σ :=
  { w with bound := ((w.thread, t.manager), t) :: w.bound }

/-- Takes a transaction away from the running thread, if it is the one that is bound there. -/
def unbind (w : World σ) (t : Transaction) : World σ :=
  if w.current? t.manager = some t then
    { w with bound := w.bound.filter fun entry => entry.1 ≠ (w.thread, t.manager) }
  else w

def state (w : World σ) (t : Transaction) : TransactionState :=
  w.transactions.getD t.id {}

def setState (w : World σ) (t : Transaction) (s : TransactionState) : World σ :=
  { w with transactions := w.transactions.set t.id s }

def isOpen (w : World σ) (t : Transaction) : Bool :=
  (w.state t).inUse || (w.state t).opened.isSome

end World

abbrev Session (σ α : Type) := Run (World σ) α

namespace Session

variable {σ α : Type}

def call (d : Driver σ) (c : Call) : Session σ c.Answer :=
  (d.run c).within World.store fun s w => { w with store := s }

def log (level : LogLevel) (source : LogSource) (message : String) : Session σ Unit :=
  modify fun w => { w with logging := w.logging.add ⟨level, source, message⟩ }

def conclude : Except Error α → Session σ α := Run.ofExcept

def reporting (level : LogLevel) (source : LogSource) (what : String) (x : Session σ Unit) :
    Session σ Unit := do
  match ← x.attempt with
  | .ok () => return
  | .error e => log level source (what ++ ": " ++ e.fullMessage)

end Session

end TypedSql
