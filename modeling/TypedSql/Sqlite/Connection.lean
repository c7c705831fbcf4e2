import TypedSql.Sqlite.Engine
import TypedSql.Text.Blank

namespace TypedSql.Sqlite

/-! Connections to SQLite, which has no autocommit to switch off.  While a connection has it off,
the first statement begins a transaction; a commit or a rollback ends it, and the next statement
begins another one. -/

structure Connection (ε : Type) where
  engine : ε
  autocommit : Bool := true
  parameters : List (Nat × Storage) := []

namespace Connection

variable {ε α : Type}

def onEngine (x : Run ε α) : Run (Connection ε) α :=
  x.within Connection.engine fun engine c => { c with engine }

def beginIfNeeded (g : Engine ε) : Run (Connection ε) Unit := do
  let c ← get
  if !c.autocommit && !g.inTransaction c.engine then onEngine (g.control .begin)

/-- The statement as it is prepared: the keys that it assigns are asked for behind it. -/
def preparedText (p : Prepared) : String :=
  if p.generatedKeys then
    let trimmed := ((Text.trimEnd p.sql).toList.reverse.dropWhile (· == ';')).reverse
    String.ofList trimmed ++ " RETURNING rowid"
  else p.sql

def prepare (g : Engine ε) (p : Prepared) : Run (Connection ε) Unit := do
  beginIfNeeded g
  onEngine (g.prepare (preparedText p))
  modify ({ · with parameters := [] })

def finish (g : Engine ε) (control : Control) : Run (Connection ε) Unit := do
  if g.inTransaction (← get).engine then onEngine (g.control control)

def commit (g : Engine ε) : Run (Connection ε) Unit := finish g .commit

def rollback (g : Engine ε) : Run (Connection ε) Unit := finish g .rollback

def isolation (g : Engine ε) : Run (Connection ε) (Option Isolation) := do
  let c ← get
  return some (if g.readsUncommitted c.engine then .readUncommitted else .serializable)

def setIsolation (g : Engine ε) (level : Isolation) : Run (Connection ε) Unit :=
  onEngine (g.control (.setReadUncommitted (level = .readUncommitted)))

/-- Switches autocommit; switching it on commits the open transaction. -/
def setAutocommit (g : Engine ε) (on : Bool) : Run (Connection ε) Unit := do
  if on then commit g
  modify ({ · with autocommit := on })

def bind : BindCall → Run (Connection ε) Unit
  | .bind i v => do
      let stored ← Run.ofExcept (store v)
      modify fun c => { c with parameters := (i, stored.kept) :: c.parameters }
  | .bindNull i _ => modify fun c => { c with parameters := (i, .null) :: c.parameters }

def execute (g : Engine ε) (p : Prepared) : Run (Connection ε) Outcome := do
  let sent := (← get).parameters
  onEngine (g.execute (preparedText p) fun i => (sent.lookup i).getD .null)

def executeUpdate (g : Engine ε) (p : Prepared) : Run (Connection ε) RowsAffected := do
  let outcome ← execute g p
  match outcome.failure with
  | some e => throw e
  | none =>
      if p.generatedKeys then
        return ⟨outcome.rows.length, outcome.rows.map fun row => (row.headD .null).toValue⟩
      else return ⟨outcome.changes, []⟩

def executeQuery (g : Engine ε) (p : Prepared) : Run (Connection ε) RowStream := do
  let outcome ← execute g p
  return { rows := outcome.rows.map fun row => .ofValues outcome.labels (row.map Storage.toValue)
           failure := outcome.failure }

end Connection

def keywords : List String :=
  ["abort", "analyze", "attach", "autoincrement", "conflict", "database", "detach", "exclusive",
   "explain", "fail", "glob", "ignore", "indexed", "instead", "isnull", "notnull", "offset",
   "plan", "pragma", "raise", "regexp", "reindex", "rename", "replace", "temp", "vacuum",
   "virtual", "without"]

def metadata (version : String) : StoreMetadata where
  product := "SQLite"
  version := version
  keywords := keywords

/-- Connections by their number, the first of which is zero.  Each has an engine of its own. -/
structure Store (ε : Type) where
  fresh : ε
  connections : List (Connection ε) := []

namespace Store

variable {ε α : Type}

def connection (s : Store ε) (id : Nat) : Connection ε :=
  s.connections.getD id { engine := s.fresh }

def onConnection (id : Nat) (x : Run (Connection ε) α) : Run (Store ε) α :=
  x.within (·.connection id) fun c s => { s with connections := s.connections.set id c }

private def connect : Run (Store ε) Nat := do
  let s ← get
  let opened : Connection ε := { engine := s.fresh }
  set { s with connections := s.connections ++ [opened] }
  return s.connections.length

def driver (g : Engine ε) : Driver (Store ε) where
  name := "sqlite"
  wireTypes := WireType.all
  run := fun
    | .connect => connect
    | .metadata _ => return metadata g.version
    | .prepare p => onConnection p.connection (Connection.prepare g p)
    | .bind p bound => onConnection p.connection (Connection.bind bound)
    | .executeUpdate p => onConnection p.connection (Connection.executeUpdate g p)
    | .executeQuery p => onConnection p.connection (Connection.executeQuery g p)
    | .commit c => onConnection c (Connection.commit g)
    | .rollback c => onConnection c (Connection.rollback g)
    | .isolation c => onConnection c (Connection.isolation g)
    | .setIsolation c level => onConnection c (Connection.setIsolation g level)
    | .autocommit c => onConnection c (return (← get).autocommit)
    | .setAutocommit c on => onConnection c (Connection.setAutocommit g on)
    | .close _ => return

end Store

end TypedSql.Sqlite
