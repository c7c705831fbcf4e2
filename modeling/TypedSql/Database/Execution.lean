import TypedSql.Database.Basic

namespace TypedSql

/-! Running statements.  What the store reports as a failure comes back with the statement; what the
reader of the rows reports comes back as it is. -/

namespace CompiledSql

def bindings (c : CompiledSql) : List BindCall :=
  c.parameters.mapIdx fun i p => .ofValue i p.codec.type p.value

end CompiledSql

namespace Database

open Session

variable {σ α β : Type}

def logStatement (c : CompiledSql) : Session σ Unit := do
  log .debug .database ("SQL: " ++ c.sql)
  (c.parameters.mapIdx fun i p => (i, p)).forM fun (i, p) =>
    log .debug .database s!"Parameter {i}: {p.value.display}({p.codec.type.sqlName})"

def mappingFailure (db : Database σ) (sql : String) (x : Session σ α) : Session σ α := do
  match ← x.attempt with
  | .ok a => return a
  | .error e => throw (db.settings.mapFailure sql e)

def prepare (db : Database σ) (connection : Nat) (c : CompiledSql) (generatedKeys : Bool) :
    Session σ Prepared := do
  let p : Prepared := ⟨connection, c.sql, generatedKeys⟩
  db.mappingFailure c.sql (call db.manager.driver (.prepare p))
  return p

def sendBindings (db : Database σ) (p : Prepared) (c : CompiledSql) : Session σ Unit :=
  c.bindings.forM fun b => call db.manager.driver (.bind p b)

def update (db : Database σ) (c : CompiledSql) (generatedKeys : Bool) :
    Session σ RowsAffected := do
  logStatement c
  let result ← db.useConnection fun connection => do
    let p ← db.prepare connection c generatedKeys
    db.mappingFailure c.sql do
      db.sendBindings p c
      call db.manager.driver (.executeUpdate p)
  log .debug .database s!"Rows affected: {result.rows}"
  return result

def executeUpdate (db : Database σ) (statement : Statement) : Session σ RowsAffected := do
  db.update (← db.compile statement) false

/-- Gathers something from the rows of a statement while they come in; a failure to read one keeps
the others from coming. -/
def foldRows (db : Database σ) (statement : Statement) (init : β)
    (f : β → Row → Session σ β) : Session σ β := do
  let c ← db.compile statement
  logStatement c
  let (gathered, count) ← db.useConnection fun connection => do
    let p ← db.prepare connection c false
    let stream ← db.mappingFailure c.sql do
      db.sendBindings p c
      call db.manager.driver (.executeQuery p)
    let gathered ← stream.rows.foldlM f init
    match stream.failure with
    | some e => throw (db.settings.mapFailure c.sql e)
    | none => return (gathered, stream.rows.length)
  log .debug .database s!"Rows returned: {count}"
  return gathered

def queryWith (db : Database σ) (statement : Statement) (f : Row → Session σ Unit) :
    Session σ Nat :=
  db.foldRows statement 0 fun count row => do
    f row
    return count + 1

/-- Reads every row of a statement into memory, with the labels of the first. -/
def query (db : Database σ) (statement : Statement) : Session σ (List LabelledRow) := do
  let columns := statement.resultColumns?.getD []
  let rows ← db.foldRows statement ([] : List LabelledRow) fun rows row => do
    let labels := ((rows.head?).map LabelledRow.labels).getD row.labels
    return rows ++ [← conclude (LabelledRow.read row labels columns)]
  return rows

def queryAs {E : Type} (db : Database σ) (t : Table E) (initial : E) (select : Select) :
    Session σ (List E) :=
  db.foldRows (.select select) [] fun entities row => do
    return entities ++ [← conclude (t.decode initial row select.resultColumns)]

end Database

end TypedSql
