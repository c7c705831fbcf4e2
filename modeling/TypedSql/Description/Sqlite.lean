import TypedSql.Database.Execution
import TypedSql.Description.Row
import TypedSql.Description.Store
import TypedSql.Sqlite.Notebook

namespace TypedSql.Sqlite

inductive SessionStep where
  | insert (value : Value) (generatedKeys : Bool) (ending : String)
  | count
  | commit
  | rollback
  | autocommit
  | setAutocommit (on : Bool)
  | isolation
  | setIsolation (level : Isolation)

namespace SessionStep

def ofData (d : Data) : Described SessionStep := do
  match ← (d.field "do").toText with
  | "insert" =>
      return insert (← Value.ofData (d.field "value")) (d.field "keys").isSet
        ((d.field "suffix").text?.getD "")
  | "count" => return count
  | "commit" => return commit
  | "rollback" => return rollback
  | "autocommit" => return autocommit
  | "set_autocommit" => return setAutocommit (d.field "on").isSet
  | "isolation" => return isolation
  | "set_isolation" => return setIsolation (← Isolation.ofData (d.field "level"))
  | other => DescriptionFault.bad ("bad step " ++ other)

private def done (x : Run (Connection Notebook) Unit) : Run (Connection Notebook) Data := do
  x
  return .null

def play : SessionStep → Run (Connection Notebook) Data
  | insert v keys ending => do
      let p : Prepared := ⟨0, "INSERT INTO t (x) VALUES (?)" ++ ending, keys⟩
      Connection.prepare Notebook.engine p
      Connection.bind (.ofValue 0 (v.type?.getD .varchar) v)
      return (← Connection.executeUpdate Notebook.engine p).toData
  | count => do
      let p : Prepared := ⟨0, "SELECT COUNT(*) FROM t", false⟩
      Connection.prepare Notebook.engine p
      let stream ← Connection.executeQuery Notebook.engine p
      let values ← Run.ofExcept ((stream.rows.flatMap fun r =>
        (List.range r.size).map r.value).mapM id)
      return (values.headD .null).toData
  | commit => done (Connection.commit Notebook.engine)
  | rollback => done (Connection.rollback Notebook.engine)
  | autocommit => return .bool (← get).autocommit
  | setAutocommit on => done (Connection.setAutocommit Notebook.engine on)
  | isolation => return .ofOption Isolation.toData (← Connection.isolation Notebook.engine)
  | setIsolation level => done (Connection.setIsolation Notebook.engine level)

def playAll (c : Connection Notebook) : List SessionStep → List Data
  | [] => []
  | s :: rest =>
      let (outcome, c) := s.play c
      .fields [("result", .ofResult id outcome),
        ("in_transaction", .bool (Notebook.engine.inTransaction c.engine))] :: playAll c rest

end SessionStep

def echoSql (parameters : Nat) : String :=
  "SELECT " ++ String.intercalate ", " (List.replicate parameters "?")

private def echoDatabase : Session (Store Notebook) (Database (Store Notebook)) :=
  Database.build { registry := ⟨[.sqlite]⟩, fallbackLogger := false }
    (Store.driver Notebook.engine) none

/-- Parameters as they are stored, and as their own types read them from there. -/
def readBack (parameters : List Parameter) : Except Error Data := do
  let query : Session (Store Notebook) (List LabelledRow) := do
    let db ← echoDatabase
    db.query (.raw ⟨echoSql parameters.length, parameters⟩)
  let rows ← (query { store := { fresh := {} } }).1
  match rows with
  | [] => throw (.engine .noRows)
  | row :: _ =>
      let fields ← (parameters.mapIdx fun i p => (i, p.codec.type)).mapM fun (i, t) => do
        return Data.fields [("stored", ((row.values[i]?).getD .null).toData),
          ("back", ← Data.ofOutcome (.ofOption Native.toData) (row.getIndex (Codec.ofType t) i))]
      return .fields [("fields", .list fields)]

/-- Values as they are stored, sent without a codec.  Nulls may be sent as such. -/
def sendBack (values : List Value) (routesNulls : Bool) : Except Error Data := do
  let p : Prepared := ⟨0, echoSql values.length, false⟩
  let run : Run (Connection Notebook) RowStream := do
    Connection.prepare Notebook.engine p
    (values.mapIdx fun i v => (i, v)).forM fun (i, v) =>
      Connection.bind
        (if routesNulls then .ofValue i (v.type?.getD .varchar) v else .bind i v)
    Connection.executeQuery Notebook.engine p
  let stream ← (run { engine := {} }).1
  let fields ← stream.rows.mapM fun row => do
    let values ← row.values
    return (values.zip row.nulls).map fun (v, isNull) => Data.list [v.toData, .bool isNull]
  return .fields [("fields", .list fields.flatten)]

end TypedSql.Sqlite
