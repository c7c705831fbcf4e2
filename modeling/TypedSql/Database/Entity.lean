import TypedSql.Database.Execution

namespace TypedSql

/-! Entities in and out of a database: one statement each, matched by primary key. -/

structure Inserted (E : Type) where
  entities : List E
  outcome : Except Error RowsAffected

namespace Table

variable {E : Type}

def assignments (t : Table E) (e : E) (wanted : ColumnRef → Value → Bool) :
    Except ConstructionFault (List Assignment) :=
  ((t.values e).filter fun (c, v) => wanted c v).mapM fun (c, v) =>
    Assignment.of c (.parameter ⟨v, c.codec⟩)

/-- The primary keys that the store has to assign: those that the entity leaves null. -/
def missingKeys (t : Table E) (e : E) : List ColumnRef :=
  ((t.values e).filter fun (c, v) => c.primaryKey && v.isNull).map Prod.fst

def insertOf (t : Table E) (e : E) : Except ConstructionFault Insert := do
  Insert.ofAssignments t.ref (← t.assignments e fun c v => !(c.primaryKey && v.isNull))

def keyFilter (t : Table E) (e : E) : Except UsageFault Expr := do
  let conditions ← (← t.primaryKeys).mapM fun c => do
    return (Expr.column c).eq (.parameter ⟨← t.get e c, c.codec⟩)
  match conditions with
  | [] => throw (.noPrimaryKey t.ref.name)
  | first :: rest => return rest.foldl Expr.and first

def updateOf (t : Table E) (e : E) : Except Error Update := do
  let filter ← (t.keyFilter e).mapError Error.usage
  let assignments ← (t.assignments e fun c _ => !c.primaryKey).mapError Error.construction
  return (← (Update.of t.ref assignments).mapError Error.construction).addFilter filter

def deleteOf (t : Table E) (e : E) : Except Error Delete := do
  let filter ← (t.keyFilter e).mapError Error.usage
  return Delete.addFilter { table := t.ref } filter

end Table

namespace Database

open Session

variable {σ E : Type}

/-- Inserts an entity; the key that the store assigns in place of a single null is read back. -/
def insertEntity (db : Database σ) (t : Table E) (e : E) : Session σ (E × RowsAffected) := do
  let insert ← conclude ((t.insertOf e).mapError Error.construction)
  let missing := t.missingKeys e
  let result ← db.update (← db.compile (.insert insert)) !missing.isEmpty
  match missing, result.keys with
  | [column], key :: _ =>
      return (← conclude (t.set e column (.single key key.isNull) 0), result)
  | _, _ => return (e, result)

def insertAll (db : Database σ) (t : Table E) (total : RowsAffected) :
    List E → Session σ (Inserted E)
  | [] => return ⟨[], .ok total⟩
  | e :: es => do
      match ← (db.insertEntity t e).attempt with
      | .error err =>
          if err.isPanic then throw err
          return ⟨e :: es, .error err⟩
      | .ok (e, result) =>
          let rest ← db.insertAll t (total.add result) es
          return { rest with entities := e :: rest.entities }

def insertEntities (db : Database σ) (t : Table E) (entities : List E) :
    Session σ (Inserted E) :=
  db.insertAll t {} entities

def updateEntity (db : Database σ) (t : Table E) (e : E) : Session σ RowsAffected := do
  db.executeUpdate (.update (← conclude (t.updateOf e)))

def deleteEntity (db : Database σ) (t : Table E) (e : E) : Session σ RowsAffected := do
  db.executeUpdate (.delete (← conclude (t.deleteOf e)))

end Database

end TypedSql
