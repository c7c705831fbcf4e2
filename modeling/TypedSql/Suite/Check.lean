import TypedSql.Codec.Plain
import TypedSql.Database.Entity

namespace TypedSql.Suite

/-! Checks of acceptance suites.  A suite ends at the first check that fails, with a panic that
names the check. -/

open Session

variable {σ α : Type}

def check (holds : Bool) (name : String) : Session σ Unit :=
  if holds then pure () else throw (.panic name)

def assert (holds : Bool) : Session σ Unit := check holds "assertion"

def expect (name : String) (x : Session σ α) : Session σ α := do
  match ← x.attempt with
  | .ok a => return a
  | .error e => throw (if e.isPanic then e else .panic name)

def expectFailure (name : String) (x : Session σ α) : Session σ Error := do
  match ← x.attempt with
  | .ok _ => throw (.panic name)
  | .error e => if e.isPanic then throw e else return e

def expectSome (name : String) : Option α → Session σ α
  | some a => return a
  | none => throw (.panic name)

def expectBuilt (name : String) (x : Except ConstructionFault α) : Session σ α :=
  expect name (conclude (x.mapError .construction))

def unwrap (x : Except Error α) : Session σ α := expect "unwrap" (conclude x)

def unwrapSome : Option α → Session σ α := expectSome "unwrap"

def field (x : Except Error (Option α)) : Session σ α := do
  unwrapSome (← unwrap x)

def runText (db : Database σ) (sql : String) : Session σ RowsAffected :=
  db.executeUpdate (.ofText sql)

end TypedSql.Suite
