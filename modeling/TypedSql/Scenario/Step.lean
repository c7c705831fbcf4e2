import TypedSql.Database.Settings
import TypedSql.Description.Row
import TypedSql.Description.Statement
import TypedSql.Store.Scripted

namespace TypedSql.Scenario

/-! Scenarios: what a program does with a database, step by step.  Steps hold other steps where the
library runs code of the program. -/

/-- The two stores of a scenario: that of the database, and that of whoever owns the transactions
when the database does not. -/
inductive Side where
  | own | external
deriving DecidableEq, Repr

inductive RollbackRule where
  | any | never | failure | driver
deriving DecidableEq, Repr

namespace RollbackRule

def rollsBack : RollbackRule → Error → Bool
  | any, _ => true
  | never, _ => false
  | failure, .failure _ => true
  | failure, _ => false
  | driver, .driver _ _ => true
  | driver, _ => false

end RollbackRule

inductive ConnectionCall where
  | commit
  | rollback
  | isolation
  | setIsolation (isolation : Isolation)
  | autocommit
  | setAutocommit (on : Bool)
  | metadata
  | update (sql : String) (generatedKeys : Bool) (values : List Value)
  | query (sql : String)

inductive TransactionCall where
  | commit | rollback | close | state
deriving DecidableEq, Repr

inductive SettingsChange where
  | casing (casing : KeywordCasing)
  | dialect (dialect : Dialect)
  | failureMap (map : FailureMap)
  | codec (type : WireType)
  | table (table : Table Record)

inductive Instruction where
  | respond (rows : ScriptedRows)
  | violate (start constraint : String)
  | loseSession
  | fault (fault : Fault)
  | clearFaults

inductive SuiteName where
  | users | books | transactions | all
deriving DecidableEq, Repr

mutual

inductive Action where
  | executeUpdate (statement : Buildable Statement)
  | compile (statement : Buildable Statement)
  | query (statement : Buildable Statement) (accesses : List FieldAccess)
  /-- The steps are run for every row; the row of the number `failAt` fails after them. -/
  | queryWith (statement : Buildable Statement) (steps : List Step) (failAt : Option Nat)
      (failure : Error)
  | queryAs (table : Table Record) (select : Buildable Select)
  | insertEntities (table : Table Record) (entities : List Record)
  | updateEntity (table : Table Record) (entity : Record)
  | deleteEntity (table : Table Record) (entity : Record)
  | tableValues (table : Table Record) (entity : Record)
  | tableGet (table : Table Record) (column : ColumnRef) (entity : Record)
  | tableSet (table : Table Record) (column : ColumnRef) (entity : Record) (value : Value)
  | primaryKeys (table : Table Record)
  | transaction (isolation : Option Isolation) (rule : Option RollbackRule) (steps : List Step)
  | connection (steps : List Step)
  | transactionConnection (name : Option String) (steps : List Step)
  | connectionCall (call : ConnectionCall)
  | newTransaction (name : String) (isolation : Option Isolation)
  | transactionCall (name : Option String) (call : TransactionCall)
  | current
  | fail (failure : Error)
  | panic (message : String)
  | info
  | configure (change : SettingsChange) (name : String)
  | instruct (side : Side) (instruction : Instruction)
  | silent (steps : List Step)
  | debug
  /-- The replies are those of the beginning, some of them replaced and the last ones left out. -/
  | suite (name : SuiteName) (side : Side) (replaced : List (Nat × Reply)) (count : Option Nat)
  | ensureLogger
  | thread (steps : List Step)

structure Step where
  action : Action
  database : String
  required : Bool
  counted : Option Side

end

end TypedSql.Scenario
