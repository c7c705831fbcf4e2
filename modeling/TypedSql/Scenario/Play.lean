import TypedSql.Description.Database
import TypedSql.Scenario.Stage
import TypedSql.Suite.Books
import TypedSql.Suite.Transactions
import TypedSql.Suite.Users

namespace TypedSql.Scenario

/-! Playing scenarios.  A step that fails is recorded, and the steps behind it go on unless it is
required; a panic goes past every step around it to the outermost one. -/

open Session

structure Scene where
  database : Database Stage
  replies : Side → List Reply

structure Place where
  path : String
  transaction : Option Transaction := none
  connection : Option Nat := none

namespace Place

def inner (p : Place) (name : String) : Place := { p with path := p.path ++ "." ++ name }

end Place

private def built {α : Type} (x : Buildable α) : Session Stage α :=
  conclude (x.mapError .construction)

private def resultOf {α : Type} (describe : α → Data) (x : Except Error α) :
    Session Stage Data :=
  conclude (Data.ofOutcome describe x)

private def usageOf {α : Type} (x : Except UsageFault α) : Session Stage α :=
  conclude (x.mapError .usage)

private def describeTransaction (t : Transaction) : Session Stage (List (String × Data)) := do
  let w ← get
  return [("isolation", .ofOption Isolation.toData t.isolation), ("open", .bool (w.isOpen t))]

private def debugTransaction (t : Transaction) : Session Stage String := do
  let isolation :=
    match t.isolation with
    | some i => s!"Some({i.tag})"
    | none => "None"
  return s!"Transaction \x7b isolation: {isolation}, open: {(← get).isOpen t} \x7d"

private def findTransaction (p : Place) (name : Option String) : Session Stage Transaction := do
  let found ←
    match name with
    | some n => look fun s => s.transactions.lookup n
    | none => pure p.transaction
  match found with
  | some t => return t
  | none => throw (.unreadable ("unknown transaction " ++ name.getD ""))

private def callTransaction (db : Database Stage) (t : Transaction) :
    TransactionCall → Session Stage Data
  | .commit => do
      t.commit db.manager.driver
      return .null
  | .rollback => do
      t.rollback db.manager.driver
      return .null
  | .close => do
      t.close db.manager.driver
      return .null
  | .state => do
      return .fields ((← describeTransaction t) ++ [("debug", .text (← debugTransaction t))])

private def callConnection (d : Driver Stage) (c : Nat) : ConnectionCall → Session Stage Data
  | .commit => do
      call d (.commit c)
      return .null
  | .rollback => do
      call d (.rollback c)
      return .null
  | .isolation => return .ofOption Isolation.toData (← call d (.isolation c))
  | .setIsolation i => do
      call d (.setIsolation c i)
      return .null
  | .autocommit => return .bool (← call d (.autocommit c))
  | .setAutocommit on => do
      call d (.setAutocommit c on)
      return .null
  | .metadata => do
      let m ← call d (.metadata c)
      return .text m.product
  | .update sql keys values => do
      let p : Prepared := ⟨c, sql, keys⟩
      call d (.prepare p)
      (values.mapIdx fun i v => (i, v)).forM fun (i, v) =>
        call d (.bind p (.ofValue i (v.type?.getD .varchar) v))
      let result ← call d (.executeUpdate p)
      return RowsAffected.toData result
  | .query sql => do
      let p : Prepared := ⟨c, sql, false⟩
      call d (.prepare p)
      let stream ← call d (.executeQuery p)
      match RowStream.failure stream with
      | some e => throw e
      | none => return .ofNat (RowStream.rows stream).length

private def findDatabase (scene : Scene) (name : String) : Session Stage (Database Stage) := do
  match ← look fun s => s.databases.lookup name with
  | some settings => return scene.database.withSettings settings
  | none => throw (.unreadable ("unknown database " ++ name))

private def changedSettings (db : Database Stage) :
    SettingsChange → Session Stage DatabaseSettings
  | .casing casing => return db.settings.withCasing casing
  | .dialect dialect => return db.settings.withDialect dialect
  | .failureMap map => return db.settings.withFailureMap map
  | .codec type => db.withCodecs [.ofType type]
  | .table t => db.withTable t

private def configure (db : Database Stage) (change : SettingsChange) (name : String) :
    Session Stage Data := do
  let settings ← changedSettings db change
  arrange fun s => { s with databases := (name, settings) :: s.databases }
  return (db.withSettings settings).toData

private def debugDatabase (db : Database Stage) : String :=
  let s := db.settings
  "Database \x7b driver: Mock, product: " ++ Text.quoted s.metadata.product ++ ", dialect: " ++
    Text.quoted s.dialect.name ++
    ", transaction_manager: ExternalTransactionManager \x7b .. \x7d \x7d"

private def instruct (i : Instruction) (s : ScriptedStore) : ScriptedStore :=
  match i with
  | .respond rows => s.respond rows
  | .violate start constraint => { s with violations := s.violations ++ [(start, constraint)] }
  | .loseSession => { s with losesSession := true }
  | .fault f => { s with faults := s.faults ++ [f] }
  | .clearFaults => { s with faults := [] }

private def runSuite (db : Database Stage) : SuiteName → Session Stage Unit
  | .users => Suite.users db
  | .books => Suite.books db
  | .transactions => Suite.transactions db
  | .all => do
      Suite.users db
      Suite.books db
      Suite.transactions db

private def adjusted (replies : List Reply) (replaced : List (Nat × Reply))
    (count : Option Nat) : List Reply :=
  let all := replies.mapIdx fun i reply => (replaced.lookup i).getD reply
  match count with
  | some n => all.take n
  | none => all

private def playSuite (db : Database Stage) (name : SuiteName) (side : Side)
    (replies : List Reply) : Session Stage Data := do
  arrange (·.withStore side fun s => { s with replies := some replies })
  let failed :=
    match ← (runSuite db name).attempt with
    | .ok () => Data.null
    | .error e => .text e.message
  let left ← look fun s => ((s.store side).replies.getD []).length
  return .fields [("failed", failed), ("left", .ofNat left)]

private def withCounts (side : Side) (answer : Data) : Session Stage Data := do
  let events ← look fun s => (s.store side).events
  let count (p : StoreEvent → Bool) : Data := .ofNat (events.countP p)
  return .fields [("value", answer),
    ("opened", count fun | .opened _ => true | _ => false),
    ("closed", count fun | .closed _ => true | _ => false),
    ("commits", count fun | .committed _ => true | _ => false),
    ("rollbacks", count fun | .rolledBack _ => true | _ => false),
    ("binds", count fun | .bound _ => true | _ => false),
    ("statements", .list (events.filterMap fun
      | .prepared sql _ => some (.text sql)
      | _ => none))]

private def describeRows (accesses : List FieldAccess) (rows : List LabelledRow) :
    Except Error Data := do
  let described ← rows.mapM fun r => do
    return Data.fields [("values", .ofList Value.toData r.values),
      ("gets", .list (← accesses.mapM (FieldAccess.read r)))]
  return .fields [("len", .ofNat rows.length), ("empty", .bool rows.isEmpty),
    ("labels", .ofOption (fun r => .ofList .text r.labels) rows.head?),
    ("rows", .list described)]

private def see (row : Row) : Session Stage Unit := do
  let fields ← (List.range row.size).mapM fun i => do
    return Data.list [.text (row.label i), (← conclude (row.value i)).toData,
      .bool (row.wasNull i)]
  arrange fun s => { s with seen := s.seen ++ [.list fields] }

/-- Runs a query whose rows are noted; they are part of the answer even if the query fails. -/
private def seeing (x : Session Stage Nat) : Session Stage Data := do
  let before ← look Stage.seen
  arrange ({ · with seen := [] })
  let outcome ← x.attempt
  let seen ← look Stage.seen
  arrange ({ · with seen := before })
  return .fields [("seen", .list seen), ("result", ← resultOf .ofNat outcome)]

private def onThread (x : Session Stage Unit) : Session Stage Unit := do
  let w ← get
  set { w with thread := w.threads, threads := w.threads + 1,
               store := { w.store with transactions := [] } }
  let outcome ← x.attempt
  modify fun after =>
    { after with
      thread := w.thread
      bound := after.bound.filter fun entry => entry.1.1 ≠ w.threads
      store := { after.store with transactions := w.store.transactions } }
  conclude outcome

mutual

def Step.play (scene : Scene) (p : Place) (s : Step) : Session Stage Data :=
  match s with
  | ⟨action, database, _, counted⟩ => do
      let db ← findDatabase scene database
      let answer ← action.play scene p db
      match counted with
      | some side => withCounts side answer
      | none => return answer
termination_by structural s

def Action.play (scene : Scene) (p : Place) (db : Database Stage) (a : Action) :
    Session Stage Data :=
  match a with
  | .executeUpdate statement => do
      return (← db.executeUpdate (← built statement)).toData
  | .compile statement => do
      let c ← db.compile (← built statement)
      return .fields [("sql", .text c.sql), ("params", .ofList Parameter.toData c.parameters)]
  | .query statement accesses => do
      let rows ← db.query (← built statement)
      conclude (describeRows accesses rows)
  | .queryWith statement steps failAt failure => do
      let statement ← built statement
      seeing (db.foldRows statement 0 fun n row => do
        see row
        playSteps scene { p.inner s!"row{n}" with connection := none } 0 steps
        if failAt = some n then throw failure
        return n + 1)
  | .queryAs t select => do
      return .ofList Record.toData (← db.queryAs t {} (← built select))
  | .insertEntities t entities => do
      let inserted ← db.insertEntities t entities
      return .fields [("result", ← resultOf RowsAffected.toData inserted.outcome),
        ("entities", .ofList Record.toData inserted.entities)]
  | .updateEntity t e => return (← db.updateEntity t e).toData
  | .deleteEntity t e => return (← db.deleteEntity t e).toData
  | .tableValues t e =>
      return .ofList (fun (c, v) => .list [.text c.name, Value.toData v]) (t.values e)
  | .tableGet t c e => return (← usageOf (t.get e c)).toData
  | .tableSet t c e v => return (← conclude (t.set e c (.single v v.isNull) 0)).toData
  | .primaryKeys t => return .ofList (fun c => .text c.name) (← usageOf t.primaryKeys)
  | .transaction isolation rule steps => do
      let body (t : Transaction) : Session Stage Data := do
        playSteps scene { p with transaction := some t, connection := none } 0 steps
        return .fields (← describeTransaction t)
      match isolation, rule with
      | none, none => db.useTransaction body
      | _, _ => db.useTransactionWith isolation (rule.getD .any).rollsBack body
  | .connection steps => do
      db.useConnection fun c => playSteps scene { p with connection := some c } 0 steps
      return .null
  | .transactionConnection name steps => do
      let t ← findTransaction p name
      t.withConnection db.manager.driver fun c =>
        playSteps scene { p with connection := some c } 0 steps
      return .null
  | .connectionCall c =>
      match p.connection with
      | some connection => callConnection db.manager.driver connection c
      | none => throw (.unreadable "no connection")
  | .newTransaction name isolation => do
      let t ← db.manager.begin isolation
      arrange fun s => { s with transactions := (name, t) :: s.transactions }
      return .fields (← describeTransaction t)
  | .transactionCall name c => do
      callTransaction db (← findTransaction p name) c
  | .current => do
      match ← db.manager.current? with
      | none => return .null
      | some t =>
          return .fields ((← describeTransaction t) ++ [("same", .bool (p.transaction = some t))])
  | .fail e => throw e
  | .panic message => throw (.panic message)
  | .info => return db.toData
  | .configure change name => configure db change name
  | .instruct side i => do
      arrange (·.withStore side (instruct i))
      return .null
  | .silent steps => do
      let level := (← get).logging.level
      let wanting (level : Option LogLevel) : Session Stage Unit :=
        modify fun w => { w with logging := { w.logging with level } }
      wanting none
      let outcome ← (playSteps scene { p with connection := none } 0 steps).attempt
      match outcome with
      | .error e => if e.isPanic then throw e
      | .ok () => pure ()
      wanting level
      conclude outcome
      return .null
  | .debug => return .text (debugDatabase db)
  | .suite name side replaced count =>
      playSuite db name side (adjusted (scene.replies side) replaced count)
  | .ensureLogger => do
      let w ← get
      let (installed, logging) := w.logging.ensure
      set { w with logging }
      return .bool installed
  | .thread steps => do
      onThread (playOutermost scene ⟨p.path ++ ".", none, none⟩ 0 steps)
      return .null
termination_by structural a

def playSteps (scene : Scene) (p : Place) (index : Nat) (steps : List Step) :
    Session Stage Unit :=
  match steps with
  | [] => return
  | s :: rest => do
      let inner := p.inner (toString index)
      match ← (s.play scene inner).attempt with
      | .ok answer => record inner.path (.ok answer)
      | .error e =>
          if e.isPanic then throw e
          record inner.path (.error e)
          if s.required then throw e
      playSteps scene p (index + 1) rest
termination_by structural steps

def playOutermost (scene : Scene) (p : Place) (index : Nat) (steps : List Step) :
    Session Stage Unit :=
  match steps with
  | [] => return
  | s :: rest => do
      let here := { p with path := p.path ++ toString index }
      record here.path (← (s.play scene here).attempt)
      playOutermost scene p (index + 1) rest
termination_by structural steps

end

end TypedSql.Scenario
