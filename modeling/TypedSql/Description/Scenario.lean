import TypedSql.Scenario.Play

namespace TypedSql.Scenario

open DescriptionFault (bad)

namespace Side

def ofData (d : Data) : Side := if (d.field "external").isSet then external else own

end Side

namespace RollbackRule

def ofData (d : Data) : Described RollbackRule :=
  Described.oneOf [("any", any), ("never", never), ("failure", failure), ("driver", driver)] d

end RollbackRule

namespace TransactionCall

def ofData (d : Data) : Described TransactionCall :=
  Described.oneOf
    [("commit", commit), ("rollback", rollback), ("close", close), ("state", state)] d

end TransactionCall

namespace SuiteName

def ofData (d : Data) : Described SuiteName :=
  Described.oneOf
    [("users", users), ("books", books), ("transactions", transactions), ("all", all)] d

end SuiteName

namespace ConnectionCall

def ofData (d : Data) : Described ConnectionCall := do
  match ← (d.field "call").toText with
  | "commit" => return commit
  | "rollback" => return rollback
  | "isolation" => return isolation
  | "set_isolation" => return setIsolation (← Isolation.ofData (d.field "isolation"))
  | "autocommit" => return autocommit
  | "set_autocommit" => return setAutocommit (d.field "on").isSet
  | "metadata" => return metadata
  | "update" =>
      return update (← (d.field "sql").toText) (d.field "keys").isSet
        (← (d.field "bind").items.mapM Value.ofData)
  | "query" => return query (← (d.field "sql").toText)
  | other => bad ("bad call " ++ other)

end ConnectionCall

private def failureOf (d : Data) : Described Error := do
  let message := (d.field "message").text?.getD "failed"
  match (d.field "kind").text?.getD "other" with
  | "usage" => return .usage (.other message)
  | "construction" => return .construction (.other message)
  | "configuration" => return .failure (.configuration (.other message))
  | "unsupported" => return .failure (.unsupported "mock" "everything")
  | "other" => return .plain message
  | other => bad ("bad failure " ++ other)

private def instructionOf (d : Data) : String → Described (Option Instruction)
  | "respond" => return some (.respond (← ScriptedRows.ofData d))
  | "unique_violation" =>
      return some (.violate (← (d.field "prefix").toText) (← (d.field "constraint").toText))
  | "fail_autocommit" => return some .loseSession
  | "fault" => return some (.fault (← Fault.ofData d))
  | "clear_faults" => return some .clearFaults
  | _ => return none

private def changeOf (ts : Tables) (d : Data) : String → Described (Option SettingsChange)
  | "with_casing" => return some (.casing (← KeywordCasing.ofData (d.field "casing")))
  | "with_dialect" => return some (.dialect (← Dialect.ofData (d.field "dialect")))
  | "with_translator" => return some (.failureMap (← FailureMap.ofData (d.field "translator")))
  | "with_codec" => return some (.codec (← WireType.ofData (d.field "type")))
  | "with_table" => return some (.table (← ts.find (d.field "table")))
  | _ => return none

private def replacedOf (d : Data) : Described (List (Nat × Reply)) :=
  d.entries.mapM fun (k, reply) => do
    return (← (Data.text k).toNat, ← Reply.ofData reply)

private def simpleOf (ts : Tables) (d : Data) (word : String) : Described Action := do
  let statement := (Statement.ofData ts (d.field "statement")).deferred
  let table := ts.find (d.field "table")
  let entity := Record.ofData (d.field "entity")
  let column := do return (← AnyColumn.ofData ts (d.field "col")).column.ref
  let isolation := (d.field "isolation").unlessNull Isolation.ofData
  if let some i ← instructionOf d word then return .instruct (Side.ofData d) i
  if let some change ← changeOf ts d word then
    return .configure change (← (d.field "as").toText)
  match word with
  | "execute_update" => return .executeUpdate (← statement)
  | "compile" => return .compile (← statement)
  | "query" =>
      return .query (← statement) (← (d.field "gets").items.mapM (FieldAccess.ofData ts))
  | "query_as" =>
      return .queryAs (← table) (← (Select.ofData ts (d.field "select")).deferred)
  | "insert_entities" =>
      return .insertEntities (← table) (← (d.field "entities").items.mapM Record.ofData)
  | "update_entity" => return .updateEntity (← table) (← entity)
  | "delete_entity" => return .deleteEntity (← table) (← entity)
  | "table_values" => return .tableValues (← table) (← entity)
  | "table_get" => return .tableGet (← table) (← column) (← entity)
  | "table_set" =>
      return .tableSet (← table) (← column) (← entity) (← Value.ofData (d.field "value"))
  | "primary_keys" => return .primaryKeys (← table)
  | "conn" => return .connectionCall (← ConnectionCall.ofData d)
  | "new_transaction" => return .newTransaction (← (d.field "as").toText) (← isolation)
  | "tx" =>
      return .transactionCall (d.field "tx").text? (← TransactionCall.ofData (d.field "call"))
  | "current" => return .current
  | "fail" => return .fail (← failureOf d)
  | "panic" => return .panic ((d.field "message").text?.getD "panic")
  | "info" => return .info
  | "debug" => return .debug
  | "suite" =>
      return .suite (← SuiteName.ofData (d.field "name")) (Side.ofData d)
        (← replacedOf (d.field "with")) (← (d.field "only").unlessNull Data.toNat)
  | "ensure_logger" => return .ensureLogger
  | other => bad ("bad step " ++ other)

private def stepOf (ts : Tables) : (levels : Nat) → Data → Described Step
  | 0, _ => bad "too many levels"
  | levels + 1, d => do
      let word ← (d.field "do").toText
      let steps := (d.field "steps").items.mapM (stepOf ts levels)
      let action ←
        match word with
        | "query_with" => do
            let statement ← (Statement.ofData ts (d.field "statement")).deferred
            let failAt ← (d.field "fail_at").unlessNull Data.toNat
            pure (Action.queryWith statement (← steps) failAt (← failureOf (d.field "failure")))
        | "transaction" => do
            let isolation ← (d.field "isolation").unlessNull Isolation.ofData
            let rule ← (d.field "rollback").unlessNull RollbackRule.ofData
            pure (Action.transaction isolation rule (← steps))
        | "connection" => Action.connection <$> steps
        | "tx_connection" => Action.transactionConnection (d.field "tx").text? <$> steps
        | "silent" => Action.silent <$> steps
        | "thread" => Action.thread <$> steps
        | word => simpleOf ts d word
      return {
        action
        database := (d.field "db").text?.getD "main"
        required := (d.field "try").isSet || word == "fail"
        counted := if (d.field "counts").isSet then some (Side.ofData d) else none }

namespace Step

def ofData (ts : Tables) (d : Data) : Described Step := stepOf ts d.depth d

end Step

structure Script where
  options : DatabaseOptions
  wireTypes : List WireType
  own : ScriptedStore
  external : Option ScriptedStore
  /-- The mildest level of reports that is wanted, if the script says so. -/
  level : Option (Option LogLevel)
  steps : List Step

namespace Script

private def levelOf (d : Data) : Described (Option LogLevel) :=
  Described.oneOf [("off", none), ("info", some .info), ("debug", some .debug)] d

def ofData (d : Data) : Described Script := do
  let ts ← Tables.ofData (d.field "tables")
  let build := d.field "build"
  let types ← (build.field "wire_types").unlessNull fun types => types.items.mapM WireType.ofData
  return { options := ← DatabaseOptions.ofData ts build
           wireTypes := types.getD WireType.all
           own := ← ScriptedStore.ofData build
           external := ← (build.field "external").unlessNull ScriptedStore.ofData
           level := ← (build.field "log_level").unlessNull levelOf
           steps := ← (d.field "steps").items.mapM (Step.ofData ts) }

def play (s : Script) : Session Stage Unit := do
  let d := Stage.driver .own s.wireTypes
  let provider := s.external.map fun _ => Stage.driver .external s.wireTypes
  let outcome ← (Database.build s.options d provider).attempt
  record "build" (outcome.map Database.toData)
  if let .ok db := outcome then
    arrange ({ · with databases := [("main", db.settings)] })
    let replies (side : Side) : List Reply :=
      ((match side with
        | .own => some s.own
        | .external => s.external).bind ScriptedStore.replies).getD []
    playOutermost ⟨db, replies⟩ ⟨"", none, none⟩ 0 s.steps

def run (s : Script) (logging : Logging) : World Stage :=
  let stage : Stage := { own := s.own, external := s.external }
  let wanted := s.level.getD logging.level
  (s.play { store := stage, logging := { logging with level := wanted } }).2

end Script

namespace Entry

def toData (e : Entry) : Data :=
  let result :=
    match e.result with
    | .ok answer => Data.ok answer
    | .error err =>
        if err.isPanic then .fields [("panic", .text err.message)] else err.toData
  .fields ([("at", .text e.path), ("result", result),
      ("events", .ofList StoreEvent.toData e.events),
      ("logs", .ofList (fun r : LogRecord => .text (r.level.name ++ ": " ++ r.message)) e.logs)] ++
    match e.external with
    | some events => [("external", .ofList StoreEvent.toData events)]
    | none => [])

end Entry

end TypedSql.Scenario
