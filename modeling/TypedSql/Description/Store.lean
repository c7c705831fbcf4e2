import TypedSql.Description.Config
import TypedSql.Description.Value
import TypedSql.Store.Scripted

namespace TypedSql

namespace Isolation

def ofData (d : Data) : Described Isolation :=
  Described.oneOf (all.map fun i => (i.tag, i)) d

def toData (i : Isolation) : Data := .text i.tag

end Isolation

namespace BindCall

def toData : BindCall → Data
  | bind i v => .list [.text "bind", .ofNat i, v.toData]
  | bindNull i t => .list [.text "bind_null", .ofNat i, t.toData]

end BindCall

namespace StoreEvent

def toData : StoreEvent → Data
  | opened c => .list [.text "open", .ofNat c]
  | prepared sql keys => .list [.text "prepare", .text sql, .bool keys]
  | bound call => call.toData
  | executed sql => .list [.text "execute", .text sql]
  | committed c => .list [.text "commit", .ofNat c]
  | rolledBack c => .list [.text "rollback", .ofNat c]
  | isolationSet c i => .list [.text "set_isolation", .ofNat c, i.toData]
  | autocommitSet c on => .list [.text "set_autocommit", .ofNat c, .bool on]
  | closed c => .list [.text "close", .ofNat c]

end StoreEvent

namespace CallKind

private def byName : List (String × CallKind) :=
  [("connect", connect), ("metadata", metadata), ("prepare", prepare), ("bind", bind),
    ("bind_null", bindNull), ("execute_update", executeUpdate), ("execute_query", executeQuery),
    ("commit", commit), ("rollback", rollback), ("isolation", isolation),
    ("set_isolation", setIsolation), ("autocommit", autocommit),
    ("set_autocommit", setAutocommit), ("close", close)]

def ofData (d : Data) : Described CallKind := Described.oneOf byName d

end CallKind

namespace Fault

def ofData (d : Data) : Described Fault := do
  return { kind := ← CallKind.ofData (d.field "on")
           message := ← (d.field "message").toText
           times := ← (d.field "times").unlessNull Data.toNat }

end Fault

namespace ScriptedRows

def ofData (d : Data) : Described ScriptedRows := do
  return { labels := ← (d.field "labels").toTexts
           rows := ← (d.field "rows").items.mapM fun row => row.items.mapM Value.ofData }

end ScriptedRows

namespace Reply

def ofData (d : Data) : Described Reply := do
  if d.given "error" then return failure (← (d.field "error").toText)
  else if d.given "unique" then return uniqueViolation (← (d.field "unique").toText)
  else
    let rows := (← (d.field "affected").unlessNull Data.toNat).getD 0
    let keys ← (d.field "keys").items.mapM Value.ofData
    return answer ⟨rows, keys⟩ (← ScriptedRows.ofData d)

end Reply

namespace ScriptedStore

def ofData (d : Data) : Described ScriptedStore := do
  let start : ScriptedStore := {}
  let metadata ← (d.field "metadata").unlessNull StoreMetadata.ofData
  return { start with
    metadata := metadata.getD start.metadata
    faults := ← (d.field "faults").items.mapM Fault.ofData
    replies := ← (d.field "replay").unlessNull fun replies => replies.items.mapM Reply.ofData
    isolationUnknown := (d.field "isolation_unknown").isSet
    reportedIsolation := ← (d.field "reported_isolation").unlessNull Isolation.ofData
    reportsAutocommitOff := (d.field "autocommit_off").isSet }

end ScriptedStore

end TypedSql
