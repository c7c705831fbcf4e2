import TypedSql.Description.Value
import TypedSql.Table.Record

namespace TypedSql

/-! Tables as data.  A table is described by its columns, or as another table under an alias. -/

open DescriptionFault (bad)

namespace Record

def ofData (d : Data) : Described Record := do
  return ⟨← d.entries.mapM fun (name, v) => do return (name, ← Value.ofData v)⟩

def toData (r : Record) : Data :=
  .fields (r.fields.map fun (name, v) => (name, v.toData))

end Record

abbrev Tables := List (String × Table Record)

namespace Tables

private def declare (t : Table Record) (d : Data) : Described (Table Record) := do
  let name ← (d.field "name").toText
  let type ← WireType.ofData (d.field "type")
  let binding : Binding Record (Native type) :=
    match d.field "binding" with
    | .text "accessor" => Record.accessor name type
    | .text "nullable" => Record.nullable name type
    | _ => .unbound
  return (t.declare name (Codec.ofType type) (d.field "primary_key").isSet
    (d.field "not_null").isSet binding).1

/-- A table of columns.  A schema given late is given when the columns are there already. -/
private def ofColumns (d : Data) : Described (Table Record) := do
  let withSchema (t : Table Record) : Table Record :=
    match (d.field "schema").text? with
    | some schema => t.withSchema schema
    | none => t
  let late := (d.field "late_schema").isSet
  let start : Table Record := .ofName (← (d.field "name").toText)
  let start := if late then start else withSchema start
  let start :=
    match (d.field "alias").text? with
    | some aliasName => start.aliased aliasName
    | none => start
  let declared ← (d.field "columns").items.foldlM declare start
  return if late then withSchema declared else declared

/-- Follows the aliases of a table; there are fewer of them than tables. -/
private def resolve (all : List (String × Data)) : Nat → String → Described (Table Record)
  | 0, name => bad ("the aliases of " ++ name ++ " form a circle")
  | steps + 1, name => do
      let d ← Described.ofOption ("table " ++ name) (all.lookup name)
      match (d.field "alias_of").text? with
      | some other => return (← resolve all steps other).aliased (← (d.field "alias").toText)
      | none => ofColumns d

def ofData (d : Data) : Described Tables :=
  d.entries.mapM fun (name, _) => do
    return (name, ← resolve d.entries d.entries.length name)

def find (ts : Tables) (d : Data) : Described (Table Record) := do
  let name ← d.toText
  Described.ofOption ("table " ++ name) (ts.lookup name)

end Tables

structure AnyColumn where
  type : WireType
  column : Column (Native type)

namespace AnyColumn

def ofRef (c : ColumnRef) : AnyColumn := ⟨c.codec.type, c, Codec.ofType c.codec.type⟩

def ofData (ts : Tables) (d : Data) : Described AnyColumn := do
  let t ← ts.find (d.item 0)
  let name ← (d.item 1).toText
  let c ← Described.ofOption ("column " ++ name) (t.columns.find? fun c => c.name == name)
  match d.item 2 with
  | .null => return ofRef c
  | ref => return ofRef (c.withTable (← TableRef.ofData ref))

end AnyColumn

end TypedSql
