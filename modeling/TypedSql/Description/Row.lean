import TypedSql.Description.Error
import TypedSql.Description.Table
import TypedSql.Table.Result

namespace TypedSql

namespace RowsAffected

def toData (r : RowsAffected) : Data :=
  .fields [("rows", .ofNat r.rows), ("keys", .ofList Value.toData r.keys)]

end RowsAffected

inductive FieldAccess where
  | column (column : AnyColumn)
  | label (label : String) (type : WireType)
  | index (index : Nat) (type : WireType)
  | name (name : String)
  | field (index : Nat)
  | entity (table : Table Record)

namespace FieldAccess

def ofData (ts : Tables) (d : Data) : Described FieldAccess := do
  if d.given "col" then return column (← AnyColumn.ofData ts (d.field "col"))
  else if d.given "label" then
    return label (← (d.field "label").toText) (← WireType.ofData (d.field "type"))
  else if d.given "index" then
    return index (← (d.field "index").toNat) (← WireType.ofData (d.field "type"))
  else if d.given "name" then return name (← (d.field "name").toText)
  else if d.given "field" then return field (← (d.field "field").toNat)
  else return entity (← ts.find (d.field "decode"))

private def native {t : WireType} (x : Except Error (Option (Native t))) : Except Error Data :=
  Data.ofOutcome (.ofOption Native.toData) x

def read (r : LabelledRow) : FieldAccess → Except Error Data
  | column c => native (r.get c.column)
  | label l t => native (r.getLabel (Codec.ofType t) l)
  | index i t => native (r.getIndex (Codec.ofType t) i)
  | name n =>
      match r.lookup n with
      | .absent => .ok (Data.ok (.text "absent"))
      | .found v => .ok (Data.ok v.toData)
      | .beyond i fields =>
          .error (.panic s!"index out of bounds: the len is {fields} but the index is {i}")
  | field i => do
      let row := r.toRow
      return Data.ok (.fields [("label", .text (row.label i)), ("was_null", .bool (row.wasNull i)),
        ("value", ← Data.ofOutcome Value.toData (row.value i))])
  | entity t => Data.ofOutcome Record.toData (t.decode {} r.toRow r.columns)

end FieldAccess

end TypedSql
