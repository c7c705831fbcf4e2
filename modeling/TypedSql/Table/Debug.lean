import TypedSql.Table.Basic

namespace TypedSql

private def debugOption (text : Option String) : String :=
  match text with
  | some s => "Some(" ++ Text.quoted s ++ ")"
  | none => "None"

private def debugFields (name : String) (fields : List (String × String)) : String :=
  name ++ " \x7b " ++ String.intercalate ", " (fields.map fun (k, v) => k ++ ": " ++ v) ++ " \x7d"

def TableRef.debug (t : TableRef) : String :=
  debugFields "TableRef"
    [("name", Text.quoted t.name), ("schema", debugOption t.schema),
      ("alias", debugOption t.aliasName)]

private def CodecId.debugParts (c : CodecId) : List (String × String) :=
  [("wire_type", c.type.tag), ("native_type", Text.quoted c.native.name)]

def CodecId.debug (c : CodecId) : String := debugFields "CodecId" c.debugParts

def CodecId.debugCodec (c : CodecId) : String := debugFields "Codec" c.debugParts

def ColumnRef.debug (c : ColumnRef) : String :=
  debugFields "ColumnRef"
    [("table", c.table.debug), ("name", Text.quoted c.name), ("codec", c.codec.debug),
      ("primary_key", toString c.primaryKey), ("not_null", toString c.notNull)]

def Table.debug {E : Type} (t : Table E) : String :=
  debugFields "Table"
    [("table", t.ref.debug),
      ("columns", "[" ++ String.intercalate ", " (t.columns.map ColumnRef.debug) ++ "]")]

end TypedSql
