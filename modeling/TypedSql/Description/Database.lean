import TypedSql.Database.Basic
import TypedSql.Description.Store
import TypedSql.Description.Table

namespace TypedSql

def FailureMap.ofData (d : Data) : Described FailureMap := do
  if (d.field "unique").isSet then
    return fun _ source =>
      source.violatedConstraint?.map fun c => .plain s!"The value of {c} is already taken"
  else
    match (d.field "prefix").text? with
    | none => return fun _ _ => none
    | some start =>
        let message := (d.field "message").text?.getD ""
        return fun sql source =>
          if start.toList.isPrefixOf sql.toList then
            some (.usage (.other (message ++ source.message)))
          else none

namespace DatabaseOptions

def ofData (ts : Tables) (d : Data) : Described DatabaseOptions := do
  let start : DatabaseOptions := {}
  let codecs ← (d.field "codecs").items.mapM WireType.ofData
  let tables ← (d.field "register_tables").items.mapM ts.find
  return {
    dialect := ← (d.field "dialect").unlessNull Dialect.ofData
    registry := (← (d.field "registry").unlessNull DialectRegistry.ofData).getD start.registry
    casing := ← (d.field "casing").unlessNull KeywordCasing.ofData
    alwaysQuote := (d.field "always_quote").isSet
    keywords := ← (d.field "keywords").toTexts
    failureMap := ← (d.field "translator").unlessNull FailureMap.ofData
    isolation := ← (d.field "isolation").unlessNull Isolation.ofData
    codecs := codecs.map CodecId.ofType ++ tables.flatMap fun t => t.columns.map ColumnRef.codec
    fallbackLogger := (d.field "fallback_logger").isSet }

end DatabaseOptions

namespace Database

def toData {σ : Type} (db : Database σ) : Data :=
  let s := db.settings
  .fields [("dialect", .text s.dialect.name), ("writer", .text s.writer.dialect.name),
    ("product", .text s.metadata.product), ("version", .text s.metadata.version),
    ("driver", .text db.driver.name),
    ("default_isolation", .ofOption Isolation.toData db.manager.defaultIsolation),
    ("registered", .ofList CodecId.toData s.codecs.registered)]

end Database

end TypedSql
