import TypedSql.Description.Data
import TypedSql.Writer.Dialect

namespace TypedSql

namespace IdentifierCase

def ofData (d : Data) : Described IdentifierCase :=
  match d with
  | .null => .ok mixed
  | d => Described.oneOf [("upper", upper), ("lower", lower), ("mixed", mixed)] d

end IdentifierCase

namespace KeywordCasing

def ofData (d : Data) : Described KeywordCasing :=
  Described.oneOf [("upper", upper), ("lower", lower)] d

end KeywordCasing

namespace StoreMetadata

def ofData (d : Data) : Described StoreMetadata := do
  return { product := (d.field "product").text?.getD ""
           version := (d.field "version").text?.getD ""
           quote := (d.field "quote").text?.getD "\""
           keywords := ← (d.field "keywords").toTexts
           identifierCase := ← IdentifierCase.ofData (d.field "identifier_case") }

end StoreMetadata

namespace Dialect

private def byName : List (String × Dialect) :=
  [generic, postgres, mysql, sqlite].map fun d => (d.name, d)

def ofData (d : Data) : Described Dialect :=
  match d with
  | .null => .ok generic
  | d => Described.oneOf byName d

end Dialect

namespace DialectRegistry

/-- Dialects by name; `builtin` stands for those that are there without asking. -/
def ofData (d : Data) : Described DialectRegistry := do
  let lists ← d.items.mapM fun name => do
    match name with
    | .text "builtin" => return builtin.dialects
    | name => return [← Dialect.ofData name]
  return ⟨lists.flatten⟩

end DialectRegistry

end TypedSql
