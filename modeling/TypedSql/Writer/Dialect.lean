import TypedSql.Error
import TypedSql.Writer.Config

namespace TypedSql

inductive Dialect where
  | generic | postgres | mysql | sqlite
deriving DecidableEq, Repr

namespace Dialect

def name : Dialect → String
  | generic => "generic"
  | postgres => "postgres"
  | mysql => "mysql"
  | sqlite => "sqlite"

/-- Whether the store's product is one of the dialect.  No letter outside ASCII folds into one of
the names, so ASCII folding decides. -/
def accepts (d : Dialect) (m : StoreMetadata) : Bool :=
  let product := (Text.asciiLowercase m.product).toList
  match d with
  | generic => false
  | postgres => Text.occursIn "postgres".toList product
  | mysql => Text.occursIn "mysql".toList product || Text.occursIn "mariadb".toList product
  | sqlite => product = "sqlite".toList

end Dialect

structure DialectRegistry where
  dialects : List Dialect := []
deriving DecidableEq, Repr

namespace DialectRegistry

def builtin : DialectRegistry := ⟨[.postgres, .mysql]⟩

def detect (r : DialectRegistry) (m : StoreMetadata) : Except UsageFault Dialect :=
  match r.dialects.filter (·.accepts m) with
  | [] => .ok .generic
  | [d] => .ok d
  | ds => .error (.ambiguousDialect m.product (ds.map Dialect.name))

def fallbackMessage (m : StoreMetadata) : String :=
  s!"No dialect recognizes `{m.product}`, falling back to generic SQL"

end DialectRegistry

structure Writer where
  dialect : Dialect
  config : WriterConfig
deriving DecidableEq, Repr

namespace Writer

/-- Writer of a dialect.  MySQL quotes names with backticks unless told otherwise. -/
def of (dialect : Dialect) (config : WriterConfig) : Writer :=
  if dialect = .mysql ∧ config.quote = "\"" then ⟨dialect, { config with quote := "`" }⟩
  else ⟨dialect, config⟩

end Writer

end TypedSql
