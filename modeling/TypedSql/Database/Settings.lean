import TypedSql.Codec.Registry
import TypedSql.Store.Call
import TypedSql.Table.Basic
import TypedSql.Writer.Render

namespace TypedSql

/-- Replaces a failure of a store, or leaves it alone.  It sees the statement and what the store
reported. -/
abbrev FailureMap := (sql : String) → (source : Error) → Option Error

structure DatabaseOptions where
  dialect : Option Dialect := none
  registry : DialectRegistry := .builtin
  casing : Option KeywordCasing := none
  alwaysQuote : Bool := false
  keywords : List String := []
  failureMap : Option FailureMap := none
  isolation : Option Isolation := none
  codecs : List CodecId := []
  fallbackLogger : Bool := true

namespace DatabaseOptions

def config (o : DatabaseOptions) (m : StoreMetadata) : WriterConfig :=
  let fitting := WriterConfig.ofMetadata m
  { fitting with
    keywords := reservedKeywords (m.keywords ++ o.keywords)
    casing := o.casing.getD fitting.casing
    alwaysQuote := o.alwaysQuote }

end DatabaseOptions

structure DatabaseSettings where
  metadata : StoreMetadata
  codecs : CodecRegistry
  dialect : Dialect
  config : WriterConfig
  writer : Writer
  failureMap : Option FailureMap := none

namespace DatabaseSettings

def withCasing (s : DatabaseSettings) (casing : KeywordCasing) : DatabaseSettings :=
  let config := { s.config with casing }
  { s with config, writer := .of s.dialect config }

def withDialect (s : DatabaseSettings) (dialect : Dialect) : DatabaseSettings :=
  { s with dialect, writer := .of dialect s.config }

def withFailureMap (s : DatabaseSettings) (map : FailureMap) : DatabaseSettings :=
  { s with failureMap := some map }

def withCodecs (s : DatabaseSettings) (ids : List CodecId) :
    Except ConfigurationFault DatabaseSettings :=
  (s.codecs.registerAll ids).map fun codecs => { s with codecs }

def compile (s : DatabaseSettings) (statement : Statement) : Except Error CompiledSql :=
  s.writer.compile statement

/-- A failure of the store with the statement that met it, or what the map puts in its place.
A panic is no failure of the store. -/
def mapFailure (s : DatabaseSettings) (sql : String) (e : Error) : Error :=
  if e.isPanic then e
  else (s.failureMap.bind fun map => map sql e).getD (.driver sql e)

end DatabaseSettings

end TypedSql
