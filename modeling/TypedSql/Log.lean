namespace TypedSql

inductive LogLevel where
  | error | warn | info | debug
deriving DecidableEq, Repr

namespace LogLevel

def rank : LogLevel → Nat
  | error => 1
  | warn => 2
  | info => 3
  | debug => 4

def name : LogLevel → String
  | error => "error"
  | warn => "warn"
  | info => "info"
  | debug => "debug"

end LogLevel

inductive LogSource where
  | codec | database | dialect | transaction | driver
deriving DecidableEq, Repr

structure LogRecord where
  level : LogLevel
  source : LogSource
  message : String
deriving DecidableEq, Repr

end TypedSql
