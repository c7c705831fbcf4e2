import TypedSql.Number.Integer

namespace TypedSql

inductive WireType where
  | boolean
  | integer (kind : IntegerKind)
  | float32
  | float64
  | decimal
  | varchar
  | blob
  | date
  | time
  | timestamp
  | timestampWithTimezone
  | uuid
deriving DecidableEq, Repr

namespace WireType

abbrev int8 : WireType := .integer .int8
abbrev int16 : WireType := .integer .int16
abbrev int32 : WireType := .integer .int32
abbrev int64 : WireType := .integer .int64
abbrev uint8 : WireType := .integer .uint8
abbrev uint16 : WireType := .integer .uint16
abbrev uint32 : WireType := .integer .uint32
abbrev uint64 : WireType := .integer .uint64

def all : List WireType :=
  boolean :: IntegerKind.all.map integer ++
    [float32, float64, decimal, varchar, blob, date, time, timestamp, timestampWithTimezone, uuid]

def sqlName : WireType → String
  | boolean => "BOOLEAN"
  | integer .int8 => "TINYINT"
  | integer .int16 => "SMALLINT"
  | integer .int32 => "INTEGER"
  | integer .int64 => "BIGINT"
  | integer .uint8 => "UTINYINT"
  | integer .uint16 => "USMALLINT"
  | integer .uint32 => "UINTEGER"
  | integer .uint64 => "UBIGINT"
  | float32 => "FLOAT"
  | float64 => "DOUBLE"
  | decimal => "DECIMAL"
  | varchar => "VARCHAR"
  | blob => "BLOB"
  | date => "DATE"
  | time => "TIME"
  | timestamp => "TIMESTAMP"
  | timestampWithTimezone => "TIMESTAMPTZ"
  | uuid => "UUID"

def tag : WireType → String
  | boolean => "Boolean"
  | integer .int8 => "Int8"
  | integer .int16 => "Int16"
  | integer .int32 => "Int32"
  | integer .int64 => "Int64"
  | integer .uint8 => "UInt8"
  | integer .uint16 => "UInt16"
  | integer .uint32 => "UInt32"
  | integer .uint64 => "UInt64"
  | float32 => "Float32"
  | float64 => "Float64"
  | decimal => "Decimal"
  | varchar => "Varchar"
  | blob => "Blob"
  | date => "Date"
  | time => "Time"
  | timestamp => "Timestamp"
  | timestampWithTimezone => "TimestampWithTimezone"
  | uuid => "Uuid"

def nativeName : WireType → String
  | boolean => "bool"
  | integer .int8 => "i8"
  | integer .int16 => "i16"
  | integer .int32 => "i32"
  | integer .int64 => "i64"
  | integer .uint8 => "u8"
  | integer .uint16 => "u16"
  | integer .uint32 => "u32"
  | integer .uint64 => "u64"
  | float32 => "f32"
  | float64 => "f64"
  | decimal => "rust_decimal::decimal::Decimal"
  | varchar => "alloc::string::String"
  | blob => "alloc::vec::Vec<u8>"
  | date => "time::date::Date"
  | time => "time::time::Time"
  | timestamp => "time::plain_date_time::PlainDateTime"
  | timestampWithTimezone => "time::offset_date_time::OffsetDateTime"
  | uuid => "uuid::Uuid"

end WireType

end TypedSql
