import TypedSql.Calendar.Timestamp
import TypedSql.Number.Decimal
import TypedSql.Uuid
import TypedSql.Wire.Type

namespace TypedSql

inductive Content where
  | boolean (value : Bool)
  | integer (kind : IntegerKind) (value : Integer kind)
  | float32 (value : Binary32)
  | float64 (value : Binary64)
  | decimal (value : Decimal)
  | varchar (value : String)
  | blob (value : List UInt8)
  | date (value : Date)
  | time (value : TimeOfDay)
  | timestamp (value : Timestamp)
  | timestampWithTimezone (value : ZonedTimestamp)
  | uuid (value : Uuid)
deriving DecidableEq

namespace Content

def type : Content → WireType
  | boolean _ => .boolean
  | integer kind _ => .integer kind
  | float32 _ => .float32
  | float64 _ => .float64
  | decimal _ => .decimal
  | varchar _ => .varchar
  | blob _ => .blob
  | date _ => .date
  | time _ => .time
  | timestamp _ => .timestamp
  | timestampWithTimezone _ => .timestampWithTimezone
  | uuid _ => .uuid

/-- Equality as the values themselves have it: decimals by their number, zoned timestamps by
their instant, floating point numbers as numbers. -/
def same : Content → Content → Bool
  | float32 x, float32 y => x.sameNumber y
  | float64 x, float64 y => x.sameNumber y
  | decimal x, decimal y => x.sameNumber y
  | timestampWithTimezone x, timestampWithTimezone y => x.sameInstant y
  | x, y => x == y

end Content

structure Native (t : WireType) where
  content : Content
  type_eq : content.type = t
deriving DecidableEq

inductive Value where
  | null
  | nullOf (type : WireType)
  | some (content : Content)
deriving DecidableEq

namespace Value

def type? : Value → Option WireType
  | null => none
  | nullOf t => t
  | some c => c.type

def isNull : Value → Bool
  | null | nullOf _ => true
  | some _ => false

def sameType (a b : Value) : Bool :=
  a.type? == b.type?

/-- Equality of values: nulls equal nulls of their type alone. -/
def same : Value → Value → Bool
  | some a, some b => a.same b
  | null, null => true
  | nullOf a, nullOf b => a == b
  | _, _ => false

@[simp] theorem isNull_nullOf (t : WireType) : (nullOf t).isNull = true := rfl

@[simp] theorem isNull_some (c : Content) : (some c).isNull = false := rfl

end Value

namespace Native

def toValue {t : WireType} (n : Native t) : Value := .some n.content

def of (c : Content) : Native c.type := ⟨c, rfl⟩

@[simp] theorem isNull_toValue {t : WireType} (n : Native t) : n.toValue.isNull = false := rfl

end Native

end TypedSql
