import TypedSql.Description.Data
import TypedSql.Statement.Syntax
import TypedSql.Text.Hex

namespace TypedSql

/-! Values and references as data.  A value is a field named for its wire type; null stands for
the untyped null, and a field of null for the null of the type. -/

open DescriptionFault (bad)

namespace WireType

def ofData (d : Data) : Described WireType :=
  Described.oneOf (all.map fun t => (t.tag, t)) d

def toData (t : WireType) : Data := .text t.tag

end WireType

namespace Date

private def ofNumbers (numbers : List Int) : Described (Date × List Int) :=
  match numbers with
  | y :: m :: d :: rest => do
      return (← Described.ofOption "date" (ofParts? y m.toNat d.toNat), rest)
  | _ => bad "bad date"

private def numbers (d : Date) : List Int := [d.year, d.month, d.day]

end Date

namespace TimeOfDay

private def ofNumbers (numbers : List Int) : Described (TimeOfDay × List Int) :=
  match numbers with
  | h :: m :: s :: n :: rest => do
      return (← Described.ofOption "time" (ofParts? h.toNat m.toNat s.toNat n.toNat), rest)
  | _ => bad "bad time"

private def numbers (t : TimeOfDay) : List Int := [t.hour, t.minute, t.second, t.nanosecond]

end TimeOfDay

namespace Content

private def binary (f : BinaryFormat) (d : Data) : Described (Binary f) := do
  Described.ofOption "float" (Binary.read f (← d.toText).toList).toOption

def ofData (t : WireType) (d : Data) : Described Content := do
  match t with
  | .boolean => return boolean (← Described.ofOption "boolean" d.bool?)
  | .integer kind =>
      return integer kind (← Described.ofOption "integer" (Integer.ofInt? kind (← d.toInt)))
  | .float32 => return float32 (← binary .single d)
  | .float64 => return float64 (← binary .double d)
  | .decimal =>
      return decimal (← Described.ofOption "decimal" (Decimal.read? (← d.toText).toList))
  | .varchar => return varchar (← d.toText)
  | .blob => return blob (← Described.ofOption "blob" (Text.bytesOfHex? (← d.toText).toList))
  | .date => return date (← Date.ofNumbers (← d.items.mapM Data.toInt)).1
  | .time => return time (← TimeOfDay.ofNumbers (← d.items.mapM Data.toInt)).1
  | .timestamp =>
      let (day, rest) ← Date.ofNumbers (← d.items.mapM Data.toInt)
      return timestamp ⟨day, (← TimeOfDay.ofNumbers rest).1⟩
  | .timestampWithTimezone =>
      let (day, rest) ← Date.ofNumbers (← d.items.mapM Data.toInt)
      let (clock, rest) ← TimeOfDay.ofNumbers rest
      let zoned := ZonedTimestamp.ofParts? ⟨day, clock⟩ (rest.headD 0)
      return timestampWithTimezone (← Described.ofOption "offset" zoned)
  | .uuid => return uuid (← Described.ofOption "uuid" (Uuid.read? (← d.toText).toList))

def toData : Content → Data
  | boolean b => .bool b
  | integer _ n => .text (toString n.val)
  | float32 x => .ofChars ((BinaryLayout.value .single).write x)
  | float64 x => .ofChars ((BinaryLayout.value .double).write x)
  | decimal d => .ofChars d.write
  | varchar s => .text s
  | blob bs => .ofChars (Text.lowerHex bs)
  | date d => .ofList .number d.numbers
  | time t => .ofList .number t.numbers
  | timestamp t => .ofList .number (t.date.numbers ++ t.time.numbers)
  | timestampWithTimezone t =>
      .ofList .number (t.wall.date.numbers ++ t.wall.time.numbers ++ [t.offset])
  | uuid u => .ofChars u.write

end Content

namespace Value

def ofData (d : Data) : Described Value := do
  match d with
  | .null => return null
  | .fields [(name, payload)] =>
      let t ← WireType.ofData (.text name)
      match payload with
      | .null => return nullOf t
      | payload => return some (← Content.ofData t payload)
  | _ => bad "bad value"

def toData : Value → Data
  | null => .null
  | nullOf t => .fields [(t.tag, .null)]
  | some c => .fields [(c.type.tag, c.toData)]

end Value

namespace Native

def ofData? (t : WireType) (d : Data) : Described (Option (Native t)) := do
  match ← Value.ofData d with
  | .some c => return some (← Described.ofOption "native value" (c.convert t).toOption)
  | _ => return none

def toData {t : WireType} (n : Native t) : Data := n.toValue.toData

end Native

namespace CodecId

def toData (c : CodecId) : Data :=
  .fields [("wire", c.type.toData), ("native", .text c.native.name)]

end CodecId

namespace Parameter

def ofData (d : Data) : Described Parameter := do
  let v ← Value.ofData (d.field "param")
  match d.field "as" with
  | .null => return .ofType (← Described.ofOption "parameter" v.type?) v
  | t => return .ofType (← WireType.ofData t) v

def toData (p : Parameter) : Data :=
  .fields [("value", p.value.toData), ("codec", p.codec.toData)]

end Parameter

namespace TableRef

def ofData (d : Data) : Described TableRef := do
  return { name := ← (d.field "name").toText, schema := (d.field "schema").text?,
           aliasName := (d.field "alias").text? }

def toData (t : TableRef) : Data :=
  .fields [("name", .text t.name), ("schema", .ofOption .text t.schema),
    ("alias", .ofOption .text t.aliasName)]

end TableRef

namespace ColumnRef

def toData (c : ColumnRef) : Data :=
  .fields [("table", c.table.toData), ("name", .text c.name), ("codec", c.codec.toData),
    ("primary_key", .bool c.primaryKey), ("not_null", .bool c.notNull)]

end ColumnRef

namespace ResultColumn

def toData (c : ResultColumn) : Data :=
  .fields [("column", .ofOption ColumnRef.toData c.column), ("label", .ofOption .text c.label),
    ("type", .ofOption WireType.toData c.type)]

end ResultColumn

end TypedSql
