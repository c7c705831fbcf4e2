import TypedSql.Table.Basic

namespace TypedSql

structure Record where
  fields : List (String × Value) := []
deriving DecidableEq

namespace Record

def get? (r : Record) (field : String) : Option Value :=
  r.fields.lookup field

def insert (r : Record) (field : String) (value : Value) : Record :=
  if (r.get? field).isSome then
    ⟨r.fields.map fun (name, old) => if name = field then (name, value) else (name, old)⟩
  else ⟨r.fields ++ [(field, value)]⟩

def native? (r : Record) (field : String) (type : WireType) : Option (Native type) :=
  (r.get? field).bind fun v => (v.convert type).toOption

/-- Ties a column to a field that is always there: a field that is missing or of another type
reads as the value that stands for nothing. -/
def accessor (field : String) (type : WireType) : Binding Record (Native type) :=
  .accessor (fun r => (r.native? field type).getD (.zero type))
    (fun r n => r.insert field n.toValue)

def nullable (field : String) (type : WireType) : Binding Record (Native type) :=
  .nullable (fun r => r.native? field type)
    (fun r n => r.insert field ((Codec.ofType type).encodeOption n))

end Record

end TypedSql
