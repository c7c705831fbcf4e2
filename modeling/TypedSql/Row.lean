import TypedSql.Error

namespace TypedSql

/-- Positional access to the fields of a result row.  The store says of a field apart from its
value whether it is null. -/
structure Row where
  size : Nat
  label : Nat → String
  value : Nat → Except Error Value
  wasNull : Nat → Bool

namespace Row

def single (value : Value) (wasNull : Bool) : Row where
  size := 1
  label := fun _ => ""
  value := fun _ => .ok value
  wasNull := fun _ => wasNull

def ofLists (labels : List String) (values : List Value) (nulls : List Bool) : Row where
  size := values.length
  label := fun i => labels.getD i ""
  value := fun i =>
    match values[i]? with
    | some v => .ok v
    | none => .error (.plain s!"No field {i}")
  wasNull := fun i => nulls.getD i true

def ofValues (labels : List String) (values : List Value) : Row :=
  ofLists labels values (values.map Value.isNull)

def values (row : Row) : Except Error (List Value) :=
  (List.range row.size).mapM row.value

def nulls (row : Row) : List Bool :=
  (List.range row.size).map row.wasNull

def labels (row : Row) : List String :=
  (List.range row.size).map row.label

end Row

end TypedSql
