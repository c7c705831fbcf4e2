import TypedSql.Table.Basic

namespace TypedSql

structure RowsAffected where
  rows : Nat := 0
  keys : List Value := []
deriving DecidableEq

namespace RowsAffected

def add (a b : RowsAffected) : RowsAffected := ⟨a.rows + b.rows, a.keys ++ b.keys⟩

end RowsAffected

structure LabelledRow where
  labels : List String
  columns : List ResultColumn
  values : List Value
  nulls : List Bool
deriving DecidableEq

def sameLabel (a b : String) : Bool :=
  Text.asciiLowercase a == Text.asciiLowercase b

namespace LabelledRow

def read (row : Row) (labels : List String) (columns : List ResultColumn) :
    Except Error LabelledRow :=
  row.values.map fun values => ⟨labels, columns, values, row.nulls⟩

def toRow (r : LabelledRow) : Row where
  size := r.values.length
  label := fun i => r.labels.getD i ""
  value := fun i =>
    match r.values[i]? with
    | some v => .ok v
    | none => .error (.usage (.fieldOutOfBounds i r.values.length))
  wasNull := fun i => r.nulls.getD i true

def indexOfLabel? (r : LabelledRow) (label : String) : Option Nat :=
  r.labels.findIdx? fun own => sameLabel own label

/-- The field of a column: the one that carries it, else the one declared with its name as label,
else the one that the store labels with its name. -/
def indexOf? (r : LabelledRow) (column : ColumnRef) : Option Nat :=
  (r.columns.findIdx? (·.carries column)).orElse fun _ =>
    (r.columns.findIdx? fun c => c.label == some column.name).orElse fun _ =>
      r.indexOfLabel? column.name

inductive Lookup where
  | absent
  | found (value : Value)
  /-- The row has more labels than values, and the label is one of the surplus. -/
  | beyond (index fields : Nat)
deriving DecidableEq

def lookup (r : LabelledRow) (label : String) : Lookup :=
  match r.indexOfLabel? label with
  | none => .absent
  | some i =>
      match r.values[i]? with
      | some v => .found v
      | none => .beyond i r.values.length

def get {α : Type} (r : LabelledRow) (column : Column α) : Except Error (Option α) :=
  match r.indexOf? column.ref with
  | some i => column.codec.extract r.toRow i
  | none => .error (.usage (.notInResult column.ref.name))

def getIndex {α : Type} (r : LabelledRow) (codec : Codec α) (index : Nat) :
    Except Error (Option α) :=
  if r.values.length ≤ index then .error (.usage (.fieldOutOfBounds index r.values.length))
  else codec.extract r.toRow index

def getLabel {α : Type} (r : LabelledRow) (codec : Codec α) (label : String) :
    Except Error (Option α) :=
  match r.indexOfLabel? label with
  | some i => codec.extract r.toRow i
  | none => .error (.usage (.noFieldLabelled label))

end LabelledRow

end TypedSql
