import TypedSql.Table.Column

namespace TypedSql

/-! Tables whose rows are entities of a program.  Each column may have a getter, which gives the
wire value of the entity's field, and a setter, which takes the field from a row. -/

structure BoundColumn (E : Type) where
  column : ColumnRef
  getter : Option (E → Value) := none
  setter : Option (E → Row → Nat → Except Error E) := none

structure Table (E : Type) where
  ref : TableRef
  bound : List (BoundColumn E) := []

inductive Binding (E α : Type) where
  | unbound
  /-- The field is always there; a null read from a row leaves it as it is. -/
  | accessor (get : E → α) (set : E → α → E)
  /-- The field may be missing; a null read from a row clears it. -/
  | nullable (get : E → Option α) (set : E → Option α → E)

namespace Binding

variable {E α : Type}

def getter (codec : Codec α) : Binding E α → Option (E → Value)
  | unbound => none
  | accessor get _ => some fun e => codec.encodeOption (some (get e))
  | nullable get _ => some fun e => codec.encodeOption (get e)

def setter (codec : Codec α) : Binding E α → Option (E → Row → Nat → Except Error E)
  | unbound => none
  | accessor _ set => some fun e row i =>
      match codec.extract row i with
      | .error err => .error err
      | .ok none => .ok e
      | .ok (some a) => .ok (set e a)
  | nullable _ set => some fun e row i => (codec.extract row i).map (set e)

end Binding

namespace Table

variable {E α : Type}

def ofName (name : String) : Table E := { ref := { name } }

def columns (t : Table E) : List ColumnRef := t.bound.map BoundColumn.column

def rebind (t : Table E) (ref : TableRef) : Table E where
  ref := ref
  bound := t.bound.map fun b => { b with column := b.column.withTable ref }

def withSchema (t : Table E) (schema : String) : Table E := t.rebind (t.ref.withSchema schema)

def aliased (t : Table E) (aliasName : String) : Table E :=
  t.rebind (t.ref.aliased aliasName)

def declare (t : Table E) (name : String) (codec : Codec α) (primaryKey notNull : Bool)
    (binding : Binding E α) : Table E × Column α :=
  let column : ColumnRef :=
    { table := t.ref, name, codec := codec.id, primaryKey, notNull := primaryKey || notNull }
  ({ t with bound := t.bound ++ [⟨column, binding.getter codec, binding.setter codec⟩] },
    ⟨column, codec⟩)

def primaryKeys (t : Table E) : Except UsageFault (List ColumnRef) :=
  match t.columns.filter (·.primaryKey) with
  | [] => .error (.noPrimaryKey t.ref.name)
  | keys => .ok keys

def source (t : Table E) : Source := .table t.ref t.columns

def select (t : Table E) : Select := .ofSource (some t.source)

def find (t : Table E) (column : ColumnRef) : Except UsageFault (BoundColumn E) :=
  match t.bound.find? fun b => b.column.name == column.name with
  | some b => .ok b
  | none => .error (.foreignColumn column.name t.ref.name)

def get (t : Table E) (e : E) (column : ColumnRef) : Except UsageFault Value := do
  let b ← t.find column
  match b.getter with
  | some getter => return getter e
  | none => throw (.noGetter t.ref.name column.name)

def values (t : Table E) (e : E) : List (ColumnRef × Value) :=
  t.bound.filterMap fun b => b.getter.map fun getter => (b.column, getter e)

def set (t : Table E) (e : E) (column : ColumnRef) (row : Row) (field : Nat) : Except Error E :=
  match t.find column with
  | .error fault => .error (.usage fault)
  | .ok b =>
      match b.setter with
      | some setter => setter e row field
      | none => .error (.usage (.noSetter t.ref.name column.name))

/-- Takes the first field that carries the column, if the column has a setter and there is one. -/
def decodeColumn (row : Row) (fields : List ResultColumn) (e : E) (b : BoundColumn E) :
    Except Error E :=
  match b.setter, fields.findIdx? (·.carries b.column) with
  | some setter, some field => setter e row field
  | _, _ => .ok e

def decode (t : Table E) (initial : E) (row : Row) (fields : List ResultColumn) : Except Error E :=
  t.bound.foldlM (decodeColumn row fields) initial

end Table

end TypedSql
