import TypedSql.Codec.Basic

namespace TypedSql

/-- Name of a table.  The alias only changes how the table is written. -/
structure TableRef where
  name : String
  schema : Option String := none
  aliasName : Option String := none
deriving DecidableEq, Repr

namespace TableRef

def qualifier (t : TableRef) : String :=
  t.aliasName.getD t.name

def withSchema (t : TableRef) (schema : String) : TableRef :=
  { t with schema := some schema }

def aliased (t : TableRef) (aliasName : String) : TableRef :=
  { t with aliasName := some aliasName }

end TableRef

structure ColumnRef where
  table : TableRef
  name : String
  codec : CodecId
  primaryKey : Bool := false
  notNull : Bool := false
deriving DecidableEq, Repr

namespace ColumnRef

def withTable (c : ColumnRef) (table : TableRef) : ColumnRef :=
  { c with table := table }

/-- Columns are one when their names and tables are, the alias included. -/
def same (a b : ColumnRef) : Bool :=
  a.name == b.name && a.table == b.table

end ColumnRef

structure ResultColumn where
  column : Option ColumnRef
  label : Option String
  type : Option WireType
deriving DecidableEq, Repr

namespace ResultColumn

def ofColumn (c : ColumnRef) : ResultColumn :=
  ⟨some c, none, some c.codec.type⟩

def carries (r : ResultColumn) (c : ColumnRef) : Bool :=
  match r.column with
  | some own => own.same c
  | none => false

end ResultColumn

end TypedSql
