import TypedSql.Table.Ref

namespace TypedSql

/-! Expressions and statements as trees.  Nothing about parentheses is inferred from operators:
an operand says itself whether it stands in parentheses. -/

structure Parameter where
  value : Value
  codec : CodecId
deriving DecidableEq

namespace Parameter

def ofCodec {α : Type} (c : Codec α) (value : Option α) : Parameter :=
  ⟨c.encodeOption value, c.id⟩

def ofType (type : WireType) (value : Value) : Parameter :=
  ⟨value, .ofType type⟩

end Parameter

structure Operator where
  tokens : List String
deriving DecidableEq, Repr

mutual

inductive Expr where
  | column (column : ColumnRef)
  | parameter (parameter : Parameter)
  | literal (value : Value)
  | unary (operator : Operator) (operand : Operand) (postfixed : Bool) (type : Option WireType)
  | binary (left : Operand) (operator : Operator) (right : Operand) (type : Option WireType)
  | ternary (first : Operand) (operator : Operator) (second : Operand) (operator2 : Operator)
      (third : Operand) (type : Option WireType)
  /-- A call; without arguments the parentheses may be left out. -/
  | function (name : String) (args : List Expr) (emptyParens : Bool) (type : Option WireType)
  | case (operand : Option Expr) (branches : List (Expr × Expr)) (otherwise : Option Expr)
      (type : Option WireType)
  | inList (operand : Operand) (values : List Expr) (negated : Bool)
  | inQuery (operand : Operand) (query : Select) (negated : Bool)
  | tuple (elements : List Expr)
  | select (query : Select)

structure Operand where
  expression : Expr
  parenthesized : Bool

structure SelectItem where
  expression : Expr
  label : Option String

structure OrderBy where
  expression : Expr
  descending : Bool

/-- A select.  Without items it selects every column of its source. -/
structure Select where
  items : List SelectItem
  source : Option Source
  filter : Option Expr
  distinct : Bool
  groupBy : List Expr
  having : Option Expr
  orderBy : List OrderBy
  limit : Option Nat
  offset : Option Nat

inductive Source where
  | table (table : TableRef) (columns : List ColumnRef)
  | join (kind : JoinKind) (left right : Source) (on : Option Expr)
  | derived (query : Query) (aliasName : String)

inductive Query where
  | select (query : Select)
  | union (query : Union)

structure Union where
  left : Query
  right : Query
  all : Bool
  parenthesized : Bool
  orderBy : List OrderBy
  limit : Option Nat
  offset : Option Nat

end

structure Assignment where
  column : ColumnRef
  value : Expr

inductive InsertSource where
  | rows (rows : List (List Expr))
  | query (query : Select)

structure Insert where
  table : TableRef
  columns : List ColumnRef
  source : InsertSource

structure Update where
  table : TableRef
  assignments : List Assignment
  filter : Option Expr := none

structure Delete where
  table : TableRef
  filter : Option Expr := none

/-- SQL written by hand, with a question mark for every parameter. -/
structure Raw where
  sql : String
  parameters : List Parameter := []

inductive Statement where
  | select (query : Select)
  | union (query : Union)
  | insert (insert : Insert)
  | update (update : Update)
  | delete (delete : Delete)
  | raw (raw : Raw)

namespace Statement

def ofQuery : Query → Statement
  | .select s => .select s
  | .union u => .union u

def ofText (sql : String) : Statement := .raw ⟨sql, []⟩

end Statement

end TypedSql
