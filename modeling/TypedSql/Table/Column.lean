import TypedSql.Statement.Build

namespace TypedSql

/-! Columns with the type that programs read them as, and the expressions that begin with them. -/

structure Column (α : Type) where
  ref : ColumnRef
  codec : Codec α

inductive Argument (α : Type) where
  | value (value : Option α)
  | expression (expression : Expr)

namespace Column

variable {α : Type}

def within (c : Column α) (table : TableRef) : Column α :=
  { c with ref := c.ref.withTable table }

def expression (c : Column α) : Expr := .column c.ref

def parameter (c : Column α) (value : Option α) : Expr :=
  .parameter (.ofCodec c.codec value)

def resolve (c : Column α) : Argument α → Expr
  | .value v => c.parameter v
  | .expression e => e

def compare (c : Column α) (tokens : List String) (rhs : Argument α) : Expr :=
  c.expression.compare tokens (c.resolve rhs)

def eq (c : Column α) (rhs : Argument α) : Expr := c.compare ["="] rhs

def notEq (c : Column α) (rhs : Argument α) : Expr := c.compare ["<>"] rhs

def lt (c : Column α) (rhs : Argument α) : Expr := c.compare ["<"] rhs

def lte (c : Column α) (rhs : Argument α) : Expr := c.compare ["<="] rhs

def gt (c : Column α) (rhs : Argument α) : Expr := c.compare [">"] rhs

def gte (c : Column α) (rhs : Argument α) : Expr := c.compare [">="] rhs

def like (c : Column α) (pattern : Argument α) : Expr := c.compare ["like"] pattern

def notLike (c : Column α) (pattern : Argument α) : Expr := c.compare ["not", "like"] pattern

private def range (c : Column α) (tokens : List String) (low high : Argument α) : Expr :=
  .ternary (.of c.expression) ⟨tokens⟩ (.of (c.resolve low)) ⟨["and"]⟩ (.of (c.resolve high))
    (some .boolean)

def between (c : Column α) (low high : Argument α) : Expr := c.range ["between"] low high

def notBetween (c : Column α) (low high : Argument α) : Expr :=
  c.range ["not", "between"] low high

def isNull (c : Column α) : Expr := c.expression.testNull

def isNotNull (c : Column α) : Expr := c.expression.testNotNull

def inList (c : Column α) (values : List (Argument α)) (negated : Bool) :
    Except ConstructionFault Expr :=
  Expr.membership (.of c.expression) (some (values.map c.resolve)) none negated

def inQuery (c : Column α) (query : Select) (negated : Bool) : Except ConstructionFault Expr :=
  Expr.membership (.of c.expression) none (some query) negated

private def arithmetic (c : Column α) (symbol : String) (rhs : Argument α) : Expr :=
  .binary (.of c.expression) ⟨[symbol]⟩ (.of (c.resolve rhs)) (some c.codec.id.type)

def plus (c : Column α) (rhs : Argument α) : Expr := c.arithmetic "+" rhs

def minus (c : Column α) (rhs : Argument α) : Expr := c.arithmetic "-" rhs

def times (c : Column α) (rhs : Argument α) : Expr := c.arithmetic "*" rhs

def div (c : Column α) (rhs : Argument α) : Expr := c.arithmetic "/" rhs

def rem (c : Column α) (rhs : Argument α) : Expr := c.arithmetic "%" rhs

def neg (c : Column α) : Expr :=
  .unary ⟨["-"]⟩ (.of c.expression) false (some c.codec.id.type)

private def apply (c : Column α) (name : String) (type : WireType) : Expr :=
  .call name [c.expression] (some type)

def count (c : Column α) : Expr := c.apply "count" .int64

def sum (c : Column α) : Expr := c.apply "sum" c.codec.id.type

def avg (c : Column α) : Expr := c.apply "avg" .float64

def min (c : Column α) : Expr := c.apply "min" c.codec.id.type

def max (c : Column α) : Expr := c.apply "max" c.codec.id.type

def lower (c : Column α) : Expr := c.apply "lower" .varchar

def upper (c : Column α) : Expr := c.apply "upper" .varchar

def length (c : Column α) : Expr := c.apply "length" .int64

def ascending (c : Column α) : OrderBy := ⟨c.expression, false⟩

def descending (c : Column α) : OrderBy := ⟨c.expression, true⟩

def set (c : Column α) (value : Argument α) : Except ConstructionFault Assignment :=
  Assignment.of c.ref (c.resolve value)

def labelled (c : Column α) (label : String) : SelectItem := ⟨c.expression, some label⟩

end Column

end TypedSql
