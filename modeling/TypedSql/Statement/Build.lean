import TypedSql.Statement.Columns
import TypedSql.Text.Blank

namespace TypedSql

/-! Building expressions and statements.  Parts that make no sense together are refused here, so
that what has been built can be written. -/

namespace Operator

def ofTokens (tokens : List String) : Except ConstructionFault Operator :=
  let kept := tokens.filter fun t => !Text.isAllBlank t
  if kept.isEmpty then .error .operatorWithoutToken else .ok ⟨kept⟩

end Operator

namespace Operand

/-- Anything but a leaf stands in parentheses. -/
def of (e : Expr) : Operand := ⟨e, !e.isLeaf⟩

end Operand

namespace Expr

def compare (left : Expr) (tokens : List String) (right : Expr) : Expr :=
  .binary (.of left) ⟨tokens⟩ (.of right) (some .boolean)

def and (left right : Expr) : Expr := left.compare ["and"] right

def or (left right : Expr) : Expr := left.compare ["or"] right

def not (e : Expr) : Expr := .unary ⟨["not"]⟩ (.of e) false (some .boolean)

def eq (left right : Expr) : Expr := left.compare ["="] right

def notEq (left right : Expr) : Expr := left.compare ["<>"] right

def lt (left right : Expr) : Expr := left.compare ["<"] right

def lte (left right : Expr) : Expr := left.compare ["<="] right

def gt (left right : Expr) : Expr := left.compare [">"] right

def gte (left right : Expr) : Expr := left.compare [">="] right

def testNull (e : Expr) : Expr := .unary ⟨["is", "null"]⟩ (.of e) true (some .boolean)

def testNotNull (e : Expr) : Expr :=
  .unary ⟨["is", "not", "null"]⟩ (.of e) true (some .boolean)

def call (name : String) (args : List Expr) (type : Option WireType) : Expr :=
  .function name args true type

def countAll : Expr :=
  call "count" [.literal (.some (.integer .int64 (.ofBool .int64 true)))] (some .int64)

def existsIn (query : Select) : Expr := call "exists" [.select query] (some .boolean)

def notExistsIn (query : Select) : Expr := call "not exists" [.select query] (some .boolean)

def coalesce (args : List Expr) : Except ConstructionFault Expr :=
  match args with
  | [] => .error .coalesceWithoutArgument
  | first :: _ => .ok (call "coalesce" args first.type?)

def membership (operand : Operand) (values : Option (List Expr)) (query : Option Select)
    (negated : Bool) : Except ConstructionFault Expr :=
  match values, query with
  | some _, some _ => .error .inWithBoth
  | none, none => .error .inWithNeither
  | some [], none => .error .inWithoutValue
  | some (v :: vs), none => .ok (.inList operand (v :: vs) negated)
  | none, some q => .ok (.inQuery operand q negated)

/-- A choice between branches.  Its type is that of the first result, or of the last resort. -/
def choice (operand : Option Expr) (branches : List (Expr × Expr)) (otherwise : Option Expr) :
    Except ConstructionFault Expr :=
  match branches with
  | [] => .error .caseWithoutBranch
  | (_, first) :: _ =>
      .ok (.case operand branches otherwise (first.type?.or (otherwise.bind Expr.type?)))

def tupleOf (elements : List Expr) : Except ConstructionFault Expr :=
  if elements.isEmpty then .error .tupleWithoutElement else .ok (.tuple elements)

def conjoin (current : Option Expr) (condition : Expr) : Option Expr :=
  match current with
  | some e => some (e.and condition)
  | none => some condition

end Expr

namespace Source

/-- A join; every kind but the cross join needs a condition. -/
def joinOf (kind : JoinKind) (left right : Source) (on : Option Expr) :
    Except ConstructionFault Source :=
  if on.isNone && kind ≠ .cross then .error (.joinWithoutCondition kind)
  else .ok (.join kind left right on)

end Source

namespace Select

def ofSource (source : Option Source) : Select :=
  ⟨[], source, none, false, [], none, [], none, none⟩

def validate (s : Select) : Except ConstructionFault Unit :=
  if s.items.isEmpty && s.source.isNone then .error .selectWithoutColumns else .ok ()

def ofItems (items : List SelectItem) : Except ConstructionFault Select := do
  let s := { ofSource none with items := items }
  s.validate
  return s

def addFilter (s : Select) (condition : Expr) : Select :=
  { s with filter := Expr.conjoin s.filter condition }

def countQuery (s : Select) : Except ConstructionFault Select := do
  s.validate
  let stripped := { s with orderBy := [], limit := none, offset := none }
  if s.distinct || !s.groupBy.isEmpty || s.source.isNone then
    return { ofSource (some (.derived (.select stripped) "count_source")) with
      items := [⟨.countAll, none⟩] }
  else return { stripped with items := [⟨.countAll, none⟩] }

end Select

namespace Union

def of (left right : Query) (all : Bool) : Except ConstructionFault Union :=
  let l := left.resultColumns.length
  let r := right.resultColumns.length
  if l ≠ r then .error (.unionArity l r) else .ok ⟨left, right, all, false, [], none, none⟩

end Union

namespace Assignment

def check (column : ColumnRef) (value : Expr) : Except ConstructionFault Unit :=
  if column.notNull && value.isNull then
    .error (.nullAssignment column.table.name column.name)
  else .ok ()

def of (column : ColumnRef) (value : Expr) : Except ConstructionFault Assignment := do
  check column value
  return ⟨column, value⟩

end Assignment

namespace Insert

/-- Checks rows in order: first how many values a row has, then each of its values. -/
def checkRow (table : TableRef) (columns : List ColumnRef) (row : List Expr) :
    Except ConstructionFault Unit := do
  if row.length ≠ columns.length then
    throw (.insertRowArity table.name columns.length row.length)
  (columns.zip row).forM fun (c, v) => Assignment.check c v

def of (table : TableRef) (columns : List ColumnRef) (rows : Option (List (List Expr)))
    (query : Option Select) : Except ConstructionFault Insert := do
  if columns.isEmpty then throw .insertWithoutColumn
  match rows, query with
  | some _, some _ => throw .insertWithBoth
  | none, none => throw .insertWithNeither
  | some rows, none =>
      if rows.isEmpty then throw .insertWithoutRow
      rows.forM (checkRow table columns)
      return ⟨table, columns, .rows rows⟩
  | none, some query =>
      query.validate
      let produced := query.resultColumns.length
      if produced ≠ columns.length then
        throw (.insertSelectArity table.name columns.length produced)
      return ⟨table, columns, .query query⟩

def ofAssignments (table : TableRef) (assignments : List Assignment) :
    Except ConstructionFault Insert :=
  of table (assignments.map Assignment.column) (some [assignments.map Assignment.value]) none

end Insert

namespace Update

def of (table : TableRef) (assignments : List Assignment) : Except ConstructionFault Update :=
  if assignments.isEmpty then .error .updateWithoutAssignment else .ok { table, assignments }

def addFilter (u : Update) (condition : Expr) : Update :=
  { u with filter := Expr.conjoin u.filter condition }

end Update

namespace Delete

def addFilter (d : Delete) (condition : Expr) : Delete :=
  { d with filter := Expr.conjoin d.filter condition }

end Delete

end TypedSql
