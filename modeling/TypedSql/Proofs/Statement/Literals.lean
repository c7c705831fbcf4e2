import TypedSql.Statement.Syntax

namespace TypedSql

/-! Changing the values that are written into a statement, and nothing else of it. -/

mutual

def Expr.mapLiterals (f : Value → Value) : Expr → Expr
  | .column c => .column c
  | .parameter p => .parameter p
  | .literal v => .literal (f v)
  | .unary op operand postfixed type => .unary op (operand.mapLiterals f) postfixed type
  | .binary left op right type => .binary (left.mapLiterals f) op (right.mapLiterals f) type
  | .ternary first op second op2 third type =>
      .ternary (first.mapLiterals f) op (second.mapLiterals f) op2 (third.mapLiterals f) type
  | .function name args emptyParens type =>
      .function name (Expr.mapLiteralsAll f args) emptyParens type
  | .case operand branches otherwise type =>
      .case (Expr.mapLiteralsOption f operand) (Expr.mapLiteralsBranches f branches)
        (Expr.mapLiteralsOption f otherwise) type
  | .inList operand values negated =>
      .inList (operand.mapLiterals f) (Expr.mapLiteralsAll f values) negated
  | .inQuery operand query negated =>
      .inQuery (operand.mapLiterals f) (query.mapLiterals f) negated
  | .tuple elements => .tuple (Expr.mapLiteralsAll f elements)
  | .select query => .select (query.mapLiterals f)

def Operand.mapLiterals (f : Value → Value) : Operand → Operand
  | ⟨e, parens⟩ => ⟨e.mapLiterals f, parens⟩

def Expr.mapLiteralsAll (f : Value → Value) : List Expr → List Expr
  | [] => []
  | e :: es => e.mapLiterals f :: Expr.mapLiteralsAll f es

def Expr.mapLiteralsOption (f : Value → Value) : Option Expr → Option Expr
  | none => none
  | some e => some (e.mapLiterals f)

def Expr.mapLiteralsBranches (f : Value → Value) : List (Expr × Expr) → List (Expr × Expr)
  | [] => []
  | (condition, result) :: rest =>
      (condition.mapLiterals f, result.mapLiterals f) :: Expr.mapLiteralsBranches f rest

def Select.mapLiterals (f : Value → Value) : Select → Select
  | ⟨items, source, filter, distinct, groupBy, having, orderBy, limit, offset⟩ =>
      ⟨SelectItem.mapLiteralsAll f items, Source.mapLiteralsOption f source,
        Expr.mapLiteralsOption f filter, distinct, Expr.mapLiteralsAll f groupBy,
        Expr.mapLiteralsOption f having, OrderBy.mapLiteralsAll f orderBy, limit, offset⟩

def SelectItem.mapLiteralsAll (f : Value → Value) : List SelectItem → List SelectItem
  | [] => []
  | ⟨e, label⟩ :: rest => ⟨e.mapLiterals f, label⟩ :: SelectItem.mapLiteralsAll f rest

def OrderBy.mapLiteralsAll (f : Value → Value) : List OrderBy → List OrderBy
  | [] => []
  | ⟨e, descending⟩ :: rest => ⟨e.mapLiterals f, descending⟩ :: OrderBy.mapLiteralsAll f rest

def Source.mapLiteralsOption (f : Value → Value) : Option Source → Option Source
  | none => none
  | some source => some (source.mapLiterals f)

def Source.mapLiterals (f : Value → Value) : Source → Source
  | .table t columns => .table t columns
  | .join kind left right on =>
      .join kind (left.mapLiterals f) (right.mapLiterals f) (Expr.mapLiteralsOption f on)
  | .derived query aliasName => .derived (query.mapLiterals f) aliasName

def Query.mapLiterals (f : Value → Value) : Query → Query
  | .select query => .select (query.mapLiterals f)
  | .union query => .union (query.mapLiterals f)

def Union.mapLiterals (f : Value → Value) : Union → Union
  | ⟨left, right, all, parens, orderBy, limit, offset⟩ =>
      ⟨left.mapLiterals f, right.mapLiterals f, all, parens, OrderBy.mapLiteralsAll f orderBy,
        limit, offset⟩

end

def SelectItem.mapLiterals (f : Value → Value) (item : SelectItem) : SelectItem :=
  ⟨item.expression.mapLiterals f, item.label⟩

def OrderBy.mapLiterals (f : Value → Value) (key : OrderBy) : OrderBy :=
  ⟨key.expression.mapLiterals f, key.descending⟩

section

variable (f : Value → Value)

theorem Expr.mapLiteralsAll_eq_map (es : List Expr) :
    Expr.mapLiteralsAll f es = es.map (Expr.mapLiterals f) := by
  induction es with
  | nil => simp only [Expr.mapLiteralsAll, List.map_nil]
  | cons e es ih => simp only [Expr.mapLiteralsAll, ih, List.map_cons]

theorem Expr.mapLiteralsOption_eq_map (e : Option Expr) :
    Expr.mapLiteralsOption f e = e.map (Expr.mapLiterals f) := by
  cases e <;> simp only [Expr.mapLiteralsOption, Option.map_none, Option.map_some]

theorem SelectItem.mapLiteralsAll_eq_map (items : List SelectItem) :
    SelectItem.mapLiteralsAll f items = items.map (SelectItem.mapLiterals f) := by
  induction items with
  | nil => simp only [SelectItem.mapLiteralsAll, List.map_nil]
  | cons item rest ih =>
      obtain ⟨e, label⟩ := item
      simp only [SelectItem.mapLiteralsAll, ih, List.map_cons, SelectItem.mapLiterals]

theorem OrderBy.mapLiteralsAll_eq_map (keys : List OrderBy) :
    OrderBy.mapLiteralsAll f keys = keys.map (OrderBy.mapLiterals f) := by
  induction keys with
  | nil => simp only [OrderBy.mapLiteralsAll, List.map_nil]
  | cons key rest ih =>
      obtain ⟨e, descending⟩ := key
      simp only [OrderBy.mapLiteralsAll, ih, List.map_cons, OrderBy.mapLiterals]

theorem Source.mapLiteralsOption_eq_map (source : Option Source) :
    Source.mapLiteralsOption f source = source.map (Source.mapLiterals f) := by
  cases source <;> simp only [Source.mapLiteralsOption, Option.map_none, Option.map_some]

end

def Assignment.mapLiterals (f : Value → Value) (a : Assignment) : Assignment :=
  ⟨a.column, a.value.mapLiterals f⟩

def InsertSource.mapLiterals (f : Value → Value) : InsertSource → InsertSource
  | .rows values => .rows (values.map (Expr.mapLiteralsAll f))
  | .query select => .query (select.mapLiterals f)

def Insert.mapLiterals (f : Value → Value) (i : Insert) : Insert :=
  ⟨i.table, i.columns, i.source.mapLiterals f⟩

def Update.mapLiterals (f : Value → Value) (u : Update) : Update :=
  ⟨u.table, u.assignments.map (Assignment.mapLiterals f), Expr.mapLiteralsOption f u.filter⟩

def Delete.mapLiterals (f : Value → Value) (d : Delete) : Delete :=
  ⟨d.table, Expr.mapLiteralsOption f d.filter⟩

def Value.blankText : Value → Value
  | .some (.varchar _) => .some (.varchar "")
  | v => v

namespace Statement

def mapLiterals (f : Value → Value) : Statement → Statement
  | .select query => .select (query.mapLiterals f)
  | .union query => .union (query.mapLiterals f)
  | .insert i => .insert (i.mapLiterals f)
  | .update u => .update (u.mapLiterals f)
  | .delete d => .delete (d.mapLiterals f)
  | .raw r => .raw r

/-- The statement with every text literal emptied.  Statements that agree here are one tree but
for the contents of their text literals. -/
def blankTexts (s : Statement) : Statement :=
  s.mapLiterals Value.blankText

end Statement

end TypedSql
