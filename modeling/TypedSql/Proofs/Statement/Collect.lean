import TypedSql.Writer.Pagination

namespace TypedSql

/-! What the nodes of a tree hold, from left to right in the order of the clauses. -/

/-- What a listing takes from each kind of node; from a kind that is not given it takes nothing. -/
structure Collector (β : Type) where
  parameter : Parameter → List β := fun _ => []
  operator : Operator → List β := fun _ => []
  call : String → List β := fun _ => []
  /-- What it takes from the limit and the offset of a query, at the end of the query. -/
  pagination : Option Nat → Option Nat → List β := fun _ _ => []

variable {β : Type}

mutual

def Expr.collect (k : Collector β) : Expr → List β
  | .column _ => []
  | .parameter p => k.parameter p
  | .literal _ => []
  | .unary op operand postfixed _ =>
      if postfixed then operand.collect k ++ k.operator op else k.operator op ++ operand.collect k
  | .binary left op right _ => left.collect k ++ k.operator op ++ right.collect k
  | .ternary first op second op2 third _ =>
      first.collect k ++ k.operator op ++ second.collect k ++ k.operator op2 ++ third.collect k
  | .function name args _ _ => k.call name ++ Expr.collectAll k args
  | .case operand branches otherwise _ =>
      Expr.collectOption k operand ++ Expr.collectBranches k branches ++
        Expr.collectOption k otherwise
  | .inList operand values _ => operand.collect k ++ Expr.collectAll k values
  | .inQuery operand query _ => operand.collect k ++ query.collect k
  | .tuple elements => Expr.collectAll k elements
  | .select query => query.collect k

def Operand.collect (k : Collector β) : Operand → List β
  | ⟨e, _⟩ => e.collect k

def Expr.collectAll (k : Collector β) : List Expr → List β
  | [] => []
  | e :: es => e.collect k ++ Expr.collectAll k es

def Expr.collectOption (k : Collector β) : Option Expr → List β
  | none => []
  | some e => e.collect k

def Expr.collectBranches (k : Collector β) : List (Expr × Expr) → List β
  | [] => []
  | (condition, result) :: rest =>
      condition.collect k ++ result.collect k ++ Expr.collectBranches k rest

def Select.collect (k : Collector β) : Select → List β
  | ⟨items, source, filter, _, groupBy, having, orderBy, limit, offset⟩ =>
      SelectItem.collectAll k items ++ Source.collectOption k source ++
        Expr.collectOption k filter ++ Expr.collectAll k groupBy ++ Expr.collectOption k having ++
        OrderBy.collectAll k orderBy ++ k.pagination limit offset

def SelectItem.collectAll (k : Collector β) : List SelectItem → List β
  | [] => []
  | ⟨e, _⟩ :: rest => e.collect k ++ SelectItem.collectAll k rest

def OrderBy.collectAll (k : Collector β) : List OrderBy → List β
  | [] => []
  | ⟨e, _⟩ :: rest => e.collect k ++ OrderBy.collectAll k rest

def Source.collectOption (k : Collector β) : Option Source → List β
  | none => []
  | some source => source.collect k

def Source.collect (k : Collector β) : Source → List β
  | .table _ _ => []
  | .join _ left right on => left.collect k ++ right.collect k ++ Expr.collectOption k on
  | .derived query _ => query.collect k

def Query.collect (k : Collector β) : Query → List β
  | .select query => query.collect k
  | .union query => query.collect k

def Union.collect (k : Collector β) : Union → List β
  | ⟨left, right, _, _, orderBy, limit, offset⟩ =>
      left.collect k ++ right.collect k ++ OrderBy.collectAll k orderBy ++ k.pagination limit offset

end

def InsertSource.collect (k : Collector β) : InsertSource → List β
  | .rows values => values.flatMap (Expr.collectAll k)
  | .query select => select.collect k

namespace Statement

def collect (k : Collector β) : Statement → List β
  | .select query => query.collect k
  | .union query => query.collect k
  | .insert i => i.source.collect k
  | .update u => u.assignments.flatMap (fun a => a.value.collect k) ++ Expr.collectOption k u.filter
  | .delete d => Expr.collectOption k d.filter
  | .raw r => r.parameters.flatMap k.parameter

def isRaw : Statement → Bool
  | .raw _ => true
  | _ => false

end Statement

def Collector.words : Collector String where
  operator := Operator.tokens
  call := fun name => [name]

def Statement.words (s : Statement) : List String :=
  s.collect .words

namespace Dialect

def paginationParameters (d : Dialect) (limit offset : Option Nat) : List Parameter :=
  match d with
  | .generic => []
  | .postgres | .sqlite => limit.toList.map .ofRowCount ++ offset.toList.map .ofRowCount
  | .mysql =>
      if limit.isSome || offset.isSome then
        offset.toList.map .ofRowCount ++ [.ofRowCount (limit.getD unlimitedRows)]
      else []

end Dialect

def Collector.parameters (d : Dialect) : Collector Parameter where
  parameter := fun p => [p]
  pagination := d.paginationParameters

def Statement.parameters (s : Statement) (d : Dialect) : List Parameter :=
  s.collect (.parameters d)

end TypedSql
