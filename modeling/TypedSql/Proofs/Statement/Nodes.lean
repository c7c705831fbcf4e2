import TypedSql.Proofs.Statement.Listing
import TypedSql.Statement.Build

namespace TypedSql

/-! The expressions that a tree consists of, and the operators that stand in it. -/

/-- An operator as it is made of tokens: there is one, and none of them is blank. -/
def Operator.IsMade (op : Operator) : Prop :=
  ∃ tokens, ofTokens tokens = .ok op

namespace Operator.IsMade

variable {op : Operator}

theorem tokens_eq (hmade : op.IsMade) :
    op.tokens ≠ [] ∧ ∀ token ∈ op.tokens, Text.isAllBlank token = false := by
  obtain ⟨tokens, hmade⟩ := hmade
  simp only [ofTokens, List.isEmpty_iff] at hmade
  split at hmade
  next => cases hmade
  next hsome =>
    cases hmade
    refine ⟨hsome, fun token hmem => ?_⟩
    simpa using (List.mem_filter.mp hmem).2

/-- The last token of an operator begins and ends with a character. -/
theorem exists_getLast? (hmade : op.IsMade) :
    ∃ token, op.tokens.getLast? = some token ∧ token.toList ≠ [] := by
  obtain ⟨hsome, hkept⟩ := hmade.tokens_eq
  refine ⟨op.tokens.getLast hsome, List.getLast?_eq_some_getLast hsome, ?_⟩
  intro hempty
  have hblank : Text.isAllBlank (op.tokens.getLast hsome) = true := by
    rw [Text.isAllBlank, hempty]
    rfl
  rw [hkept _ (List.getLast_mem hsome)] at hblank
  cases hblank

end Operator.IsMade

def Collector.operators : Collector Operator where
  operator := fun op => [op]

mutual

/-- The expression and every expression inside of it. -/
def Expr.nodes : Expr → List Expr
  | .unary op operand postfixed t => .unary op operand postfixed t :: operand.nodes
  | .binary left op right t => .binary left op right t :: (left.nodes ++ right.nodes)
  | .ternary first op second op2 third t =>
      .ternary first op second op2 third t :: (first.nodes ++ second.nodes ++ third.nodes)
  | .function name args emptyParens t => .function name args emptyParens t :: Expr.nodesAll args
  | .case operand branches otherwise t =>
      .case operand branches otherwise t ::
        (Expr.nodesOption operand ++ Expr.nodesBranches branches ++ Expr.nodesOption otherwise)
  | .inList operand values negated =>
      .inList operand values negated :: (operand.nodes ++ Expr.nodesAll values)
  | .inQuery operand query negated =>
      .inQuery operand query negated :: (operand.nodes ++ query.nodes)
  | .tuple elements => .tuple elements :: Expr.nodesAll elements
  | .select query => .select query :: query.nodes
  | leaf => [leaf]

def Operand.nodes : Operand → List Expr
  | ⟨e, _⟩ => e.nodes

def Expr.nodesAll : List Expr → List Expr
  | [] => []
  | e :: es => e.nodes ++ Expr.nodesAll es

def Expr.nodesOption : Option Expr → List Expr
  | none => []
  | some e => e.nodes

def Expr.nodesBranches : List (Expr × Expr) → List Expr
  | [] => []
  | (condition, result) :: rest => condition.nodes ++ result.nodes ++ Expr.nodesBranches rest

def Select.nodes : Select → List Expr
  | ⟨items, source, filter, _, groupBy, having, orderBy, _, _⟩ =>
      SelectItem.nodesAll items ++ Source.nodesOption source ++ Expr.nodesOption filter ++
        Expr.nodesAll groupBy ++ Expr.nodesOption having ++ OrderBy.nodesAll orderBy

def SelectItem.nodesAll : List SelectItem → List Expr
  | [] => []
  | ⟨e, _⟩ :: rest => e.nodes ++ SelectItem.nodesAll rest

def OrderBy.nodesAll : List OrderBy → List Expr
  | [] => []
  | ⟨e, _⟩ :: rest => e.nodes ++ OrderBy.nodesAll rest

def Source.nodesOption : Option Source → List Expr
  | none => []
  | some source => source.nodes

def Source.nodes : Source → List Expr
  | .table _ _ => []
  | .join _ left right on => left.nodes ++ right.nodes ++ Expr.nodesOption on
  | .derived query _ => query.nodes

def Query.nodes : Query → List Expr
  | .select query => query.nodes
  | .union query => query.nodes

def Union.nodes : Union → List Expr
  | ⟨left, right, _, _, orderBy, _, _⟩ => left.nodes ++ right.nodes ++ OrderBy.nodesAll orderBy

end

def InsertSource.nodes : InsertSource → List Expr
  | .rows values => values.flatMap Expr.nodesAll
  | .query select => select.nodes

/-- Every expression that stands in a statement. -/
def Statement.nodes : Statement → List Expr
  | .select query => query.nodes
  | .union query => query.nodes
  | .insert i => i.source.nodes
  | .update u => u.assignments.flatMap (fun a => a.value.nodes) ++ Expr.nodesOption u.filter
  | .delete d => Expr.nodesOption d.filter
  | .raw _ => []

/-- The nodes of trees, whatever is around them. -/
def Expr.nodeListing : StatementListing Expr where
  inside := fun _ _ => ()
  among := fun _ _ => ()
  condition := id
  derived := id
  ordered := id
  node := fun e inside => e :: inside
  expr := fun _ _ => Expr.nodes
  operand := fun _ _ => Operand.nodes
  exprs := fun _ _ => Expr.nodesAll
  exprOption := fun _ _ => Expr.nodesOption
  branches := fun _ _ => Expr.nodesBranches
  select := fun _ _ => Select.nodes
  items := fun _ _ => SelectItem.nodesAll
  orders := fun _ _ => OrderBy.nodesAll
  source := fun _ _ => Source.nodes
  sourceOption := fun _ _ => Source.nodesOption
  query := fun _ _ => Query.nodes
  union := fun _ _ => Union.nodes
  insertSource := InsertSource.nodes
  statement := Statement.nodes
  expr_postfix := by simp [Expr.nodes]
  expr_binary := by simp [Expr.nodes]
  expr_ternary := by simp [Expr.nodes]
  select_mk := by simp [Select.nodes]
  source_derived := by simp [Source.nodes]
  union_mk := by simp [Union.nodes]

end TypedSql
