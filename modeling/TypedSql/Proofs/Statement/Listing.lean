import TypedSql.Proofs.Statement.Collect
import TypedSql.Writer.Render

namespace TypedSql

/-- A listing of trees, by the clause that a part of a tree stands in and by what is known of its
surroundings: `ε` around expressions and queries, `φ` around sources. -/
structure Listing (ε φ α : Type) where
  /-- What is known inside of a select. -/
  inside : ε → Select → ε
  /-- What is known among the sources of a select. -/
  among : ε → Select → φ
  condition : φ → ε
  derived : φ → ε
  ordered : ε → ε
  operator : Operator → List α := fun _ => []
  call : String → List α := fun _ => []
  /-- What is listed of the name behind a query that is a source. -/
  named : String → List α := fun _ => []
  /-- What is listed of an expression, by what is listed inside of it. -/
  node : Expr → List α → List α := fun _ inside => inside
  /-- What is listed of the limit and the offset of a query, at the end of the query. -/
  pagination : Option Nat → Option Nat → List α := fun _ _ => []
  /-- What is listed of a select, by what is listed of its clauses. -/
  block : Select → List α → List α := fun _ clauses => clauses
  expr : Scope → ε → Expr → List α
  operand : Scope → ε → Operand → List α
  exprs : Scope → ε → List Expr → List α
  exprOption : Scope → ε → Option Expr → List α
  branches : Scope → ε → List (Expr × Expr) → List α
  select : Scope → ε → Select → List α
  items : Scope → ε → List SelectItem → List α
  orders : Scope → ε → List OrderBy → List α
  source : Scope → φ → Source → List α
  sourceOption : Scope → φ → Option Source → List α
  query : Scope → ε → Query → List α
  union : Scope → ε → Union → List α
  expr_prefix : ∀ s x op o type, expr s x (.unary op o false type) =
    node (.unary op o false type) (operator op ++ operand s x o) := by intros; rfl
  expr_postfix : ∀ s x op o type, expr s x (.unary op o true type) =
    node (.unary op o true type) (operand s x o ++ operator op) := by intros; rfl
  expr_binary : ∀ s x left op right type, expr s x (.binary left op right type) =
    node (.binary left op right type)
      (operand s x left ++ operator op ++ operand s x right) := by intros; rfl
  expr_ternary : ∀ s x first op second op2 third type,
    expr s x (.ternary first op second op2 third type) =
      node (.ternary first op second op2 third type)
        (operand s x first ++ operator op ++ operand s x second ++ operator op2 ++
          operand s x third) := by intros; rfl
  expr_function : ∀ s x name args emptyParens type,
    expr s x (.function name args emptyParens type) =
      node (.function name args emptyParens type) (call name ++ exprs s x args) := by intros; rfl
  expr_case : ∀ s x subject cases otherwise type,
    expr s x (.case subject cases otherwise type) =
      node (.case subject cases otherwise type)
        (exprOption s x subject ++ branches s x cases ++ exprOption s x otherwise) := by
    intros; rfl
  expr_inList : ∀ s x o values negated, expr s x (.inList o values negated) =
    node (.inList o values negated) (operand s x o ++ exprs s x values) := by intros; rfl
  expr_inQuery : ∀ s x o q negated, expr s x (.inQuery o q negated) =
    node (.inQuery o q negated) (operand s x o ++ select s x q) := by intros; rfl
  expr_tuple : ∀ s x elements, expr s x (.tuple elements) =
    node (.tuple elements) (exprs s x elements) := by intros; rfl
  expr_select : ∀ s x q, expr s x (.select q) = node (.select q) (select s x q) := by intros; rfl
  operand_mk : ∀ s x e parens, operand s x ⟨e, parens⟩ = expr s x e := by intros; rfl
  exprs_nil : ∀ s x, exprs s x [] = [] := by intros; rfl
  exprs_cons : ∀ s x e es, exprs s x (e :: es) = expr s x e ++ exprs s x es := by intros; rfl
  exprOption_none : ∀ s x, exprOption s x none = [] := by intros; rfl
  exprOption_some : ∀ s x e, exprOption s x (some e) = expr s x e := by intros; rfl
  branches_nil : ∀ s x, branches s x [] = [] := by intros; rfl
  branches_cons : ∀ s x condition result rest, branches s x ((condition, result) :: rest) =
    expr s x condition ++ expr s x result ++ branches s x rest := by intros; rfl
  select_mk : ∀ s x cs from? condition distinct groupBy having keys limit offset,
    let q : Select := ⟨cs, from?, condition, distinct, groupBy, having, keys, limit, offset⟩
    let here : Scope := ⟨.select, s.qualify || from?.any Source.isJoin⟩
    let known := inside x q
    select s x q = block q (items here known cs ++
      sourceOption (here.enter .selectFrom) (among x q) from? ++
      exprOption (here.enter .selectWhere) known condition ++
      exprs (here.enter .selectGroupBy) known groupBy ++
      exprOption (here.enter .selectHaving) known having ++
      orders (here.enter .selectOrderBy) known keys ++ pagination limit offset) := by intros; rfl
  items_nil : ∀ s x, items s x [] = [] := by intros; rfl
  items_cons : ∀ s x e label rest, items s x (⟨e, label⟩ :: rest) =
    expr s x e ++ items s x rest := by intros; rfl
  orders_nil : ∀ s x, orders s x [] = [] := by intros; rfl
  orders_cons : ∀ s x e descending rest, orders s x (⟨e, descending⟩ :: rest) =
    expr s x e ++ orders s x rest := by intros; rfl
  sourceOption_none : ∀ s y, sourceOption s y none = [] := by intros; rfl
  sourceOption_some : ∀ s y f, sourceOption s y (some f) = source s y f := by intros; rfl
  source_join : ∀ s y kind left right on,
    let inner : Scope := ⟨.join, true⟩
    source s y (.join kind left right on) =
      source inner y left ++ source inner y right ++ exprOption inner (condition y) on := by
    intros; rfl
  source_derived : ∀ s y q aliasName, source s y (.derived q aliasName) =
    query s (derived y) q ++ named aliasName := by intros; rfl
  query_select : ∀ s x q, query s x (.select q) = select s x q := by intros; rfl
  query_union : ∀ s x q, query s x (.union q) = union s x q := by intros; rfl
  union_mk : ∀ s x left right all parens keys limit offset,
    union s x ⟨left, right, all, parens, keys, limit, offset⟩ =
      query s x left ++ query s x right ++ orders (s.enter .unionOrderBy) (ordered x) keys ++
        pagination limit offset := by intros; rfl

namespace Listing

variable {ε φ α : Type} (L : Listing ε φ α) (s : Scope) (x : ε)

theorem exprs_eq_flatMap (es : List Expr) : L.exprs s x es = es.flatMap (L.expr s x) := by
  induction es with
  | nil => exact L.exprs_nil s x
  | cons e es ih => rw [L.exprs_cons, ih, List.flatMap_cons]

theorem exprOption_eq_flatMap (e : Option Expr) :
    L.exprOption s x e = e.toList.flatMap (L.expr s x) := by
  cases e with
  | none => exact L.exprOption_none s x
  | some e => simpa using L.exprOption_some s x e

theorem branches_eq_flatMap (cases : List (Expr × Expr)) :
    L.branches s x cases =
      cases.flatMap fun branch => L.expr s x branch.1 ++ L.expr s x branch.2 := by
  induction cases with
  | nil => exact L.branches_nil s x
  | cons branch rest ih => rw [L.branches_cons, ih, List.flatMap_cons]

theorem items_eq_flatMap (items : List SelectItem) :
    L.items s x items = items.flatMap fun item => L.expr s x item.expression := by
  induction items with
  | nil => exact L.items_nil s x
  | cons item rest ih =>
      obtain ⟨e, label⟩ := item
      rw [L.items_cons, ih, List.flatMap_cons]

theorem orders_eq_flatMap (keys : List OrderBy) :
    L.orders s x keys = keys.flatMap fun key => L.expr s x key.expression := by
  induction keys with
  | nil => exact L.orders_nil s x
  | cons key rest ih =>
      obtain ⟨e, descending⟩ := key
      rw [L.orders_cons, ih, List.flatMap_cons]

theorem sourceOption_eq_flatMap (y : φ) (source : Option Source) :
    L.sourceOption s y source = source.toList.flatMap (L.source s y) := by
  cases source with
  | none => exact L.sourceOption_none s y
  | some source => simpa using L.sourceOption_some s y source

variable {s x} {P : α → Prop}

theorem forall_mem_exprs {es : List Expr} (h : ∀ e ∈ es, ∀ a ∈ L.expr s x e, P a) :
    ∀ a ∈ L.exprs s x es, P a := by
  rw [exprs_eq_flatMap]
  exact List.forall_mem_flatMap.mpr h

theorem forall_mem_exprOption {e : Option Expr} (h : ∀ e' ∈ e, ∀ a ∈ L.expr s x e', P a) :
    ∀ a ∈ L.exprOption s x e, P a := by
  rw [exprOption_eq_flatMap]
  exact List.forall_mem_flatMap.mpr fun e' he => h e' (Option.mem_toList.mp he)

theorem forall_mem_branches {cases : List (Expr × Expr)}
    (h : ∀ branch ∈ cases, (∀ a ∈ L.expr s x branch.1, P a) ∧ ∀ a ∈ L.expr s x branch.2, P a) :
    ∀ a ∈ L.branches s x cases, P a := by
  rw [branches_eq_flatMap]
  exact List.forall_mem_flatMap.mpr fun branch hbranch =>
    List.forall_mem_append.mpr (h branch hbranch)

theorem forall_mem_items {items : List SelectItem}
    (h : ∀ item ∈ items, ∀ a ∈ L.expr s x item.expression, P a) : ∀ a ∈ L.items s x items, P a := by
  rw [items_eq_flatMap]
  exact List.forall_mem_flatMap.mpr h

theorem forall_mem_orders {keys : List OrderBy}
    (h : ∀ key ∈ keys, ∀ a ∈ L.expr s x key.expression, P a) : ∀ a ∈ L.orders s x keys, P a := by
  rw [orders_eq_flatMap]
  exact List.forall_mem_flatMap.mpr h

theorem forall_mem_sourceOption {y : φ} {source : Option Source}
    (h : ∀ f ∈ source, ∀ a ∈ L.source s y f, P a) : ∀ a ∈ L.sourceOption s y source, P a := by
  rw [sourceOption_eq_flatMap]
  exact List.forall_mem_flatMap.mpr fun f hf => h f (Option.mem_toList.mp hf)

end Listing

/-- A listing that goes for the statements as well that are not written by hand. -/
structure StatementListing (α : Type) extends Listing Unit Unit α where
  /-- What is listed of the table that a statement modifies. -/
  target : TableRef → List α := fun _ => []
  insertSource : InsertSource → List α
  statement : Statement → List α
  insertSource_rows : ∀ rows, insertSource (.rows rows) =
    rows.flatMap (exprs ⟨.insertIntoValues, false⟩ ()) := by intros; rfl
  insertSource_query : ∀ q, insertSource (.query q) = select ⟨.insertInto, false⟩ () q := by
    intros; rfl
  statement_select : ∀ q, statement (.select q) = select {} () q := by intros; rfl
  statement_union : ∀ q, statement (.union q) = union {} () q := by intros; rfl
  statement_insert : ∀ i, statement (.insert i) = target i.table ++ insertSource i.source := by
    intros; rfl
  statement_update : ∀ u, statement (.update u) = target u.table ++
    (u.assignments.flatMap (fun a => expr ⟨.updateSet, false⟩ () a.value) ++
      exprOption ⟨.updateWhere, false⟩ () u.filter) := by intros; rfl
  statement_delete : ∀ d, statement (.delete d) =
    target d.table ++ exprOption ⟨.deleteFromWhere, false⟩ () d.filter := by intros; rfl

def Listing.nothing : StatementListing Empty where
  inside := fun _ _ => ()
  among := fun _ _ => ()
  condition := id
  derived := id
  ordered := id
  expr := fun _ _ _ => []
  operand := fun _ _ _ => []
  exprs := fun _ _ _ => []
  exprOption := fun _ _ _ => []
  branches := fun _ _ _ => []
  select := fun _ _ _ => []
  items := fun _ _ _ => []
  orders := fun _ _ _ => []
  source := fun _ _ _ => []
  sourceOption := fun _ _ _ => []
  query := fun _ _ _ => []
  union := fun _ _ _ => []
  insertSource := fun _ => []
  statement := fun _ => []
  insertSource_rows := by simp
  statement_update := by simp

/-- What a collector takes from a tree, whatever is around it. -/
def Collector.listing {β : Type} (k : Collector β) : StatementListing β where
  inside := fun _ _ => ()
  among := fun _ _ => ()
  condition := id
  derived := id
  ordered := id
  operator := k.operator
  call := k.call
  pagination := k.pagination
  expr := fun _ _ e => e.collect k
  operand := fun _ _ o => o.collect k
  exprs := fun _ _ => Expr.collectAll k
  exprOption := fun _ _ => Expr.collectOption k
  branches := fun _ _ => Expr.collectBranches k
  select := fun _ _ q => q.collect k
  items := fun _ _ => SelectItem.collectAll k
  orders := fun _ _ => OrderBy.collectAll k
  source := fun _ _ f => f.collect k
  sourceOption := fun _ _ => Source.collectOption k
  query := fun _ _ q => q.collect k
  union := fun _ _ q => q.collect k
  insertSource := fun i => i.collect k
  statement := fun s => s.collect k
  source_derived := fun _ _ _ _ => (List.append_nil _).symm

namespace Collector

variable {β : Type} (k : Collector β)

theorem collectAll_eq_flatMap (es : List Expr) :
    Expr.collectAll k es = es.flatMap (Expr.collect k) :=
  k.listing.exprs_eq_flatMap {} () es

theorem collectOption_eq_flatMap (e : Option Expr) :
    Expr.collectOption k e = e.toList.flatMap (Expr.collect k) :=
  k.listing.exprOption_eq_flatMap {} () e

theorem collectBranches_eq_flatMap (branches : List (Expr × Expr)) :
    Expr.collectBranches k branches =
      branches.flatMap fun branch => branch.1.collect k ++ branch.2.collect k :=
  k.listing.branches_eq_flatMap {} () branches

theorem collectItems_eq_flatMap (items : List SelectItem) :
    SelectItem.collectAll k items = items.flatMap fun item => item.expression.collect k :=
  k.listing.items_eq_flatMap {} () items

theorem collectOrders_eq_flatMap (keys : List OrderBy) :
    OrderBy.collectAll k keys = keys.flatMap fun key => key.expression.collect k :=
  k.listing.orders_eq_flatMap {} () keys

theorem collectSource_eq_flatMap (source : Option Source) :
    Source.collectOption k source = source.toList.flatMap (Source.collect k) :=
  k.listing.sourceOption_eq_flatMap {} () source

end Collector

end TypedSql
