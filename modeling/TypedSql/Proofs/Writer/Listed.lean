import TypedSql.Proofs.Statement.Induction
import TypedSql.Proofs.Statement.Listing
import TypedSql.Proofs.Writer.Parts

namespace TypedSql

/-! What is rendered of a tree, and what is listed of it.  A relation between the two that is kept
by all that renderings are put together with holds of every tree and its listing. -/

def Writer.keywords : List String :=
  ["select", "distinct", "as", "from", "inner join", "left join", "right join", "full join",
   "cross join", "on", "where", "group by", "having", "order by", "desc", "limit", "offset",
   "union all", "union", "insert into", "values", "update", "set", "delete from", "case", "when",
   "then", "else", "end", "in", "not in", "null", "true", "false", "cast", "as double precision"]

theorem JoinKind.keyword_mem (kind : JoinKind) : kind.keyword ∈ Writer.keywords := by
  cases kind <;> decide

/-- Whether an expression is an operator in front of its operand. -/
def Expr.isPrefixed : Expr → Bool
  | .unary _ _ false _ => true
  | _ => false

/-- Renderings that match one list after the other. -/
inductive Rendering.MatchInOrder {α : Type} (R : Rendering → List α → Prop) :
    List Rendering → List α → Prop
  | nil : MatchInOrder R [] []
  | cons {r : Rendering} {rs : List Rendering} {xs ys : List α} (hhere : R r xs)
      (hrest : MatchInOrder R rs ys) : MatchInOrder R (r :: rs) (xs ++ ys)

open Rendering

variable {ε φ α : Type}

theorem Rendering.matchInOrder_map {R : Rendering → List α → Prop} {β : Type} {f : β → Rendering}
    {g : β → List α} {bs : List β} (h : ∀ b ∈ bs, R (f b) (g b)) :
    MatchInOrder R (bs.map f) (bs.flatMap g) := by
  induction bs with
  | nil => exact .nil
  | cons b bs ih =>
      obtain ⟨hhere, hrest⟩ := List.forall_mem_cons.mp h
      exact .cons hhere (ih hrest)

theorem Rendering.MatchInOrder.forall_mem {P : Rendering → Prop} {rs : List Rendering}
    {xs : List α} (h : MatchInOrder (fun r _ => P r) rs xs) : ∀ r ∈ rs, P r := by
  induction h with
  | nil => exact List.forall_mem_nil _
  | cons hhere _ ih => exact List.forall_mem_cons.mpr ⟨hhere, ih⟩

/-- What renderings are put together with keeps `R`, which relates any of them to a list, and `T`,
which relates those that may stand behind another.  The words that a tree brings along are known
ones. -/
structure Listing.Conforms (L : Listing ε φ α) (w : Writer) (known : String → Prop)
    (R T : Rendering → List α → Prop) : Prop where
  weaken {r : Rendering} {xs : List α} (h : T r xs) : R r xs
  append {a b : Rendering} {xs ys : List α} (hfirst : R a xs) (hsecond : T b ys) :
    R (a ++ b) (xs ++ ys)
  tails {a b : Rendering} {xs ys : List α} (hfirst : T a xs) (hsecond : T b ys) :
    T (a ++ b) (xs ++ ys)
  empty : T .empty []
  space {r : Rendering} {xs : List α} (h : R r xs) : T (symbol " " ++ r) xs
  keyword {text : String} (hkeyword : text ∈ Writer.keywords) {r : Rendering} {xs : List α}
    (h : R r xs) : R (word text ++ r) xs
  parens {left right : String} (hleft : left = "(" ∨ left = " (")
    (hright : right = ")" ∨ right = ") ") {a b : Rendering} {xs ys : List α} (hinner : R a xs)
    (hbehind : R b ys) : R (symbol left ++ (a ++ (symbol right ++ b))) (xs ++ ys)
  tail_parens {r : Rendering} {xs : List α} (h : R (symbol " (" ++ r) xs) : T (symbol " (" ++ r) xs
  separate {rs : List Rendering} {xs : List α} (h : MatchInOrder R rs xs) :
    R (separate w.config.quote rs) xs
  asterisk : R (symbol "*") []
  name (text : String) : R (name text) []
  assigned (text : String) {r : Rendering} {xs : List α} (h : R r xs) :
    R (Rendering.name text ++ (symbol " = " ++ r)) xs
  operator {op : Operator} (hknown : ∀ token ∈ op.tokens, known token) :
    R (.ofPieces op.pieces) (L.operator op)
  prefixed {op : Operator} (hknown : ∀ token ∈ op.tokens, known token) {operand : Operand}
    (type : Option WireType) {s : Scope} {xs : List α} (h : R (operand.render w s) xs) :
    R (.ofPieces op.pieces ++ ((if !operand.parenthesized && !op.isSymbolic then symbol " "
      else .empty) ++ operand.render w s)) (L.node (.unary op operand false type)
        (L.operator op ++ xs))
  call {text : String} (hknown : known text) : R (word text) (L.call text)
  callWith {text : String} (hknown : known text) {r : Rendering} {xs : List α} (h : R r xs) :
    R (word text ++ (symbol "(" ++ (r ++ symbol ")"))) (L.call text ++ xs)
  node {e : Expr} (hplain : e.isPrefixed = false) {r : Rendering} {xs : List α} (h : R r xs) :
    R r (L.node e xs)
  column (s : Scope) (x : ε) (c : ColumnRef) :
    R (.ofPieces (c.pieces s)) (L.expr s x (.column c))
  parameter (s : Scope) (x : ε) (p : Parameter) :
    R (.ofPieces [.placeholder p]) (L.expr s x (.parameter p))
  literal (s : Scope) (x : ε) (v : Value) :
    R (v.literal w.dialect) (L.expr s x (.literal v))
  table {s : Scope} (hdeclares : s.declaresAlias) (y : φ) (t : TableRef)
    (columns : List ColumnRef) : R (.ofPieces (t.pieces s)) (L.source s y (.table t columns))
  derived (aliasName : String) {r : Rendering} {xs : List α} (h : R r xs) :
    R (symbol "(" ++ (r ++ (symbol ") " ++ Rendering.name aliasName))) (xs ++ L.named aliasName)
  pagination (limit offset : Option Nat) :
    T (w.dialect.paginationIfAny limit offset) (L.pagination limit offset)
  block {query : Select} (hwritten : (query.items.isEmpty && query.source.isNone) = false)
    {r : Rendering} {clauses : List α} (h : R r clauses) : R r (L.block query clauses)
  bare {query : Select} (hnothing : (query.items.isEmpty && query.source.isNone) = true)
    (s : Scope) (x : ε) : R (.fail (.construction .selectWithoutColumns)) (L.select s x query)

namespace Listing.Conforms

variable {L : Listing ε φ α} {w : Writer} {known : String → Prop}
  {R T : Rendering → List α → Prop}

section

variable (h : L.Conforms w known R T) {r : Rendering} {rs : List Rendering} {xs : List α}

include h

theorem word (text : String) (hkeyword : text ∈ Writer.keywords) : R (word text) [] := by
  simpa using h.keyword hkeyword (h.weaken h.empty)

theorem clause (text : String) (hkeyword : text ∈ Writer.keywords) (hr : R r xs) :
    T (clause text r) xs := by
  rw [Rendering.clause, append_assoc, append_assoc]
  exact h.space (h.keyword hkeyword (h.weaken (h.space hr)))

theorem parens_end {left : String} (hleft : left = "(" ∨ left = " (") (hr : R r xs) :
    R (symbol left ++ (r ++ symbol ")")) xs := by
  simpa using h.parens hleft (.inl rfl) hr (h.weaken h.empty)

theorem enclose (hr : R r xs) (parens : Bool) : R (enclose parens r) xs := by
  cases parens with
  | false => exact hr
  | true => simpa [Rendering.enclose, append_assoc] using h.parens_end (.inl rfl) hr

theorem listClause (text : String) (hkeyword : text ∈ Writer.keywords)
    (hrs : MatchInOrder R rs xs) : T (listClause w.config.quote text rs) xs := by
  cases hrs with
  | nil => exact h.empty
  | cons hhere hrest => exact h.clause text hkeyword (h.separate (.cons hhere hrest))

theorem elim {β : Type} {f : β → Rendering} {g : β → List α} {b : Option β}
    (hb : ∀ b' ∈ b, T (f b') (g b')) : T (b.elim .empty f) (b.toList.flatMap g) := by
  cases b with
  | none => exact h.empty
  | some b => simpa using hb b rfl

theorem operand {s : Scope} {x : ε} {e : Option Expr}
    (he : ∀ e' ∈ e, R (e'.render w s) (L.expr s x e')) :
    T (Expr.renderOperand w s e) (L.exprOption s x e) := by
  rw [Expr.renderOperand_eq_elim, L.exprOption_eq_flatMap]
  exact h.elim fun e' hmem => h.space (he e' hmem)

theorem optionClause (text : String) (hkeyword : text ∈ Writer.keywords) {s : Scope} {x : ε}
    {e : Option Expr} (he : ∀ e' ∈ e, R (e'.render w s) (L.expr s x e')) :
    T (Expr.renderClause w s text e) (L.exprOption s x e) := by
  rw [Expr.renderClause_eq_elim, L.exprOption_eq_flatMap]
  exact h.elim fun e' hmem => h.clause text hkeyword (he e' hmem)

theorem fromClause {s : Scope} {y : φ} {source : Option Source}
    (hsource : ∀ f ∈ source, R (f.render w s) (L.source s y f)) :
    T (Source.renderFrom w s source) (L.sourceOption s y source) := by
  rw [Source.renderFrom_eq_elim, L.sourceOption_eq_flatMap]
  exact h.elim fun f hmem => h.clause "from" (by decide) (hsource f hmem)

omit h in
theorem exprs {s : Scope} {x : ε} {es : List Expr}
    (hes : ∀ e ∈ es, R (e.render w s) (L.expr s x e)) :
    MatchInOrder R (Expr.renderAll w s es) (L.exprs s x es) := by
  rw [Expr.renderAll_eq_map, L.exprs_eq_flatMap]
  exact matchInOrder_map hes

theorem args {s : Scope} {x : ε} {es : List Expr}
    (hes : ∀ e ∈ es, R (e.render w s) (L.expr s x e))
    (hselects : ∀ query, .select query ∈ es → R (query.render w s) (L.select s x query)) :
    MatchInOrder R (Expr.renderArgs w s es) (L.exprs s x es) := by
  rw [Expr.renderArgs_eq_map, L.exprs_eq_flatMap]
  refine matchInOrder_map fun e he => ?_
  cases e with
  | select query =>
      simp only [Expr.renderArg, L.expr_select]
      exact h.node rfl (hselects query he)
  | _ => exact hes _ he

theorem branches {s : Scope} {x : ε} {branches : List (Expr × Expr)}
    (hbranches : ∀ branch ∈ branches, R (branch.1.render w s) (L.expr s x branch.1) ∧
      R (branch.2.render w s) (L.expr s x branch.2)) :
    T (Expr.renderBranches w s branches) (L.branches s x branches) := by
  induction branches with
  | nil =>
      simp only [Expr.renderBranches, L.branches_nil]
      exact h.empty
  | cons branch rest ih =>
      obtain ⟨condition, result⟩ := branch
      obtain ⟨⟨hcondition, hresult⟩, hrest⟩ := List.forall_mem_cons.mp hbranches
      simp only [Expr.renderBranches, L.branches_cons]
      exact h.tails (h.tails (h.clause "when" (by decide) hcondition)
        (h.clause "then" (by decide) hresult)) (ih hrest)

theorem items {s : Scope} {x : ε} {items : List SelectItem}
    (hitems : ∀ item ∈ items, R (item.expression.render w s) (L.expr s x item.expression)) :
    MatchInOrder R (SelectItem.renderAll w s items) (L.items s x items) := by
  rw [SelectItem.renderAll_eq_map, L.items_eq_flatMap]
  refine matchInOrder_map fun item hitem => ?_
  have hlabel : T (item.label.elim .empty fun label => Rendering.clause "as" (.name label)) [] := by
    cases item.label with
    | none => exact h.empty
    | some label => exact h.clause "as" (by decide) (h.name label)
  have hitem := h.append (hitems item hitem) hlabel
  rwa [List.append_nil] at hitem

theorem columns {s : Scope} {x : ε} {items : List SelectItem}
    (hitems : ∀ item ∈ items, R (item.expression.render w s) (L.expr s x item.expression)) :
    R (if items.isEmpty then symbol "*"
      else Rendering.separate w.config.quote (SelectItem.renderAll w s items))
      (L.items s x items) := by
  split
  next hall =>
    rw [List.isEmpty_iff.mp hall, L.items_nil]
    exact h.asterisk
  next => exact h.separate (h.items hitems)

theorem orders {s : Scope} {x : ε} {keys : List OrderBy}
    (hkeys : ∀ key ∈ keys, R (key.expression.render w s) (L.expr s x key.expression)) :
    MatchInOrder R (OrderBy.renderAll w s keys) (L.orders s x keys) := by
  rw [OrderBy.renderAll_eq_map, L.orders_eq_flatMap]
  refine matchInOrder_map fun key hkey => ?_
  have hdirection : T (if key.descending then symbol " " ++ Rendering.word "desc"
      else .empty) [] := by
    split
    · exact h.space (h.word "desc" (by decide))
    · exact h.empty
  have hkey := h.append (hkeys key hkey) hdirection
  rwa [List.append_nil] at hkey

/-- A query whose parts are rendered as they are listed, wherever they stand. -/
theorem select {query : Select}
    (hitems : ∀ s x, ∀ item ∈ query.items,
      R (item.expression.render w s) (L.expr s x item.expression))
    (hsource : ∀ s y, s.declaresAlias → ∀ f ∈ query.source, R (f.render w s) (L.source s y f))
    (hfilter : ∀ s x, ∀ e ∈ query.filter, R (e.render w s) (L.expr s x e))
    (hgroupBy : ∀ s x, ∀ e ∈ query.groupBy, R (e.render w s) (L.expr s x e))
    (hhaving : ∀ s x, ∀ e ∈ query.having, R (e.render w s) (L.expr s x e))
    (horderBy : ∀ s x, ∀ key ∈ query.orderBy,
      R (key.expression.render w s) (L.expr s x key.expression))
    (s : Scope) (x : ε) : R (query.render w s) (L.select s x query) := by
  obtain ⟨items, source, filter, distinct, groupBy, having, orderBy, limit, offset⟩ := query
  simp only [Select.render, append_assoc]
  split
  next hnothing => exact h.bare hnothing s x
  next hwritten =>
    have hclauses (inner : Scope) (x : ε) (y : φ) :=
      h.tails (h.fromClause (hsource (inner.enter .selectFrom) y rfl))
        (h.tails (h.optionClause "where" (by decide) (hfilter (inner.enter .selectWhere) x))
        (h.tails (h.listClause "group by" (by decide)
          (exprs (hgroupBy (inner.enter .selectGroupBy) x)))
        (h.tails (h.optionClause "having" (by decide) (hhaving (inner.enter .selectHaving) x))
        (h.tails (h.listClause "order by" (by decide)
          (h.orders (horderBy (inner.enter .selectOrderBy) x))) (h.pagination limit offset)))))
    have hbody (inner : Scope) (x : ε) (y : φ) :=
      h.append (h.columns (hitems inner x)) (hclauses inner x y)
    simp only [L.select_mk, List.append_assoc]
    refine h.block (eq_false_of_ne_true hwritten)
      (h.keyword (by decide) (h.weaken (h.space ?_)))
    split
    · rw [append_assoc]
      exact h.keyword (by decide) (h.weaken (h.space (hbody _ _ _)))
    · rw [empty_append]
      exact hbody _ _ _

end

/-- Every tree whose words are known is rendered as it is listed.  Sources are written where
aliases are declared, and so are the sides of a join. -/
theorem hereditary (h : L.Conforms w known R T) :
    Hereditary
      (fun e => (∀ text ∈ e.collect .words, known text) → ∀ s x,
        R (e.render w s) (L.expr s x e))
      (fun operand => (∀ text ∈ operand.collect .words, known text) → ∀ s x,
        R (operand.render w s) (L.operand s x operand))
      (fun query => (∀ text ∈ query.collect .words, known text) → ∀ s x,
        R (query.render w s) (L.select s x query))
      (fun source => (∀ text ∈ source.collect .words, known text) → ∀ s y, s.declaresAlias →
        R (source.render w s) (L.source s y source))
      (fun query => (∀ text ∈ query.collect .words, known text) → ∀ s x,
        R (query.render w s) (L.query s x query))
      (fun query => (∀ text ∈ query.collect .words, known text) → ∀ s x,
        R (query.render w s) (L.union s x query)) where
  column c _ s x := h.column s x c
  parameter p _ s x := h.parameter s x p
  literal v _ s x := h.literal s x v
  unary op operand postfixed type hoperand hwords s x := by
    cases postfixed with
    | true =>
        simp only [Expr.collect, if_true, List.forall_mem_append] at hwords
        obtain ⟨hinner, hop⟩ := hwords
        simp only [Expr.render, if_true, append_assoc, L.expr_postfix]
        exact h.node rfl (h.append (hoperand hinner s x) (h.space (h.operator hop)))
    | false =>
        simp only [Expr.collect, Bool.false_eq_true, if_false, List.forall_mem_append] at hwords
        obtain ⟨hop, hinner⟩ := hwords
        simp only [Expr.render, Bool.false_eq_true, if_false, append_assoc, L.expr_prefix]
        exact h.prefixed hop type (hoperand hinner s x)
  binary left op right type hleft hright hwords s x := by
    simp only [Expr.collect, List.forall_mem_append] at hwords
    obtain ⟨⟨hleftWords, hop⟩, hrightWords⟩ := hwords
    simp only [Expr.render, append_assoc, L.expr_binary, List.append_assoc]
    exact h.node rfl (h.append (hleft hleftWords s x) (h.space (h.append (h.operator hop)
      (h.space (hright hrightWords s x)))))
  ternary first op second op2 third type hfirst hsecond hthird hwords s x := by
    simp only [Expr.collect, List.forall_mem_append] at hwords
    obtain ⟨⟨⟨⟨hfirstWords, hop⟩, hsecondWords⟩, hop2⟩, hthirdWords⟩ := hwords
    have hbehind := h.append (h.operator hop2) (h.space (hthird hthirdWords s x))
    have hbetween := h.append (h.operator hop)
      (h.space (h.append (hsecond hsecondWords s x) (h.space hbehind)))
    simp only [Expr.render, append_assoc, L.expr_ternary, List.append_assoc]
    exact h.node rfl (h.append (hfirst hfirstWords s x) (h.space hbetween))
  function name args emptyParens type hargs hselects hwords s x := by
    simp only [Expr.collect, List.forall_mem_append, Collector.collectAll_eq_flatMap,
      List.forall_mem_flatMap] at hwords
    obtain ⟨hname, hargWords⟩ := hwords
    have hknown : known name := hname name (List.mem_singleton_self name)
    simp only [Expr.render, append_assoc, L.expr_function]
    refine h.node rfl ?_
    split
    next hbare =>
      rw [List.isEmpty_iff.mp ((Bool.and_eq_true _ _).mp hbare).1, L.exprs_nil, List.append_nil]
      exact h.call hknown
    next =>
      exact h.callWith hknown (h.separate (h.args (fun e he => hargs e he (hargWords e he) s x)
        fun query hquery => hselects query hquery (hargWords _ hquery) s x))
  case operand branches otherwise type hoperand hbranches hotherwise hwords s x := by
    simp only [Expr.collect, List.forall_mem_append, Collector.collectOption_eq_flatMap,
      Collector.collectBranches_eq_flatMap, List.forall_mem_flatMap, Option.mem_toList] at hwords
    obtain ⟨⟨hoperandWords, hbranchWords⟩, hotherwiseWords⟩ := hwords
    have hsubject := h.operand fun e he => hoperand e he (hoperandWords e he) s x
    have hlast := h.optionClause "else" (by decide) fun e he =>
      hotherwise e he (hotherwiseWords e he) s x
    have hcases := h.branches fun branch hbranch =>
      ⟨(hbranches branch hbranch).1 (hbranchWords branch hbranch).1 s x,
        (hbranches branch hbranch).2 (hbranchWords branch hbranch).2 s x⟩
    have hending := h.tails hlast (h.space (h.word "end" (by decide)))
    rw [List.append_nil] at hending
    simp only [Expr.render, append_assoc, L.expr_case, List.append_assoc]
    exact h.node rfl (h.keyword (by decide) (h.weaken (h.tails hsubject (h.tails hcases hending))))
  inList operand values negated hoperand hvalues hwords s x := by
    simp only [Expr.collect, List.forall_mem_append, Collector.collectAll_eq_flatMap,
      List.forall_mem_flatMap] at hwords
    obtain ⟨hoperandWords, hvalueWords⟩ := hwords
    have hlist := h.parens_end (.inr rfl) (h.separate (exprs fun e he =>
      hvalues e he (hvalueWords e he) s x))
    simp only [Expr.render, append_assoc, L.expr_inList]
    refine h.node rfl (h.append (hoperand hoperandWords s x) (h.space (h.keyword ?_ hlist)))
    cases negated <;> decide
  inQuery operand query negated hoperand hquery hwords s x := by
    simp only [Expr.collect, List.forall_mem_append] at hwords
    obtain ⟨hoperandWords, hqueryWords⟩ := hwords
    have hlist := h.parens_end (.inr rfl) (hquery hqueryWords s x)
    simp only [Expr.render, append_assoc, L.expr_inQuery]
    refine h.node rfl (h.append (hoperand hoperandWords s x) (h.space (h.keyword ?_ hlist)))
    cases negated <;> decide
  tuple elements helements hwords s x := by
    simp only [Expr.collect, Collector.collectAll_eq_flatMap, List.forall_mem_flatMap] at hwords
    simp only [Expr.render, L.expr_tuple]
    exact h.node rfl (h.enclose (h.separate (exprs fun e he =>
      helements e he (hwords e he) s x)) _)
  subselect query hquery hwords s x := by
    simp only [Expr.collect] at hwords
    simp only [Expr.render, L.expr_select]
    exact h.node rfl (h.enclose (hquery hwords s x) true)
  operand e parens he hwords s x := by
    simp only [Operand.collect] at hwords
    simp only [Operand.render, L.operand_mk]
    exact h.enclose (he hwords s x) parens
  select items source filter distinct groupBy having orderBy limit offset hitems hsource hfilter
      hgroupBy hhaving horderBy hwords s x := by
    simp only [Select.collect, List.forall_mem_append, Collector.collectAll_eq_flatMap,
      Collector.collectOption_eq_flatMap, Collector.collectItems_eq_flatMap,
      Collector.collectOrders_eq_flatMap, Collector.collectSource_eq_flatMap,
      List.forall_mem_flatMap, Option.mem_toList] at hwords
    obtain ⟨⟨⟨⟨⟨⟨hitemWords, hsourceWords⟩, hfilterWords⟩, hgroupWords⟩, hhavingWords⟩,
      horderWords⟩, -⟩ := hwords
    exact h.select (fun s x item hitem => hitems item hitem (hitemWords item hitem) s x)
      (fun s y hdeclares f hf => hsource f hf (hsourceWords f hf) s y hdeclares)
      (fun s x e he => hfilter e he (hfilterWords e he) s x)
      (fun s x e he => hgroupBy e he (hgroupWords e he) s x)
      (fun s x e he => hhaving e he (hhavingWords e he) s x)
      (fun s x key hkey => horderBy key hkey (horderWords key hkey) s x) s x
  table t columns _ s y hdeclares := h.table hdeclares y t columns
  join kind left right on hleft hright hon hwords s y hdeclares := by
    simp only [Source.collect, List.forall_mem_append, Collector.collectOption_eq_flatMap,
      List.forall_mem_flatMap, Option.mem_toList] at hwords
    obtain ⟨⟨hleftWords, hrightWords⟩, honWords⟩ := hwords
    have hcondition := h.optionClause "on" (by decide) fun e he =>
      hon e he (honWords e he) ⟨.join, true⟩ (L.condition y)
    have hjoined := h.append (hright hrightWords ⟨.join, true⟩ y rfl) hcondition
    simp only [Source.render, append_assoc, L.source_join, List.append_assoc]
    exact h.append (hleft hleftWords _ y rfl)
      (h.space (h.keyword kind.keyword_mem (h.weaken (h.space hjoined))))
  derived query aliasName hquery hwords s y hdeclares := by
    simp only [Source.collect] at hwords
    simp only [Source.render, append_assoc, L.source_derived]
    exact h.derived aliasName (hquery hwords s _)
  querySelect query hquery hwords s x := by
    simp only [Query.collect] at hwords
    simp only [Query.render, L.query_select]
    exact hquery hwords s x
  queryUnion query hquery hwords s x := by
    simp only [Query.collect] at hwords
    simp only [Query.render, L.query_union]
    exact hquery hwords s x
  union left right all parens orderBy limit offset hleft hright horderBy hwords s x := by
    simp only [Union.collect, List.forall_mem_append, Collector.collectOrders_eq_flatMap,
      List.forall_mem_flatMap] at hwords
    obtain ⟨⟨⟨hleftWords, hrightWords⟩, horderWords⟩, -⟩ := hwords
    have hkeys := h.listClause "order by" (by decide) (h.orders fun key hkey =>
      horderBy key hkey (horderWords key hkey) (s.enter .unionOrderBy) (L.ordered x))
    have hsecond := h.append (h.enclose (hright hrightWords s x) parens)
      (h.tails hkeys (h.pagination limit offset))
    simp only [Union.render, append_assoc, L.union_mk, List.append_assoc]
    refine h.append (h.enclose (hleft hleftWords s x) parens)
      (h.space (h.keyword ?_ (h.weaken (h.space hsecond))))
    cases all <;> decide

end Listing.Conforms

/-- The same for a listing of statements.  The table that a statement modifies is written where
aliases are not declared. -/
structure StatementListing.Conforms (L : StatementListing α) (w : Writer) (known : String → Prop)
    (R T : Rendering → List α → Prop) : Prop extends L.toListing.Conforms w known R T where
  target {s : Scope} (hsilent : s.declaresAlias = false) (t : TableRef) :
    R (.ofPieces (t.pieces s)) (L.target t)

namespace StatementListing.Conforms

variable {L : StatementListing α} {w : Writer} {known : String → Prop}
  {R T : Rendering → List α → Prop} (h : L.Conforms w known R T)

include h

theorem exprs {es : List Expr} (hwords : ∀ text ∈ es.flatMap (Expr.collect .words), known text)
    (s : Scope) : MatchInOrder R (Expr.renderAll w s es) (L.exprs s () es) :=
  Listing.Conforms.exprs fun e he => Expr.of_hereditary h.hereditary e
    (List.forall_mem_flatMap.mp hwords e he) s ()

theorem filter {e : Option Expr} (hwords : ∀ text ∈ Expr.collectOption .words e, known text)
    (s : Scope) : T (Expr.renderClause w s "where" e) (L.exprOption s () e) := by
  simp only [Collector.collectOption_eq_flatMap, List.forall_mem_flatMap, Option.mem_toList]
    at hwords
  exact h.optionClause "where" (by decide) fun e' he =>
    Expr.of_hereditary h.hereditary e' (hwords e' he) s ()

theorem insert {i : Insert} (hwords : ∀ text ∈ i.source.collect .words, known text) :
    R (i.render w {}) (L.target i.table ++ L.insertSource i.source) := by
  have hcolumns : R (separate w.config.quote (i.columns.map fun c => .name c.name)) [] := by
    have heach : MatchInOrder R (i.columns.map fun c => .name c.name)
        (i.columns.flatMap fun _ => []) := matchInOrder_map fun c _ => h.name c.name
    rw [List.flatMap_eq_nil_iff.mpr fun _ _ => rfl] at heach
    exact h.separate heach
  have hwhole {r : Rendering} {xs : List α} (hr : R r xs) :=
    h.append (h.target (s := Scope.enter {} .insertInto) rfl i.table)
      (h.tail_parens (h.parens (.inr rfl) (.inr rfl) hcolumns hr))
  simp only [Insert.render, append_assoc]
  refine h.keyword (by decide) (h.weaken (h.space (@hwhole _ (L.insertSource i.source) ?_)))
  cases hsource : i.source with
  | query query =>
      rw [hsource] at hwords
      rw [L.insertSource_query]
      exact Select.of_hereditary h.hereditary query hwords _ ()
  | rows rows =>
      simp only [hsource, InsertSource.collect, List.forall_mem_flatMap,
        Collector.collectAll_eq_flatMap] at hwords
      rw [L.insertSource_rows]
      refine h.keyword (by decide) (h.weaken (h.space (h.separate (matchInOrder_map
        fun row hrow => h.enclose (h.separate (h.exprs ?_ _)) true))))
      exact List.forall_mem_flatMap.mpr (hwords row hrow)

theorem update {u : Update} (hwords : ∀ text ∈ (Statement.update u).words, known text) :
    R (u.render w {}) (L.statement (.update u)) := by
  obtain ⟨hassignments, hfilter⟩ := List.forall_mem_append.mp hwords
  have hassigned (a : Assignment) (ha : a ∈ u.assignments) :
      R (name a.column.name ++ symbol " = " ++ a.value.render w ⟨.updateSet, false⟩)
        (L.expr ⟨.updateSet, false⟩ () a.value) := by
    rw [append_assoc]
    exact h.assigned a.column.name (Expr.of_hereditary h.hereditary a.value
      (List.forall_mem_flatMap.mp hassignments a ha) _ ())
  have hclauses := h.tails
    (h.clause "set" (by decide) (h.separate (matchInOrder_map hassigned)))
    (h.filter hfilter ⟨.updateWhere, false⟩)
  rw [L.statement_update]
  simp only [Update.render, append_assoc]
  exact h.keyword (by decide) (h.weaken (h.space (h.append (h.target rfl u.table) hclauses)))

theorem delete {d : Delete} (hwords : ∀ text ∈ (Statement.delete d).words, known text) :
    R (d.render w {}) (L.statement (.delete d)) := by
  rw [L.statement_delete]
  simp only [Delete.render, append_assoc]
  exact h.keyword (by decide) (h.weaken (h.space (h.append (h.target rfl d.table)
    (h.filter hwords ⟨.deleteFromWhere, false⟩))))

theorem statement {statement : Statement} (hraw : statement.isRaw = false)
    (hwords : ∀ text ∈ statement.words, known text) :
    R (statement.render w {}) (L.statement statement) := by
  cases statement with
  | select query =>
      rw [L.statement_select]
      exact Select.of_hereditary h.hereditary query hwords {} ()
  | union query =>
      rw [L.statement_union]
      exact Union.of_hereditary h.hereditary query hwords {} ()
  | insert i =>
      rw [L.statement_insert]
      exact h.insert hwords
  | update u => exact h.update hwords
  | delete d => exact h.delete hwords
  | raw r => contradiction

end StatementListing.Conforms

/-- A relation between renderings and lists that is kept when renderings are put together and what
is listed of them as well.  Punctuation and keywords, which no tree brings along, have nothing that
is listed. -/
structure Listing.Matches (L : Listing ε φ α) (w : Writer) (R : Rendering → List α → Prop) :
    Prop where
  append {a b : Rendering} {xs ys : List α} (hfirst : R a xs) (hsecond : R b ys) :
    R (a ++ b) (xs ++ ys)
  empty : R .empty []
  symbol {text : String} (hapart : text ≠ ".") : R (.symbol text) []
  keyword {text : String} (hknown : text ∈ Writer.keywords) : R (.word text) []
  name (text : String) : R (.name text) []
  operator (op : Operator) : R (.ofPieces op.pieces) (L.operator op)
  call (name : String) : R (.word name) (L.call name)
  node (e : Expr) {r : Rendering} {xs : List α} (h : R r xs) : R r (L.node e xs) := by
    intros; assumption
  column (s : Scope) (x : ε) (c : ColumnRef) :
    R (.ofPieces (c.pieces s)) (L.expr s x (.column c))
  parameter (s : Scope) (x : ε) (p : Parameter) :
    R (.ofPieces [.placeholder p]) (L.expr s x (.parameter p))
  literal (s : Scope) (x : ε) (v : Value) :
    R (v.literal w.dialect) (L.expr s x (.literal v))
  table {s : Scope} (hdeclares : s.declaresAlias) (y : φ) (t : TableRef)
      (columns : List ColumnRef) :
    R (.ofPieces (t.pieces s)) (L.source s y (.table t columns))
  named (aliasName : String) : R (.symbol ") " ++ .name aliasName) (L.named aliasName)
  pagination (limit offset : Option Nat) :
    R (w.dialect.paginationIfAny limit offset) (L.pagination limit offset)
  block {query : Select} (hwritten : (query.items.isEmpty && query.source.isNone) = false)
    {r : Rendering} {clauses : List α} (hmatched : R r clauses) : R r (L.block query clauses)
  bare {query : Select} (hnothing : (query.items.isEmpty && query.source.isNone) = true) (s : Scope)
    (x : ε) : R (.fail (.construction .selectWithoutColumns)) (L.select s x query)

namespace Listing.Matches

variable {L : Listing ε φ α} {w : Writer} {R : Rendering → List α → Prop} (h : L.Matches w R)
  {r : Rendering} {rs : List Rendering} {xs : List α}

include h

theorem symbol_append {text : String} (hpoint : text ≠ ".") (hr : R r xs) :
    R (Rendering.symbol text ++ r) xs :=
  h.append (h.symbol hpoint) hr

theorem append_symbol {text : String} (hpoint : text ≠ ".") (hr : R r xs) :
    R (r ++ Rendering.symbol text) xs := by
  have hboth := h.append hr (h.symbol hpoint)
  rwa [List.append_nil] at hboth

theorem separate (quote : String) (hrs : MatchInOrder R rs xs) : R (separate quote rs) xs := by
  induction hrs with
  | nil => exact h.empty
  | @cons r rs xs ys hhere hrest ih =>
      cases rs with
      | nil =>
          cases hrest
          rw [List.append_nil]
          exact hhere
      | cons r' rs =>
          rw [separate.eq_3 quote r (r' :: rs) (by simp)]
          refine h.append hhere ?_
          split
          · exact h.symbol_append (by decide) ih
          · rwa [empty_append]

theorem conforms : L.Conforms w (fun _ => True) R R where
  weaken hr := hr
  append := h.append
  tails := h.append
  empty := h.empty
  space hr := h.symbol_append (by decide) hr
  keyword hkeyword _ _ hr := h.append (h.keyword hkeyword) hr
  parens hleft hright _ _ _ _ hinner hbehind := by
    refine h.symbol_append ?_ (h.append hinner (h.symbol_append ?_ hbehind))
    · rcases hleft with rfl | rfl <;> decide
    · rcases hright with rfl | rfl <;> decide
  tail_parens hr := hr
  separate := h.separate w.config.quote
  asterisk := h.symbol (by decide)
  name := h.name
  assigned text _ _ hr := h.append (h.name text) (h.symbol_append (by decide) hr)
  operator {op} _ := h.operator op
  prefixed {op} _ _ _ _ _ hr := by
    refine h.node _ (h.append (h.operator op) ?_)
    split
    · exact h.symbol_append (by decide) hr
    · rwa [empty_append]
  call _ := h.call _
  callWith _ _ _ hr := h.append (h.call _) (h.symbol_append (by decide)
    (h.append_symbol (by decide) hr))
  node _ := h.node _
  column := h.column
  parameter := h.parameter
  literal := h.literal
  table := h.table
  derived aliasName _ _ hr := h.symbol_append (by decide) (h.append hr (h.named aliasName))
  pagination := h.pagination
  block := h.block
  bare := h.bare

end Listing.Matches

theorem Select.matches_render {L : Listing ε φ α} {w : Writer} {R : Rendering → List α → Prop}
    (h : L.Matches w R) (query : Select) (s : Scope) (x : ε) :
    R (query.render w s) (L.select s x query) :=
  Select.of_hereditary h.conforms.hereditary query (fun _ _ => trivial) s x

/-- The table that a statement modifies is written where aliases are not declared. -/
structure StatementListing.Matches (L : StatementListing α) (w : Writer)
    (R : Rendering → List α → Prop) : Prop extends L.toListing.Matches w R where
  target {s : Scope} (hsilent : s.declaresAlias = false) (t : TableRef) :
    R (.ofPieces (t.pieces s)) (L.target t)

theorem Statement.matches_render {L : StatementListing α} {w : Writer}
    {R : Rendering → List α → Prop} (h : L.Matches w R) {statement : Statement}
    (hraw : statement.isRaw = false) : R (statement.render w {}) (L.statement statement) :=
  StatementListing.Conforms.statement ⟨h.toMatches.conforms, h.target⟩ hraw fun _ _ => trivial

end TypedSql
