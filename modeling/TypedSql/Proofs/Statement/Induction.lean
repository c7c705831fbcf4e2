import TypedSql.Statement.Syntax

namespace TypedSql

/-! Induction over trees.  Expressions and queries contain each other, alone and in lists; what is
shown of them all takes one case for each kind of node, with what is inside of it given. -/

/-- Properties of the kinds of trees that a node has when the trees right inside of it do. -/
structure Hereditary (E : Expr → Prop) (O : Operand → Prop) (S : Select → Prop) (F : Source → Prop)
    (Q : Query → Prop) (U : Union → Prop) : Prop where
  column (c : ColumnRef) : E (.column c) := by intros; trivial
  parameter (p : Parameter) : E (.parameter p) := by intros; trivial
  literal (v : Value) : E (.literal v) := by intros; trivial
  unary (op : Operator) (operand : Operand) (postfixed : Bool) (type : Option WireType)
    (hoperand : O operand) : E (.unary op operand postfixed type) := by intros; trivial
  binary (left : Operand) (op : Operator) (right : Operand) (type : Option WireType)
    (hleft : O left) (hright : O right) : E (.binary left op right type) := by intros; trivial
  ternary (first : Operand) (op : Operator) (second : Operand) (op2 : Operator) (third : Operand)
    (type : Option WireType) (hfirst : O first) (hsecond : O second) (hthird : O third) :
    E (.ternary first op second op2 third type) := by intros; trivial
  /-- Selects among the arguments are written without parentheses of their own. -/
  function (name : String) (args : List Expr) (emptyParens : Bool) (type : Option WireType)
    (hargs : ∀ e ∈ args, E e) (hselects : ∀ query, .select query ∈ args → S query) :
    E (.function name args emptyParens type) := by intros; trivial
  case (operand : Option Expr) (branches : List (Expr × Expr)) (otherwise : Option Expr)
    (type : Option WireType) (hoperand : ∀ e ∈ operand, E e)
    (hbranches : ∀ branch ∈ branches, E branch.1 ∧ E branch.2) (hotherwise : ∀ e ∈ otherwise, E e) :
    E (.case operand branches otherwise type) := by intros; trivial
  inList (operand : Operand) (values : List Expr) (negated : Bool) (hoperand : O operand)
    (hvalues : ∀ e ∈ values, E e) : E (.inList operand values negated) := by intros; trivial
  inQuery (operand : Operand) (query : Select) (negated : Bool) (hoperand : O operand)
    (hquery : S query) : E (.inQuery operand query negated) := by intros; trivial
  tuple (elements : List Expr) (helements : ∀ e ∈ elements, E e) : E (.tuple elements) := by
    intros; trivial
  subselect (query : Select) (hquery : S query) : E (.select query) := by intros; trivial
  operand (e : Expr) (parens : Bool) (he : E e) : O ⟨e, parens⟩ := by intros; trivial
  select (items : List SelectItem) (source : Option Source) (filter : Option Expr)
    (distinct : Bool) (groupBy : List Expr) (having : Option Expr) (orderBy : List OrderBy)
    (limit offset : Option Nat) (hitems : ∀ item ∈ items, E item.expression)
    (hsource : ∀ f ∈ source, F f) (hfilter : ∀ e ∈ filter, E e) (hgroupBy : ∀ e ∈ groupBy, E e)
    (hhaving : ∀ e ∈ having, E e) (horderBy : ∀ key ∈ orderBy, E key.expression) :
    S ⟨items, source, filter, distinct, groupBy, having, orderBy, limit, offset⟩ := by
      intros; trivial
  table (t : TableRef) (columns : List ColumnRef) : F (.table t columns) := by intros; trivial
  join (kind : JoinKind) (left right : Source) (on : Option Expr) (hleft : F left)
    (hright : F right) (hon : ∀ e ∈ on, E e) : F (.join kind left right on) := by intros; trivial
  derived (query : Query) (aliasName : String) (hquery : Q query) :
    F (.derived query aliasName) := by intros; trivial
  querySelect (query : Select) (hquery : S query) : Q (.select query) := by intros; trivial
  queryUnion (query : Union) (hquery : U query) : Q (.union query) := by intros; trivial
  union (left right : Query) (all parens : Bool) (orderBy : List OrderBy)
    (limit offset : Option Nat) (hleft : Q left) (hright : Q right)
    (horderBy : ∀ key ∈ orderBy, E key.expression) :
    U ⟨left, right, all, parens, orderBy, limit, offset⟩ := by intros; trivial

section

variable {E : Expr → Prop} {O : Operand → Prop} {S : Select → Prop} {F : Source → Prop}
  {Q : Query → Prop} {U : Union → Prop}

mutual

theorem Expr.of_hereditary (h : Hereditary E O S F Q U) (e : Expr) : E e := by
  cases e with
  | column c => exact h.column c
  | parameter p => exact h.parameter p
  | literal v => exact h.literal v
  | unary op operand postfixed type =>
      exact h.unary op operand postfixed type (Operand.of_hereditary h operand)
  | binary left op right type =>
      exact h.binary left op right type (Operand.of_hereditary h left)
        (Operand.of_hereditary h right)
  | ternary first op second op2 third type =>
      exact h.ternary first op second op2 third type (Operand.of_hereditary h first)
        (Operand.of_hereditary h second) (Operand.of_hereditary h third)
  | function name args emptyParens type =>
      exact h.function name args emptyParens type (Expr.forall_mem_of_hereditary h args)
        (Select.forall_mem_of_hereditary h args)
  | case operand branches otherwise type =>
      exact h.case operand branches otherwise type (Expr.forall_mem_option_of_hereditary h operand)
        (Expr.forall_mem_branches_of_hereditary h branches)
        (Expr.forall_mem_option_of_hereditary h otherwise)
  | inList operand values negated =>
      exact h.inList operand values negated (Operand.of_hereditary h operand)
        (Expr.forall_mem_of_hereditary h values)
  | inQuery operand query negated =>
      exact h.inQuery operand query negated (Operand.of_hereditary h operand)
        (Select.of_hereditary h query)
  | tuple elements => exact h.tuple elements (Expr.forall_mem_of_hereditary h elements)
  | select query => exact h.subselect query (Select.of_hereditary h query)

theorem Operand.of_hereditary (h : Hereditary E O S F Q U) (operand : Operand) : O operand := by
  cases operand with
  | mk e parens => exact h.operand e parens (Expr.of_hereditary h e)

theorem Expr.forall_mem_of_hereditary (h : Hereditary E O S F Q U) (es : List Expr) :
    ∀ e ∈ es, E e := by
  cases es with
  | nil => exact List.forall_mem_nil _
  | cons e es =>
      exact List.forall_mem_cons.mpr
        ⟨Expr.of_hereditary h e, Expr.forall_mem_of_hereditary h es⟩

theorem Select.forall_mem_of_hereditary (h : Hereditary E O S F Q U) (es : List Expr) :
    ∀ query, .select query ∈ es → S query := by
  cases es with
  | nil => exact fun _ hquery => absurd hquery List.not_mem_nil
  | cons e es =>
      have hrest := Select.forall_mem_of_hereditary h es
      intro query hquery
      rcases List.mem_cons.mp hquery with hhere | hthere
      · cases e with
        | select query' =>
            exact Expr.select.inj hhere ▸ Select.of_hereditary h query'
        | _ => cases hhere
      · exact hrest query hthere

theorem Expr.forall_mem_option_of_hereditary (h : Hereditary E O S F Q U) (e : Option Expr) :
    ∀ e' ∈ e, E e' := by
  cases e with
  | none => exact nofun
  | some e => exact fun _ he => Option.some.inj he ▸ Expr.of_hereditary h e

theorem Expr.forall_mem_branches_of_hereditary (h : Hereditary E O S F Q U)
    (branches : List (Expr × Expr)) : ∀ branch ∈ branches, E branch.1 ∧ E branch.2 := by
  cases branches with
  | nil => exact List.forall_mem_nil _
  | cons branch rest =>
      obtain ⟨condition, result⟩ := branch
      exact List.forall_mem_cons.mpr
        ⟨⟨Expr.of_hereditary h condition, Expr.of_hereditary h result⟩,
          Expr.forall_mem_branches_of_hereditary h rest⟩

theorem Select.of_hereditary (h : Hereditary E O S F Q U) (query : Select) : S query := by
  cases query with
  | mk items source filter distinct groupBy having orderBy limit offset =>
      exact h.select items source filter distinct groupBy having orderBy limit offset
        (SelectItem.forall_mem_of_hereditary h items)
        (Source.forall_mem_option_of_hereditary h source)
        (Expr.forall_mem_option_of_hereditary h filter) (Expr.forall_mem_of_hereditary h groupBy)
        (Expr.forall_mem_option_of_hereditary h having)
        (OrderBy.forall_mem_of_hereditary h orderBy)

theorem SelectItem.forall_mem_of_hereditary (h : Hereditary E O S F Q U)
    (items : List SelectItem) : ∀ item ∈ items, E item.expression := by
  cases items with
  | nil => exact List.forall_mem_nil _
  | cons item rest =>
      obtain ⟨e, label⟩ := item
      exact List.forall_mem_cons.mpr
        ⟨Expr.of_hereditary h e, SelectItem.forall_mem_of_hereditary h rest⟩

theorem OrderBy.forall_mem_of_hereditary (h : Hereditary E O S F Q U) (keys : List OrderBy) :
    ∀ key ∈ keys, E key.expression := by
  cases keys with
  | nil => exact List.forall_mem_nil _
  | cons key rest =>
      obtain ⟨e, descending⟩ := key
      exact List.forall_mem_cons.mpr
        ⟨Expr.of_hereditary h e, OrderBy.forall_mem_of_hereditary h rest⟩

theorem Source.forall_mem_option_of_hereditary (h : Hereditary E O S F Q U)
    (source : Option Source) : ∀ f ∈ source, F f := by
  cases source with
  | none => exact nofun
  | some source => exact fun _ hf => Option.some.inj hf ▸ Source.of_hereditary h source

theorem Source.of_hereditary (h : Hereditary E O S F Q U) (source : Source) : F source := by
  cases source with
  | table t columns => exact h.table t columns
  | join kind left right on =>
      exact h.join kind left right on (Source.of_hereditary h left) (Source.of_hereditary h right)
        (Expr.forall_mem_option_of_hereditary h on)
  | derived query aliasName => exact h.derived query aliasName (Query.of_hereditary h query)

theorem Query.of_hereditary (h : Hereditary E O S F Q U) (query : Query) : Q query := by
  cases query with
  | select query => exact h.querySelect query (Select.of_hereditary h query)
  | union query => exact h.queryUnion query (Union.of_hereditary h query)

theorem Union.of_hereditary (h : Hereditary E O S F Q U) (query : Union) : U query := by
  cases query with
  | mk left right all parens orderBy limit offset =>
      exact h.union left right all parens orderBy limit offset (Query.of_hereditary h left)
        (Query.of_hereditary h right) (OrderBy.forall_mem_of_hereditary h orderBy)

end

end

end TypedSql
