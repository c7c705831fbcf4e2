import Mathlib.Data.List.Forall2
import TypedSql.Proofs.Statement.Collect
import TypedSql.Proofs.Statement.Induction
import TypedSql.Proofs.Statement.Literals
import TypedSql.Proofs.Writer.Parts

namespace TypedSql

/-! Statements that are alike but for their literals are rendered alike, by writers that differ in
their dialects.  What being alike means is left open, as long as rendering keeps it. -/

/-- A relation between renderings by two writers, where the literals of the first have gone
through a function, that is kept by all that renderings are put together with. -/
structure Alike (R : Rendering → Rendering → Prop) (f : Value → Value) (w w' : Writer) : Prop where
  ofPieces (pieces : List Piece) : R (.ofPieces pieces) (.ofPieces pieces)
  fail (e : Error) : R (.fail e) (.fail e)
  append {a a' b b' : Rendering} (first : R a a') (second : R b b') : R (a ++ b) (a' ++ b')
  comma {a a' b b' : Rendering} (first : R a a') (second : R b b') :
    R (a ++ ((if a.isVisible w.config.quote then .symbol ", " else .empty) ++ b))
      (a' ++ ((if a'.isVisible w'.config.quote then .symbol ", " else .empty) ++ b'))
  literal (v : Value) : R ((f v).literal w.dialect) (v.literal w'.dialect)
  pagination (limit offset : Option Nat) :
    R (w.dialect.paginationIfAny limit offset) (w'.dialect.paginationIfAny limit offset)

open Rendering

theorem Source.isJoin_mapLiterals (f : Value → Value) (source : Source) :
    (source.mapLiterals f).isJoin = source.isJoin := by
  cases source <;> simp only [Source.mapLiterals, Source.isJoin]

namespace Alike

variable {R : Rendering → Rendering → Prop} {f : Value → Value} {w w' : Writer}
  (h : Alike R f w w') {a a' : Rendering} {rs rs' : List Rendering}

include h

theorem empty : R empty empty :=
  h.ofPieces []

theorem word (text : String) : R (word text) (word text) :=
  h.ofPieces [.word text]

theorem symbol (text : String) : R (symbol text) (symbol text) :=
  h.ofPieces [.symbol text]

theorem name (text : String) : R (name text) (name text) :=
  h.ofPieces [.name text]

theorem before_symbol (hfirst : R a a') (text : String) :
    R (a ++ Rendering.symbol text) (a' ++ Rendering.symbol text) :=
  h.append hfirst (h.symbol text)

theorem before_word (hfirst : R a a') (text : String) :
    R (a ++ Rendering.word text) (a' ++ Rendering.word text) :=
  h.append hfirst (h.word text)

theorem enclose (hinner : R a a') (parens : Bool) : R (enclose parens a) (enclose parens a') := by
  cases parens with
  | false => exact hinner
  | true => exact h.before_symbol (h.append (h.symbol "(") hinner) ")"

theorem clause (keyword : String) (hbody : R a a') : R (clause keyword a) (clause keyword a') :=
  h.append (h.before_symbol (h.before_word (h.symbol " ") keyword) " ") hbody

theorem separate (hall : List.Forall₂ R rs rs') :
    R (separate w.config.quote rs) (separate w'.config.quote rs') := by
  induction hall with
  | nil => exact h.empty
  | @cons r r' rs rs' hhere hrest ih =>
      cases hrest with
      | nil => exact hhere
      | cons hnext hrest => exact h.comma hhere ih

theorem listClause (keyword : String) (hall : List.Forall₂ R rs rs') :
    R (listClause w.config.quote keyword rs) (listClause w'.config.quote keyword rs') := by
  cases hall with
  | nil => exact h.empty
  | cons hhere hrest => exact h.clause keyword (h.separate (.cons hhere hrest))

theorem elim {β : Type} {g g' : β → Rendering} {b : Option β} (hb : ∀ b' ∈ b, R (g b') (g' b')) :
    R (b.elim Rendering.empty g) (b.elim Rendering.empty g') := by
  cases b with
  | none => exact h.empty
  | some b => exact hb b rfl

section

variable {s : Scope}

omit h in
theorem exprs {es : List Expr}
    (hes : ∀ e ∈ es, R ((e.mapLiterals f).render w s) (e.render w' s)) :
    List.Forall₂ R (Expr.renderAll w s (Expr.mapLiteralsAll f es)) (Expr.renderAll w' s es) := by
  rw [Expr.mapLiteralsAll_eq_map, Expr.renderAll_eq_map, Expr.renderAll_eq_map, List.map_map,
    List.forall₂_map_left_iff, List.forall₂_map_right_iff, List.forall₂_same]
  exact hes

omit h in
theorem args {es : List Expr}
    (hes : ∀ e ∈ es, R ((e.mapLiterals f).render w s) (e.render w' s))
    (hselects : ∀ query, .select query ∈ es →
      R ((query.mapLiterals f).render w s) (query.render w' s)) :
    List.Forall₂ R (Expr.renderArgs w s (Expr.mapLiteralsAll f es)) (Expr.renderArgs w' s es) := by
  rw [Expr.mapLiteralsAll_eq_map, Expr.renderArgs_eq_map, Expr.renderArgs_eq_map, List.map_map,
    List.forall₂_map_left_iff, List.forall₂_map_right_iff, List.forall₂_same]
  intro e he
  cases e with
  | select query =>
      simp only [Function.comp_apply, Expr.mapLiterals, Expr.renderArg]
      exact hselects query he
  | _ =>
      have hhere := hes _ he
      simp only [Expr.mapLiterals] at hhere
      simp only [Function.comp_apply, Expr.mapLiterals, Expr.renderArg]
      exact hhere

theorem operand {e : Option Expr}
    (he : ∀ e' ∈ e, R ((e'.mapLiterals f).render w s) (e'.render w' s)) :
    R (Expr.renderOperand w s (Expr.mapLiteralsOption f e)) (Expr.renderOperand w' s e) := by
  rw [Expr.mapLiteralsOption_eq_map, Expr.renderOperand_eq_elim, Expr.renderOperand_eq_elim,
    Option.elim_map]
  exact h.elim fun e' hmem => h.append (h.symbol " ") (he e' hmem)

theorem optionClause (keyword : String) {e : Option Expr}
    (he : ∀ e' ∈ e, R ((e'.mapLiterals f).render w s) (e'.render w' s)) :
    R (Expr.renderClause w s keyword (Expr.mapLiteralsOption f e))
      (Expr.renderClause w' s keyword e) := by
  rw [Expr.mapLiteralsOption_eq_map, Expr.renderClause_eq_elim, Expr.renderClause_eq_elim,
    Option.elim_map]
  exact h.elim fun e' hmem => h.clause keyword (he e' hmem)

theorem fromClause {source : Option Source}
    (hsource : ∀ f' ∈ source, R ((f'.mapLiterals f).render w s) (f'.render w' s)) :
    R (Source.renderFrom w s (Source.mapLiteralsOption f source))
      (Source.renderFrom w' s source) := by
  rw [Source.mapLiteralsOption_eq_map, Source.renderFrom_eq_elim, Source.renderFrom_eq_elim,
    Option.elim_map]
  exact h.elim fun f' hmem => h.clause "from" (hsource f' hmem)

theorem branches {branches : List (Expr × Expr)}
    (hbranches : ∀ branch ∈ branches,
      R ((branch.1.mapLiterals f).render w s) (branch.1.render w' s) ∧
        R ((branch.2.mapLiterals f).render w s) (branch.2.render w' s)) :
    R (Expr.renderBranches w s (Expr.mapLiteralsBranches f branches))
      (Expr.renderBranches w' s branches) := by
  induction branches with
  | nil =>
      simp only [Expr.mapLiteralsBranches, Expr.renderBranches]
      exact h.empty
  | cons branch rest ih =>
      obtain ⟨condition, result⟩ := branch
      obtain ⟨⟨hcondition, hresult⟩, hrest⟩ := List.forall_mem_cons.mp hbranches
      simp only [Expr.mapLiteralsBranches, Expr.renderBranches]
      exact h.append (h.append (h.clause "when" hcondition) (h.clause "then" hresult)) (ih hrest)

theorem items {items : List SelectItem}
    (hitems : ∀ item ∈ items,
      R ((item.expression.mapLiterals f).render w s) (item.expression.render w' s)) :
    List.Forall₂ R (SelectItem.renderAll w s (SelectItem.mapLiteralsAll f items))
      (SelectItem.renderAll w' s items) := by
  rw [SelectItem.mapLiteralsAll_eq_map, SelectItem.renderAll_eq_map, SelectItem.renderAll_eq_map,
    List.map_map, List.forall₂_map_left_iff, List.forall₂_map_right_iff, List.forall₂_same]
  exact fun item hitem => h.append (hitems item hitem)
    (h.elim fun label _ => h.clause "as" (h.name label))

theorem columns {items : List SelectItem}
    (hitems : ∀ item ∈ items,
      R ((item.expression.mapLiterals f).render w s) (item.expression.render w' s)) :
    R (if items.isEmpty then Rendering.symbol "*"
        else Rendering.separate w.config.quote
          (SelectItem.renderAll w s (SelectItem.mapLiteralsAll f items)))
      (if items.isEmpty then Rendering.symbol "*"
        else Rendering.separate w'.config.quote (SelectItem.renderAll w' s items)) := by
  split
  · exact h.symbol "*"
  · exact h.separate (h.items hitems)

theorem orders {keys : List OrderBy}
    (hkeys : ∀ key ∈ keys,
      R ((key.expression.mapLiterals f).render w s) (key.expression.render w' s)) :
    List.Forall₂ R (OrderBy.renderAll w s (OrderBy.mapLiteralsAll f keys))
      (OrderBy.renderAll w' s keys) := by
  rw [OrderBy.mapLiteralsAll_eq_map, OrderBy.renderAll_eq_map, OrderBy.renderAll_eq_map,
    List.map_map, List.forall₂_map_left_iff, List.forall₂_map_right_iff, List.forall₂_same]
  intro key hkey
  refine h.append (hkeys key hkey) ?_
  obtain ⟨e, descending⟩ := key
  cases descending with
  | true => exact h.append (h.symbol " ") (h.word "desc")
  | false => exact h.empty

end

/-- Every tree is rendered alike, but for its literals. -/
theorem hereditary :
    Hereditary (fun e => ∀ s, R ((e.mapLiterals f).render w s) (e.render w' s))
      (fun operand => ∀ s, R ((operand.mapLiterals f).render w s) (operand.render w' s))
      (fun query => ∀ s, R ((query.mapLiterals f).render w s) (query.render w' s))
      (fun source => ∀ s, R ((source.mapLiterals f).render w s) (source.render w' s))
      (fun query => ∀ s, R ((query.mapLiterals f).render w s) (query.render w' s))
      (fun query => ∀ s, R ((query.mapLiterals f).render w s) (query.render w' s)) where
  column c s := by
    simp only [Expr.mapLiterals, Expr.render]
    exact h.ofPieces _
  parameter p s := by
    simp only [Expr.mapLiterals, Expr.render]
    exact h.ofPieces _
  literal v s := by
    simp only [Expr.mapLiterals, Expr.render]
    exact h.literal v
  unary op operand postfixed type hoperand s := by
    have hkept : (operand.mapLiterals f).parenthesized = operand.parenthesized := by
      cases operand
      simp only [Operand.mapLiterals]
    cases postfixed with
    | true =>
        simp only [Expr.mapLiterals, Expr.render, if_true]
        exact h.append (h.before_symbol (hoperand s) " ") (h.ofPieces _)
    | false =>
        simp only [Expr.mapLiterals, Expr.render, Bool.false_eq_true, if_false, hkept]
        refine h.append (h.append (h.ofPieces _) ?_) (hoperand s)
        split
        · exact h.symbol " "
        · exact h.empty
  binary left op right type hleft hright s := by
    simp only [Expr.mapLiterals, Expr.render]
    exact h.append (h.before_symbol (h.append (h.before_symbol (hleft s) " ") (h.ofPieces _)) " ")
      (hright s)
  ternary first op second op2 third type hfirst hsecond hthird s := by
    have hopening := h.before_symbol (h.append (h.before_symbol (hfirst s) " ")
      (h.ofPieces op.pieces)) " "
    simp only [Expr.mapLiterals, Expr.render]
    exact h.append (h.before_symbol (h.append (h.before_symbol (h.append hopening (hsecond s)) " ")
      (h.ofPieces _)) " ") (hthird s)
  function name args emptyParens type hargs hselects s := by
    have hempty : (Expr.mapLiteralsAll f args).isEmpty = args.isEmpty := by
      rw [Expr.mapLiteralsAll_eq_map, List.isEmpty_map]
    simp only [Expr.mapLiterals, Expr.render, hempty]
    split
    · exact h.word name
    · exact h.before_symbol (h.append (h.before_symbol (h.word name) "(") (h.separate
        (Alike.args (fun e he => hargs e he s) fun query hquery => hselects query hquery s))) ")"
  case operand branches otherwise type hoperand hbranches hotherwise s := by
    have hopening := h.append (h.word "case") (h.operand fun e he => hoperand e he s)
    have hcases := h.branches fun branch hbranch =>
      ⟨(hbranches branch hbranch).1 s, (hbranches branch hbranch).2 s⟩
    have hlast := h.optionClause "else" fun e he => hotherwise e he s
    simp only [Expr.mapLiterals, Expr.render]
    exact h.before_word (h.before_symbol (h.append (h.append hopening hcases) hlast) " ") "end"
  inList operand values negated hoperand hvalues s := by
    simp only [Expr.mapLiterals, Expr.render]
    exact h.before_symbol (h.append (h.before_symbol (h.before_word (h.before_symbol
      (hoperand s) " ") _) " (") (h.separate (Alike.exprs fun e he => hvalues e he s))) ")"
  inQuery operand query negated hoperand hquery s := by
    simp only [Expr.mapLiterals, Expr.render]
    exact h.before_symbol (h.append (h.before_symbol (h.before_word (h.before_symbol
      (hoperand s) " ") _) " (") (hquery s)) ")"
  tuple elements helements s := by
    have hlength : (Expr.mapLiteralsAll f elements).length = elements.length := by
      rw [Expr.mapLiteralsAll_eq_map, List.length_map]
    simp only [Expr.mapLiterals, Expr.render, hlength]
    exact h.enclose (h.separate (Alike.exprs fun e he => helements e he s)) _
  subselect query hquery s := by
    simp only [Expr.mapLiterals, Expr.render]
    exact h.enclose (hquery s) true
  operand e parens he s := by
    simp only [Operand.mapLiterals, Operand.render]
    exact h.enclose (he s) parens
  select items source filter distinct groupBy having orderBy limit offset hitems hsource hfilter
      hgroupBy hhaving horderBy s := by
    have hnoItems : (SelectItem.mapLiteralsAll f items).isEmpty = items.isEmpty := by
      rw [SelectItem.mapLiteralsAll_eq_map, List.isEmpty_map]
    have hnoSource : (Source.mapLiteralsOption f source).isNone = source.isNone := by
      rw [Source.mapLiteralsOption_eq_map, Option.isNone_map]
    have hjoin : (Source.mapLiteralsOption f source).any Source.isJoin =
        source.any Source.isJoin := by
      rw [Source.mapLiteralsOption_eq_map]
      cases source with
      | none => rfl
      | some source => exact Source.isJoin_mapLiterals f source
    simp only [Select.mapLiterals, Select.render, hnoItems, hnoSource, hjoin]
    split
    · exact h.fail _
    · have hdistinct : R (if distinct then Rendering.word "distinct" ++ Rendering.symbol " "
            else Rendering.empty)
          (if distinct then Rendering.word "distinct" ++ Rendering.symbol " "
            else Rendering.empty) := by
        split
        · exact h.before_symbol (h.word "distinct") " "
        · exact h.empty
      have hopening := h.append (h.before_symbol (h.word "select") " ") hdistinct
      have hselected (inner : Scope) :=
        h.append hopening (h.columns fun item hitem => hitems item hitem inner)
      refine h.append (h.append (h.append (h.append (h.append (h.append (hselected _)
        (h.fromClause fun f' hf => hsource f' hf _)) ?_) ?_) ?_) ?_) (h.pagination limit offset)
      · exact h.optionClause "where" fun e he => hfilter e he _
      · exact h.listClause "group by" (Alike.exprs fun e he => hgroupBy e he _)
      · exact h.optionClause "having" fun e he => hhaving e he _
      · exact h.listClause "order by" (h.orders fun key hkey => horderBy key hkey _)
  table t columns s := by
    simp only [Source.mapLiterals, Source.render]
    exact h.ofPieces _
  join kind left right on hleft hright hon s := by
    simp only [Source.mapLiterals, Source.render]
    exact h.append (h.append (h.before_symbol (h.before_word (h.before_symbol (hleft _) " ") _) " ")
      (hright _)) (h.optionClause "on" fun e he => hon e he _)
  derived query aliasName hquery s := by
    simp only [Source.mapLiterals, Source.render]
    exact h.append (h.before_symbol (h.append (h.symbol "(") (hquery s)) ") ") (h.name aliasName)
  querySelect query hquery s := by
    simp only [Query.mapLiterals, Query.render]
    exact hquery s
  queryUnion query hquery s := by
    simp only [Query.mapLiterals, Query.render]
    exact hquery s
  union left right all parens orderBy limit offset hleft hright horderBy s := by
    have hopening := h.before_symbol (h.before_word (h.before_symbol
      (h.enclose (hleft s) parens) " ") (if all then "union all" else "union")) " "
    simp only [Union.mapLiterals, Union.render]
    exact h.append (h.append (h.append hopening (h.enclose (hright s) parens))
      (h.listClause "order by" (h.orders fun key hkey => horderBy key hkey _)))
      (h.pagination limit offset)

end Alike

section

variable {R : Rendering → Rendering → Prop} {f : Value → Value} {w w' : Writer}
  (h : Alike R f w w')

include h

theorem Insert.alike_render (i : Insert) (s : Scope) :
    R ((i.mapLiterals f).render w s) (i.render w' s) := by
  have hcolumns : R
      (Rendering.separate w.config.quote (i.columns.map fun c => Rendering.name c.name))
      (Rendering.separate w'.config.quote (i.columns.map fun c => Rendering.name c.name)) := by
    refine h.separate ?_
    rw [List.forall₂_map_left_iff, List.forall₂_map_right_iff, List.forall₂_same]
    exact fun c _ => h.name c.name
  simp only [Insert.mapLiterals, Insert.render]
  refine h.append (h.before_symbol (h.append (h.before_symbol (h.append (h.before_symbol
    (h.word "insert into") " ") (h.ofPieces _)) " (") hcolumns) ") ") ?_
  cases i.source with
  | query query => exact Select.of_hereditary h.hereditary query _
  | rows rows =>
      refine h.append (h.before_symbol (h.word "values") " ") (h.separate ?_)
      rw [List.map_map, List.forall₂_map_left_iff, List.forall₂_map_right_iff, List.forall₂_same]
      exact fun row _ => h.enclose (h.separate (Alike.exprs fun e _ =>
        Expr.of_hereditary h.hereditary e _)) true

theorem Update.alike_render (u : Update) (s : Scope) :
    R ((u.mapLiterals f).render w s) (u.render w' s) := by
  simp only [Update.mapLiterals, Update.render]
  refine h.append (h.append (h.append (h.before_symbol (h.word "update") " ") (h.ofPieces _))
    (h.clause "set" (h.separate ?_)))
    (h.optionClause "where" fun e _ => Expr.of_hereditary h.hereditary e _)
  rw [List.map_map, List.forall₂_map_left_iff, List.forall₂_map_right_iff, List.forall₂_same]
  exact fun a _ => h.append (h.before_symbol (h.name a.column.name) " = ")
    (Expr.of_hereditary h.hereditary a.value _)

theorem Delete.alike_render (d : Delete) (s : Scope) :
    R ((d.mapLiterals f).render w s) (d.render w' s) := by
  simp only [Delete.mapLiterals, Delete.render]
  exact h.append (h.append (h.before_symbol (h.word "delete from") " ") (h.ofPieces _))
    (h.optionClause "where" fun e _ => Expr.of_hereditary h.hereditary e _)

theorem Statement.alike_render {statement : Statement} (hraw : statement.isRaw = false)
    (s : Scope) : R ((statement.mapLiterals f).render w s) (statement.render w' s) := by
  cases statement with
  | select query => exact Select.of_hereditary h.hereditary query s
  | union query => exact Union.of_hereditary h.hereditary query s
  | insert i => exact Insert.alike_render h i s
  | update u => exact Update.alike_render h u s
  | delete d => exact Delete.alike_render h d s
  | raw r => contradiction

end

end TypedSql
