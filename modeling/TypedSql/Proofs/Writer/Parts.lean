import TypedSql.Writer.Render

namespace TypedSql

open Rendering

variable (w : Writer) (s : Scope)

/-- What is rendered of an argument of a call. -/
def Expr.renderArg : Expr → Rendering
  | .select query => query.render w s
  | e => e.render w s

def SelectItem.render (item : SelectItem) : Rendering :=
  item.expression.render w s ++ item.label.elim empty fun label => clause "as" (name label)

def OrderBy.render (key : OrderBy) : Rendering :=
  key.expression.render w s ++ if key.descending then symbol " " ++ word "desc" else empty

theorem Expr.renderAll_eq_map (es : List Expr) :
    Expr.renderAll w s es = es.map (Expr.render w s) := by
  induction es with
  | nil => simp only [Expr.renderAll, List.map_nil]
  | cons e es ih => simp only [Expr.renderAll, ih, List.map_cons]

theorem Expr.renderArgs_eq_map (es : List Expr) :
    Expr.renderArgs w s es = es.map (Expr.renderArg w s) := by
  induction es with
  | nil => simp only [Expr.renderArgs, List.map_nil]
  | cons e es ih => cases e <;> simp only [Expr.renderArgs, ih, List.map_cons, Expr.renderArg]

theorem SelectItem.renderAll_eq_map (items : List SelectItem) :
    SelectItem.renderAll w s items = items.map (SelectItem.render w s) := by
  induction items with
  | nil => simp only [SelectItem.renderAll, List.map_nil]
  | cons item rest ih =>
      obtain ⟨e, label⟩ := item
      simp only [SelectItem.renderAll, ih, List.map_cons, SelectItem.render]
      cases label <;> rfl

theorem OrderBy.renderAll_eq_map (keys : List OrderBy) :
    OrderBy.renderAll w s keys = keys.map (OrderBy.render w s) := by
  induction keys with
  | nil => simp only [OrderBy.renderAll, List.map_nil]
  | cons key rest ih =>
      obtain ⟨e, descending⟩ := key
      simp only [OrderBy.renderAll, ih, List.map_cons, OrderBy.render]

theorem Expr.renderOperand_eq_elim (e : Option Expr) :
    Expr.renderOperand w s e = e.elim empty fun e => symbol " " ++ e.render w s := by
  cases e <;> simp only [Expr.renderOperand, Option.elim_none, Option.elim_some]

theorem Expr.renderClause_eq_elim (keyword : String) (e : Option Expr) :
    Expr.renderClause w s keyword e = e.elim empty fun e => clause keyword (e.render w s) := by
  cases e <;> simp only [Expr.renderClause, Option.elim_none, Option.elim_some]

theorem Source.renderFrom_eq_elim (source : Option Source) :
    Source.renderFrom w s source = source.elim empty fun f => clause "from" (f.render w s) := by
  cases source <;> simp only [Source.renderFrom, Option.elim_none, Option.elim_some]

end TypedSql
