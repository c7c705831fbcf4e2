import TypedSql.Statement.Build
import TypedSql.Text.Alphanumeric
import TypedSql.Writer.Literal
import TypedSql.Writer.Pagination

namespace TypedSql

/-! Rendering of expressions and statements into pieces.  The scope goes down the tree, pieces and
failures come up, so that nothing outside a part of the tree decides how the part is written. -/

namespace Operator

def pieces (op : Operator) : List Piece :=
  (op.tokens.map Piece.word).intersperse (.symbol " ")

def isSymbolic (op : Operator) : Bool :=
  match op.tokens.getLast? with
  | some token => !token.toList.any Text.isAlphanumeric
  | none => false

end Operator

namespace JoinKind

def keyword : JoinKind → String
  | inner => "inner join"
  | left => "left join"
  | right => "right join"
  | full => "full join"
  | cross => "cross join"

end JoinKind

namespace Source

def isJoin : Source → Bool
  | .join .. => true
  | _ => false

end Source

namespace Rendering

def clause (keyword : String) (r : Rendering) : Rendering :=
  symbol " " ++ word keyword ++ symbol " " ++ r

def listClause (quote keyword : String) (rs : List Rendering) : Rendering :=
  if rs.isEmpty then empty else clause keyword (separate quote rs)

end Rendering

open Rendering in
mutual

def Expr.render (w : Writer) (s : Scope) : Expr → Rendering
  | .column c => .ofPieces (c.pieces s)
  | .parameter p => .ofPieces [.placeholder p]
  | .literal v => v.literal w.dialect
  | .unary op operand postfixed _ =>
      let body := operand.render w s
      if postfixed then body ++ symbol " " ++ .ofPieces op.pieces
      else
        let space := if !operand.parenthesized && !op.isSymbolic then symbol " " else empty
        .ofPieces op.pieces ++ space ++ body
  | .binary left op right _ =>
      left.render w s ++ symbol " " ++ .ofPieces op.pieces ++ symbol " " ++ right.render w s
  | .ternary first op second op2 third _ =>
      first.render w s ++ symbol " " ++ .ofPieces op.pieces ++ symbol " " ++ second.render w s ++
        symbol " " ++ .ofPieces op2.pieces ++ symbol " " ++ third.render w s
  | .function name args emptyParens _ =>
      if args.isEmpty && !emptyParens then word name
      else
        word name ++ symbol "(" ++ separate w.config.quote (Expr.renderArgs w s args) ++ symbol ")"
  | .case operand branches otherwise _ =>
      word "case" ++ Expr.renderOperand w s operand ++ Expr.renderBranches w s branches ++
        Expr.renderClause w s "else" otherwise ++ symbol " " ++ word "end"
  | .inList operand values negated =>
      operand.render w s ++ symbol " " ++ word (if negated then "not in" else "in") ++
        symbol " (" ++ separate w.config.quote (Expr.renderAll w s values) ++ symbol ")"
  | .inQuery operand query negated =>
      operand.render w s ++ symbol " " ++ word (if negated then "not in" else "in") ++
        symbol " (" ++ query.render w s ++ symbol ")"
  | .tuple elements =>
      enclose (1 < elements.length) (separate w.config.quote (Expr.renderAll w s elements))
  | .select query => enclose true (query.render w s)

def Operand.render (w : Writer) (s : Scope) : Operand → Rendering
  | ⟨e, parens⟩ => enclose parens (e.render w s)

def Expr.renderAll (w : Writer) (s : Scope) : List Expr → List Rendering
  | [] => []
  | e :: es => e.render w s :: Expr.renderAll w s es

/-- Each argument of a call; the call's own parentheses enclose a select. -/
def Expr.renderArgs (w : Writer) (s : Scope) : List Expr → List Rendering
  | [] => []
  | .select query :: es => query.render w s :: Expr.renderArgs w s es
  | e :: es => e.render w s :: Expr.renderArgs w s es

def Expr.renderOperand (w : Writer) (s : Scope) : Option Expr → Rendering
  | none => empty
  | some e => symbol " " ++ e.render w s

def Expr.renderBranches (w : Writer) (s : Scope) : List (Expr × Expr) → Rendering
  | [] => empty
  | (condition, result) :: rest =>
      clause "when" (condition.render w s) ++ clause "then" (result.render w s) ++
        Expr.renderBranches w s rest

def Expr.renderClause (w : Writer) (s : Scope) (keyword : String) : Option Expr → Rendering
  | none => empty
  | some e => clause keyword (e.render w s)

def Select.render (w : Writer) (s : Scope) : Select → Rendering
  | ⟨items, source, filter, distinct, groupBy, having, orderBy, limit, offset⟩ =>
      if items.isEmpty && source.isNone then fail (.construction .selectWithoutColumns)
      else
        let inner : Scope := ⟨.select, s.qualify || source.any Source.isJoin⟩
        word "select" ++ symbol " " ++
        (if distinct then word "distinct" ++ symbol " " else empty) ++
        (if items.isEmpty then symbol "*"
         else separate w.config.quote (SelectItem.renderAll w inner items)) ++
        Source.renderFrom w (inner.enter .selectFrom) source ++
        Expr.renderClause w (inner.enter .selectWhere) "where" filter ++
        listClause w.config.quote "group by"
          (Expr.renderAll w (inner.enter .selectGroupBy) groupBy) ++
        Expr.renderClause w (inner.enter .selectHaving) "having" having ++
        listClause w.config.quote "order by"
          (OrderBy.renderAll w (inner.enter .selectOrderBy) orderBy) ++
        w.dialect.paginationIfAny limit offset

def SelectItem.renderAll (w : Writer) (s : Scope) : List SelectItem → List Rendering
  | [] => []
  | ⟨e, label⟩ :: rest =>
      (e.render w s ++
        match label with
        | some label => clause "as" (name label)
        | none => empty) :: SelectItem.renderAll w s rest

def OrderBy.renderAll (w : Writer) (s : Scope) : List OrderBy → List Rendering
  | [] => []
  | ⟨e, descending⟩ :: rest =>
      (e.render w s ++ if descending then symbol " " ++ word "desc" else empty) ::
        OrderBy.renderAll w s rest

def Source.renderFrom (w : Writer) (s : Scope) : Option Source → Rendering
  | none => empty
  | some source => clause "from" (source.render w s)

/-- Pieces of a source.  Inside a join columns are qualified. -/
def Source.render (w : Writer) (s : Scope) : Source → Rendering
  | .table t _ => .ofPieces (t.pieces s)
  | .join kind left right on =>
      let inner : Scope := ⟨.join, true⟩
      left.render w inner ++ symbol " " ++ word kind.keyword ++ symbol " " ++
        right.render w inner ++ Expr.renderClause w inner "on" on
  | .derived query aliasName =>
      symbol "(" ++ query.render w s ++ symbol ") " ++ name aliasName

def Query.render (w : Writer) (s : Scope) : Query → Rendering
  | .select query => query.render w s
  | .union query => query.render w s

def Union.render (w : Writer) (s : Scope) : Union → Rendering
  | ⟨left, right, all, parens, orderBy, limit, offset⟩ =>
      enclose parens (left.render w s) ++ symbol " " ++
        word (if all then "union all" else "union") ++
        symbol " " ++ enclose parens (right.render w s) ++
        listClause w.config.quote "order by"
          (OrderBy.renderAll w (s.enter .unionOrderBy) orderBy) ++
        w.dialect.paginationIfAny limit offset

end

namespace Insert

open Rendering

def render (w : Writer) (s : Scope) (i : Insert) : Rendering :=
  let inner := s.enter .insertInto
  word "insert into" ++ symbol " " ++ .ofPieces (i.table.pieces inner) ++ symbol " (" ++
    separate w.config.quote (i.columns.map fun c => name c.name) ++ symbol ") " ++
    match i.source with
    | .query query => query.render w inner
    | .rows rows =>
        word "values" ++ symbol " " ++
          separate w.config.quote (rows.map fun row =>
            enclose true
              (separate w.config.quote (Expr.renderAll w (s.enter .insertIntoValues) row)))

end Insert

namespace Update

open Rendering

def render (w : Writer) (s : Scope) (u : Update) : Rendering :=
  let inner := s.enter .update
  word "update" ++ symbol " " ++ .ofPieces (u.table.pieces inner) ++
    clause "set" (separate w.config.quote (u.assignments.map fun a =>
      name a.column.name ++ symbol " = " ++ a.value.render w (s.enter .updateSet))) ++
    Expr.renderClause w (s.enter .updateWhere) "where" u.filter

end Update

namespace Delete

open Rendering

def render (w : Writer) (s : Scope) (d : Delete) : Rendering :=
  word "delete from" ++ symbol " " ++ .ofPieces (d.table.pieces (s.enter .deleteFrom)) ++
    Expr.renderClause w (s.enter .deleteFromWhere) "where" d.filter

end Delete

namespace Raw

/-- Pieces of hand-written SQL.  Every question mark outside quotes takes the next parameter;
`quote` is the quote that is open. -/
def scan (total : Nat) : Option Char → List Parameter → List Char → Rendering
  | _, [], [] => .empty
  | _, _ :: _, [] => .fail (.construction (.parametersBeyond total))
  | quote, parameters, c :: cs =>
      let here : Rendering := .ofPieces [.verbatim (String.singleton c)]
      match quote with
      | some q => here ++ scan total (if c = q then none else some q) parameters cs
      | none =>
          if c = '\'' ∨ c = '"' ∨ c.toNat = 96 then here ++ scan total (some c) parameters cs
          else if c = '?' then
            match parameters with
            | [] => .fail (.construction (.placeholdersBeyond total))
            | p :: ps => .ofPieces [.placeholder p] ++ scan total none ps cs
          else here ++ scan total none parameters cs

def render (r : Raw) : Rendering :=
  scan r.parameters.length none r.parameters r.sql.toList

end Raw

namespace Statement

def render (w : Writer) (s : Scope) : Statement → Rendering
  | .select query => query.render w s
  | .union query => query.render w s
  | .insert i => i.render w s
  | .update u => u.render w s
  | .delete d => d.render w s
  | .raw r => r.render

end Statement

structure CompiledSql where
  sql : String
  parameters : List Parameter
deriving DecidableEq

namespace Writer

/-- Writes a rendering behind `out`, with what was written even if it failed. -/
def write (w : Writer) (c : Context) (out : String) (r : Rendering) :
    Context × String × Option Error :=
  (c.after r.pieces, out ++ String.ofList (w.print c.count r.pieces), r.failure)

def compile (w : Writer) (statement : Statement) : Except Error CompiledSql :=
  let r := statement.render w {}
  match r.failure with
  | some e => .error e
  | none => .ok ⟨String.ofList (w.print 0 r.pieces), Piece.parameters r.pieces⟩

theorem compile_of_failure {w : Writer} {s : Statement} {e : Error}
    (h : (s.render w {}).failure = some e) : w.compile s = .error e := by
  simp [compile, h]

theorem compile_of_pieces {w : Writer} {s : Statement} {ps : List Piece}
    (h : s.render w {} = .ofPieces ps) :
    w.compile s = .ok ⟨String.ofList (w.print 0 ps), Piece.parameters ps⟩ := by
  simp [compile, h, Rendering.ofPieces]

theorem failure_of_compile {w : Writer} {s : Statement} {e : Error} (h : w.compile s = .error e) :
    (s.render w {}).failure = some e := by
  cases hfailure : (s.render w {}).failure with
  | some e' => simpa [compile, hfailure] using h
  | none => simp [compile, hfailure] at h

theorem pieces_of_compile {w : Writer} {s : Statement} {c : CompiledSql} (h : w.compile s = .ok c) :
    ∃ ps, s.render w {} = .ofPieces ps ∧
      c = ⟨String.ofList (w.print 0 ps), Piece.parameters ps⟩ := by
  cases hfailure : (s.render w {}).failure with
  | some e =>
      rw [compile_of_failure hfailure] at h
      cases h
  | none =>
      have hrendered : s.render w {} = .ofPieces (s.render w {}).pieces := by
        rw [Rendering.ofPieces, ← hfailure]
      rw [compile_of_pieces hrendered] at h
      cases h
      exact ⟨_, hrendered, rfl⟩

end Writer

end TypedSql
