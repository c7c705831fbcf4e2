import TypedSql.Proofs.Writer.Tokens
import TypedSql.Store.Driver

namespace TypedSql

/-! Writing step by step.  A page has the text and the context that are there so far; each step puts
something behind them, and a step that fails leaves the page as far as it got. -/

structure Page where
  context : Context := {}
  text : String := ""

namespace Page

def scope (p : Page) : Scope := p.context.toScope

/-- The page with pieces behind what is on it. -/
def behind (p : Page) (w : Writer) (pieces : List Piece) : Page where
  context := p.context.after pieces
  text := p.text ++ String.ofList (w.print p.context.count pieces)

end Page

abbrev Writing := Run Page Unit

namespace Writing

def whenever (b : Bool) (x : Writing) : Writing :=
  if b then x else return

section

variable (w : Writer)

/-- A placeholder takes its parameter into the context. -/
def put (p : Piece) : Writing :=
  modify fun page =>
    { context := page.context.after [p]
      text := page.text ++ String.ofList (w.pieceText page.context.count p) }

def puts : List Piece → Writing
  | [] => pure ()
  | p :: ps => do
      put w p
      puts ps

def word (text : String) : Writing := put w (.word text)

def symbol (text : String) : Writing := put w (.symbol text)

def name (text : String) : Writing := put w (.name text)

/-- Text that nothing else is written in, and the failure that ends it, if there is one. -/
def leaf (r : Rendering) : Writing := do
  puts w r.pieces
  match r.failure with
  | some e => throw e
  | none => return

/-- A reference reads in the context how it is written. -/
def reference (pieces : Scope → List Piece) : Writing := do
  puts w (pieces (← get).scope)

def enclose (parens : Bool) (x : Writing) : Writing :=
  if parens then do
    symbol w "("
    x
    symbol w ")"
  else x

def clause (keyword : String) (x : Writing) : Writing := do
  symbol w " "
  word w keyword
  symbol w " "
  x

def clauseIfAny (keyword : String) : Option Writing → Writing
  | some x => clause w keyword x
  | none => return

/-- A separator goes before each part that stands behind one that has written something; `start` is
the length of the text when the part before was begun. -/
def separatedFrom (start : Nat) : List Writing → Writing
  | [] => return
  | x :: xs => do
      whenever (start < (← get).text.utf8ByteSize) (symbol w ", ")
      let begun := (← get).text.utf8ByteSize
      x
      separatedFrom begun xs

def separated (xs : List Writing) : Writing := do
  separatedFrom w (← get).text.utf8ByteSize xs

end

/-- Another clause, which takes over the parameters and gives them back, however it ends. -/
def within (fragment : Fragment) (x : Writing) : Writing := fun page =>
  let (outcome, inner) := x { page with context := page.context.enter fragment }
  (outcome, { inner with context := page.context.leave inner.context })

def listClause (w : Writer) (keyword : String) (fragment : Fragment) (xs : List Writing) :
    Writing :=
  if xs.isEmpty then return else clause w keyword (within fragment (separated w xs))

def qualifying (more : Bool) (x : Writing) : Writing := do
  modify fun page =>
    { page with context := { page.context with qualify := page.context.qualify || more } }
  x

end Writing

open Writing

mutual

def Expr.writeOn (w : Writer) : Expr → Writing
  | .column c => reference w c.pieces
  | .parameter p => put w (.placeholder p)
  | .literal v => leaf w (v.literal w.dialect)
  | .unary op operand postfixed _ =>
      if postfixed then do
        operand.writeOn w
        symbol w " "
        puts w op.pieces
      else do
        puts w op.pieces
        whenever (!operand.parenthesized && !op.isSymbolic) (symbol w " ")
        operand.writeOn w
  | .binary left op right _ => do
      left.writeOn w
      symbol w " "
      puts w op.pieces
      symbol w " "
      right.writeOn w
  | .ternary first op second op2 third _ => do
      first.writeOn w
      symbol w " "
      puts w op.pieces
      symbol w " "
      second.writeOn w
      symbol w " "
      puts w op2.pieces
      symbol w " "
      third.writeOn w
  | .function name args emptyParens _ =>
      if args.isEmpty && !emptyParens then word w name
      else do
        word w name
        symbol w "("
        separated w (Expr.writeArgs w args)
        symbol w ")"
  | .case operand branches otherwise _ => do
      word w "case"
      Expr.writeOperand w operand
      Expr.writeBranches w branches
      clauseIfAny w "else" (Expr.writeIfAny w otherwise)
      symbol w " "
      word w "end"
  | .inList operand values negated => do
      operand.writeOn w
      symbol w " "
      word w (if negated then "not in" else "in")
      symbol w " ("
      separated w (Expr.writeAll w values)
      symbol w ")"
  | .inQuery operand query negated => do
      operand.writeOn w
      symbol w " "
      word w (if negated then "not in" else "in")
      symbol w " ("
      query.writeOn w
      symbol w ")"
  | .tuple elements => enclose w (1 < elements.length) (separated w (Expr.writeAll w elements))
  | .select query => enclose w true (query.writeOn w)

def Operand.writeOn (w : Writer) : Operand → Writing
  | ⟨e, parens⟩ => enclose w parens (e.writeOn w)

def Expr.writeAll (w : Writer) : List Expr → List Writing
  | [] => []
  | e :: es => e.writeOn w :: Expr.writeAll w es

def Expr.writeArgs (w : Writer) : List Expr → List Writing
  | [] => []
  | .select query :: es => query.writeOn w :: Expr.writeArgs w es
  | e :: es => e.writeOn w :: Expr.writeArgs w es

def Expr.writeOperand (w : Writer) : Option Expr → Writing
  | none => return
  | some e => do
      symbol w " "
      e.writeOn w

def Expr.writeIfAny (w : Writer) : Option Expr → Option Writing
  | none => none
  | some e => some (e.writeOn w)

def Expr.writeBranches (w : Writer) : List (Expr × Expr) → Writing
  | [] => return
  | (condition, result) :: rest => do
      clause w "when" (condition.writeOn w)
      clause w "then" (result.writeOn w)
      Expr.writeBranches w rest

def Select.writeOn (w : Writer) : Select → Writing
  | ⟨items, source, filter, distinct, groupBy, having, orderBy, limit, offset⟩ =>
      if items.isEmpty && source.isNone then throw (.construction .selectWithoutColumns)
      else
        within .select <| qualifying (source.any Source.isJoin) <| do
          word w "select"
          symbol w " "
          whenever distinct do
            word w "distinct"
            symbol w " "
          (if items.isEmpty then symbol w "*" else separated w (SelectItem.writeAll w items))
          clauseIfAny w "from" ((Source.writeIfAny w source).map (within .selectFrom))
          clauseIfAny w "where" ((Expr.writeIfAny w filter).map (within .selectWhere))
          listClause w "group by" .selectGroupBy (Expr.writeAll w groupBy)
          clauseIfAny w "having" ((Expr.writeIfAny w having).map (within .selectHaving))
          listClause w "order by" .selectOrderBy (OrderBy.writeAll w orderBy)
          leaf w (w.dialect.paginationIfAny limit offset)

def SelectItem.writeAll (w : Writer) : List SelectItem → List Writing
  | [] => []
  | ⟨e, label⟩ :: rest =>
      (do
        e.writeOn w
        clauseIfAny w "as" (label.map (name w))) :: SelectItem.writeAll w rest

def OrderBy.writeAll (w : Writer) : List OrderBy → List Writing
  | [] => []
  | ⟨e, descending⟩ :: rest =>
      (do
        e.writeOn w
        whenever descending do
          symbol w " "
          word w "desc") :: OrderBy.writeAll w rest

def Source.writeIfAny (w : Writer) : Option Source → Option Writing
  | none => none
  | some source => some (source.writeOn w)

def Source.writeOn (w : Writer) : Source → Writing
  | .table t _ => reference w t.pieces
  | .join kind left right on =>
      within .join <| qualifying true <| do
        left.writeOn w
        symbol w " "
        word w kind.keyword
        symbol w " "
        right.writeOn w
        clauseIfAny w "on" (Expr.writeIfAny w on)
  | .derived query aliasName => do
      symbol w "("
      query.writeOn w
      symbol w ") "
      name w aliasName

def Query.writeOn (w : Writer) : Query → Writing
  | .select query => query.writeOn w
  | .union query => query.writeOn w

def Union.writeOn (w : Writer) : Union → Writing
  | ⟨left, right, all, parens, orderBy, limit, offset⟩ => do
      enclose w parens (left.writeOn w)
      symbol w " "
      word w (if all then "union all" else "union")
      symbol w " "
      enclose w parens (right.writeOn w)
      listClause w "order by" .unionOrderBy (OrderBy.writeAll w orderBy)
      leaf w (w.dialect.paginationIfAny limit offset)

end

namespace Insert

def writeOn (w : Writer) (i : Insert) : Writing :=
  within .insertInto do
    word w "insert into"
    symbol w " "
    reference w i.table.pieces
    symbol w " ("
    separated w (i.columns.map fun c => name w c.name)
    symbol w ") "
    match i.source with
    | .query query => query.writeOn w
    | .rows rows =>
        word w "values"
        symbol w " "
        within .insertIntoValues (separated w (rows.map fun row =>
          enclose w true (separated w (Expr.writeAll w row))))

end Insert

namespace Update

def writeOn (w : Writer) (u : Update) : Writing :=
  within .update do
    word w "update"
    symbol w " "
    reference w u.table.pieces
    clause w "set" (within .updateSet (separated w (u.assignments.map fun a => do
      name w a.column.name
      symbol w " = "
      a.value.writeOn w)))
    clauseIfAny w "where" ((Expr.writeIfAny w u.filter).map (within .updateWhere))

end Update

namespace Delete

def writeOn (w : Writer) (d : Delete) : Writing :=
  within .deleteFrom do
    word w "delete from"
    symbol w " "
    reference w d.table.pieces
    clauseIfAny w "where" ((Expr.writeIfAny w d.filter).map (within .deleteFromWhere))

end Delete

end TypedSql
