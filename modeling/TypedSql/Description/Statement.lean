import TypedSql.Description.Table
import TypedSql.Writer.Render

namespace TypedSql

/-! Expressions and statements as data.  An expression is told by the field that it has.  Reading
goes down the tree; the depth of the data bounds the number of levels. -/

open DescriptionFault (bad)
open Described (built)

namespace Operator

def ofData (d : Data) : Described Operator := do
  built (ofTokens (← d.toTexts))

end Operator

namespace JoinKind

def ofData (d : Data) : Described JoinKind :=
  Described.oneOf [("inner", inner), ("left", left), ("right", right), ("full", full),
    ("cross", cross)] d

end JoinKind

def Column.binaryOperations {α : Type} (c : Column α) : List (String × (Argument α → Expr)) :=
  [("eq", c.eq), ("not_eq", c.notEq), ("lt", c.lt), ("lte", c.lte), ("gt", c.gt), ("gte", c.gte),
    ("like", c.like), ("not_like", c.notLike), ("plus", c.plus), ("minus", c.minus),
    ("times", c.times), ("div", c.div), ("rem", c.rem)]

def Column.unaryOperations {α : Type} (c : Column α) : List (String × Expr) :=
  [("is_null", c.isNull), ("is_not_null", c.isNotNull), ("neg", c.neg), ("count", c.count),
    ("sum", c.sum), ("avg", c.avg), ("min", c.min), ("max", c.max), ("lower", c.lower),
    ("upper", c.upper), ("length", c.length)]

def Expr.binaryOperations : List (String × (Expr → Expr → Expr)) :=
  [("and", and), ("or", or), ("eq", eq), ("not_eq", notEq), ("lt", lt), ("lte", lte), ("gt", gt),
    ("gte", gte)]

def Expr.unaryOperations : List (String × (Expr → Expr)) :=
  [("not", not), ("is_null", testNull), ("is_not_null", testNotNull)]

private def tooDeep {α : Type} : Described α := bad "the description is too deep"

mutual

def Expr.describedBy (ts : Tables) : (depth : Nat) → Data → Described Expr
  | 0, _ => tooDeep
  | n + 1, d => do
      if d.given "col" then return (← AnyColumn.ofData ts (d.field "col")).column.expression
      else if d.has "lit" then return .literal (← Value.ofData (d.field "lit"))
      else if d.has "param" then return .parameter (← Parameter.ofData d)
      else if d.given "method" then Expr.ofMethod ts n d
      else if d.given "chain" then Expr.ofChain ts n d
      else if d.given "unary" then
        let u := d.field "unary"
        let op ← Operator.ofData (u.field "op")
        let operand ← Operand.describedBy ts n (u.field "operand")
        return .unary op operand (u.field "postfix").isSet
          (← (u.field "type").unlessNull WireType.ofData)
      else if d.given "binary" then
        let b := d.field "binary"
        let left ← Operand.describedBy ts n (b.field "left")
        let op ← Operator.ofData (b.field "op")
        let right ← Operand.describedBy ts n (b.field "right")
        return .binary left op right (← (b.field "type").unlessNull WireType.ofData)
      else if d.given "ternary" then
        let t := d.field "ternary"
        let first ← Operand.describedBy ts n (t.field "first")
        let op ← Operator.ofData (t.field "op")
        let second ← Operand.describedBy ts n (t.field "second")
        let op2 ← Operator.ofData (t.field "op2")
        let third ← Operand.describedBy ts n (t.field "third")
        return .ternary first op second op2 third (← (t.field "type").unlessNull WireType.ofData)
      else if d.given "fn" then
        let f := d.field "fn"
        let args ← (f.field "args").items.mapM (Expr.describedBy ts n)
        return .function (← (f.field "name").toText) args (!(f.field "no_parens").isSet)
          (← (f.field "type").unlessNull WireType.ofData)
      else if d.given "case" then
        let c := d.field "case"
        let operand ← (c.field "operand").unlessNull (Expr.describedBy ts n)
        let branches ← (c.field "branches").items.mapM fun b => do
          let condition ← Expr.describedBy ts n (b.item 0)
          return (condition, ← Expr.describedBy ts n (b.item 1))
        let otherwise ← (c.field "else").unlessNull (Expr.describedBy ts n)
        built (Expr.choice operand branches otherwise)
      else if d.given "in" then
        let i := d.field "in"
        let operand ← Operand.describedBy ts n (i.field "operand")
        let values ← (i.field "values").unlessNull fun vs => vs.items.mapM (Expr.describedBy ts n)
        let query ← (i.field "query").unlessNull (Select.describedBy ts n)
        built (Expr.membership operand values query (i.field "negated").isSet)
      else if d.given "tuple" then
        built (Expr.tupleOf (← (d.field "tuple").items.mapM (Expr.describedBy ts n)))
      else if d.given "select" then return .select (← Select.describedBy ts n (d.field "select"))
      else if d.given "exists" then return .existsIn (← Select.describedBy ts n (d.field "exists"))
      else if d.given "not_exists" then
        return .notExistsIn (← Select.describedBy ts n (d.field "not_exists"))
      else if d.given "coalesce" then
        built (Expr.coalesce (← (d.field "coalesce").items.mapM (Expr.describedBy ts n)))
      else if d.given "count_all" then return .countAll
      else if d.given "wrap_not" then
        return Nat.repeat Expr.not (← (d.field "wrap_not").toNat)
          (← Expr.describedBy ts n (d.field "expr"))
      else bad "unknown expression"

def Operand.describedBy (ts : Tables) : (depth : Nat) → Data → Described Operand
  | 0, _ => tooDeep
  | n + 1, d =>
      match (d.field "paren").bool? with
      | some parens => (Expr.describedBy ts n (d.field "expr")).map fun e => ⟨e, parens⟩
      | none => (Expr.describedBy ts n d).map Operand.of

def Argument.describedBy (ts : Tables) (t : WireType) :
    (depth : Nat) → Data → Described (Argument (Native t))
  | 0, _ => tooDeep
  | n + 1, d => do
      if d.has "v" then return .value (← Native.ofData? t (d.field "v"))
      else return .expression (← Expr.describedBy ts n d)

def Expr.ofMethod (ts : Tables) : (depth : Nat) → Data → Described Expr
  | 0, _ => tooDeep
  | n + 1, d => do
      let ⟨t, c⟩ ← AnyColumn.ofData ts (d.field "on")
      let args := d.field "args"
      let method ← (d.field "method").toText
      match c.unaryOperations.lookup method, c.binaryOperations.lookup method with
      | some e, _ => return e
      | none, some apply => return apply (← Argument.describedBy ts t n (args.item 0))
      | none, none =>
          if method = "between" ∨ method = "not_between" then
            let low ← Argument.describedBy ts t n (args.item 0)
            let high ← Argument.describedBy ts t n (args.item 1)
            return if method = "between" then c.between low high else c.notBetween low high
          else if method = "in_list" ∨ method = "not_in_list" then
            let values ← args.items.mapM (Argument.describedBy ts t n)
            built (c.inList values (method = "not_in_list"))
          else if method = "in_query" ∨ method = "not_in_query" then
            built (c.inQuery (← Select.describedBy ts n (args.item 0)) (method = "not_in_query"))
          else if method = "param" then
            return c.parameter (← Native.ofData? t ((args.item 0).field "v"))
          else bad ("unknown method " ++ method)

def Expr.ofChain (ts : Tables) : (depth : Nat) → Data → Described Expr
  | 0, _ => tooDeep
  | n + 1, d => do
      let e ← Expr.describedBy ts n (d.field "on")
      let method ← (d.field "chain").toText
      match Expr.unaryOperations.lookup method, Expr.binaryOperations.lookup method with
      | some apply, _ => return apply e
      | none, some apply => return apply e (← Expr.describedBy ts n ((d.field "args").item 0))
      | none, none => bad ("unknown method " ++ method)

def SelectItem.describedBy (ts : Tables) : (depth : Nat) → Data → Described SelectItem
  | 0, _ => tooDeep
  | n + 1, d => do
      if d.given "item" then
        let c ← AnyColumn.ofData ts (d.field "item")
        return c.column.labelled (← (d.field "label").toText)
      else
        match (d.field "label").text? with
        | some label => return ⟨← Expr.describedBy ts n (d.field "expr"), some label⟩
        | none => return ⟨← Expr.describedBy ts n d, none⟩

def OrderBy.describedBy (ts : Tables) : (depth : Nat) → Data → Described OrderBy
  | 0, _ => tooDeep
  | n + 1, d => do
      let e ←
        if d.given "col" then pure (← AnyColumn.ofData ts (d.field "col")).column.expression
        else Expr.describedBy ts n (d.field "expr")
      return ⟨e, (d.field "desc").isSet⟩

def Source.describedBy (ts : Tables) : (depth : Nat) → Data → Described Source
  | 0, _ => tooDeep
  | n + 1, d => do
      if d.given "table" then return (← ts.find (d.field "table")).source
      else if d.given "derived" then
        return .derived (← Query.describedBy ts n (d.field "derived")) (← (d.field "alias").toText)
      else
        let join := d.field "join"
        let kind ← JoinKind.ofData (join.field "type")
        let left ← Source.describedBy ts n (join.field "left")
        let right ← Source.describedBy ts n (join.field "right")
        built (Source.joinOf kind left right
          (← (join.field "on").unlessNull (Expr.describedBy ts n)))

def Select.describedBy (ts : Tables) : (depth : Nat) → Data → Described Select
  | 0, _ => tooDeep
  | n + 1, d => do
      let items ← (d.field "columns").items.mapM (SelectItem.describedBy ts n)
      let source ← (d.field "from").unlessNull (Source.describedBy ts n)
      let start ←
        if source.isNone && !(d.field "emptied").isSet then built (Select.ofItems items)
        else pure { Select.ofSource source with items := items }
      let filters ← (d.field "filter").items.mapM (Expr.describedBy ts n)
      let groupBy ← (d.field "group_by").items.mapM (Expr.describedBy ts n)
      let having ← (d.field "having").unlessNull (Expr.describedBy ts n)
      let orderBy ← (d.field "order_by").items.mapM (OrderBy.describedBy ts n)
      let limit ← (d.field "limit").unlessNull Data.toNat
      let offset ← (d.field "offset").unlessNull Data.toNat
      let s : Select := { filters.foldl Select.addFilter start with
        distinct := (d.field "distinct").isSet, groupBy, having, orderBy, limit, offset }
      if (d.field "count_query").isSet then built s.countQuery else return s

def Query.describedBy (ts : Tables) : (depth : Nat) → Data → Described Query
  | 0, _ => tooDeep
  | n + 1, d => do
      if d.given "union" then
        let u := d.field "union"
        let left ← Query.describedBy ts n (u.field "left")
        let right ← Query.describedBy ts n (u.field "right")
        let made ← built (Union.of left right (u.field "all").isSet)
        let orderBy ← (u.field "order_by").items.mapM (OrderBy.describedBy ts n)
        let limit ← (u.field "limit").unlessNull Data.toNat
        let offset ← (u.field "offset").unlessNull Data.toNat
        return .union { made with
          parenthesized := (u.field "parenthesized").isSet, orderBy, limit, offset }
      else return .select (← Select.describedBy ts n (d.field "select"))

end

namespace Expr

/-- Every level of an expression takes a few steps of reading. -/
def ofData (ts : Tables) (d : Data) : Described Expr := describedBy ts (4 * d.depth) d

end Expr

namespace Select

def ofData (ts : Tables) (d : Data) : Described Select := describedBy ts (4 * d.depth) d

end Select

namespace Assignment

def ofData (ts : Tables) (d : Data) : Described Assignment := do
  if d.given "set" then
    let ⟨t, c⟩ ← AnyColumn.ofData ts (d.field "set")
    built (c.set (← Argument.describedBy ts t (4 * d.depth) (d.field "to")))
  else
    let c ← AnyColumn.ofData ts (d.field "col")
    built (Assignment.of c.column.ref (← Expr.ofData ts (d.field "expr")))

end Assignment

namespace Statement

private def insertOf (ts : Tables) (d : Data) : Described Insert := do
  let t ← ts.find (d.field "table")
  if d.given "assignments" then
    let assignments ← (d.field "assignments").items.mapM (Assignment.ofData ts)
    built (Insert.ofAssignments t.ref assignments)
  else
    let columns ← (d.field "columns").items.mapM fun c => do
      return (← AnyColumn.ofData ts c).column.ref
    let rows ← (d.field "rows").unlessNull fun rows =>
      rows.items.mapM fun row => row.items.mapM (Expr.ofData ts)
    let query ← (d.field "query").unlessNull (Select.ofData ts)
    built (Insert.of t.ref columns rows query)

private def updateOf (ts : Tables) (d : Data) : Described Update := do
  let t ← ts.find (d.field "table")
  let assignments ← (d.field "set").items.mapM (Assignment.ofData ts)
  let made ← built (Update.of t.ref assignments)
  return (← (d.field "filter").items.mapM (Expr.ofData ts)).foldl Update.addFilter made

private def deleteOf (ts : Tables) (d : Data) : Described Delete := do
  let t ← ts.find (d.field "table")
  return (← (d.field "filter").items.mapM (Expr.ofData ts)).foldl Delete.addFilter
    { table := t.ref }

def ofData (ts : Tables) (d : Data) : Described Statement := do
  match d.text? with
  | some sql => return ofText sql
  | none =>
      if d.given "insert" then return insert (← insertOf ts (d.field "insert"))
      else if d.given "update" then return update (← updateOf ts (d.field "update"))
      else if d.given "delete" then return delete (← deleteOf ts (d.field "delete"))
      else if d.given "raw" then
        let r := d.field "raw"
        return raw ⟨← (r.field "sql").toText, ← (r.field "params").items.mapM Parameter.ofData⟩
      else return ofQuery (← Query.describedBy ts (4 * d.depth) d)

end Statement

end TypedSql
