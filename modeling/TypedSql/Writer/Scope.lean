import TypedSql.Writer.Piece

namespace TypedSql

/-! Where in a statement something is written.  The clause decides whether tables declare their
alias and whether columns carry a qualifier. -/

inductive Fragment where
  | none
  | deleteFrom
  | deleteFromWhere
  | insertInto
  | insertIntoValues
  | join
  | select
  | selectFrom
  | selectGroupBy
  | selectHaving
  | selectOrderBy
  | selectWhere
  | unionOrderBy
  | update
  | updateSet
  | updateWhere
deriving DecidableEq, Repr

/-- The clause, and whether columns are qualified with their table even without an alias. -/
structure Scope where
  fragment : Fragment := .none
  qualify : Bool := false
deriving DecidableEq, Repr

namespace Scope

def enter (s : Scope) (fragment : Fragment) : Scope := { s with fragment }

def allowsQualifiedColumns (s : Scope) : Bool :=
  match s.fragment with
  | .insertInto | .insertIntoValues | .update | .updateSet | .updateWhere | .deleteFrom
  | .deleteFromWhere | .unionOrderBy => false
  | _ => true

def declaresAlias (s : Scope) : Bool :=
  match s.fragment with
  | .selectFrom | .join => true
  | _ => false

end Scope

structure Context extends Scope where
  parameters : List Parameter := []
deriving DecidableEq

namespace Context

def ofScope (s : Scope) : Context := { s with }

def count (c : Context) : Nat := c.parameters.length

def enter (c : Context) (fragment : Fragment) : Context := { c with fragment }

def leave (outer inner : Context) : Context := { outer with parameters := inner.parameters }

def after (c : Context) (pieces : List Piece) : Context :=
  { c with parameters := c.parameters ++ Piece.parameters pieces }

end Context

namespace TableRef

def pieces (t : TableRef) (s : Scope) : List Piece :=
  let schema :=
    match t.schema with
    | some schema => [.name schema, .symbol "."]
    | none => []
  let aliasPieces :=
    match t.aliasName with
    | some aliasName => if s.declaresAlias then [.symbol " ", .name aliasName] else []
    | none => []
  schema ++ [.name t.name] ++ aliasPieces

end TableRef

namespace ColumnRef

/-- What stands before the column's name: the alias of its table if there is one, else the table
when the scope asks for it. -/
def qualifierPieces (c : ColumnRef) (s : Scope) : List Piece :=
  if s.allowsQualifiedColumns then
    match c.table.aliasName with
    | some aliasName => [.name aliasName, .symbol "."]
    | none =>
        if s.qualify then
          let schema :=
            match c.table.schema with
            | some schema => [.name schema, .symbol "."]
            | none => []
          schema ++ [.name c.table.name, .symbol "."]
        else []
  else []

def pieces (c : ColumnRef) (s : Scope) : List Piece :=
  c.qualifierPieces s ++ [.name c.name]

end ColumnRef

end TypedSql
