import TypedSql.Writer.Scope

namespace TypedSql

namespace Parameter

def ofRowCount (n : Nat) : Parameter :=
  .ofType .int64 (.some (.integer .int64 ((Integer.ofInt? .int64 n).getD (.top .int64))))

end Parameter

def unlimitedRows : Nat := Nat.pow 2 64 - 1

namespace Dialect

def pagination (d : Dialect) (limit offset : Option Nat) : Rendering :=
  match d with
  | .generic => .fail (.failure (.unsupported d.name "pagination"))
  | .postgres =>
      let clause (keyword : String) (n : Option Nat) : List Piece :=
        match n with
        | some n => [.symbol " ", .word keyword, .symbol " ", .placeholder (.ofRowCount n)]
        | none => []
      .ofPieces (clause "limit" limit ++ clause "offset" offset)
  | .mysql =>
      let skipped : List Piece :=
        match offset with
        | some n => [.placeholder (.ofRowCount n), .symbol ", "]
        | none => []
      .ofPieces ([.symbol " ", .word "limit", .symbol " "] ++ skipped ++
        [.placeholder (.ofRowCount (limit.getD unlimitedRows))])
  | .sqlite =>
      let kept : Piece :=
        match limit with
        | some n => .placeholder (.ofRowCount n)
        | none => .symbol "-1"
      let skipped : List Piece :=
        match offset with
        | some n => [.symbol " ", .word "offset", .symbol " ", .placeholder (.ofRowCount n)]
        | none => []
      .ofPieces ([.symbol " ", .word "limit", .symbol " ", kept] ++ skipped)

def paginationIfAny (d : Dialect) (limit offset : Option Nat) : Rendering :=
  if limit.isSome || offset.isSome then d.pagination limit offset else .empty

end Dialect

end TypedSql
