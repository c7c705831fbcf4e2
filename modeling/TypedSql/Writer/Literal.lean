import TypedSql.Writer.Scope

namespace TypedSql

namespace Binary

variable {f : BinaryFormat}

/-- A floating point number.  What is not finite is cast from its name, except that SQLite reads
an infinity from a number that is too large. -/
def literalPieces (x : Binary f) (d : Dialect) : List Piece :=
  let cast (name : String) : List Piece :=
    [.word "cast", .symbol "(", .quoted name, .symbol " ", .word "as double precision", .symbol ")"]
  if x.isInfinite then
    match d with
    | .sqlite => [.symbol (if x.negative then "-1.0e+10000" else "1.0e+10000")]
    | _ => cast (if x.negative then "-Infinity" else "Infinity")
  else if x.isNaN then cast "NaN"
  else [.symbol (String.ofList ((BinaryLayout.value f).write x))]

end Binary

namespace Content

def literal (c : Content) (d : Dialect) : Rendering :=
  match c with
  | boolean b => .word (if b then "true" else "false")
  | integer _ n => .symbol (toString n.val)
  | float32 x => .ofPieces (x.literalPieces d)
  | float64 x => .ofPieces (x.literalPieces d)
  | decimal x => .symbol (String.ofList x.write)
  | varchar s => .ofPieces [.quoted s]
  | blob bytes => .ofPieces [.symbol "X", .quoted (String.ofList (Text.upperHex bytes))]
  | date x => .ofPieces [.quoted (String.ofList x.writeLiteral)]
  | time x => .ofPieces [.quoted (String.ofList x.writeLiteral)]
  | timestamp x => .ofPieces [.quoted (String.ofList x.writeLiteral)]
  | timestampWithTimezone x =>
      match x.toUtc? with
      | some utc => .ofPieces [.quoted (String.ofList utc.writeLiteral)]
      | none => .fail (.panic ConversionFault.leavesCalendar.message)
  | uuid u => .ofPieces [.quoted (String.ofList u.write)]

end Content

namespace Value

def literal (v : Value) (d : Dialect) : Rendering :=
  match v with
  | null | nullOf _ => .word "null"
  | some c => c.literal d

end Value

end TypedSql
