import TypedSql.Codec.Basic

namespace TypedSql.Codec

variable {α : Type}

private def plain (type : WireType) (wrap : α → Content)
    (read : Content → Except ConversionFault α) : Codec α where
  id := .ofType type
  encode := fun a => .some (wrap a)
  decode := fun v =>
    match v with
    | .some c => (read c).mapError .conversion
    | _ => .error (.conversion (.unexpectedNull type))

def boolean : Codec Bool := plain .boolean .boolean Content.toBoolean

def integer (kind : IntegerKind) : Codec (Integer kind) :=
  plain (.integer kind) (.integer kind) (Content.toInteger kind)

def double : Codec Binary64 := plain .float64 .float64 Content.toBinary64

def text : Codec String := plain .varchar .varchar Content.toText

def timestamp : Codec Timestamp := plain .timestamp .timestamp Content.toTimestamp

end TypedSql.Codec
