import TypedSql.Calendar.Text
import TypedSql.Number.Shortest
import TypedSql.Text.Quoted
import TypedSql.Wire.Value

namespace TypedSql

open Text

/-! The forms of a value shown to a reader: the one logged beside a statement, and the debug form
quoted in messages. -/

namespace Content

def display : Content → String
  | boolean b => toString b
  | integer _ n => toString n.val
  | float32 x => String.ofList ((BinaryLayout.value .single).write x)
  | float64 x => String.ofList ((BinaryLayout.value .double).write x)
  | decimal d => String.ofList d.write
  | varchar s => "'" ++ s ++ "'"
  | blob bs => "X'" ++ String.ofList (upperHex bs) ++ "'"
  | date d => "'" ++ String.ofList d.write ++ "'"
  | time t => "'" ++ String.ofList t.write ++ "'"
  | timestamp t => "'" ++ String.ofList t.write ++ "'"
  | timestampWithTimezone t => "'" ++ String.ofList t.write ++ "'"
  | uuid u => "'" ++ String.ofList u.write ++ "'"

def debugInner : Content → String
  | boolean b => toString b
  | integer _ n => toString n.val
  | float32 x => String.ofList (BinaryLayout.debug.write x)
  | float64 x => String.ofList (BinaryLayout.debug.write x)
  | decimal d => String.ofList d.write
  | varchar s => quoted s
  | blob bs => "[" ++ String.intercalate ", " (bs.map fun b => toString b.toNat) ++ "]"
  | date d => String.ofList d.write
  | time t => String.ofList t.write
  | timestamp t => String.ofList t.write
  | timestampWithTimezone t => String.ofList t.write
  | uuid u => String.ofList u.write

end Content

namespace Value

def display : Value → String
  | null | nullOf _ => "NULL"
  | some c => c.display

def debug : Value → String
  | null => "Null"
  | nullOf t => t.tag ++ "(None)"
  | some c => c.type.tag ++ "(Some(" ++ c.debugInner ++ "))"

end Value

end TypedSql
