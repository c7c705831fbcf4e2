import TypedSql.Calendar.Rfc3339
import TypedSql.Error
import TypedSql.Text.Hex

namespace TypedSql.Sqlite

/-! What SQLite stores: five classes of values.  What has no class of its own travels as text. -/

inductive Storage where
  | null
  | integer (value : Integer .int64)
  | real (value : Binary64)
  | text (value : String)
  | blob (value : List UInt8)
deriving DecidableEq

namespace Storage

def kept : Storage → Storage
  | real x => if x.isNaN then null else real x
  | s => s

def toValue : Storage → Value
  | null => .null
  | integer n => .some (.integer .int64 n)
  | real x => .some (.float64 x)
  | text s => .some (.varchar s)
  | blob bytes => .some (.blob bytes)

end Storage

/-- The stored form of a value that is there; numbers must fit into 64 bits, and timestamps with a
zone must have an internet form. -/
def storeContent (c : Content) : Except Error Storage :=
  match c with
  | .boolean b => .ok (.integer (.ofBool .int64 b))
  | .integer _ n =>
      match Integer.ofInt? .int64 n.val with
      | some fitting => .ok (.integer fitting)
      | none => .error (.plain s!"{n.val} does not fit in a sqlite INTEGER")
  | .float32 x => .ok (.real (x.convert .double))
  | .float64 x => .ok (.real x)
  | .decimal x => .ok (.text (String.ofList x.write))
  | .varchar s => .ok (.text s)
  | .blob bytes => .ok (.blob bytes)
  | .date x => .ok (.text (String.ofList x.write))
  | .time x => .ok (.text (String.ofList x.writeLiteral))
  | .timestamp x =>
      .ok (.text (String.ofList (x.date.write ++ ' ' :: x.time.writeLiteral)))
  | .timestampWithTimezone x =>
      match x.writeRfc3339 with
      | .ok text => .ok (.text (String.ofList text))
      | .error part => .error (.plain part.message)
  | .uuid u => .ok (.text (String.ofList u.write))

def store : Value → Except Error Storage
  | .null | .nullOf _ => .ok .null
  | .some c => storeContent c

end TypedSql.Sqlite
