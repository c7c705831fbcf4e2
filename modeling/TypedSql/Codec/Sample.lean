import TypedSql.Codec.Plain

namespace TypedSql.Codec

def celsius : Codec Binary64 :=
  double.derive "Celsius"
    (fun f => Binary64.ofFloat ((f.toFloat - 32) / 1.8))
    (fun c => Binary64.ofFloat (c.toFloat * 1.8 + 32))

def shout : Codec String :=
  text.derive "Shout" Text.asciiUppercase Text.asciiLowercase

private def readCents (v : Value) : Except Error (Integer .int64) :=
  match v with
  | .some (.varchar s) =>
      let digits := (s.toList.reverse.dropWhile (· == 'c')).reverse
      match Integer.read .int64 digits with
      | .error fault => .error (.plain ("bad cents: " ++ fault.message))
      | .ok n =>
          match Integer.ofInt? .int64 n with
          | some i => .ok i
          | none => .error (.plain ("bad cents: " ++ NumberFault.tooLarge.message))
  | v => .error (.plain ("not cents: " ++ v.display))

/-- Amounts of money, stored as digits followed by a `c`. -/
def cents : Codec (Integer .int64) :=
  let stored : Codec (Integer .int64) :=
    { id := ⟨.varchar, .wire .int64⟩
      encode := fun n => .some (.varchar (toString n.val ++ "c"))
      decode := readCents }
  stored.derive "Cents" (fun n => n) (fun n => n)

end TypedSql.Codec
