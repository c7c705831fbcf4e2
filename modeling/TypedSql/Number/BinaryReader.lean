import TypedSql.Number.Binary
import TypedSql.Number.Integer

namespace TypedSql.Binary

/-! Reading a binary number from decimal text: an optional sign, then `inf`, `infinity` or `nan`
in any case, or digits with at most one point among them and an optional exponent. -/

def takeDigits : Nat → Nat → List Char → Nat × Nat × List Char
  | n, count, [] => (n, count, [])
  | n, count, c :: cs =>
      match digitValue? c with
      | some d => takeDigits (10 * n + d) (count + 1) cs
      | none => (n, count, c :: cs)

def readExponent? : List Char → Option Int
  | [] => some 0
  | c :: cs =>
      if c = 'e' ∨ c = 'E' then
        let (negative, digits) :=
          match cs with
          | '+' :: rest => (false, rest)
          | '-' :: rest => (true, rest)
          | rest => (false, rest)
        match takeDigits 0 0 digits with
        | (_, 0, _) => none
        | (n, _, []) => some (if negative then -(n : Int) else n)
        | _ => none
      else none

/-- `m * 10 ^ e` in the format.  Far outside the range of every format the answer is known
without the power. -/
def ofDecimal (f : BinaryFormat) (negative : Bool) (m : Nat) (e : Int) : Binary f :=
  let size : Int := (Nat.toDigits 10 m).length + e
  if m = 0 ∨ size < -400 then ⟨negative, 0⟩
  else if 400 < size then infinity f negative
  else if 0 ≤ e then ofRatio f negative (m * Nat.pow 10 e.toNat) 1
  else ofRatio f negative m (Nat.pow 10 (-e).toNat)

def readUnsigned? (f : BinaryFormat) (negative : Bool) (text : List Char) : Option (Binary f) :=
  let (whole, wholeCount, rest) := takeDigits 0 0 text
  let (m, fractionCount, rest) :=
    match rest with
    | '.' :: digits => takeDigits whole 0 digits
    | _ => (whole, 0, rest)
  if wholeCount + fractionCount = 0 then none
  else (readExponent? rest).map fun e => ofDecimal f negative m (e - fractionCount)

def read (f : BinaryFormat) (text : List Char) : Except NumberFault (Binary f) :=
  if text = [] then .error .emptyFloat
  else
    let (negative, body) :=
      match text with
      | '-' :: rest => (true, rest)
      | '+' :: rest => (false, rest)
      | rest => (false, rest)
    let name := body.map Char.toLower
    if name = "inf".toList ∨ name = "infinity".toList then .ok (infinity f negative)
    else if name = "nan".toList then .ok { nan f with negative := negative }
    else
      match readUnsigned? f negative body with
      | some x => .ok x
      | none => .error .invalidFloat

end TypedSql.Binary
