import TypedSql.Number.Integer

namespace TypedSql.Text

def padded (width n : Nat) : List Char :=
  let digits := Nat.toDigits 10 n
  List.replicate (width - digits.length) '0' ++ digits

/-- Digits of a signed number filled up with zeros, the sign counting towards the width. -/
def paddedSigned (width : Nat) (n : Int) : List Char :=
  if n < 0 then '-' :: padded (width - 1) n.natAbs else padded width n.natAbs

/-- A fraction given in units of `10 ^ -9`, without the zeros at its end but with one digit at
least. -/
def fractionDigits (nanos : Nat) : List Char :=
  match ((padded 9 nanos).reverse.dropWhile (· == '0')).reverse with
  | [] => ['0']
  | digits => digits

/-- Places and units of a fraction without the zeros at its end; one place is left at least. -/
def shorten : Nat → Nat → Nat × Nat
  | places + 2, n =>
      if n % 10 = 0 then shorten (places + 1) (n / 10) else (places + 2, n)
  | places, n => (places, n)

/-- A fraction given in units of `10 ^ -places`, in the field of the places it needs. -/
def shortened (places n : Nat) : List Char :=
  padded (shorten places n).1 (shorten places n).2

def takeExactly? : Nat → Nat → List Char → Option (Nat × List Char)
  | 0, n, cs => some (n, cs)
  | _ + 1, _, [] => none
  | count + 1, n, c :: cs =>
      match digitValue? c with
      | some d => takeExactly? count (10 * n + d) cs
      | none => none

/-- Digits of a fraction in units of `10 ^ -9`; those past the ninth are passed over. -/
def takeFraction : Nat → Nat → List Char → Nat × List Char
  | _, n, [] => (n, [])
  | unit, n, c :: cs =>
      match digitValue? c with
      | some d => takeFraction (unit / 10) (n + d * unit) cs
      | none => (n, c :: cs)

def takeFraction? (cs : List Char) : Option (Nat × List Char) :=
  match cs with
  | [] => none
  | c :: _ => if (digitValue? c).isSome then some (takeFraction 100000000 0 cs) else none

def expect? (expected : Char) : List Char → Option (List Char)
  | [] => none
  | c :: cs => if c = expected then some cs else none

end TypedSql.Text
