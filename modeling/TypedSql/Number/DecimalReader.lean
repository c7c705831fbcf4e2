import TypedSql.Number.Decimal

namespace TypedSql.Decimal

/-! Reading a decimal: an optional sign, digits with at most one point among them, and underscores
after the first digit.  Digits beyond the twenty-eighth place, or beyond ninety-six bits, are
rounded away, a half upwards.  Text in the form of mantissa and exponent is read when the plain
form fails. -/

structure Reading where
  mantissa : Nat := 0
  scale : Nat := 0
  point : Bool := false
  digit : Bool := false

namespace Reading

/-- Value of the first character that no longer fits, as it decides the rounding. -/
def droppedDigit? (point : Bool) (c : Char) : Option Nat :=
  if c = '_' then some 0
  else if c = '.' ∧ point then some 0
  else digitValue? c

/-- Ends the number at the first character that no longer fits.  What follows it is not read. -/
def round? (p : Reading) (c : Char) : Option (Nat × Nat) :=
  match droppedDigit? p.point c with
  | none => none
  | some d =>
      if d < 5 then some (p.mantissa, p.scale)
      else if p.mantissa + 1 < Nat.pow 2 96 then some (p.mantissa + 1, p.scale)
      else if p.scale = 0 then none
      else some ((p.mantissa + 5) / 10, p.scale - 1)

def read? (p : Reading) : List Char → Option (Nat × Nat)
  | [] => if p.digit then some (p.mantissa, p.scale) else none
  | c :: cs =>
      if p.point ∧ 28 ≤ p.scale then p.round? c
      else
        match digitValue? c with
        | some d =>
            let mantissa := 10 * p.mantissa + d
            if mantissa < Nat.pow 2 96 then
              read? { p with mantissa := mantissa, digit := true,
                             scale := if p.point then p.scale + 1 else 0 } cs
            else if p.point then p.round? c
            else none
        | none =>
            if c = '.' ∧ !p.point then read? { p with point := true } cs
            else if c = '_' ∧ p.digit then read? p cs
            else none

end Reading

def readPlain? (text : List Char) : Option Decimal :=
  let (negative, body) :=
    match text with
    | '-' :: rest => (true, rest)
    | '+' :: rest => (false, rest)
    | rest => (false, rest)
  match Reading.read? {} body with
  | some (mantissa, scale) => ofParts? (negative && mantissa ≠ 0) mantissa scale
  | none => none

def readExponent? (text : List Char) : Option Nat :=
  let digits :=
    match text with
    | '+' :: rest => rest
    | rest => rest
  if digits = [] then none
  else (Integer.readDigits (Nat.pow 2 32 - 1) .tooLarge 0 digits).toOption

def raise? (d : Decimal) (exponent : Nat) : Option Decimal :=
  if exponent ≤ d.scale then ofParts? d.negative d.mantissa (d.scale - exponent)
  else if 28 < exponent then none
  else ofParts? d.negative (d.mantissa * Nat.pow 10 (exponent - d.scale)) 0

def readScientific? (text : List Char) : Option Decimal := do
  let base := text.takeWhile fun c => c ≠ 'e' && c ≠ 'E'
  let rest := text.dropWhile fun c => c ≠ 'e' && c ≠ 'E'
  let d ← readPlain? base
  match rest with
  | [] => none
  | _ :: '-' :: exponent =>
      let n ← readExponent? exponent
      ofParts? d.negative d.mantissa (d.scale + n)
  | _ :: exponent =>
      let n ← readExponent? exponent
      d.raise? n

def read? (text : List Char) : Option Decimal :=
  (readPlain? text).orElse fun _ => readScientific? text

end TypedSql.Decimal
