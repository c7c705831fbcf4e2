import TypedSql.Number.Binary
import TypedSql.Number.Integer

namespace TypedSql

/-! Scaled decimal numbers: a sign, a whole number below `2 ^ 96`, and how many of its digits
stand after the point. -/

/-- `± mantissa / 10 ^ scale`. -/
structure Decimal where
  negative : Bool
  mantissa : Nat
  scale : Nat
  mantissa_lt : mantissa < Nat.pow 2 96
  scale_le : scale ≤ 28
deriving DecidableEq

namespace Decimal

def ofParts? (negative : Bool) (mantissa scale : Nat) : Option Decimal :=
  if h : mantissa < Nat.pow 2 96 ∧ scale ≤ 28 then some ⟨negative, mantissa, scale, h.1, h.2⟩
  else none

def zero : Decimal := ⟨false, 0, 0, by decide, by decide⟩

def signedMantissa (d : Decimal) : Int :=
  if d.negative then -(d.mantissa : Int) else d.mantissa

def sameNumber (a b : Decimal) : Bool :=
  a.signedMantissa * Int.pow 10 b.scale == b.signedMantissa * Int.pow 10 a.scale

def isWhole (d : Decimal) : Bool :=
  d.mantissa % Nat.pow 10 d.scale = 0

def whole (d : Decimal) : Int :=
  Int.tdiv d.signedMantissa (Int.pow 10 d.scale)

def ofInteger {kind : IntegerKind} (n : Integer kind) : Decimal where
  negative := n.val < 0
  mantissa := n.val.natAbs
  scale := 0
  mantissa_lt := by
    have hlow := n.least_le
    have hhigh := n.le_greatest
    have hbound : -(2 ^ 63 : Int) ≤ kind.least ∧ kind.greatest < (2 ^ 64 : Int) := by
      cases kind <;> decide
    show n.val.natAbs < 2 ^ 96
    omega
  scale_le := by decide

def write (d : Decimal) : List Char :=
  let digits := Nat.toDigits 10 d.mantissa
  let padded := List.replicate (d.scale + 1 - digits.length) '0' ++ digits
  let wholeDigits := padded.take (padded.length - d.scale)
  let fraction := padded.drop (padded.length - d.scale)
  (if d.negative then ['-'] else []) ++ wholeDigits ++
    (if d.scale = 0 then [] else '.' :: fraction)

/-- Powers of ten by repeated squaring, as the machine rounds them. -/
def powerOfTen : Nat → Nat → Float → Float → Float
  | 0, _, _, acc => acc
  | fuel + 1, n, base, acc =>
      let acc := if n % 2 = 1 then acc * base else acc
      if n / 2 = 0 then acc else powerOfTen fuel (n / 2) (base * base) acc

def natFloat (n : Nat) : Float :=
  Binary64.toFloat (Binary.ofInt .double n)

/-- The whole part and the fraction are rounded apart, added, and the sum is rounded to the
places that the decimal has. -/
def toBinary64 (d : Decimal) : Binary64 :=
  if d.scale = 0 then Binary.ofInt .double d.signedMantissa
  else
    let unit := Nat.pow 10 d.scale
    let integral := natFloat (d.mantissa / unit)
    let fraction := natFloat (d.mantissa % unit) / natFloat unit
    let result :=
      if fraction == 0 then integral
      else
        let power := powerOfTen 8 d.scale 10 1
        ((integral + fraction) * power).round / power
    Binary64.ofFloat (if d.negative then -result else result)

def toBinary32 (d : Decimal) : Binary32 :=
  d.toBinary64.convert .single

/-! From binary numbers: the power of two is turned into a power of ten while the mantissa keeps
at most 96 bits, then the digits a binary number cannot vouch for are dropped. -/

/-- `n / 10`, a half rounded away from zero. -/
def tenth (n : Nat) : Nat :=
  if 5 ≤ n % 10 then n / 10 + 1 else n / 10

structure Scaled where
  mantissa : Nat
  power : Int

namespace Scaled

/-- Trades `steps` factors of one half for factors of one tenth: an even mantissa is halved, an
odd one is multiplied by five, or halved with a loss when that would overflow. -/
def absorbHalves : Nat → Scaled → Scaled
  | 0, s => s
  | steps + 1, s =>
      if s.mantissa % 2 = 0 then absorbHalves steps ⟨s.mantissa / 2, s.power + 1⟩
      else if s.mantissa * 5 < Nat.pow 2 96 then absorbHalves steps ⟨s.mantissa * 5, s.power⟩
      else absorbHalves steps ⟨s.mantissa / 2, s.power + 1⟩

/-- Trades `steps` factors of two for factors of ten: a mantissa with room is doubled, a full one
is divided by five. -/
def absorbDoubles : Nat → Scaled → Scaled
  | 0, s => s
  | steps + 1, s =>
      if s.mantissa < Nat.pow 2 95 then absorbDoubles steps ⟨s.mantissa * 2, s.power - 1⟩
      else absorbDoubles steps ⟨s.mantissa / 5, s.power⟩

def raise? : Nat → Scaled → Option Scaled
  | 0, s => some s
  | steps + 1, s =>
      if s.mantissa * 10 < Nat.pow 2 96 then raise? steps ⟨s.mantissa * 10, s.power - 1⟩ else none

def lower : Nat → Scaled → Scaled
  | 0, s => s
  | steps + 1, s =>
      if s.mantissa / 10 = 0 then ⟨0, 0⟩ else lower steps ⟨tenth s.mantissa, s.power + 1⟩

def trimPrecision (limit : Nat) : Nat → Scaled → Scaled
  | 0, s => s
  | steps + 1, s =>
      if s.power < 0 ∧ limit ≤ s.mantissa then
        trimPrecision limit steps ⟨tenth s.mantissa, s.power + 1⟩
      else s

def trimZeros : Nat → Scaled → Scaled
  | 0, s => s
  | steps + 1, s =>
      if s.power < 0 ∧ s.mantissa % 10 = 0 then trimZeros steps ⟨s.mantissa / 10, s.power + 1⟩
      else s

end Scaled

/-- Mantissas from here on hold more digits than the binary format vouches for. -/
def precisionLimit (f : BinaryFormat) : Nat :=
  if f = .double then Nat.pow 2 52 else Nat.pow 2 24

def ofBinary? {f : BinaryFormat} (x : Binary f) : Option Decimal :=
  if !x.isFinite then none
  else if x.isZero then some { zero with negative := x.negative }
  else
    let start : Scaled := ⟨x.significand, x.power⟩
    let absorbed :=
      if x.power < 0 then start.absorbHalves (-x.power).toNat
      else start.absorbDoubles x.power.toNat
    match absorbed.raise? absorbed.power.toNat with
    | none => none
    | some raised =>
        let lowered := raised.lower (-28 - raised.power).toNat
        let trimmed := lowered.trimPrecision (precisionLimit f) 28
        let final := trimmed.trimZeros 28
        ofParts? x.negative final.mantissa (-final.power).toNat

end Decimal

end TypedSql
