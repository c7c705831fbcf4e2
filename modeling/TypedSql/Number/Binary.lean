namespace TypedSql

/-! Binary floating point numbers, kept as their bits.  A number that is neither infinite nor
undefined is `significand * 2 ^ power`, and rounding to the format is done on exact fractions. -/

structure BinaryFormat where
  fraction : Nat
  exponent : Nat
deriving DecidableEq, Repr

namespace BinaryFormat

def single : BinaryFormat := ⟨23, 8⟩

def double : BinaryFormat := ⟨52, 11⟩

def topField (f : BinaryFormat) : Nat := Nat.pow 2 f.exponent - 1

def bias (f : BinaryFormat) : Nat := Nat.pow 2 (f.exponent - 1) - 1

def leastPower (f : BinaryFormat) : Int := 1 - (f.bias : Int) - f.fraction

end BinaryFormat

structure Binary (f : BinaryFormat) where
  negative : Bool
  fields : Nat
deriving DecidableEq, Repr

abbrev Binary32 := Binary .single

abbrev Binary64 := Binary .double

namespace Binary

variable {f g : BinaryFormat}

def exponentField (x : Binary f) : Nat := x.fields / Nat.pow 2 f.fraction

def fractionField (x : Binary f) : Nat := x.fields % Nat.pow 2 f.fraction

def isNaN (x : Binary f) : Bool :=
  x.exponentField = f.topField && x.fractionField ≠ 0

def isInfinite (x : Binary f) : Bool :=
  x.exponentField = f.topField && x.fractionField = 0

def isFinite (x : Binary f) : Bool :=
  x.exponentField < f.topField

def isZero (x : Binary f) : Bool := x.fields = 0

def infinity (f : BinaryFormat) (negative : Bool) : Binary f :=
  ⟨negative, f.topField * Nat.pow 2 f.fraction⟩

def nan (f : BinaryFormat) : Binary f :=
  ⟨false, f.topField * Nat.pow 2 f.fraction + Nat.pow 2 (f.fraction - 1)⟩

def zero (f : BinaryFormat) : Binary f := ⟨false, 0⟩

def significand (x : Binary f) : Nat :=
  if x.exponentField = 0 then x.fractionField else Nat.pow 2 f.fraction + x.fractionField

def power (x : Binary f) : Int :=
  f.leastPower + ((x.exponentField - 1 : Nat) : Int)

/-- Equality of numbers: the zeros are one number and what is undefined equals nothing. -/
def sameNumber (x y : Binary f) : Bool :=
  !x.isNaN && !y.isNaN && (x == y || (x.isZero && y.isZero))

def negate (x : Binary f) : Binary f := { x with negative := !x.negative }

def roundHalfEven (num den : Nat) : Nat :=
  let q := num / den
  let r := num % den
  if 2 * r < den then q
  else if den < 2 * r then q + 1
  else if q % 2 = 0 then q else q + 1

/-- The fraction `num / den` times `2 ^ -p`, as a fraction. -/
def scaled (num den : Nat) (p : Int) : Nat × Nat :=
  if p < 0 then (num * Nat.pow 2 (-p).toNat, den) else (num, den * Nat.pow 2 p.toNat)

def normalPower (f : BinaryFormat) (num den : Nat) : Int :=
  let guess : Int := (num.log2 : Int) - den.log2 - f.fraction
  let (n, d) := scaled num den guess
  max f.leastPower (if n < d * Nat.pow 2 f.fraction then guess - 1 else guess)

/-- The number of the format nearest to `num / den`; beyond the greatest one, infinity. -/
def ofRatio (f : BinaryFormat) (negative : Bool) (num den : Nat) : Binary f :=
  if num = 0 then ⟨negative, 0⟩
  else
    let p := normalPower f num den
    let (n, d) := scaled num den p
    let m := roundHalfEven n d
    -- Carrying into the exponent field is what the sum does by itself.
    let fields :=
      if m < Nat.pow 2 f.fraction then m
      else ((p - f.leastPower).toNat + 1) * Nat.pow 2 f.fraction + (m - Nat.pow 2 f.fraction)
    if fields < f.topField * Nat.pow 2 f.fraction then ⟨negative, fields⟩ else infinity f negative

def ofInt (f : BinaryFormat) (n : Int) : Binary f :=
  ofRatio f (n < 0) n.natAbs 1

def convert (g : BinaryFormat) (x : Binary f) : Binary g :=
  if x.isNaN then { nan g with negative := x.negative }
  else if x.isInfinite then infinity g x.negative
  else
    let (n, d) := scaled x.significand 1 (-x.power)
    ofRatio g x.negative n d

end Binary

/-! Arithmetic is that of the machine, reached through the bits of a double. -/

namespace Binary64

def toFloat (x : Binary64) : Float :=
  Float.ofBits (UInt64.ofNat ((if x.negative then Nat.pow 2 63 else 0) + x.fields))

def ofFloat (x : Float) : Binary64 :=
  let bits := x.toBits.toNat
  ⟨Nat.pow 2 63 ≤ bits, bits % Nat.pow 2 63⟩

end Binary64

end TypedSql
