import TypedSql.Number.Binary

namespace TypedSql

/-! The shortest decimal that reads back as a given binary number, and the ways it is laid out. -/

/-- `digits * 10 ^ power`. -/
structure DecimalDigits where
  digits : Nat
  power : Int
deriving DecidableEq, Repr

namespace DecimalDigits

/-- Place of the point: the number is `0.d₁d₂…` times ten to this power. -/
def point (d : DecimalDigits) : Int :=
  (Nat.toDigits 10 d.digits).length + d.power

end DecimalDigits

inductive Tie where
  | toEven
  | up
deriving DecidableEq, Repr

/-- A value and the ends of the interval that rounds to it, over one denominator. -/
structure Neighbourhood where
  low : Nat
  value : Nat
  high : Nat
  den : Nat
  closed : Bool

namespace Neighbourhood

def contains (n : Neighbourhood) (t : Nat) : Bool :=
  if n.closed then n.low ≤ t * n.den && t * n.den ≤ n.high
  else n.low < t * n.den && t * n.den < n.high

def nearest? (n : Neighbourhood) (tie : Tie) : Option Nat :=
  let below := n.value / n.den
  let above := below + 1
  match 0 < below && n.contains below, n.contains above with
  | false, false => none
  | true, false => some below
  | false, true => some above
  | true, true =>
      let down := n.value - below * n.den
      let up := above * n.den - n.value
      if down < up then some below
      else if up < down then some above
      else
        match tie with
        | .up => some above
        | .toEven => some (if below % 2 = 0 then below else above)

end Neighbourhood

namespace Binary

variable {f : BinaryFormat}

/-- The number in units of `10 ^ e`.  Below a power of two the neighbour is half as far away. -/
def neighbourhood (x : Binary f) (e : Int) : Neighbourhood :=
  let q := x.power - 2
  let up := Nat.pow 2 q.toNat * Nat.pow 10 (-e).toNat
  let down := Nat.pow 2 (-q).toNat * Nat.pow 10 e.toNat
  let m := 4 * x.significand
  { low := (if x.fractionField = 0 ∧ 1 < x.exponentField then m - 1 else m - 2) * up
    value := m * up
    high := (m + 2) * up
    den := down
    closed := x.significand % 2 = 0 }

/-- Tries ever finer grids, and takes the first one with a point in the interval. -/
def searchGrid (x : Binary f) (tie : Tie) : Nat → Int → DecimalDigits
  | 0, e => ⟨(x.neighbourhood e).value / (x.neighbourhood e).den, e⟩
  | steps + 1, e =>
      match (x.neighbourhood e).nearest? tie with
      | some t => ⟨t, e⟩
      | none => searchGrid x tie steps (e - 1)

def topPower (x : Binary f) : Int :=
  ((x.significand.log2 : Int) + x.power + 1) * 30103 / 100000 + 1

/-- Shortest digits of a finite number other than zero.  Twenty grids below the first are more
than the seventeen digits that always suffice. -/
def shortest (x : Binary f) (tie : Tie) : DecimalDigits :=
  x.searchGrid tie 24 x.topPower

end Binary

structure BinaryLayout where
  positional : Option (Int × Int)
  wholePoint : Bool
  tie : Tie

namespace BinaryLayout

def value (f : BinaryFormat) : BinaryLayout :=
  ⟨some (if f = .single then (-5, 13) else (-4, 16)), true, .toEven⟩

def plain : BinaryLayout := ⟨none, false, .up⟩

def debug : BinaryLayout := ⟨some (-3, 16), true, .up⟩

def layPositional (layout : BinaryLayout) (ds : List Char) (d : DecimalDigits) : List Char :=
  let whole := if layout.wholePoint then ['.', '0'] else []
  if 0 ≤ d.power then ds ++ List.replicate d.power.toNat '0' ++ whole
  else if 0 < d.point then ds.take d.point.toNat ++ '.' :: ds.drop d.point.toNat
  else '0' :: '.' :: List.replicate (-d.point).toNat '0' ++ ds

def layScientific (ds : List Char) (d : DecimalDigits) : List Char :=
  let fraction := if ds.length ≤ 1 then [] else '.' :: ds.drop 1
  ds.take 1 ++ fraction ++ 'e' :: (toString (d.point - 1)).toList

def write {f : BinaryFormat} (layout : BinaryLayout) (x : Binary f) : List Char :=
  if x.isNaN then "NaN".toList
  else
    let sign := if x.negative then ['-'] else []
    if x.isInfinite then sign ++ "inf".toList
    else if x.isZero then sign ++ '0' :: (if layout.wholePoint then ['.', '0'] else [])
    else
      let d := x.shortest layout.tie
      let ds := Nat.toDigits 10 d.digits
      let plainly :=
        match layout.positional with
        | none => true
        | some (low, high) => low ≤ d.point && d.point ≤ high
      sign ++ if plainly then layout.layPositional ds d else layScientific ds d

end BinaryLayout

end TypedSql
