namespace TypedSql

inductive IntegerKind where
  | int8 | int16 | int32 | int64
  | uint8 | uint16 | uint32 | uint64
deriving DecidableEq, Repr

namespace IntegerKind

def all : List IntegerKind :=
  [int8, int16, int32, int64, uint8, uint16, uint32, uint64]

def bits : IntegerKind → Nat
  | int8 | uint8 => 8
  | int16 | uint16 => 16
  | int32 | uint32 => 32
  | int64 | uint64 => 64

def signed : IntegerKind → Bool
  | int8 | int16 | int32 | int64 => true
  | uint8 | uint16 | uint32 | uint64 => false

def least (kind : IntegerKind) : Int :=
  if kind.signed then -(Nat.pow 2 (kind.bits - 1) : Nat) else 0

def greatest (kind : IntegerKind) : Int :=
  if kind.signed then (Nat.pow 2 (kind.bits - 1) : Nat) - 1 else (Nat.pow 2 kind.bits : Nat) - 1

end IntegerKind

structure Integer (kind : IntegerKind) where
  val : Int
  least_le : kind.least ≤ val
  le_greatest : val ≤ kind.greatest
deriving DecidableEq

namespace Integer

def ofInt? (kind : IntegerKind) (n : Int) : Option (Integer kind) :=
  if h : kind.least ≤ n ∧ n ≤ kind.greatest then some ⟨n, h.1, h.2⟩ else none

def zero (kind : IntegerKind) : Integer kind :=
  ⟨0, by cases kind <;> decide, by cases kind <;> decide⟩

def top (kind : IntegerKind) : Integer kind :=
  ⟨kind.greatest, by cases kind <;> decide, Int.le_refl _⟩

def clamp (kind : IntegerKind) (n : Int) : Integer kind where
  val := max kind.least (min kind.greatest n)
  least_le := by omega
  le_greatest := by
    have : kind.least ≤ kind.greatest := by cases kind <;> decide
    omega

def ofBool (kind : IntegerKind) (b : Bool) : Integer kind :=
  if b then ⟨1, by cases kind <;> decide, by cases kind <;> decide⟩ else zero kind

@[simp] theorem val_zero (kind : IntegerKind) : (zero kind).val = 0 := rfl

theorem val_ofBool (kind : IntegerKind) (b : Bool) :
    (ofBool kind b).val = if b then 1 else 0 := by
  cases b <;> rfl

theorem ofInt?_eq_some_iff {kind : IntegerKind} {n : Int} {i : Integer kind} :
    ofInt? kind n = some i ↔ i.val = n := by
  unfold ofInt?
  constructor
  · intro h
    split at h
    · cases h
      rfl
    · cases h
  · intro h
    subst h
    simp [i.least_le, i.le_greatest]

end Integer

inductive NumberFault where
  | emptyInteger
  | invalidDigit
  | tooLarge
  | tooSmall
  | emptyFloat
  | invalidFloat
deriving DecidableEq, Repr

namespace NumberFault

def message : NumberFault → String
  | emptyInteger => "cannot parse integer from empty string"
  | invalidDigit => "invalid digit found in string"
  | tooLarge => "number too large to fit in target type"
  | tooSmall => "number too small to fit in target type"
  | emptyFloat => "cannot parse float from empty string"
  | invalidFloat => "invalid float literal"

end NumberFault

def digitValue? (c : Char) : Option Nat :=
  if 48 ≤ c.toNat ∧ c.toNat ≤ 57 then some (c.toNat - 48) else none

namespace Integer

/-- Digits are taken one at a time; the first character that is no digit, or the first digit
that leaves the range, decides how the reading fails. -/
def readDigits (limit : Nat) (beyond : NumberFault) : Nat → List Char → Except NumberFault Nat
  | n, [] => .ok n
  | n, c :: cs =>
      match digitValue? c with
      | none => .error .invalidDigit
      | some d =>
          if 10 * n + d ≤ limit then readDigits limit beyond (10 * n + d) cs else .error beyond

def splitSign (kind : IntegerKind) : List Char → Bool × List Char
  | '+' :: cs => (false, cs)
  | '-' :: cs => if kind.signed then (true, cs) else (false, '-' :: cs)
  | cs => (false, cs)

def read (kind : IntegerKind) (text : List Char) : Except NumberFault Int :=
  if text = [] then .error .emptyInteger
  else
    match splitSign kind text with
    | (_, []) => .error .invalidDigit
    | (true, digits) =>
        (readDigits (-kind.least).toNat .tooSmall 0 digits).map fun n => -(n : Int)
    | (false, digits) =>
        (readDigits kind.greatest.toNat .tooLarge 0 digits).map fun n => (n : Int)

end Integer

end TypedSql
