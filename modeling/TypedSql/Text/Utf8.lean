namespace TypedSql.Text

/-- Where bytes stop being text: at `index`, after `length` bytes of a broken character, or
because the bytes end inside one. -/
structure Utf8Fault where
  index : Nat
  length : Option Nat
deriving DecidableEq, Repr

namespace Utf8Fault

def message (fault : Utf8Fault) : String :=
  match fault.length with
  | some n => s!"invalid utf-8 sequence of {n} bytes from index {fault.index}"
  | none => s!"incomplete utf-8 byte sequence from index {fault.index}"

end Utf8Fault

private def between (low high : Nat) (b : UInt8) : Bool :=
  low ≤ b.toNat && b.toNat ≤ high

/-- Range of the second byte, by the first one: it excludes overlong forms, surrogates and code
points that are too large. -/
private def secondRange (first : UInt8) : Nat × Nat :=
  let n := first.toNat
  if n = 0xE0 then (0xA0, 0xBF)
  else if n = 0xED then (0x80, 0x9F)
  else if n = 0xF0 then (0x90, 0xBF)
  else if n = 0xF4 then (0x80, 0x8F)
  else (0x80, 0xBF)

private def followers? (first : UInt8) : Option Nat :=
  let n := first.toNat
  if n < 0x80 then some 0
  else if 0xC2 ≤ n ∧ n ≤ 0xDF then some 1
  else if 0xE0 ≤ n ∧ n ≤ 0xEF then some 2
  else if 0xF0 ≤ n ∧ n ≤ 0xF4 then some 3
  else none

/-- Bytes still expected, the range of the next one, how many bytes of the character have been
read, and where it began. -/
private def faultFrom (start seen : Nat) : Nat → Nat × Nat → List UInt8 → Option Utf8Fault
  | 0, _, [] => none
  | _ + 1, _, [] => some ⟨start, none⟩
  | 0, _, b :: bs =>
      match followers? b with
      | none => some ⟨start + seen, some 1⟩
      | some n => faultFrom (start + seen) 1 n (secondRange b) bs
  | n + 1, (low, high), b :: bs =>
      if between low high b then faultFrom start (seen + 1) n (0x80, 0xBF) bs
      else some ⟨start, some seen⟩

def utf8Fault? (bytes : List UInt8) : Option Utf8Fault :=
  faultFrom 0 0 0 (0, 0) bytes

def utf8Bytes (text : String) : List UInt8 :=
  text.toUTF8.data.toList

def ofUtf8? (bytes : List UInt8) : Option String :=
  String.fromUTF8? ⟨bytes.toArray⟩

end TypedSql.Text
