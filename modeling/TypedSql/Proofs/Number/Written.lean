import TypedSql.Number.Decimal
import TypedSql.Number.Shortest

namespace TypedSql

def isNumeral (c : Char) : Bool :=
  c.isAlphanum || c == '-' || c == '.'

def IsNumeric (text : List Char) : Prop :=
  text.all isNumeral = true

namespace IsNumeric

variable {a b : List Char}

instance (text : List Char) : Decidable (IsNumeric text) :=
  inferInstanceAs (Decidable (text.all isNumeral = true))

theorem of_forall (h : ∀ c ∈ a, isNumeral c) : IsNumeric a :=
  List.all_eq_true.mpr h

theorem isNumeral_of_mem (h : IsNumeric a) {c : Char} (hc : c ∈ a) : isNumeral c :=
  List.all_eq_true.mp h c hc

theorem append (ha : IsNumeric a) (hb : IsNumeric b) : IsNumeric (a ++ b) := by
  rw [IsNumeric, List.all_append, ha, hb]
  rfl

theorem cons {c : Char} (ha : IsNumeric a) (hc : IsNumeric [c]) : IsNumeric (c :: a) :=
  hc.append ha

theorem take (ha : IsNumeric a) (n : Nat) : IsNumeric (a.take n) :=
  of_forall fun _ hc => ha.isNumeral_of_mem (List.mem_of_mem_take hc)

theorem drop (ha : IsNumeric a) (n : Nat) : IsNumeric (a.drop n) :=
  of_forall fun _ hc => ha.isNumeral_of_mem (List.mem_of_mem_drop hc)

theorem ite {p : Prop} [Decidable p] (ha : IsNumeric a) (hb : IsNumeric b) :
    IsNumeric (if p then a else b) := by
  split
  · exact ha
  · exact hb

theorem zeros (n : Nat) : IsNumeric (List.replicate n '0') := by
  apply of_forall
  intro c hc
  rw [List.eq_of_mem_replicate hc]
  rfl

theorem toDigits (n : Nat) : IsNumeric (Nat.toDigits 10 n) := by
  apply of_forall
  intro c hc
  have hdigit : c.isDigit := Nat.isDigit_of_mem_toDigits (by decide) (by decide) hc
  simp [isNumeral, Char.isAlphanum, hdigit]

theorem toString_int (n : Int) : IsNumeric (toString n).toList := by
  rw [Int.toString_eq_repr]
  cases n with
  | ofNat m => simpa [Int.repr, Nat.repr] using toDigits m
  | negSucc m =>
      have hminus : IsNumeric ('-' :: Nat.toDigits 10 (m + 1)) := (toDigits _).cons (by decide)
      simpa [Int.repr, Nat.repr] using hminus

end IsNumeric

namespace BinaryLayout

variable {ds : List Char} {d : DecimalDigits}

theorem isNumeric_layPositional (layout : BinaryLayout) (hds : IsNumeric ds) :
    IsNumeric (layout.layPositional ds d) := by
  have hwhole : IsNumeric (if layout.wholePoint then ['.', '0'] else []) :=
    .ite (by decide) (by decide)
  have hfraction : IsNumeric ('0' :: '.' :: List.replicate (-d.point).toNat '0') :=
    ((IsNumeric.zeros _).cons (by decide)).cons (by decide)
  exact .ite ((hds.append (.zeros _)).append hwhole)
    (.ite ((hds.take _).append ((hds.drop _).cons (by decide))) (hfraction.append hds))

theorem isNumeric_layScientific (hds : IsNumeric ds) : IsNumeric (layScientific ds d) := by
  have hfraction : IsNumeric (if ds.length ≤ 1 then [] else '.' :: ds.drop 1) :=
    .ite (by decide) ((hds.drop _).cons (by decide))
  exact ((hds.take _).append hfraction).append ((IsNumeric.toString_int _).cons (by decide))

theorem isNumeric_write {f : BinaryFormat} (layout : BinaryLayout) (x : Binary f) :
    IsNumeric (layout.write x) := by
  have hsign : IsNumeric (if x.negative then ['-'] else []) := .ite (by decide) (by decide)
  have hzero : IsNumeric ('0' :: if layout.wholePoint then ['.', '0'] else []) :=
    (IsNumeric.ite (by decide) (by decide)).cons (by decide)
  have hdigits : IsNumeric (Nat.toDigits 10 (x.shortest layout.tie).digits) := .toDigits _
  exact .ite (by decide) (.ite (hsign.append (by decide)) (.ite (hsign.append hzero)
    (hsign.append (.ite (isNumeric_layPositional layout hdigits)
      (isNumeric_layScientific hdigits)))))

end BinaryLayout

theorem Decimal.isNumeric_write (d : Decimal) : IsNumeric d.write := by
  have hsign : IsNumeric (if d.negative then ['-'] else []) := .ite (by decide) (by decide)
  have hdigits :
      IsNumeric (List.replicate (d.scale + 1 - (Nat.toDigits 10 d.mantissa).length) '0' ++
        Nat.toDigits 10 d.mantissa) := (IsNumeric.zeros _).append (.toDigits _)
  exact (hsign.append (hdigits.take _)).append
    (.ite (by decide) ((hdigits.drop _).cons (by decide)))

end TypedSql
