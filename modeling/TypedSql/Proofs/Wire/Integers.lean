import TypedSql.Proofs.Number.Numeral
import TypedSql.Wire.Conversion

namespace TypedSql

open Text

theorem Decimal.whole_eq_iff {d : Decimal} {n : Int} :
    d.isWhole ∧ d.whole = n ↔ d.signedMantissa = n * 10 ^ d.scale := by
  have hpositive : (10 ^ d.scale : Int) ≠ 0 := Int.pow_ne_zero (by decide)
  have hwhole : d.isWhole ↔ (10 ^ d.scale : Int) ∣ d.signedMantissa := by
    have hnat : (10 ^ d.scale : Int) = (10 ^ d.scale : Nat) := by simp
    have hsigned : d.signedMantissa.natAbs = d.mantissa := by
      unfold signedMantissa
      split <;> simp
    rw [hnat, Int.natCast_dvd, hsigned, Nat.dvd_iff_mod_eq_zero]
    exact decide_eq_true_iff
  have hquotient : d.whole = Int.tdiv d.signedMantissa (10 ^ d.scale) := rfl
  rw [hwhole, hquotient]
  constructor
  · rintro ⟨hdivides, rfl⟩
    exact (Int.tdiv_mul_cancel hdivides).symm
  · intro hvalue
    rw [hvalue]
    exact ⟨Int.dvd_mul_left _ _, Int.mul_tdiv_cancel _ hpositive⟩

namespace Content

/-- The whole number that a content stands for: a truth value counts as one or zero, a decimal
counts if it has no fraction, and text if it is a numeral between white space. -/
inductive Denotes (signed : Bool) : Content → Int → Prop
  | boolean (b : Bool) : Denotes signed (.boolean b) (if b then 1 else 0)
  | integer {kind : IntegerKind} (n : Integer kind) : Denotes signed (.integer kind n) n.val
  | decimal {d : Decimal} {n : Int} (hvalue : d.signedMantissa = n * 10 ^ d.scale) :
      Denotes signed (.decimal d) n
  | varchar {s : String} {front text back : List Char} {n : Int}
      (hbefore : ∀ c ∈ front, isBlank c) (hbehind : ∀ c ∈ back, isBlank c)
      (hshown : s.toList = front ++ text ++ back) (hnumeral : Numeral signed text n) :
      Denotes signed (.varchar s) n

variable {kind : IntegerKind}

theorem inRange_eq_ok_iff {c : Content} {z : Int} {n : Integer kind} :
    c.inRange kind z = .ok n ↔ n.val = z := by
  rw [← Integer.ofInt?_eq_some_iff, inRange]
  cases Integer.ofInt? kind z with
  | none => exact iff_of_false nofun nofun
  | some m => rw [Except.ok.injEq, Option.some.injEq]

theorem denotes_boolean_iff {signed : Bool} {b : Bool} {n : Int} :
    (boolean b).Denotes signed n ↔ n = if b then 1 else 0 :=
  ⟨fun | .boolean _ => rfl, fun hvalue => hvalue ▸ .boolean b⟩

theorem denotes_integer_iff {signed : Bool} {m : Integer kind} {n : Int} :
    (integer kind m).Denotes signed n ↔ n = m.val :=
  ⟨fun | .integer _ => rfl, fun hvalue => hvalue ▸ .integer m⟩

theorem denotes_decimal_iff {signed : Bool} {d : Decimal} {n : Int} :
    (decimal d).Denotes signed n ↔ d.signedMantissa = n * 10 ^ d.scale :=
  ⟨fun | .decimal hvalue => hvalue, .decimal⟩

theorem denotes_varchar_iff {signed : Bool} {s : String} {n : Int} :
    (varchar s).Denotes signed n ↔ Numeral signed (trim s).toList n := by
  constructor
  · intro hdenotes
    cases hdenotes with
    | varchar hbefore hbehind hshown hnumeral =>
        rwa [(toList_trim_eq_iff hnumeral.isVisible).mpr ⟨_, _, hbefore, hbehind, hshown⟩]
  · intro hnumeral
    obtain ⟨front, back, hbefore, hbehind, hshown⟩ :=
      (toList_trim_eq_iff hnumeral.isVisible).mp rfl
    exact .varchar hbefore hbehind hshown hnumeral

theorem toInteger_varchar_eq_ok_iff {s : String} {n : Integer kind} :
    (varchar s).toInteger kind = .ok n ↔ Numeral kind.signed (trim s).toList n.val := by
  have hwithin : Numeral kind.signed (trim s).toList n.val ↔
      Integer.read kind (trim s).toList = .ok n.val := by
    rw [Integer.read_eq_ok_iff]
    exact ⟨fun hnumeral => ⟨hnumeral, n.least_le, n.le_greatest⟩, And.left⟩
  rw [hwithin, toInteger]
  split
  next z hread =>
    have hread : Integer.read kind (trim s).toList = .ok z := hread
    rw [hread, inRange_eq_ok_iff, Except.ok.injEq, eq_comm]
  next fault hfailed =>
    have hfailed : Integer.read kind (trim s).toList = .error fault := hfailed
    rw [hfailed]
    exact iff_of_false nofun nofun

theorem toInteger_eq_ok_iff {c : Content} {n : Integer kind} :
    c.toInteger kind = .ok n ↔ c.Denotes kind.signed n.val := by
  cases c with
  | boolean b =>
      rw [toInteger, Except.ok.injEq, denotes_boolean_iff, ← Integer.val_inj, Integer.val_ofBool,
        eq_comm]
  | integer k m => rw [toInteger, inRange_eq_ok_iff, denotes_integer_iff]
  | decimal d =>
      rw [denotes_decimal_iff, ← Decimal.whole_eq_iff, toInteger]
      split
      next hwhole => rw [inRange_eq_ok_iff, eq_comm, and_iff_right hwhole]
      next hbroken => exact iff_of_false nofun fun hvalue => hbroken hvalue.1
  | varchar s => rw [toInteger_varchar_eq_ok_iff, denotes_varchar_iff]
  | _ => exact iff_of_false nofun nofun

end Content

namespace Native

def integer {kind : IntegerKind} (n : Integer kind) : Native (.integer kind) :=
  .of (.integer kind n)

theorem exists_integer {kind : IntegerKind} (native : Native (.integer kind)) :
    ∃ n, native = integer n := by
  obtain ⟨c, htype⟩ := native
  cases c with
  | integer k n =>
      cases htype
      exact ⟨n, rfl⟩
  | _ => cases htype

end Native

namespace Value

/-- No null stands for a number. -/
inductive Denotes (signed : Bool) : Value → Int → Prop
  | some {c : Content} {n : Int} (hcontent : c.Denotes signed n) : Denotes signed (.some c) n

theorem convert_integer_eq_ok_iff {kind : IntegerKind} {v : Value} {n : Integer kind} :
    v.convert (.integer kind) = .ok (.integer n) ↔ v.Denotes kind.signed n.val := by
  cases v with
  | null | nullOf => exact iff_of_false nofun nofun
  | some c =>
      have hcontent : (Value.some c).Denotes kind.signed n.val ↔ c.Denotes kind.signed n.val :=
        ⟨fun | .some hcontent => hcontent, .some⟩
      rw [hcontent, ← Content.toInteger_eq_ok_iff, convert, Content.convert]
      cases c.toInteger kind with
      | error fault => exact iff_of_false nofun nofun
      | ok m =>
          constructor
          · rintro ⟨⟩
            rfl
          · rintro ⟨⟩
            rfl

/-- A value is read as the number of the range that it stands for, and refused if there is none:
it stands for none at all, or for one that the range has no room for. -/
theorem convert_integer_iff (kind : IntegerKind) (v : Value) :
    (∀ n : Integer kind,
      v.convert (.integer kind) = .ok (.integer n) ↔ v.Denotes kind.signed n.val) ∧
    ((∃ fault, v.convert (.integer kind) = .error fault) ↔
      ¬∃ n, v.Denotes kind.signed n ∧ kind.least ≤ n ∧ n ≤ kind.greatest) := by
  refine ⟨fun n => convert_integer_eq_ok_iff, ?_⟩
  constructor
  · rintro ⟨fault, hrefused⟩ ⟨n, hdenotes, hleast, hgreatest⟩
    have hread : v.convert (.integer kind) = .ok (.integer ⟨n, hleast, hgreatest⟩) :=
      convert_integer_eq_ok_iff.mpr hdenotes
    rw [hrefused] at hread
    cases hread
  · intro hnone
    cases hread : v.convert (.integer kind) with
    | error fault => exact ⟨fault, rfl⟩
    | ok native =>
        obtain ⟨n, rfl⟩ := Native.exists_integer native
        exact absurd ⟨n.val, convert_integer_eq_ok_iff.mp hread, n.least_le, n.le_greatest⟩ hnone

end Value

end TypedSql
