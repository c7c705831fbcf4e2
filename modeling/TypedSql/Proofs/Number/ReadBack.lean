import TypedSql.Number.DecimalReader
import TypedSql.Proofs.Text.Trim

namespace TypedSql

open Text

/-! A decimal is read back from the text it was written as, except that zero has no sign. -/

namespace Decimal

variable {ds rest : List Char}

namespace Reading

/-- The reading after some digits more. -/
def after (p : Reading) (ds : List Char) : Reading where
  mantissa := Nat.ofDigitChars 10 ds p.mantissa
  scale := if p.point then p.scale + ds.length else p.scale
  point := p.point
  digit := p.digit || !ds.isEmpty

theorem read?_digits (p : Reading) (hdigits : ∀ c ∈ ds, c.isDigit)
    (hfits : Nat.ofDigitChars 10 ds p.mantissa < 2 ^ 96)
    (hplaces : p.point = true → p.scale + ds.length ≤ 28) (hwhole : p.point = false → p.scale = 0)
    (rest : List Char) :
    p.read? (ds ++ rest) = (p.after ds).read? rest := by
  induction ds generalizing p with
  | nil =>
      have hsame : p.after [] = p := by
        cases p
        simp [after]
      rw [hsame, List.nil_append]
  | cons c ds ih =>
      have hhead := digitValue?_of_isDigit (hdigits c List.mem_cons_self)
      rw [Nat.ofDigitChars_cons] at hfits
      have hroom : 10 * p.mantissa + (c.toNat - '0'.toNat) < Nat.pow 2 96 :=
        Nat.lt_of_le_of_lt (le_ofDigitChars ds _) hfits
      have hwithin : ¬(p.point = true ∧ 28 ≤ p.scale) := by
        rintro ⟨hpoint, hfull⟩
        have hleft := hplaces hpoint
        simp only [List.length_cons] at hleft
        omega
      rw [List.cons_append, read?, if_neg hwithin, hhead]
      simp only [hroom, if_true]
      rw [ih _ (fun d hd => hdigits d (List.mem_cons_of_mem c hd)) hfits]
      · congr 1
        cases hpoint : p.point with
        | false => simp [after, hpoint, hwhole hpoint, Nat.ofDigitChars_cons]
        | true =>
            have hcounted : p.scale + 1 + ds.length = p.scale + (ds.length + 1) := by omega
            simp [after, hpoint, Nat.ofDigitChars_cons, hcounted]
      · intro hpoint
        have hleft := hplaces hpoint
        have hpoint : p.point = true := hpoint
        simp only [List.length_cons] at hleft
        simp only [hpoint, if_true]
        omega
      · intro hpoint
        have hpoint : p.point = false := hpoint
        simp [hpoint]

end Reading

def wholeDigits (d : Decimal) : List Char :=
  let digits := padded (d.scale + 1) d.mantissa
  digits.take (digits.length - d.scale)

def fractionDigits (d : Decimal) : List Char :=
  let digits := padded (d.scale + 1) d.mantissa
  digits.drop (digits.length - d.scale)

theorem write_eq (d : Decimal) :
    d.write = (if d.negative then ['-'] else []) ++ d.wholeDigits ++
      (if d.scale = 0 then [] else '.' :: d.fractionDigits) :=
  rfl

theorem scale_lt_length_padded (d : Decimal) :
    d.scale < (padded (d.scale + 1) d.mantissa).length := by
  simp only [padded, List.length_append, List.length_replicate]
  omega

theorem length_fractionDigits (d : Decimal) : d.fractionDigits.length = d.scale := by
  have hlong := d.scale_lt_length_padded
  simp only [fractionDigits, List.length_drop]
  omega

theorem wholeDigits_ne_nil (d : Decimal) : d.wholeDigits ≠ [] := by
  have hlong := d.scale_lt_length_padded
  apply List.ne_nil_of_length_pos
  simp only [wholeDigits, List.length_take]
  omega

theorem isDigit_of_mem_wholeDigits (d : Decimal) : ∀ c ∈ d.wholeDigits, c.isDigit :=
  fun _ hc => isDigit_of_mem_padded (List.mem_of_mem_take hc)

theorem isDigit_of_mem_fractionDigits (d : Decimal) : ∀ c ∈ d.fractionDigits, c.isDigit :=
  fun _ hc => isDigit_of_mem_padded (List.mem_of_mem_drop hc)

theorem ofDigitChars_digits (d : Decimal) :
    Nat.ofDigitChars 10 d.fractionDigits (Nat.ofDigitChars 10 d.wholeDigits 0) = d.mantissa := by
  rw [← Nat.ofDigitChars_append, wholeDigits, fractionDigits, List.take_append_drop,
    ofDigitChars_padded]

theorem read?_digits (d : Decimal) :
    Reading.read? {} (d.wholeDigits ++ (if d.scale = 0 then [] else '.' :: d.fractionDigits)) =
      some (d.mantissa, d.scale) := by
  have hvalue := d.ofDigitChars_digits
  have hfits : Nat.ofDigitChars 10 d.fractionDigits (Nat.ofDigitChars 10 d.wholeDigits 0) <
      2 ^ 96 := hvalue ▸ d.mantissa_lt
  have hsmall : Nat.ofDigitChars 10 d.wholeDigits 0 < 2 ^ 96 :=
    Nat.lt_of_le_of_lt (le_ofDigitChars _ _) hfits
  rw [Reading.read?_digits {} d.isDigit_of_mem_wholeDigits hsmall (fun hpoint => nomatch hpoint)
    (fun _ => rfl)]
  have hsome : d.wholeDigits.isEmpty = false := by simpa using d.wholeDigits_ne_nil
  split
  next hintegral =>
    have hnone : d.fractionDigits = [] :=
      List.eq_nil_of_length_eq_zero (d.length_fractionDigits.trans hintegral)
    rw [hnone, Nat.ofDigitChars_nil] at hvalue
    simp [Reading.after, Reading.read?, hsome, hvalue, hintegral]
  next =>
    let pointed : Reading := { Reading.after {} d.wholeDigits with point := true }
    have hpoint : Reading.read? (Reading.after {} d.wholeDigits) ('.' :: d.fractionDigits) =
        pointed.read? d.fractionDigits := by
      simp [pointed, Reading.after, Reading.read?, digitValue?_of_not_isDigit]
    have hplaces : pointed.scale + d.fractionDigits.length = d.scale := by
      rw [d.length_fractionDigits]
      exact Nat.zero_add _
    have hended := Reading.read?_digits pointed d.isDigit_of_mem_fractionDigits hfits
      (fun _ => hplaces ▸ d.scale_le) (fun hpoint => nomatch hpoint) []
    rw [List.append_nil] at hended
    rw [hpoint, hended]
    simp [Reading.read?, Reading.after, pointed, hsome, hvalue, d.length_fractionDigits]

/-- The number as a reader keeps it: zero has no sign. -/
def withoutZeroSign (d : Decimal) : Decimal :=
  { d with negative := d.negative && d.mantissa ≠ 0 }

theorem sameNumber_withoutZeroSign (d : Decimal) : d.withoutZeroSign.sameNumber d := by
  have hsigned : d.withoutZeroSign.signedMantissa = d.signedMantissa := by
    by_cases hzero : d.mantissa = 0
    · simp [signedMantissa, withoutZeroSign, hzero]
    · simp [signedMantissa, withoutZeroSign, hzero]
  rw [sameNumber, hsigned]
  exact beq_self_eq_true _

theorem readPlain?_write (d : Decimal) : readPlain? d.write = some d.withoutZeroSign := by
  have hbody := d.read?_digits
  have hparts : ofParts? (d.negative && decide (d.mantissa ≠ 0)) d.mantissa d.scale =
      some d.withoutZeroSign := dif_pos ⟨d.mantissa_lt, d.scale_le⟩
  rw [write_eq]
  cases hsign : d.negative with
  | true =>
      rw [hsign] at hparts
      simp only [if_true, List.cons_append, List.nil_append, readPlain?, hbody]
      exact hparts
  | false =>
      obtain ⟨c, cs, hfirst⟩ := List.exists_cons_of_ne_nil d.wholeDigits_ne_nil
      have hdigit : c.isDigit := d.isDigit_of_mem_wholeDigits c (hfirst ▸ List.mem_cons_self)
      have hminus : c ≠ '-' := ne_of_isDigit hdigit rfl
      have hplus : c ≠ '+' := ne_of_isDigit hdigit rfl
      rw [hfirst, List.cons_append] at hbody
      rw [hsign, Bool.false_and] at hparts
      simp [readPlain?, hfirst, hminus, hplus, hbody, hparts]

theorem read?_write (d : Decimal) : read? d.write = some d.withoutZeroSign := by
  rw [read?, readPlain?_write]
  rfl

theorem isVisible_write (d : Decimal) : IsVisible d.write where
  ne_nil := by simp [write_eq, d.wholeDigits_ne_nil]
  isBlank_of_mem c hc := by
    simp only [write_eq, List.mem_append] at hc
    rcases hc with (hsign | hwhole) | hplaces
    · split at hsign
      · rw [List.mem_singleton.mp hsign]
        decide
      · cases hsign
    · exact isBlank_of_isDigit (d.isDigit_of_mem_wholeDigits c hwhole)
    · split at hplaces
      · cases hplaces
      · rcases List.mem_cons.mp hplaces with rfl | hfraction
        · decide
        · exact isBlank_of_isDigit (d.isDigit_of_mem_fractionDigits c hfraction)

end Decimal

end TypedSql
