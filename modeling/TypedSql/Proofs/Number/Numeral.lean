import TypedSql.Proofs.Text.Trim

namespace TypedSql

open Text

/-- Decimal digits, and one of them at least. -/
structure IsDigits (ds : List Char) : Prop where
  ne_nil : ds ≠ []
  isDigit_of_mem : ∀ c ∈ ds, c.isDigit

/-- A whole number in decimal digits, behind a sign if it has one.  There is a minus only where
negative numbers are read. -/
inductive Numeral (signed : Bool) : List Char → Int → Prop
  | bare {ds : List Char} (hdigits : IsDigits ds) : Numeral signed ds (Nat.ofDigitChars 10 ds 0)
  | plus {ds : List Char} (hdigits : IsDigits ds) :
      Numeral signed ('+' :: ds) (Nat.ofDigitChars 10 ds 0)
  | minus {ds : List Char} (hdigits : IsDigits ds) (hnegative : signed = true) :
      Numeral signed ('-' :: ds) (-(Nat.ofDigitChars 10 ds 0 : Nat))

variable {ds text : List Char}

theorem IsDigits.isVisible (hdigits : IsDigits ds) : IsVisible ds where
  ne_nil := hdigits.ne_nil
  isBlank_of_mem c hc := isBlank_of_isDigit (hdigits.isDigit_of_mem c hc)

theorem Numeral.isVisible {signed : Bool} {n : Int} (hnumeral : Numeral signed text n) :
    IsVisible text := by
  cases hnumeral with
  | bare hdigits => exact hdigits.isVisible
  | plus hdigits => exact hdigits.isVisible.cons (by decide)
  | minus hdigits => exact hdigits.isVisible.cons (by decide)

theorem isDigits_toDigits (n : Nat) : IsDigits (Nat.toDigits 10 n) where
  ne_nil := List.ne_nil_of_length_pos Nat.length_toDigits_pos
  isDigit_of_mem _ hc := Nat.isDigit_of_mem_toDigits (by decide) (by decide) hc

/-- What a number is written as is a numeral of it, a minus being read if there is one. -/
theorem numeral_toString {signed : Bool} {z : Int} (hreads : signed = false → 0 ≤ z) :
    Numeral signed (toString z).toList z := by
  rw [Int.toString_eq_repr]
  cases z with
  | ofNat n =>
      have hwritten : (Int.ofNat n).repr.toList = Nat.toDigits 10 n := by simp [Int.repr, Nat.repr]
      have hnumeral : Numeral signed (Nat.toDigits 10 n) _ := .bare (isDigits_toDigits n)
      rwa [Nat.ofDigitChars_ten_toDigits, ← hwritten] at hnumeral
  | negSucc n =>
      have hwritten : (Int.negSucc n).repr.toList = '-' :: Nat.toDigits 10 (n + 1) := by
        simp [Int.repr, Nat.repr]
      have hnegative : signed = true := by
        cases signed with
        | true => rfl
        | false => exact absurd (hreads rfl) (Int.not_le.mpr (Int.negSucc_lt_zero n))
      have hnumeral : Numeral signed ('-' :: Nat.toDigits 10 (n + 1)) _ :=
        .minus (isDigits_toDigits (n + 1)) hnegative
      rwa [Nat.ofDigitChars_ten_toDigits, ← hwritten] at hnumeral

namespace IntegerKind

theorem least_of_unsigned {kind : IntegerKind} (hunsigned : kind.signed = false) :
    kind.least = 0 := by
  rw [least, hunsigned]
  rfl

theorem least_nonpos (kind : IntegerKind) : kind.least ≤ 0 := by cases kind <;> decide

theorem greatest_nonneg (kind : IntegerKind) : 0 ≤ kind.greatest := by cases kind <;> decide

end IntegerKind

namespace Integer

theorem val_inj {kind : IntegerKind} {m n : Integer kind} : m.val = n.val ↔ m = n := by
  constructor
  · intro hvalue
    cases m
    cases n
    cases hvalue
    rfl
  · rintro rfl
    rfl

variable {kind : IntegerKind} {limit n m : Nat} {beyond : NumberFault}

/-- Digits are read as the number they are written for, which no digit takes past the limit. -/
theorem readDigits_eq_ok_iff (hstart : n ≤ limit) :
    readDigits limit beyond n ds = .ok m ↔
      (∀ c ∈ ds, c.isDigit) ∧ Nat.ofDigitChars 10 ds n = m ∧ m ≤ limit := by
  induction ds generalizing n with
  | nil =>
      rw [readDigits, Nat.ofDigitChars_nil, Except.ok.injEq]
      constructor
      · rintro rfl
        exact ⟨nofun, rfl, hstart⟩
      · exact fun h => h.2.1
  | cons c ds ih =>
      rw [readDigits, Nat.ofDigitChars_cons, List.forall_mem_cons]
      cases hdigit : c.isDigit with
      | false =>
          rw [digitValue?_of_not_isDigit hdigit]
          simp
      | true =>
          rw [digitValue?_of_isDigit hdigit]
          by_cases hroom : 10 * n + (c.toNat - '0'.toNat) ≤ limit
          · simp only [hroom, if_true, true_and]
            exact ih hroom
          · simp only [hroom, if_false, true_and, reduceCtorEq, false_iff]
            rintro ⟨-, hvalue, hwithin⟩
            exact hroom (Nat.le_trans (le_ofDigitChars ds _) (hvalue ▸ hwithin))

theorem readDigits_map_eq_ok_iff {f : Int → Int} {z : Int} :
    Except.map f (do let n ← readDigits limit beyond 0 ds; pure (n : Int)) = .ok z ↔
      (∀ c ∈ ds, c.isDigit) ∧ f (Nat.ofDigitChars 10 ds 0) = z ∧
        Nat.ofDigitChars 10 ds 0 ≤ limit := by
  constructor
  · intro hread
    cases hdigits : readDigits limit beyond 0 ds with
    | error e =>
        rw [hdigits] at hread
        cases hread
    | ok n =>
        rw [hdigits] at hread
        obtain ⟨hall, rfl, hwithin⟩ := (readDigits_eq_ok_iff (Nat.zero_le _)).mp hdigits
        exact ⟨hall, Except.ok.inj hread, hwithin⟩
  · rintro ⟨hall, rfl, hwithin⟩
    rw [(readDigits_eq_ok_iff (Nat.zero_le _)).mpr ⟨hall, rfl, hwithin⟩]
    rfl

/-- What the digits behind the sign denote. -/
def signedValue (negative : Bool) (ds : List Char) : Int :=
  if negative then -(Nat.ofDigitChars 10 ds 0 : Nat) else Nat.ofDigitChars 10 ds 0

theorem numeral_iff_of_split {negative : Bool} {z : Int}
    (hsplit : splitSign kind text = (negative, ds)) :
    Numeral kind.signed text z ↔ IsDigits ds ∧ signedValue negative ds = z := by
  have hhead {c : Char} {cs : List Char} (hdigits : IsDigits (c :: cs)) : c.isDigit :=
    hdigits.isDigit_of_mem c List.mem_cons_self
  constructor
  · intro hnumeral
    cases hnumeral with
    | bare hdigits =>
        obtain ⟨c, cs, rfl⟩ := List.exists_cons_of_ne_nil hdigits.ne_nil
        have hplus : c ≠ '+' := ne_of_isDigit (hhead hdigits) rfl
        have hminus : c ≠ '-' := ne_of_isDigit (hhead hdigits) rfl
        have hunsplit : splitSign kind (c :: cs) = (false, c :: cs) := by
          simp [splitSign, hplus, hminus]
        obtain ⟨rfl, rfl⟩ := Prod.mk.inj (hunsplit.symm.trans hsplit)
        exact ⟨hdigits, rfl⟩
    | plus hdigits =>
        obtain ⟨rfl, rfl⟩ := Prod.mk.inj hsplit
        exact ⟨hdigits, rfl⟩
    | minus hdigits hsigned =>
        rw [splitSign, if_pos hsigned] at hsplit
        obtain ⟨rfl, rfl⟩ := Prod.mk.inj hsplit
        exact ⟨hdigits, rfl⟩
  · rintro ⟨hdigits, rfl⟩
    unfold splitSign at hsplit
    split at hsplit
    next cs =>
      obtain ⟨rfl, rfl⟩ := Prod.mk.inj hsplit
      exact .plus hdigits
    next cs =>
      by_cases hsigned : kind.signed
      · rw [if_pos hsigned] at hsplit
        obtain ⟨rfl, rfl⟩ := Prod.mk.inj hsplit
        exact .minus hdigits hsigned
      · rw [if_neg hsigned] at hsplit
        obtain ⟨rfl, rfl⟩ := Prod.mk.inj hsplit
        exact absurd (hhead hdigits) (by decide)
    next =>
      obtain ⟨rfl, rfl⟩ := Prod.mk.inj hsplit
      exact .bare hdigits

/-- The range bounds the digits from the side that the sign points to. -/
theorem read_of_split {negative : Bool} {z : Int}
    (hsplit : splitSign kind text = (negative, ds)) :
    read kind text = .ok z ↔
      (IsDigits ds ∧ signedValue negative ds = z) ∧ kind.least ≤ z ∧ z ≤ kind.greatest := by
  have hleast := kind.least_nonpos
  have hgreatest := kind.greatest_nonneg
  cases ds with
  | nil =>
      have hfailed : read kind text ≠ .ok z := by
        rw [read, hsplit]
        split <;> nofun
      refine iff_of_false hfailed ?_
      rintro ⟨⟨hdigits, -⟩, -⟩
      exact hdigits.ne_nil rfl
  | cons c cs =>
      have hsome : text ≠ [] := by
        rintro rfl
        cases hsplit
      have hdigits : IsDigits (c :: cs) ↔ ∀ d ∈ c :: cs, d.isDigit :=
        ⟨IsDigits.isDigit_of_mem, fun hall => ⟨List.cons_ne_nil c cs, hall⟩⟩
      rw [read, if_neg hsome, hsplit, hdigits]
      cases negative with
      | true =>
          simp only [readDigits_map_eq_ok_iff, signedValue, if_true, and_assoc]
          refine and_congr_right fun _ => and_congr_right fun hvalue => ?_
          omega
      | false =>
          simp only [readDigits_map_eq_ok_iff, signedValue, Bool.false_eq_true, if_false, and_assoc]
          refine and_congr_right fun _ => and_congr_right fun hvalue => ?_
          omega

theorem read_eq_ok_iff {z : Int} :
    read kind text = .ok z ↔ Numeral kind.signed text z ∧ kind.least ≤ z ∧ z ≤ kind.greatest := by
  cases hsplit : splitSign kind text with
  | mk negative ds => rw [numeral_iff_of_split hsplit, read_of_split hsplit]

theorem read_toString (n : Integer kind) : read kind (toString n.val).toList = .ok n.val := by
  have hreads : kind.signed = false → 0 ≤ n.val := fun hunsigned =>
    IntegerKind.least_of_unsigned hunsigned ▸ n.least_le
  exact read_eq_ok_iff.mpr ⟨numeral_toString hreads, n.least_le, n.le_greatest⟩

end Integer

end TypedSql
