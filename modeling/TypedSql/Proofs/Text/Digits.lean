import Mathlib.Data.List.TakeWhile
import Mathlib.Tactic.Ring
import TypedSql.Text.Digits

namespace TypedSql

theorem isDigit_iff {c : Char} : c.isDigit ↔ 48 ≤ c.toNat ∧ c.toNat ≤ 57 := by
  simp only [Char.isDigit, Bool.and_eq_true, decide_eq_true_eq, UInt32.le_iff_toNat_le]
  rfl

theorem digitValue?_of_isDigit {c : Char} (hdigit : c.isDigit) :
    digitValue? c = some (c.toNat - '0'.toNat) :=
  if_pos (isDigit_iff.mp hdigit)

theorem digitValue?_of_not_isDigit {c : Char} (hother : c.isDigit = false) :
    digitValue? c = none := by
  apply if_neg
  rw [← isDigit_iff, hother]
  decide

theorem ne_of_isDigit {c mark : Char} (hdigit : c.isDigit) (hother : mark.isDigit = false) :
    c ≠ mark := by
  rintro rfl
  rw [hdigit] at hother
  cases hother

namespace Text

variable {ds rest : List Char} {n width : Nat}

theorem le_ofDigitChars (ds : List Char) (n : Nat) : n ≤ Nat.ofDigitChars 10 ds n := by
  rw [Nat.ofDigitChars_eq_ofDigitChars_zero]
  have hgrows : n ≤ 10 ^ ds.length * n := Nat.le_mul_of_pos_left n (Nat.pow_pos (by decide))
  omega

theorem takeExactly?_digits (hdigits : ∀ c ∈ ds, c.isDigit) (n : Nat) (rest : List Char) :
    takeExactly? ds.length n (ds ++ rest) = some (Nat.ofDigitChars 10 ds n, rest) := by
  induction ds generalizing n with
  | nil => rfl
  | cons c ds ih =>
      have hhead := digitValue?_of_isDigit (hdigits c List.mem_cons_self)
      have htail := ih (fun d hd => hdigits d (List.mem_cons_of_mem c hd))
      simp only [List.length_cons, List.cons_append, takeExactly?, hhead, htail,
        Nat.ofDigitChars_cons]

theorem toDigits_eq_cons (n : Nat) : ∃ c cs, Nat.toDigits 10 n = c :: cs ∧ c.isDigit := by
  obtain ⟨c, cs, hwritten⟩ := List.exists_cons_of_ne_nil
    (List.ne_nil_of_length_pos (Nat.length_toDigits_pos (b := 10) (n := n)))
  have hmem : c ∈ Nat.toDigits 10 n := hwritten ▸ List.mem_cons_self
  exact ⟨c, cs, hwritten, Nat.isDigit_of_mem_toDigits (by decide) (by decide) hmem⟩

theorem isDigit_of_mem_padded {c : Char} (hc : c ∈ padded width n) : c.isDigit := by
  rcases List.mem_append.mp hc with hzero | hdigit
  · rw [List.eq_of_mem_replicate hzero]
    rfl
  · exact Nat.isDigit_of_mem_toDigits (by decide) (by decide) hdigit

theorem ofDigitChars_padded (width n : Nat) : Nat.ofDigitChars 10 (padded width n) 0 = n := by
  rw [padded, Nat.ofDigitChars_append, Nat.ofDigitChars_replicate_zero, Nat.mul_zero,
    Nat.ofDigitChars_toDigits (by decide) (by decide)]

theorem length_padded (hpositive : 0 < width) (hfits : n < 10 ^ width) :
    (padded width n).length = width := by
  have hshort := (Nat.length_toDigits_le_iff (b := 10) (by decide) hpositive).mpr hfits
  simp only [padded, List.length_append, List.length_replicate]
  omega

theorem takeExactly?_padded (hpositive : 0 < width) (hfits : n < 10 ^ width) (rest : List Char) :
    takeExactly? width 0 (padded width n ++ rest) = some (n, rest) := by
  have hdigits : ∀ c ∈ padded width n, c.isDigit := fun _ => isDigit_of_mem_padded
  have htaken := takeExactly?_digits hdigits 0 rest
  rwa [length_padded hpositive hfits, ofDigitChars_padded] at htaken

/-- What stands behind the digits of a number and ends it. -/
def EndsDigits (rest : List Char) : Prop :=
  ∀ c ∈ rest.head?, c.isDigit = false

/-- Digits that end too early fill no field. -/
theorem takeExactly?_of_short {count : Nat} (hdigits : ∀ c ∈ ds, c.isDigit)
    (hshort : ds.length < count) (hends : EndsDigits rest) (n : Nat) :
    takeExactly? count n (ds ++ rest) = none := by
  induction ds generalizing count n with
  | nil =>
      obtain ⟨count, rfl⟩ := Nat.exists_eq_add_of_lt hshort
      cases rest with
      | nil => rfl
      | cons c cs =>
          have hother := digitValue?_of_not_isDigit (hends c rfl)
          simp only [List.nil_append, takeExactly?, hother]
  | cons c ds ih =>
      obtain ⟨count, rfl⟩ := Nat.exists_eq_add_of_lt (Nat.lt_of_le_of_lt (Nat.zero_le _) hshort)
      have hhead := digitValue?_of_isDigit (hdigits c List.mem_cons_self)
      have hshorter : ds.length < 0 + count := by
        simp only [List.length_cons] at hshort
        omega
      have htail := ih (fun d hd => hdigits d (List.mem_cons_of_mem c hd)) hshorter
      simp only [List.cons_append, takeExactly?, hhead, htail]

/-- A field begins with a digit, and so with no sign. -/
theorem padded_eq_cons (width n : Nat) : ∃ c cs, padded width n = c :: cs ∧ c.isDigit := by
  cases hwritten : padded width n with
  | nil =>
      obtain ⟨c, cs, hfirst, -⟩ := toDigits_eq_cons n
      rw [padded, hfirst] at hwritten
      exact absurd hwritten (List.append_ne_nil_of_right_ne_nil _ (List.cons_ne_nil c cs))
  | cons c cs => exact ⟨c, cs, rfl, isDigit_of_mem_padded (hwritten ▸ List.mem_cons_self)⟩

/-! Fractions: a digit counts by its place, so that zeros at the end add nothing. -/

theorem takeFraction_of_endsDigits (hends : EndsDigits rest) (unit n : Nat) :
    takeFraction unit n rest = (n, rest) := by
  cases rest with
  | nil => rfl
  | cons c cs =>
      have hother := digitValue?_of_not_isDigit (hends c rfl)
      simp only [takeFraction, hother]

theorem takeFraction_digits {places : Nat} (hdigits : ∀ c ∈ ds, c.isDigit)
    (hends : EndsDigits rest) (hfits : ds.length ≤ places) (n : Nat) :
    takeFraction (10 ^ places / 10) n (ds ++ rest) =
      (n + Nat.ofDigitChars 10 ds 0 * 10 ^ (places - ds.length), rest) := by
  induction ds generalizing places n with
  | nil => simpa using takeFraction_of_endsDigits hends _ _
  | cons c ds ih =>
      obtain ⟨places, rfl⟩ := Nat.exists_eq_add_of_lt (Nat.lt_of_lt_of_le (Nat.succ_pos _) hfits)
      have hhead := digitValue?_of_isDigit (hdigits c List.mem_cons_self)
      have hunit : 10 ^ (0 + places + 1) / 10 = 10 ^ places := by
        rw [Nat.zero_add, Nat.pow_succ, Nat.mul_div_cancel _ (by decide)]
      have hshort : ds.length ≤ places := by
        simp only [List.length_cons] at hfits
        omega
      have htail := ih (fun d hd => hdigits d (List.mem_cons_of_mem c hd)) hshort
      have hsplit : 10 ^ places = 10 ^ ds.length * 10 ^ (places - ds.length) := by
        rw [← Nat.pow_add, Nat.add_sub_cancel' hshort]
      have hvalue : Nat.ofDigitChars 10 (c :: ds) 0 =
          10 ^ ds.length * (c.toNat - '0'.toNat) + Nat.ofDigitChars 10 ds 0 := by
        rw [Nat.ofDigitChars_cons, Nat.ofDigitChars_eq_ofDigitChars_zero, Nat.mul_zero,
          Nat.zero_add]
      have hleft : 0 + places + 1 - (c :: ds).length = places - ds.length := by
        simp only [List.length_cons]
        omega
      simp only [List.cons_append, takeFraction, hhead, hunit, htail, hvalue, hleft, Prod.mk.injEq,
        and_true]
      rw [hsplit]
      ring

/-- The digits of a fraction are those of its field up to the zeros that end it. -/
theorem exists_padded_eq (n : Nat) :
    ∃ zeros, padded 9 n =
      ((padded 9 n).reverse.dropWhile (· == '0')).reverse ++ List.replicate zeros '0' := by
  have hzeros : ∀ c ∈ (padded 9 n).reverse.takeWhile (· == '0'), c = '0' := by
    intro c hc
    exact eq_of_beq (List.mem_takeWhile_imp (p := (· == '0')) hc)
  have hwhole := List.takeWhile_append_dropWhile (p := (· == '0')) (l := (padded 9 n).reverse)
  refine ⟨((padded 9 n).reverse.takeWhile (· == '0')).length, ?_⟩
  rw [List.eq_replicate_of_mem hzeros] at hwhole
  rw [← List.reverse_replicate, ← List.reverse_append, hwhole, List.reverse_reverse]

theorem isDigit_of_mem_fractionDigits {c : Char} (hc : c ∈ fractionDigits n) : c.isDigit := by
  obtain ⟨zeros, hfield⟩ := exists_padded_eq n
  unfold fractionDigits at hc
  split at hc
  · rw [List.mem_singleton.mp hc]
    rfl
  · apply isDigit_of_mem_padded
    rw [hfield]
    exact List.mem_append_left _ hc

theorem fractionDigits_ne_nil (n : Nat) : fractionDigits n ≠ [] := by
  unfold fractionDigits
  split
  · exact List.cons_ne_nil _ _
  · assumption

theorem value_fractionDigits (hfits : n < 10 ^ 9) :
    (fractionDigits n).length ≤ 9 ∧
      Nat.ofDigitChars 10 (fractionDigits n) 0 * 10 ^ (9 - (fractionDigits n).length) = n := by
  obtain ⟨zeros, hfield⟩ := exists_padded_eq n
  have hlength := congrArg List.length hfield
  have hvalue := congrArg (Nat.ofDigitChars 10 · 0) hfield
  simp only [List.length_append, List.length_replicate, length_padded (by decide) hfits] at hlength
  simp only [Nat.ofDigitChars_append, ofDigitChars_padded, Nat.ofDigitChars_replicate_zero]
    at hvalue
  unfold fractionDigits
  split
  next hnone =>
    rw [hnone, Nat.ofDigitChars_nil, Nat.mul_zero] at hvalue
    rw [hvalue]
    decide
  next =>
    refine ⟨by omega, ?_⟩
    rw [show 9 - _ = zeros by omega, Nat.mul_comm]
    exact hvalue.symm

theorem takeFraction?_digits (hdigits : ∀ c ∈ ds, c.isDigit) (hsome : ds ≠ [])
    (hfits : ds.length ≤ 9) (hends : EndsDigits rest) :
    takeFraction? (ds ++ rest) =
      Option.some (Nat.ofDigitChars 10 ds 0 * 10 ^ (9 - ds.length), rest) := by
  have htaken := takeFraction_digits hdigits hends hfits 0
  rw [Nat.zero_add] at htaken
  obtain ⟨c, cs, rfl⟩ := List.exists_cons_of_ne_nil hsome
  have hhead := digitValue?_of_isDigit (hdigits c List.mem_cons_self)
  rw [List.cons_append] at htaken ⊢
  simp only [takeFraction?, hhead, Option.isSome_some, if_true]
  exact congrArg Option.some htaken

theorem takeFraction?_fractionDigits (hfits : n < 10 ^ 9) (hends : EndsDigits rest) :
    takeFraction? (fractionDigits n ++ rest) = some (n, rest) := by
  have hdigits : ∀ c ∈ fractionDigits n, c.isDigit := fun _ => isDigit_of_mem_fractionDigits
  obtain ⟨hshort, hvalue⟩ := value_fractionDigits hfits
  rw [takeFraction?_digits hdigits (fractionDigits_ne_nil n) hshort hends, hvalue]

/-- What the shortening of a fraction keeps, and where it ends. -/
structure Shortens (places n places' n' : Nat) : Prop where
  positive : 0 < places'
  short : places' ≤ places
  value : n' * 10 ^ (places - places') = n
  fits : n' < 10 ^ places'
  ended : places' = 1 ∧ n' = 0 ∨ n' % 10 ≠ 0

namespace Shortens

variable {places places' n' : Nat}

theorem refl (hpositive : 0 < places) (hfits : n < 10 ^ places)
    (hended : places = 1 ∧ n = 0 ∨ n % 10 ≠ 0) : Shortens places n places n where
  positive := hpositive
  short := Nat.le_refl places
  value := by rw [Nat.sub_self, Nat.pow_zero, Nat.mul_one]
  fits := hfits
  ended := hended

theorem step (hzero : n % 10 = 0) (hrest : Shortens places (n / 10) places' n') :
    Shortens (places + 1) n places' n' where
  positive := hrest.positive
  short := Nat.le_succ_of_le hrest.short
  value := by
    rw [Nat.succ_sub hrest.short, Nat.pow_succ, ← Nat.mul_assoc, hrest.value]
    exact Nat.div_mul_cancel (Nat.dvd_of_mod_eq_zero hzero)
  fits := hrest.fits
  ended := hrest.ended

end Shortens

theorem shortens_shorten {places : Nat} (hpositive : 0 < places) (hfits : n < 10 ^ places) :
    Shortens places n (shorten places n).1 (shorten places n).2 := by
  fun_induction shorten places n with
  | case1 places n hzero ih =>
      have hless : n / 10 < 10 ^ (places + 1) := by
        rw [Nat.pow_succ] at hfits
        exact Nat.div_lt_of_lt_mul (Nat.mul_comm _ 10 ▸ hfits)
      exact (ih (Nat.succ_pos places) hless).step hzero
  | case2 places n hlast => exact .refl hpositive hfits (.inr hlast)
  | case3 places n hsingle =>
      have hone : places = 1 := by
        match places, hsingle with
        | 1, _ => rfl
        | places + 2, hsingle => exact absurd rfl (hsingle places)
      subst hone
      refine .refl hpositive hfits ?_
      omega

theorem getLast?_padded (hlast : n % 10 ≠ 0) : (padded width n).getLast? ≠ some '0' := by
  intro hzero
  obtain ⟨front, hwritten⟩ := List.getLast?_eq_some_iff.mp hzero
  have hvalue := ofDigitChars_padded width n
  rw [hwritten, Nat.ofDigitChars_append, Nat.ofDigitChars_cons, Nat.ofDigitChars_nil] at hvalue
  omega

theorem isDigit_of_mem_shortened {places : Nat} {c : Char} (hc : c ∈ shortened places n) :
    c.isDigit :=
  isDigit_of_mem_padded hc

theorem length_shortened {places : Nat} (hpositive : 0 < places) (hfits : n < 10 ^ places) :
    0 < (shortened places n).length ∧ (shortened places n).length ≤ places := by
  have hshortens := shortens_shorten hpositive hfits
  rw [shortened, length_padded hshortens.positive hshortens.fits]
  exact ⟨hshortens.positive, hshortens.short⟩

/-- No zero ends a shortened field, unless it is the whole field. -/
theorem shortened_ended {places : Nat} (hpositive : 0 < places) (hfits : n < 10 ^ places) :
    shortened places n = ['0'] ∨ (shortened places n).getLast? ≠ some '0' := by
  rcases (shortens_shorten hpositive hfits).ended with ⟨hone, hzero⟩ | hlast
  · rw [shortened, hone, hzero]
    exact .inl rfl
  · exact .inr (getLast?_padded hlast)

example : shortened 9 5000000 = ['0', '0', '5'] := by decide

theorem takeFraction?_shortened (hfits : n < 10 ^ 9) (hends : EndsDigits rest) :
    takeFraction? (shortened 9 n ++ rest) = some (n, rest) := by
  have hshortens := shortens_shorten (by decide) hfits
  have hdigits : ∀ c ∈ shortened 9 n, c.isDigit := fun _ => isDigit_of_mem_shortened
  obtain ⟨hsome, hshort⟩ := length_shortened (by decide) hfits
  rw [takeFraction?_digits hdigits (List.ne_nil_of_length_pos hsome) hshort hends, shortened,
    ofDigitChars_padded, length_padded hshortens.positive hshortens.fits, hshortens.value]

end Text

end TypedSql
