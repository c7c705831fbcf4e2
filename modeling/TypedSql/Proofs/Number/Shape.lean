import TypedSql.Number.Decimal
import TypedSql.Number.Shortest
import TypedSql.Proofs.Text.Digits

namespace TypedSql

/-! The shape of a written number: a sign if it is negative, and a magnitude behind it. -/

open Text

def IsPositional (text : List Char) : Prop :=
  ∀ c ∈ text, c.isDigit ∨ c = '.'

namespace IsPositional

variable {a b : List Char}

theorem nil : IsPositional [] := by simp [IsPositional]

theorem append (ha : IsPositional a) (hb : IsPositional b) : IsPositional (a ++ b) :=
  fun c hc => (List.mem_append.mp hc).elim (ha c) (hb c)

theorem cons {c : Char} (hc : c.isDigit ∨ c = '.') (ha : IsPositional a) : IsPositional (c :: a) :=
  List.forall_mem_cons.mpr ⟨hc, ha⟩

theorem take (ha : IsPositional a) (n : Nat) : IsPositional (a.take n) :=
  fun c hc => ha c (List.mem_of_mem_take hc)

theorem drop (ha : IsPositional a) (n : Nat) : IsPositional (a.drop n) :=
  fun c hc => ha c (List.mem_of_mem_drop hc)

theorem of_digits (hdigits : ∀ c ∈ a, c.isDigit) : IsPositional a :=
  fun c hc => .inl (hdigits c hc)

theorem zeros (n : Nat) : IsPositional (List.replicate n '0') :=
  of_digits fun _ hc => List.eq_of_mem_replicate hc ▸ rfl

theorem toDigits (n : Nat) : IsPositional (Nat.toDigits 10 n) :=
  of_digits fun _ hc => Nat.isDigit_of_mem_toDigits (by decide) (by decide) hc

end IsPositional

/-- Digits, perhaps with a point among them, and perhaps with an exponent behind them. -/
inductive IsMagnitude : List Char → Prop
  | positional {c : Char} {rest : List Char} (hfirst : c.isDigit) (hothers : IsPositional rest) :
      IsMagnitude (c :: rest)
  | scientific {c : Char} {rest : List Char} (hfirst : c.isDigit) (hothers : IsPositional rest)
      (exponent : Int) : IsMagnitude (c :: rest ++ 'e' :: (toString exponent).toList)

def signText (negative : Bool) : List Char :=
  if negative then ['-'] else []

/-- A sign, if there is one, and a magnitude. -/
def IsSigned (negative : Bool) (text : List Char) : Prop :=
  ∃ magnitude, IsMagnitude magnitude ∧ text = signText negative ++ magnitude

theorem IsMagnitude.head_isDigit {text : List Char} (hmagnitude : IsMagnitude text) :
    ∃ c rest, text = c :: rest ∧ c.isDigit := by
  cases hmagnitude with
  | positional hfirst hothers => exact ⟨_, _, rfl, hfirst⟩
  | scientific hfirst hothers exponent => exact ⟨_, _, rfl, hfirst⟩

theorem IsMagnitude.ite {p : Prop} [Decidable p] {a b : List Char} (ha : IsMagnitude a)
    (hb : IsMagnitude b) : IsMagnitude (if p then a else b) := by
  split
  · exact ha
  · exact hb

theorem isMagnitude_toDigits (n : Nat) : IsMagnitude (Nat.toDigits 10 n) := by
  have hdigits := IsPositional.toDigits n
  obtain ⟨c, rest, hwritten, hfirst⟩ := toDigits_eq_cons n
  rw [hwritten] at hdigits ⊢
  exact .positional hfirst fun d hd => hdigits d (List.mem_cons_of_mem c hd)

theorem toList_toString (n : Int) :
    (toString n).toList = signText (n < 0) ++ Nat.toDigits 10 n.natAbs := by
  rw [Int.toString_eq_repr]
  cases n with
  | ofNat m => simp [signText, Int.repr, Nat.repr]
  | negSucc m => simp [signText, Int.repr, Nat.repr, Int.negSucc_lt_zero]

theorem isSigned_toString (n : Int) : IsSigned (n < 0) (toString n).toList :=
  ⟨_, isMagnitude_toDigits n.natAbs, toList_toString n⟩

namespace BinaryLayout

variable {ds : List Char} {d : DecimalDigits} {c : Char}

theorem isMagnitude_layPositional (layout : BinaryLayout) (hfirst : c.isDigit)
    (hothers : IsPositional ds) : IsMagnitude (layout.layPositional (c :: ds) d) := by
  have hpoint {text : List Char} (hfraction : IsPositional text) : IsPositional ('.' :: text) :=
    hfraction.cons (.inr rfl)
  have hzero : '0'.isDigit := rfl
  have hwhole : IsPositional (if layout.wholePoint then ['.', '0'] else []) := by
    split
    · exact hpoint (IsPositional.nil.cons (.inl hzero))
    · exact .nil
  simp only [layPositional]
  by_cases hlarge : 0 ≤ d.power
  · rw [if_pos hlarge]
    exact .positional hfirst ((hothers.append (.zeros _)).append hwhole)
  rw [if_neg hlarge]
  by_cases hbefore : 0 < d.point
  · obtain ⟨n, hplaces⟩ : ∃ n, d.point.toNat = n + 1 := ⟨d.point.toNat - 1, by omega⟩
    rw [if_pos hbefore, hplaces]
    exact .positional hfirst ((hothers.take n).append (hpoint (hothers.drop n)))
  · rw [if_neg hbefore]
    exact .positional hzero (hpoint ((IsPositional.zeros _).append (hothers.cons (.inl hfirst))))

theorem isMagnitude_layScientific (hfirst : c.isDigit) (hothers : IsPositional ds) :
    IsMagnitude (layScientific (c :: ds) d) := by
  unfold layScientific
  split
  · exact .scientific hfirst .nil _
  · exact .scientific hfirst (hothers.cons (.inr rfl)) _

theorem isSigned_write {f : BinaryFormat} (layout : BinaryLayout) {x : Binary f}
    (hnumber : x.isNaN = false) (hfinite : x.isInfinite = false) :
    IsSigned x.negative (layout.write x) := by
  unfold write
  rw [hnumber, hfinite, if_neg Bool.false_ne_true]
  by_cases hzero : x.isZero
  · simp only [hzero, Bool.false_eq_true, if_false, if_true]
    have hzero : '0'.isDigit := rfl
    refine ⟨_, ?_, rfl⟩
    split
    · exact .positional hzero ((IsPositional.nil.cons (.inl hzero)).cons (.inr rfl))
    · exact .positional hzero .nil
  · simp only [hzero, Bool.false_eq_true, if_false]
    obtain ⟨c, rest, hwritten, hfirst⟩ := toDigits_eq_cons (x.shortest layout.tie).digits
    have hdigits := IsPositional.toDigits (x.shortest layout.tie).digits
    rw [hwritten] at hdigits ⊢
    have hothers : IsPositional rest := fun d hd => hdigits d (List.mem_cons_of_mem c hd)
    exact ⟨_, .ite (isMagnitude_layPositional layout hfirst hothers)
      (isMagnitude_layScientific hfirst hothers), rfl⟩

end BinaryLayout

theorem Decimal.isSigned_write (d : Decimal) : IsSigned d.negative d.write := by
  have hdigits : ∀ c ∈ padded (d.scale + 1) d.mantissa, c.isDigit := fun _ => isDigit_of_mem_padded
  obtain ⟨c, rest, hwritten, hfirst⟩ := padded_eq_cons (d.scale + 1) d.mantissa
  have hplaces : d.scale < (padded (d.scale + 1) d.mantissa).length := by
    simp only [padded, List.length_append, List.length_replicate]
    omega
  have hwrites : d.write = signText d.negative ++ ((padded (d.scale + 1) d.mantissa).take
      ((padded (d.scale + 1) d.mantissa).length - d.scale) ++ if d.scale = 0 then [] else
        '.' :: (padded (d.scale + 1) d.mantissa).drop
          ((padded (d.scale + 1) d.mantissa).length - d.scale)) :=
    List.append_assoc _ _ _
  refine ⟨_, ?_, hwrites⟩
  rw [hwritten] at hdigits hplaces ⊢
  have hothers : IsPositional rest :=
    .of_digits fun d hd => hdigits d (List.mem_cons_of_mem c hd)
  obtain ⟨n, hbefore⟩ : ∃ n, (c :: rest).length - d.scale = n + 1 :=
    ⟨(c :: rest).length - d.scale - 1, by omega⟩
  rw [hbefore]
  refine .positional hfirst ((hothers.take n).append ?_)
  split
  · exact .nil
  · exact (hothers.drop n).cons (.inr rfl)

end TypedSql
