import TypedSql.Proofs.Text.Digits
import TypedSql.Text.Blank

namespace TypedSql.Text

/-! Trimming keeps a text that neither begins nor ends with white space, and finds one that stands
between white space. -/

structure IsVisible (cs : List Char) : Prop where
  ne_nil : cs ≠ []
  isBlank_of_mem : ∀ c ∈ cs, isBlank c = false

theorem isBlank_of_isDigit {c : Char} (hdigit : c.isDigit) : isBlank c = false := by
  have hbounds := isDigit_iff.mp hdigit
  simp only [isBlank, Bool.or_eq_false_iff, Bool.and_eq_false_iff, decide_eq_false_iff_not,
    beq_eq_false_iff_ne]
  omega

namespace IsVisible

variable {a b mid : List Char}

theorem dropWhile_append (ha : IsVisible a) (b : List Char) :
    (a ++ b).dropWhile isBlank = a ++ b := by
  obtain ⟨c, cs, rfl⟩ := List.exists_cons_of_ne_nil ha.ne_nil
  have hshown : isBlank c = false := ha.isBlank_of_mem c List.mem_cons_self
  rw [List.cons_append]
  exact List.dropWhile_cons_of_neg (by rw [hshown]; decide)

theorem cons {c : Char} (ha : IsVisible a) (hshown : isBlank c = false) : IsVisible (c :: a) where
  ne_nil := List.cons_ne_nil c a
  isBlank_of_mem d hd := by
    rcases List.mem_cons.mp hd with rfl | htail
    · exact hshown
    · exact ha.isBlank_of_mem d htail

theorem reverse (ha : IsVisible a) : IsVisible a.reverse where
  ne_nil := by simpa using ha.ne_nil
  isBlank_of_mem c hc := ha.isBlank_of_mem c (List.mem_reverse.mp hc)

theorem dropBlankEnd_append (hb : IsVisible b) (a : List Char) :
    dropBlankEnd (a ++ b) = a ++ b := by
  rw [dropBlankEnd, List.reverse_append, hb.reverse.dropWhile_append, ← List.reverse_append,
    List.reverse_reverse]

theorem trim_between (ha : IsVisible a) (hb : IsVisible b) (mid : List Char) :
    trim (String.ofList (a ++ mid ++ b)) = String.ofList (a ++ mid ++ b) := by
  rw [trim, String.toList_ofList, List.append_assoc, ha.dropWhile_append, ← List.append_assoc,
    hb.dropBlankEnd_append]

theorem trim (ha : IsVisible a) : trim (String.ofList a) = String.ofList a := by
  have hfront := ha.dropWhile_append []
  have hback := ha.dropBlankEnd_append []
  rw [List.append_nil] at hfront
  rw [List.nil_append] at hback
  rw [Text.trim, String.toList_ofList, hfront, hback]

end IsVisible

/-- A text without white space is what trimming leaves exactly of that text between white space. -/
theorem toList_trim_eq_iff {s : String} {mid : List Char} (hvisible : IsVisible mid) :
    (trim s).toList = mid ↔ ∃ front back, (∀ c ∈ front, isBlank c) ∧ (∀ c ∈ back, isBlank c) ∧
      s.toList = front ++ mid ++ back := by
  rw [trim, String.toList_ofList]
  constructor
  · intro hleft
    have hfront := List.takeWhile_append_dropWhile (p := isBlank) (l := s.toList)
    have hback := List.takeWhile_append_dropWhile (p := isBlank)
      (l := (s.toList.dropWhile isBlank).reverse)
    refine ⟨s.toList.takeWhile isBlank,
      ((s.toList.dropWhile isBlank).reverse.takeWhile isBlank).reverse, ?_, ?_, ?_⟩
    · exact fun c hc => List.mem_takeWhile_imp hc
    · exact fun c hc => List.mem_takeWhile_imp (List.mem_reverse.mp hc)
    · rw [← hleft, dropBlankEnd, List.append_assoc, ← List.reverse_append, hback,
        List.reverse_reverse, hfront]
  · rintro ⟨front, back, hbefore, hbehind, htext⟩
    have hends : ∀ c ∈ back.reverse, isBlank c := fun c hc => hbehind c (List.mem_reverse.mp hc)
    have hbare := hvisible.reverse.dropWhile_append []
    rw [List.append_nil] at hbare
    rw [htext, List.append_assoc, List.dropWhile_append_of_pos hbefore, hvisible.dropWhile_append,
      dropBlankEnd, List.reverse_append, List.dropWhile_append_of_pos hends, hbare,
      List.reverse_reverse]

end TypedSql.Text
