import TypedSql.Proofs.Text.Trim
import TypedSql.Uuid

namespace TypedSql

/-! Bytes are read back from their digits in base sixteen, and identifiers from their groups. -/

namespace Text

theorem hexValue?_lowerDigit {n : Nat} (hsmall : n < 16) : hexValue? (lowerDigit n) = some n := by
  have hall : ∀ n : Fin 16, hexValue? (lowerDigit n) = some n.val := by decide
  exact hall ⟨n, hsmall⟩

theorem hexValue?_upperDigit {n : Nat} (hsmall : n < 16) : hexValue? (upperDigit n) = some n := by
  have hall : ∀ n : Fin 16, hexValue? (upperDigit n) = some n.val := by decide
  exact hall ⟨n, hsmall⟩

theorem isBlank_lowerDigit {n : Nat} (hsmall : n < 16) : isBlank (lowerDigit n) = false := by
  have hall : ∀ n : Fin 16, isBlank (lowerDigit n) = false := by decide
  exact hall ⟨n, hsmall⟩

/-- Whatever characters stand for the digits, bytes are read back from two digits each. -/
theorem bytesOfHex?_flatMap {digit : Nat → Char}
    (hreads : ∀ n, n < 16 → hexValue? (digit n) = some n) (bytes : List UInt8) :
    bytesOfHex? (bytes.flatMap fun b => [digit (b.toNat / 16), digit (b.toNat % 16)]) =
      some bytes := by
  induction bytes with
  | nil => rfl
  | cons b bytes ih =>
      have hhigh : b.toNat / 16 < 16 := by
        have hsize := b.toNat_lt_size
        simp only [UInt8.size] at hsize
        omega
      have hlow : b.toNat % 16 < 16 := Nat.mod_lt _ (by decide)
      have hwhole : UInt8.ofNat (b.toNat / 16 * 16 + b.toNat % 16) = b := by
        rw [Nat.div_add_mod', UInt8.ofNat_toNat]
      simp only [List.flatMap_cons, List.cons_append, List.nil_append, bytesOfHex?, hreads _ hhigh,
        hreads _ hlow, ih, Option.bind_eq_bind, Option.bind_some, hwhole]
      rfl

theorem bytesOfHex?_lowerHex (bytes : List UInt8) : bytesOfHex? (lowerHex bytes) = some bytes :=
  bytesOfHex?_flatMap (fun _ => hexValue?_lowerDigit) bytes

theorem bytesOfHex?_upperHex (bytes : List UInt8) : bytesOfHex? (upperHex bytes) = some bytes :=
  bytesOfHex?_flatMap (fun _ => hexValue?_upperDigit) bytes

theorem length_lowerHex (bytes : List UInt8) : (lowerHex bytes).length = bytes.length * 2 := by
  induction bytes with
  | nil => rfl
  | cons b bytes ih =>
      rw [lowerHex] at ih ⊢
      simp only [List.flatMap_cons, List.length_append, List.length_cons, List.length_nil, ih]
      omega

end Text

namespace Uuid

open Text

theorem readDigits?_lowerHex (u : Uuid) : readDigits? (lowerHex u.bytes) = some u := by
  have hlength : (lowerHex u.bytes).length = 32 := by rw [length_lowerHex, u.length_bytes]
  rw [readDigits?, if_pos hlength, bytesOfHex?_lowerHex]
  exact dif_pos u.length_bytes

/-- Thirty-two digits in groups are read as the digits without the hyphens. -/
theorem readGroups?_of_length {a b c d e : List Char} (ha : a.length = 8) (hb : b.length = 4)
    (hc : c.length = 4) (hd : d.length = 4) (he : e.length = 12) :
    readGroups? (a ++ '-' :: b ++ '-' :: c ++ '-' :: d ++ '-' :: e) =
      readDigits? (a ++ b ++ c ++ d ++ e) := by
  simp [readGroups?, List.drop_append, List.drop_of_length_le, ha, hb, hc, hd, he]

theorem length_write (u : Uuid) : u.write.length = 36 := by
  simp [write, length_lowerHex, u.length_bytes]

/-- The groups together are the digits. -/
theorem groups_append (ds : List Char) :
    ds.take 8 ++ (ds.drop 8).take 4 ++ (ds.drop 12).take 4 ++ (ds.drop 16).take 4 ++ ds.drop 20 =
      ds := by
  have hgroup (n : Nat) : (ds.drop n).take 4 ++ ds.drop (n + 4) = ds.drop n := by
    rw [← List.drop_drop, List.take_append_drop]
  simp only [List.append_assoc]
  rw [hgroup 16, hgroup 12, hgroup 8, List.take_append_drop]

theorem read?_write (u : Uuid) : read? u.write = some u := by
  have hlength : (lowerHex u.bytes).length = 32 := by rw [length_lowerHex, u.length_bytes]
  have hgroups : readGroups? u.write = readDigits? _ :=
    readGroups?_of_length (by simp [hlength]) (by simp [hlength]) (by simp [hlength])
      (by simp [hlength]) (by simp [hlength])
  rw [read?, if_neg (by rw [length_write]; decide), if_pos u.length_write, hgroups, groups_append,
    readDigits?_lowerHex]

theorem isVisible_write (u : Uuid) : IsVisible u.write where
  ne_nil := List.ne_nil_of_length_pos (by rw [length_write]; decide)
  isBlank_of_mem := by
    have hdigits : ∀ c ∈ lowerHex u.bytes, isBlank c = false := by
      intro c hc
      obtain ⟨b, -, hshown⟩ := List.mem_flatMap.mp hc
      have hsize := b.toNat_lt_size
      simp only [UInt8.size] at hsize
      simp only [List.mem_cons, List.not_mem_nil, or_false] at hshown
      rcases hshown with rfl | rfl
      · exact isBlank_lowerDigit (by omega)
      · exact isBlank_lowerDigit (by omega)
    intro c hc
    simp only [write, List.mem_append, List.mem_cons] at hc
    rcases hc with (((ha | rfl | hb) | rfl | hc) | rfl | hd) | rfl | he
    · exact hdigits c (List.mem_of_mem_take ha)
    · decide
    · exact hdigits c (List.mem_of_mem_drop (List.mem_of_mem_take hb))
    · decide
    · exact hdigits _ (List.mem_of_mem_drop (List.mem_of_mem_take hc))
    · decide
    · exact hdigits c (List.mem_of_mem_drop (List.mem_of_mem_take hd))
    · decide
    · exact hdigits c (List.mem_of_mem_drop he)

end Uuid

end TypedSql
