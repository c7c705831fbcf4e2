import Mathlib.Data.List.DropRight
import TypedSql.Error

namespace TypedSql

/-! A text that is cut to a number of bytes.  What is kept is the longest part from its beginning
that fits and ends between two characters, and walking back over the bytes finds its end. -/

namespace Text

/-- Of the parts that a text begins with, the longest of at most `max` bytes. -/
structure IsLongestWithin (max : Nat) (text kept : String) : Prop where
  isPrefix : kept.toList <+: text.toList
  fits : kept.utf8ByteSize ≤ max
  longest : ∀ part : String, part.toList <+: text.toList → part.utf8ByteSize ≤ max →
    part.toList <+: kept.toList

theorem utf8ByteSize_ofList_cons (c : Char) (cs : List Char) :
    (String.ofList (c :: cs)).utf8ByteSize = c.utf8Size + (String.ofList cs).utf8ByteSize := by
  rw [String.ofList_cons, String.utf8ByteSize_append, String.utf8ByteSize_singleton]

theorem prefix_of_utf8ByteSize_lt {kept part rest : List Char} {c : Char}
    (hfront : part <+: kept ++ c :: rest)
    (hsmall : (String.ofList part).utf8ByteSize < (String.ofList kept).utf8ByteSize + c.utf8Size) :
    part <+: kept := by
  induction kept generalizing part with
  | nil =>
      cases part with
      | nil => exact List.prefix_rfl
      | cons d part =>
          obtain ⟨rfl, -⟩ := List.cons_prefix_cons.mp hfront
          rw [utf8ByteSize_ofList_cons, String.ofList_nil, String.utf8ByteSize_empty] at hsmall
          omega
  | cons d kept ih =>
      cases part with
      | nil => exact List.nil_prefix
      | cons e part =>
          obtain ⟨rfl, hbehind⟩ := List.cons_prefix_cons.mp hfront
          rw [utf8ByteSize_ofList_cons, utf8ByteSize_ofList_cons] at hsmall
          exact List.cons_prefix_cons.mpr ⟨rfl, ih hbehind (by omega)⟩

/-- What is kept of characters in `max` bytes: all of them, or those in front of the first one that
does not fit. -/
inductive Cuts (max : Nat) : List Char → List Char × Bool → Prop
  | whole {cs : List Char} (hfits : (String.ofList cs).utf8ByteSize ≤ max) : Cuts max cs (cs, false)
  | front {kept rest : List Char} {c : Char} (hfits : (String.ofList kept).utf8ByteSize ≤ max)
      (hfull : max < (String.ofList kept).utf8ByteSize + c.utf8Size) :
      Cuts max (kept ++ c :: rest) (kept, true)

theorem cuts_cutChars (max : Nat) (cs : List Char) : Cuts max cs (cutChars max cs) := by
  induction cs generalizing max with
  | nil => exact .whole (Nat.zero_le max)
  | cons c cs ih =>
      rw [cutChars]
      split
      case isTrue hroom =>
        cases hcut : cutChars (max - c.utf8Size) cs with
        | mk kept flag =>
            have hinner := ih (max - c.utf8Size)
            rw [hcut] at hinner
            cases hinner with
            | whole hfits => exact .whole (by rw [utf8ByteSize_ofList_cons]; omega)
            | front hfits hfull =>
                refine @Cuts.front max (c :: kept) _ _ ?_ ?_
                · rw [utf8ByteSize_ofList_cons]
                  omega
                · rw [utf8ByteSize_ofList_cons]
                  omega
      case isFalse hfull => exact @Cuts.front max [] cs c (Nat.zero_le max) (by simpa using hfull)

theorem cut_eq (text : String) (max : Nat) :
    cut text max =
      (String.ofList (cutChars max text.toList).1, (cutChars max text.toList).2) := rfl

theorem isLongestWithin_cut (max : Nat) (text : String) :
    IsLongestWithin max text (cut text max).1 ∧
      ((cut text max).2 = true ↔ (cut text max).1 ≠ text) := by
  have hcuts := cuts_cutChars max text.toList
  rw [cut_eq]
  generalize hcs : text.toList = cs at hcuts
  generalize cutChars max cs = result at hcuts
  cases hcuts with
  | whole hfits =>
      rw [← hcs, String.ofList_toList] at hfits
      dsimp only
      rw [← hcs, String.ofList_toList]
      exact ⟨⟨List.prefix_rfl, hfits, fun _ hfront _ => hfront⟩, by simp⟩
  | @front kept rest c hfits hfull =>
      constructor
      · refine ⟨?_, hfits, ?_⟩
        · rw [hcs, String.toList_ofList]
          exact List.prefix_append kept (c :: rest)
        · intro part hfront hsmall
          rw [hcs] at hfront
          rw [String.toList_ofList]
          refine prefix_of_utf8ByteSize_lt hfront ?_
          rw [String.ofList_toList]
          exact Nat.lt_of_le_of_lt hsmall hfull
      · have hshorter : String.ofList kept ≠ text := by
          rintro rfl
          rw [String.toList_ofList] at hcs
          exact absurd hcs (by simp)
        simp [hshorter]

/-- Whether a byte can be the first of a character; the later ones are the lowest signed bytes. -/
def beginsChar (b : UInt8) : Bool := -64 ≤ b.toInt8

/-- Whether the text can be parted in front of its byte number `i`. -/
def isBoundary (text : String) (i : Nat) : Bool :=
  i = 0 || if h : i < text.toByteArray.size then beginsChar text.toByteArray[i]
    else i = text.toByteArray.size

/-- From a byte back to where the text can be parted, if anywhere. -/
def stepBack? (text : String) : Nat → Option Nat
  | 0 => if isBoundary text 0 then some 0 else none
  | stop + 1 => if isBoundary text (stop + 1) then some (stop + 1) else stepBack? text stop

/-- The text in front of a byte, which must not be inside a character. -/
def slice? (text : String) (stop : Nat) : Option String :=
  if isBoundary text stop then String.fromUTF8? (text.toByteArray.extract 0 stop) else none

/-- Cutting by bytes; without a result if the text is ever parted inside a character. -/
def truncate? (text : String) (max : Nat) : Option (String × Bool) := do
  if text.utf8ByteSize ≤ max then return (text, false)
  let stop ← stepBack? text max
  return (← slice? text stop, true)

theorem toNat_lt_of_mem_utf8EncodeChar {c : Char} {b : UInt8} (h : b ∈ String.utf8EncodeChar c) :
    b.toNat < 0xF8 := by
  unfold String.utf8EncodeChar at h
  dsimp only at h
  split at h
  · obtain rfl := List.mem_singleton.mp h
    rw [UInt8.toNat_ofNat']
    omega
  · split at h
    · simp only [List.mem_cons, List.not_mem_nil, or_false] at h
      rcases h with rfl | rfl <;> (rw [UInt8.toNat_ofNat']; omega)
    · split at h
      · simp only [List.mem_cons, List.not_mem_nil, or_false] at h
        rcases h with rfl | rfl | rfl <;> (rw [UInt8.toNat_ofNat']; omega)
      · simp only [List.mem_cons, List.not_mem_nil, or_false] at h
        rcases h with rfl | rfl | rfl | rfl <;> (rw [UInt8.toNat_ofNat']; omega)

theorem toNat_getElem_toByteArray_lt (text : String) {i : Nat} (h : i < text.toByteArray.size) :
    text.toByteArray[i].toNat < 0xF8 := by
  have hbytes : text.toByteArray = (text.toList.flatMap String.utf8EncodeChar).toByteArray :=
    text.utf8Encode_toList.symm
  have hinside : text.toByteArray[i] ∈ text.toList.flatMap String.utf8EncodeChar := by
    simp only [hbytes, List.getElem_toByteArray]
    exact List.getElem_mem _
  obtain ⟨c, -, hhere⟩ := List.mem_flatMap.mp hinside
  exact toNat_lt_of_mem_utf8EncodeChar hhere

/-- From 0xF8 on, bytes are neither first nor later bytes of a character, but no text has them. -/
theorem beginsChar_iff {b : UInt8} (h : b.toNat < 0xF8) : beginsChar b ↔ b.IsUTF8FirstByte := by
  have hall : ∀ n : Fin 0xF8, beginsChar (UInt8.ofNat n) ↔ (UInt8.ofNat n).IsUTF8FirstByte := by
    decide +kernel
  simpa using hall ⟨b.toNat, h⟩

theorem isPrefix_iff_exists_append {part text : String} :
    part.toList <+: text.toList ↔ ∃ rest : String, text = part ++ rest := by
  constructor
  · rintro ⟨rest, hwhole⟩
    refine ⟨String.ofList rest, String.toList_inj.mp ?_⟩
    rw [String.toList_append, String.toList_ofList, hwhole]
  · rintro ⟨rest, rfl⟩
    rw [String.toList_append]
    exact List.prefix_append _ _

/-- The text can be parted behind each part that it begins with, and nowhere else. -/
theorem isBoundary_iff {text : String} {i : Nat} :
    isBoundary text i ↔ ∃ part : String, part.toList <+: text.toList ∧ part.utf8ByteSize = i := by
  have hvalid : (String.Pos.Raw.mk i).IsValid text ↔
      ∃ part : String, part.toList <+: text.toList ∧ part.utf8ByteSize = i := by
    rw [String.Pos.Raw.isValid_iff_exists_append]
    simp only [String.Pos.Raw.ext_iff, String.byteIdx_rawEndPos, isPrefix_iff_exists_append,
      exists_and_right, eq_comm]
  rw [← hvalid, isBoundary]
  by_cases hstart : i = 0
  · subst hstart
    simp
  · rw [String.Pos.Raw.isValid_iff_isUTF8FirstByte]
    simp only [hstart, decide_false, Bool.false_or, String.Pos.Raw.ext_iff,
      String.byteIdx_rawEndPos, String.Pos.Raw.lt_iff, String.getUTF8Byte_eq_getElem]
    by_cases hinside : i < text.toByteArray.size
    · have hother : i ≠ text.utf8ByteSize := Nat.ne_of_lt hinside
      rw [dif_pos hinside, beginsChar_iff (toNat_getElem_toByteArray_lt text hinside)]
      simp only [hother, false_or]
      exact ⟨fun hfirst => ⟨hinside, hfirst⟩, fun ⟨_, hfirst⟩ => hfirst⟩
    · rw [dif_neg hinside, decide_eq_true_eq]
      exact ⟨.inl, fun hfound => hfound.resolve_right fun ⟨hhere, _⟩ => hinside hhere⟩

theorem IsLongestWithin.stepBack?_eq {max : Nat} {text kept : String}
    (h : IsLongestWithin max text kept) : stepBack? text max = some kept.utf8ByteSize := by
  have hends : isBoundary text kept.utf8ByteSize := isBoundary_iff.mpr ⟨kept, h.isPrefix, rfl⟩
  induction max with
  | zero =>
      have hnothing : kept.utf8ByteSize = 0 := Nat.le_zero.mp h.fits
      rw [hnothing] at hends ⊢
      exact if_pos hends
  | succ max ih =>
      -- The longest part within one byte more ends there, or is the longest within the bytes
      -- before.
      rw [stepBack?]
      split
      case isTrue hhere =>
        obtain ⟨part, hfront, hsize⟩ := isBoundary_iff.mp hhere
        obtain ⟨rest, hwhole⟩ := isPrefix_iff_exists_append.mp (h.longest part hfront hsize.le)
        have hfits := h.fits
        rw [hwhole, String.utf8ByteSize_append] at hfits ⊢
        exact congrArg some (by omega)
      case isFalse hinside =>
        have hshorter : kept.utf8ByteSize ≠ max + 1 := by
          intro hsize
          exact hinside (hsize ▸ hends)
        refine ih ⟨h.isPrefix, Nat.le_of_lt_succ (Nat.lt_of_le_of_ne h.fits hshorter), ?_⟩
        intro part hfront hsmall
        exact h.longest part hfront (Nat.le_succ_of_le hsmall)

theorem slice?_of_prefix {text part : String} (hfront : part.toList <+: text.toList) :
    slice? text part.utf8ByteSize = some part := by
  rw [slice?, if_pos (isBoundary_iff.mpr ⟨part, hfront, rfl⟩)]
  obtain ⟨rest, rfl⟩ := isPrefix_iff_exists_append.mp hfront
  have hbytes : (part ++ rest).toByteArray.extract 0 part.utf8ByteSize = part.toByteArray := by
    rw [String.toByteArray_append, ← String.size_toByteArray]
    exact ByteArray.extract_append_eq_left rfl
  rw [hbytes, String.fromUTF8?, dif_pos part.isValidUTF8]
  rfl

/-- Walking back over the bytes never parts a character, and cuts where the characters say. -/
theorem truncate?_eq_cut (text : String) (max : Nat) :
    truncate? text max = some (cut text max) := by
  obtain ⟨hlongest, hmarked⟩ := isLongestWithin_cut max text
  rw [truncate?]
  split
  case isTrue hfits =>
    have hwhole := hlongest.longest text List.prefix_rfl hfits
    have hsame : (cut text max).1 = text :=
      String.toList_inj.mp (hlongest.isPrefix.eq_of_length_le hwhole.length_le)
    have hunmarked : (cut text max).2 = false := by simpa [hsame] using hmarked
    exact congrArg some (Prod.ext hsame.symm hunmarked.symm)
  case isFalse hwide =>
    have hshorter : (cut text max).1 ≠ text := by
      intro hsame
      exact hwide (hsame ▸ hlongest.fits)
    simp only [hlongest.stepBack?_eq, Option.bind_eq_bind, Option.bind_some,
      slice?_of_prefix hlongest.isPrefix]
    exact congrArg some (Prod.ext rfl (hmarked.mpr hshorter).symm)

end Text

theorem Text.exists_trimEnd_append (text : String) : ∃ blanks, text = trimEnd text ++ blanks ∧
    isAllBlank blanks ∧ ∀ c ∈ (trimEnd text).toList.getLast?, isBlank c = false := by
  refine ⟨String.ofList (text.toList.rtakeWhile isBlank), ?_, ?_, ?_⟩
  · have hparts := List.rdropWhile_append_rtakeWhile (p := isBlank) (l := text.toList)
    rw [trimEnd, ← String.ofList_append]
    exact (congrArg String.ofList hparts).trans String.ofList_toList |>.symm
  · rw [isAllBlank, String.toList_ofList, List.all_eq_true]
    exact fun c hc => List.mem_rtakeWhile_imp hc
  · intro c hc
    rw [trimEnd, String.toList_ofList] at hc
    obtain ⟨hthere, rfl⟩ := List.mem_getLast?_eq_getLast hc
    exact Bool.eq_false_iff.mpr (List.rdropWhile_last_not isBlank text.toList hthere)

namespace Error

theorem quotedSql_eq (sql : String) :
    quotedSql sql =
      Text.trimEnd (Text.cut sql 497).1 ++ (if (Text.cut sql 497).2 then "..." else "") ++
        "\n" := by
  unfold quotedSql
  generalize Text.cut sql 497 = parts
  rfl

theorem message_driver (sql : String) (source : Error) :
    (driver sql source).message =
      "Error while executing: " ++ quotedSql sql ++ source.message := rfl

/-- Cutting a text to any number of bytes finds the longest part from its beginning that fits, and
tells whether there was more.  The message of a failure in the store has that part of its statement
within 497 bytes, without the white space at its end, and dots exactly if there was more. -/
theorem message_keeps_longest (text sql : String) (max : Nat) (source : Error) :
    (∃ kept cut, Text.truncate? text max = some (kept, cut) ∧ Text.cut text max = (kept, cut) ∧
      Text.IsLongestWithin max text kept ∧ (cut = true ↔ kept ≠ text)) ∧
    ∃ kept shown blanks, Text.IsLongestWithin 497 sql kept ∧ kept = shown ++ blanks ∧
      Text.isAllBlank blanks ∧ (∀ c ∈ shown.toList.getLast?, Text.isBlank c = false) ∧
      (driver sql source).message = "Error while executing: " ++
        (shown ++ (if kept = sql then "" else "...") ++ "\n") ++ source.message := by
  constructor
  · obtain ⟨hlongest, hmarked⟩ := Text.isLongestWithin_cut max text
    exact ⟨_, _, Text.truncate?_eq_cut text max, rfl, hlongest, hmarked⟩
  · obtain ⟨hlongest, hmarked⟩ := Text.isLongestWithin_cut 497 sql
    obtain ⟨blanks, hparts, hblank, hends⟩ := Text.exists_trimEnd_append (Text.cut sql 497).1
    refine ⟨_, _, blanks, hlongest, hparts, hblank, hends, ?_⟩
    rw [message_driver, quotedSql_eq]
    by_cases hwhole : (Text.cut sql 497).1 = sql
    · have hunmarked : (Text.cut sql 497).2 = false := by
        rw [← Bool.not_eq_true, hmarked, not_not]
        exact hwhole
      rw [if_pos hwhole, hunmarked, if_neg Bool.false_ne_true]
    · rw [if_neg hwhole, hmarked.mpr hwhole, if_pos rfl]

end Error

end TypedSql
