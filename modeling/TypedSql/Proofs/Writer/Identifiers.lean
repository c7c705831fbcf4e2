import Mathlib
import TypedSql.Database.Settings
import TypedSql.Proofs.Writer.Tokens

namespace TypedSql

/-! Reading a name back.  A store takes the two quotes around a quoted name away and folds the
letters of a bare one; a bare name it can read is plain and no reserved word, in whatever case the
word was declared. -/

namespace Sql

/-- What a quoted name stands for when its opening quote has been read.  Two quotes stand for one,
and a quote that stands alone has to be the last character. -/
def undoubled? (quote : Char) : List Char → Option (List Char)
  | [] => none
  | [c] => if c = quote then some [] else none
  | c :: d :: cs =>
      if c = quote then (if d = quote then (undoubled? quote cs).map (quote :: ·) else none)
      else (undoubled? quote (d :: cs)).map (c :: ·)

theorem undoubled?_cons {quote c : Char} (h : c ≠ quote) (cs : List Char) :
    undoubled? quote (c :: cs) = (undoubled? quote cs).map (c :: ·) := by
  cases cs with
  | nil => simp [undoubled?, h]
  | cons d cs => simp [undoubled?, h]

theorem undoubled?_doubled (quote : Char) (text : List Char) :
    undoubled? quote (doubled quote text ++ [quote]) = some text := by
  induction text with
  | nil => simp [doubled, undoubled?]
  | cons c cs ih =>
      have hstep : doubled quote (c :: cs) ++ [quote] =
          (if c = quote then [quote, quote] else [c]) ++ (doubled quote cs ++ [quote]) := by
        simp [doubled]
      rw [hstep]
      by_cases h : c = quote
      · simp [undoubled?, h, ih]
      · simp [h, undoubled?_cons h, ih]

/-- A letter or an underscore with letters, digits and underscores behind it. -/
def isBareName : List Char → Bool
  | [] => false
  | c :: cs => (c.isAlpha || c == '_') && cs.all fun c => c.isAlphanum || c == '_'

theorem isBareName_toList (name : String) : isBareName name.toList = isPlainIdentifier name := by
  unfold isPlainIdentifier
  cases name.toList with
  | nil => rfl
  | cons c cs => rfl

end Sql

namespace IdentifierCase

def fold : IdentifierCase → List Char → List Char
  | upper, text => text.map Char.toUpper
  | lower, text => text.map Char.toLower
  | mixed, text => text

/-- The name a text stands for, none if it stands for no name. -/
def readName? (case : IdentifierCase) (quote : Char) (reserved : List String) (text : List Char) :
    Option (List Char) :=
  if text.head? = some quote then Sql.undoubled? quote text.tail
  else if Sql.isBareName text ∧ ∀ word ∈ reserved, word.toList.map Char.toLower ≠
      text.map Char.toLower then some (case.fold text)
  else none

theorem map_toLower_fold (case : IdentifierCase) (text : List Char) :
    (case.fold text).map Char.toLower = text.map Char.toLower := by
  cases case <;> simp [fold, Function.comp_def]

end IdentifierCase

namespace Text

theorem toNat_lt_of_isPlain {c : Char} (h : c.isAlphanum || c == '_') : c.toNat < 128 := by
  simp only [Char.isAlphanum, Char.isAlpha, Char.isUpper, Char.isLower, Char.isDigit,
    Bool.or_eq_true, Bool.and_eq_true, decide_eq_true_eq, UInt32.le_iff_toNat_le, ge_iff_le,
    beq_iff_eq] at h
  have hvalue : c.toNat = c.val.toNat := rfl
  have : 'Z'.val.toNat = 90 := rfl
  have : 'z'.val.toNat = 122 := rfl
  have : '9'.val.toNat = 57 := rfl
  rcases h with ((hupper | hlower) | hdigit) | rfl
  · omega
  · omega
  · omega
  · decide

theorem toNat_toLower_lt_iff (c : Char) : c.toLower.toNat < 128 ↔ c.toNat < 128 := by
  by_cases hupper : c.isUpper
  · have hbound : c.toNat ≤ 90 := by
      simp only [Char.isUpper, decide_eq_true_eq, ge_iff_le] at hupper
      exact hupper.2
    have hvalid : (c.toNat + 32).isValidChar := .inl (by omega)
    rw [Char.toLower_eq_of_isUpper hupper, Char.toNat_ofNat, if_pos hvalid]
    omega
  · rw [Char.toLower_eq_of_not_isUpper hupper]

end Text

/-- The words that a database does not let stand bare, as they were declared. -/
def DatabaseOptions.reservedWords (o : DatabaseOptions) (m : StoreMetadata) : List String :=
  standardKeywords ++ (m.keywords ++ o.keywords)

theorem asciiLowercase_of_mem_standardKeywords {word : String} (hmem : word ∈ standardKeywords) :
    Text.asciiLowercase word = word := by
  have hsmall : ∀ word ∈ standardKeywords, word.toList.all fun c => !c.isUpper := by
    decide +kernel
  have hunchanged : word.toList.map Char.toLower = word.toList := by
    refine (List.map_congr_left fun c hc => ?_).trans (List.map_id _)
    have hnoCapital := List.all_eq_true.mp (hsmall word hmem) c hc
    exact Char.toLower_eq_of_not_isUpper (by simpa using hnoCapital)
  rw [Text.asciiLowercase, hunchanged, String.ofList_toList]

/-- A plain name that is a reserved word up to the case of its letters is found among the folded
words, though these are folded beyond ASCII. -/
theorem contains_reservedKeywords {extra : List String} {word name : String}
    (hplain : ∀ c ∈ name.toList, c.toNat < 128) (hmem : word ∈ standardKeywords ++ extra)
    (hsame : Text.asciiLowercase word = Text.asciiLowercase name) :
    (reservedKeywords extra).contains (Text.asciiLowercase name) := by
  rw [List.contains_iff_mem, reservedKeywords, List.mem_append, ← hsame]
  rcases List.mem_append.mp hmem with hstandard | hdeclared
  · left
    rwa [asciiLowercase_of_mem_standardKeywords hstandard]
  · right
    refine List.mem_map.mpr ⟨word, hdeclared, Text.lowercase_of_lt fun c hc => ?_⟩
    have hletters : word.toList.map Char.toLower = name.toList.map Char.toLower :=
      String.ofList_injective hsame
    have hthere : c.toLower ∈ name.toList.map Char.toLower :=
      hletters ▸ List.mem_map_of_mem hc
    obtain ⟨d, hd, hfolded⟩ := List.mem_map.mp hthere
    rw [← Text.toNat_toLower_lt_iff, ← hfolded, Text.toNat_toLower_lt_iff]
    exact hplain d hd

namespace WriterConfig

variable {config : WriterConfig} {quote : Char}

theorem nameText_of_shouldQuote {name : String} (h : config.shouldQuote name = false) :
    config.nameText name = name.toList := by
  simp [nameText, h]

theorem quotedName_of_single (h : config.quote = String.singleton quote) (name : String) :
    config.quotedName name = Sql.enclosed quote name.toList := by
  simp only [quotedName, h, String.toList_singleton, List.singleton_append,
    Sql.replace_eq_doubled]
  rfl

theorem not_mixed_of_shouldQuote {name : String} (h : config.shouldQuote name = false)
    (hfolds : config.identifierCase ≠ .mixed) :
    ¬(name.toList.any Char.isUpper ∧ name.toList.any Char.isLower) := by
  rintro ⟨hupper, hlower⟩
  simp [shouldQuote, hupper, hlower, hfolds] at h

section

variable {m : StoreMetadata} {o : DatabaseOptions}
  (hkeywords : config.keywords = (o.config m).keywords)
  (hsingle : config.quote = String.singleton quote)
  (hapart : (quote.isAlphanum || quote == '_') = false)

include hkeywords in
theorem not_reserved_of_shouldQuote {name : String} (h : config.shouldQuote name = false) :
    ∀ word ∈ o.reservedWords m,
      word.toList.map Char.toLower ≠ name.toList.map Char.toLower := by
  intro word hmem hsame
  have hascii : ∀ c ∈ name.toList, c.toNat < 128 := fun c hc =>
    Text.toNat_lt_of_isPlain (List.all_eq_true.mp (all_plain_of_shouldQuote h) c hc)
  have hreserved : config.keywords.contains (Text.asciiLowercase name) := by
    rw [hkeywords]
    exact contains_reservedKeywords hascii hmem (congrArg String.ofList hsame)
  simp [shouldQuote, List.contains_iff_mem.mp hreserved] at h

include hapart in
theorem head?_ne_of_shouldQuote {name : String} (h : config.shouldQuote name = false) :
    (config.nameText name).head? ≠ some quote := by
  rw [nameText_of_shouldQuote h]
  intro hfirst
  have hplain := List.all_eq_true.mp (all_plain_of_shouldQuote h) quote
    (List.mem_of_mem_head? hfirst)
  rw [hapart] at hplain
  contradiction

include hsingle in
theorem readName?_quoted (reserved : List String) {name : String} (h : config.shouldQuote name) :
    config.identifierCase.readName? quote reserved (config.nameText name) = some name.toList := by
  rw [nameText, if_pos h, quotedName_of_single hsingle]
  simp [IdentifierCase.readName?, Sql.enclosed, Sql.undoubled?_doubled]

include hkeywords hapart in
theorem readName?_bare {name : String} (h : config.shouldQuote name = false) :
    config.identifierCase.readName? quote (o.reservedWords m) (config.nameText name) =
      some (config.identifierCase.fold name.toList) := by
  have hplain : Sql.isBareName name.toList := by
    rw [Sql.isBareName_toList]
    simp only [shouldQuote, Bool.or_eq_false_iff, Bool.not_eq_false'] at h
    obtain ⟨⟨⟨-, hplain⟩, -⟩, -⟩ := h
    exact hplain
  rw [IdentifierCase.readName?, if_neg (head?_ne_of_shouldQuote hapart h),
    nameText_of_shouldQuote h, if_pos ⟨hplain, not_reserved_of_shouldQuote hkeywords h⟩]

end

end WriterConfig

/-- Whatever the name, a store reads the name back from what is written: the very name if the text
is quoted or the store keeps cases apart, else the name but for the case of its letters, which are
all of one case then. -/
theorem WriterConfig.name_readBack {config : WriterConfig} {quote : Char} {m : StoreMetadata}
    {o : DatabaseOptions} (hkeywords : config.keywords = (o.config m).keywords)
    (hsingle : config.quote = String.singleton quote)
    (hapart : (quote.isAlphanum || quote == '_') = false) (name : String) :
    ∃ read, config.identifierCase.readName? quote (o.reservedWords m) (config.nameText name) =
        some read ∧
      read.map Char.toLower = name.toList.map Char.toLower ∧
      ((config.nameText name).head? = some quote ∨ config.identifierCase = .mixed ∨
          (name.toList.any Char.isUpper ∧ name.toList.any Char.isLower) →
        read = name.toList) := by
  cases hquoted : config.shouldQuote name with
  | true => exact ⟨name.toList, readName?_quoted hsingle _ hquoted, rfl, fun _ => rfl⟩
  | false =>
      refine ⟨config.identifierCase.fold name.toList, readName?_bare hkeywords hapart hquoted,
        IdentifierCase.map_toLower_fold _ _, ?_⟩
      rintro (hfirst | hsame | hmixed)
      · exact absurd hfirst (head?_ne_of_shouldQuote hapart hquoted)
      · rw [hsame]
        rfl
      · by_cases hsame : config.identifierCase = .mixed
        · rw [hsame]
          rfl
        · exact absurd hmixed (not_mixed_of_shouldQuote hquoted hsame)

/-- A word that the builder of a database has added is quoted in any case, and a name that is left
bare comes back in the case of the store. -/
theorem WriterConfig.vacuum_readBack :
    let m : StoreMetadata := { keywords := ["PRAGMA"], quote := "|", identifierCase := .upper }
    let o : DatabaseOptions := { keywords := ["Vacuum"] }
    let read? := IdentifierCase.readName? .upper '|' (o.reservedWords m)
    ((o.config m).nameText "vacuum" = "|vacuum|".toList ∧
        read? "|vacuum|".toList = some "vacuum".toList) ∧
      (o.config m).nameText "vacuums" = "vacuums".toList ∧
        ∃ read, read? "vacuums".toList = some read ∧ read.map Char.toLower = "vacuums".toList := by
  intro m o read?
  have hsingle : (o.config m).quote = String.singleton '|' := by decide +kernel
  have hquoted : (o.config m).nameText "vacuum" = "|vacuum|".toList := by decide +kernel
  have hbare : (o.config m).nameText "vacuums" = "vacuums".toList := by decide +kernel
  obtain ⟨read, hback, -, hexact⟩ :=
    WriterConfig.name_readBack (m := m) (o := o) rfl hsingle (by decide) "vacuum"
  obtain rfl : read = "vacuum".toList := hexact (.inl (by rw [hquoted]; rfl))
  obtain ⟨read, hback', hfolded, -⟩ :=
    WriterConfig.name_readBack (m := m) (o := o) rfl hsingle (by decide) "vacuums"
  exact ⟨⟨hquoted, hquoted ▸ hback⟩, hbare, read, hbare ▸ hback', hfolded⟩

end TypedSql
