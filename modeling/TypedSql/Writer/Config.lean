import TypedSql.Text.Blank
import TypedSql.Text.Cut
import TypedSql.Writer.Keywords

namespace TypedSql

/-! What a store says about itself, and the rules of writing that follow from it. -/

inductive IdentifierCase where
  | upper | lower | mixed
deriving DecidableEq, Repr

structure StoreMetadata where
  product : String := ""
  version : String := ""
  keywords : List String := []
  quote : String := "\""
  identifierCase : IdentifierCase := .mixed
deriving DecidableEq, Repr

inductive KeywordCasing where
  | upper | lower
deriving DecidableEq, Repr

namespace KeywordCasing

/-- The character as the casing writes it in a keyword; only ASCII letters change. -/
def apply : KeywordCasing → Char → Char
  | upper, c => c.toUpper
  | lower, c => c.toLower

theorem apply_eq_or_isAlpha (casing : KeywordCasing) (c : Char) :
    casing.apply c = c ∨ (casing.apply c).isAlpha := by
  cases casing with
  | upper =>
      by_cases h : 'a'.val ≤ c.val ∧ c.val ≤ 'z'.val
      · right
        have hlow : 97 ≤ c.val.toNat := h.1
        have hhigh : c.val.toNat ≤ 122 := h.2
        have hshifted : c.toUpper.val.toNat = c.val.toNat - 32 := by
          delta Char.toUpper
          simp only [dif_pos h, UInt32.toNat_add]
          have : ('A'.val - 'a'.val).toNat = 4294967264 := rfl
          omega
        have hupper : c.toUpper.isUpper := by
          refine decide_eq_true ?_
          simp only [ge_iff_le, UInt32.le_iff_toNat_le, hshifted]
          have : 'A'.val.toNat = 65 := rfl
          have : 'Z'.val.toNat = 90 := rfl
          omega
        exact (Bool.or_eq_true _ _).mpr (.inl hupper)
      · exact .inl (dif_neg h)
  | lower =>
      by_cases h : c.val ≥ 'A'.val ∧ c.val ≤ 'Z'.val
      · right
        have hlow : 65 ≤ c.val.toNat := h.1
        have hhigh : c.val.toNat ≤ 90 := h.2
        have hshifted : c.toLower.val.toNat = c.val.toNat + 32 := by
          delta Char.toLower
          simp only [dif_pos h, UInt32.toNat_add]
          have : ('a'.val - 'A'.val).toNat = 32 := rfl
          omega
        have hlower : c.toLower.isLower := by
          refine (Bool.and_eq_true _ _).mpr ?_
          simp only [decide_eq_true_eq, ge_iff_le, UInt32.le_iff_toNat_le, hshifted]
          have : 'a'.val.toNat = 97 := rfl
          have : 'z'.val.toNat = 122 := rfl
          omega
        exact (Bool.or_eq_true _ _).mpr (.inr hlower)
      · exact .inl (dif_neg h)

end KeywordCasing

structure WriterConfig where
  keywords : List String := reservedKeywords []
  casing : KeywordCasing := .upper
  quote : String := "\""
  alwaysQuote : Bool := false
  identifierCase : IdentifierCase := .mixed
deriving DecidableEq, Repr

namespace WriterConfig

def ofMetadata (m : StoreMetadata) : WriterConfig where
  keywords := reservedKeywords m.keywords
  casing := if m.identifierCase = .upper then .upper else .lower
  quote := if Text.isAllBlank m.quote then "\"" else Text.trim m.quote
  alwaysQuote := false
  identifierCase := m.identifierCase

end WriterConfig

private def startsPlain (c : Char) : Bool := c.isAlpha || c == '_'

private def staysPlain (c : Char) : Bool := c.isAlphanum || c == '_'

/-- Whether a name is an ASCII letter or underscore followed by letters, digits and underscores. -/
def isPlainIdentifier (name : String) : Bool :=
  match name.toList with
  | [] => false
  | c :: cs => startsPlain c && cs.all staysPlain

theorem all_of_isPlainIdentifier {name : String} (h : isPlainIdentifier name) :
    name.toList.all fun c => c.isAlphanum || c == '_' := by
  unfold isPlainIdentifier at h
  split at h
  · contradiction
  · rename_i c cs heq
    simp only [startsPlain, Bool.and_eq_true] at h
    rw [heq, List.all_cons, Bool.and_eq_true]
    refine ⟨?_, h.2⟩
    rcases Bool.or_eq_true _ _ ▸ h.1 with hletter | hunderscore
    · simp [Char.isAlphanum, hletter]
    · simp [hunderscore]

namespace WriterConfig

/-- Whether a name has to be quoted to be read back as it is.  Names that get past the first test
are ASCII, so folding their ASCII letters folds them altogether. -/
def shouldQuote (config : WriterConfig) (name : String) : Bool :=
  config.alwaysQuote || !isPlainIdentifier name
    || config.keywords.contains (Text.asciiLowercase name)
    || (name.toList.any Char.isUpper && name.toList.any Char.isLower
        && config.identifierCase ≠ .mixed)

def quotedName (config : WriterConfig) (name : String) : List Char :=
  let quote := config.quote.toList
  quote ++ Text.replace name.toList quote (quote ++ quote) ++ quote

def nameText (config : WriterConfig) (name : String) : List Char :=
  if config.shouldQuote name then config.quotedName name else name.toList

end WriterConfig

end TypedSql
