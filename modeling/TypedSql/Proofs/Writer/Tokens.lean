import TypedSql.Proofs.Writer.Phrase

namespace TypedSql

/-! The tokens that a printed phrase is read as.  Quoted names and quoted literals are read as one
region each, with the contents that were meant, and nothing else opens a region. -/

namespace WriterConfig

/-- Whether names are quoted as in one of the dialects: in double quotes or in backticks. -/
def HasNameQuote (config : WriterConfig) : Prop :=
  config.quote = "\"" ∨ config.quote = "\x60"

instance (config : WriterConfig) : Decidable config.HasNameQuote :=
  inferInstanceAs (Decidable (_ ∨ _))

def quoteChar (config : WriterConfig) : Char :=
  config.quote.toList.headD '"'

variable {config : WriterConfig}

namespace HasNameQuote

theorem toList_quote (h : config.HasNameQuote) : config.quote.toList = [config.quoteChar] := by
  rcases h with h | h <;> simp [quoteChar, h]

theorem isQuote_quoteChar (h : config.HasNameQuote) : Sql.isQuote config.quoteChar := by
  rcases h with h | h <;> simp [quoteChar, h, Sql.isQuote]

theorem quote_ne_empty (h : config.HasNameQuote) : config.quote ≠ "" := by
  rcases h with h | h <;> simp [h]

theorem quotedName_eq (h : config.HasNameQuote) (name : String) :
    config.quotedName name = Sql.enclosed config.quoteChar name.toList := by
  simp only [quotedName, h.toList_quote, List.singleton_append, Sql.replace_eq_doubled]
  rfl

end HasNameQuote

theorem all_plain_of_shouldQuote {name : String} (h : config.shouldQuote name = false) :
    name.toList.all fun c => c.isAlphanum || c == '_' := by
  simp only [shouldQuote, Bool.or_eq_false_iff, Bool.not_eq_false'] at h
  obtain ⟨⟨⟨-, hplain⟩, -⟩, -⟩ := h
  exact all_of_isPlainIdentifier hplain

theorem all_isInert_of_shouldQuote {name : String} (h : config.shouldQuote name = false) :
    name.toList.all isInert := by
  rw [List.all_eq_true]
  intro c hc
  have hhere := List.all_eq_true.mp (all_plain_of_shouldQuote h) c hc
  rcases Bool.or_eq_true _ _ ▸ hhere with halphanumeric | hunderscore
  · exact isInert_of_isAlphanum halphanumeric
  · rw [eq_of_beq hunderscore]
    rfl

end WriterConfig

namespace KeywordCasing

theorem apply_of_isAlpha {p : Char → Bool} (hletters : ∀ c, c.isAlpha → p c)
    (casing : KeywordCasing) {c : Char} (h : p c) : p (casing.apply c) := by
  rcases casing.apply_eq_or_isAlpha c with hunchanged | hletter
  · rwa [hunchanged]
  · exact hletters _ hletter

end KeywordCasing

namespace Piece

theorem parameters_append (a b : List Piece) : parameters (a ++ b) = parameters a ++ parameters b :=
  List.filterMap_append

theorem parameters_cons (p : Piece) (ps : List Piece) :
    parameters (p :: ps) = parameters [p] ++ parameters ps :=
  parameters_append [p] ps

theorem count_step (p : Piece) (count : Nat) :
    (if p.parameter?.isSome then count + 1 else count) = count + (parameters [p]).length := by
  cases p <;> rfl

end Piece

namespace Writer

def pieceTokens (w : Writer) (count : Nat) : Piece → List Sql.Token
  | .word text => (text.toList.map w.config.casing.apply).map .char
  | .symbol text | .verbatim text => text.toList.map .char
  | .name text =>
      if w.config.shouldQuote text then [.region w.config.quoteChar text.toList]
      else text.toList.map .char
  | .quoted body => [.region '\'' body.toList]
  | .placeholder _ => (w.placeholderText count).map .char

def tokens (w : Writer) : Nat → List Piece → List Sql.Token
  | _, [] => []
  | count, p :: ps =>
      w.pieceTokens count p ++ w.tokens (if p.parameter?.isSome then count + 1 else count) ps

variable {w : Writer}

theorem print_cons (count : Nat) (p : Piece) (ps : List Piece) :
    w.print count (p :: ps) =
      w.pieceText count p ++ w.print (count + (Piece.parameters [p]).length) ps := by
  rw [print, Piece.count_step]

theorem print_append (count : Nat) (a b : List Piece) :
    w.print count (a ++ b) =
      w.print count a ++ w.print (count + (Piece.parameters a).length) b := by
  induction a generalizing count with
  | nil => rfl
  | cons p ps ih =>
      rw [List.cons_append, print_cons, print_cons, ih, Piece.parameters_cons p ps,
        List.length_append, Nat.add_assoc, List.append_assoc]

theorem tokens_cons (count : Nat) (p : Piece) (ps : List Piece) :
    w.tokens count (p :: ps) =
      w.pieceTokens count p ++ w.tokens (count + (Piece.parameters [p]).length) ps := by
  rw [tokens, Piece.count_step]

theorem tokens_append (count : Nat) (a b : List Piece) :
    w.tokens count (a ++ b) =
      w.tokens count a ++ w.tokens (count + (Piece.parameters a).length) b := by
  induction a generalizing count with
  | nil => rfl
  | cons p ps ih =>
      rw [List.cons_append, tokens_cons, tokens_cons, ih, Piece.parameters_cons p ps,
        List.length_append, Nat.add_assoc, List.append_assoc]

/-- Pieces that begin with a delimiter print one first, and so does what is behind them if they
print nothing. -/
theorem head?_print_append {ps : List Piece} (h : Piece.AreDelimited ps) (count : Nat)
    {rest : List Char} (hrest : ∀ c ∈ rest.head?, isDelimiter c) :
    ∀ c ∈ (w.print count ps ++ rest).head?, isDelimiter c := by
  obtain rfl | ⟨text, behind, c, cs, rfl, hchars, hdelimiter⟩ := h.eq_nil_or_symbol
  · exact hrest
  · simpa [print, pieceText, hchars] using hdelimiter

theorem isQuote_eq_false_of_isInert {c : Char} (h : isInert c) : Sql.isQuote c = false := by
  simp only [isInert, Bool.and_eq_true, Bool.not_eq_true'] at h
  obtain ⟨⟨⟨⟨hquote, -⟩, -⟩, -⟩, -⟩ := h
  exact hquote

theorem all_not_isQuote {text : List Char} (h : text.all isInert) :
    text.all fun c => !Sql.isQuote c := by
  rw [List.all_eq_true] at h ⊢
  intro c hc
  rw [isQuote_eq_false_of_isInert (h c hc)]
  rfl

theorem all_not_isQuote_placeholderText (count : Nat) :
    (w.placeholderText count).all fun c => !Sql.isQuote c := by
  cases hdialect : w.dialect with
  | postgres =>
      simp only [placeholderText, hdialect, List.all_cons, Bool.and_eq_true]
      refine ⟨rfl, all_not_isQuote (List.all_eq_true.mpr fun c hc => ?_)⟩
      have hdigit : c.isDigit := Nat.isDigit_of_mem_toDigits (by decide) (by decide) hc
      exact isInert_of_isAlphanum (by simp [Char.isAlphanum, hdigit])
  | _ => simp [placeholderText, hdialect, Sql.isQuote]

variable (hquote : w.config.HasNameQuote)

include hquote

theorem readsAs_atom {p : Piece} (hp : p.isAtom) (count : Nat) {rest : List Char}
    (hrest : ∀ c ∈ rest.head?, isDelimiter c) :
    Sql.ReadsAs (w.pieceText count p) (w.pieceTokens count p) rest := by
  have hnotQuote {q : Char} (hq : Sql.isQuote q) : rest.head? ≠ some q := by
    intro h
    have hdelimiter := hrest q h
    simp only [Sql.isQuote, Bool.or_eq_true, beq_iff_eq] at hq
    rcases hq with (rfl | rfl) | rfl <;> contradiction
  cases p with
  | name text =>
      simp only [pieceText, pieceTokens, WriterConfig.nameText]
      cases hquoted : w.config.shouldQuote text with
      | true =>
          simp only [if_true, hquote.quotedName_eq]
          exact Sql.readsAs_enclosed hquote.isQuote_quoteChar _ (hnotQuote hquote.isQuote_quoteChar)
      | false =>
          simp only [Bool.false_eq_true, if_false]
          have hinert := WriterConfig.all_isInert_of_shouldQuote hquoted
          exact Sql.readsAs_chars (all_not_isQuote hinert) rest
  | quoted body =>
      have henclosed : w.pieceText count (.quoted body) = Sql.enclosed '\'' body.toList := by
        simp only [pieceText, quotedText, Sql.replace_eq_doubled]
        rfl
      rw [henclosed]
      exact Sql.readsAs_enclosed rfl _ (hnotQuote rfl)
  | placeholder parameter => exact Sql.readsAs_chars (all_not_isQuote_placeholderText count) rest
  | _ => contradiction

/-- A printed phrase is read as its tokens before a delimiter or the end. -/
theorem readsAs_print {ok : Char → Bool} (hok : ∀ c, ok c → Sql.isQuote c = false)
    (hletters : ∀ c, c.isAlpha → ok c) {ps : List Piece} (hps : Phrase ok ps) (count : Nat)
    {rest : List Char} (hrest : ∀ c ∈ rest.head?, isDelimiter c) :
    Sql.ReadsAs (w.print count ps) (w.tokens count ps) rest := by
  induction hps generalizing count rest with
  | nil => exact Sql.readsAs_nil rest
  | @word text ps hchars _ ih =>
      rw [print_cons, tokens_cons]
      refine Sql.ReadsAs.append (Sql.readsAs_chars ?_ _) (ih _ hrest)
      simp only [pieceText, List.all_map, List.all_eq_true, Function.comp_apply] at hchars ⊢
      intro c hc
      rw [hok _ (w.config.casing.apply_of_isAlpha hletters (hchars c hc))]
      rfl
  | @symbol text ps hchars _ ih =>
      rw [print_cons, tokens_cons]
      exact Sql.ReadsAs.append (Sql.readsAs_chars (all_not_isQuote hchars) _) (ih _ hrest)
  | @atom p ps hisAtom hdelimited _ ih =>
      rw [print_cons, tokens_cons]
      exact Sql.ReadsAs.append
        (readsAs_atom hquote hisAtom count (head?_print_append hdelimited _ hrest)) (ih _ hrest)
  | @parens left right inner ps hopens _ hcloses _ ihBody ihRest =>
      have hleft : left.toList.all fun c => !Sql.isQuote c := by
        rcases hopens with rfl | rfl <;> rfl
      have hright : right.toList.all fun c => !Sql.isQuote c := by
        rcases hcloses with rfl | rfl <;> rfl
      have hclosing : Piece.AreDelimited (.symbol right :: ps) :=
        Piece.areDelimited_cons (by rcases hcloses with rfl | rfl <;> rfl) ps
      rw [print_cons, print_append, tokens_cons, tokens_append]
      refine Sql.ReadsAs.append (Sql.readsAs_chars hleft _) ?_
      refine Sql.ReadsAs.append (ihBody _ (head?_print_append hclosing _ hrest)) ?_
      rw [print_cons, tokens_cons]
      exact Sql.ReadsAs.append (Sql.readsAs_chars hright _) (ihRest _ hrest)

theorem lex_print {ok : Char → Bool} (hok : ∀ c, ok c → Sql.isQuote c = false)
    (hletters : ∀ c, c.isAlpha → ok c) {ps : List Piece} (hps : Phrase ok ps) (count : Nat) :
    Sql.lex (w.print count ps) = some (w.tokens count ps) := by
  have hwhole : Sql.ReadsAs (w.print count ps) (w.tokens count ps) [] :=
    readsAs_print hquote hok hletters hps count (by simp)
  simpa [Sql.ReadsAs, Sql.lex, Sql.lexFrom] using hwhole

end Writer

end TypedSql
