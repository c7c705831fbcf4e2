import TypedSql.Proofs.Writer.Grammar
import TypedSql.Proofs.Writer.Parameters

namespace TypedSql

/-! The placeholders that a reader finds in the text of a statement, and the parameters that the
statement is sent with. -/

namespace Dialect

def placeholders (d : Dialect) (n : Nat) : List (List Char) :=
  match d with
  | .postgres => (List.range n).map fun i => '$' :: (toString (i + 1)).toList
  | _ => List.replicate n ['?']

end Dialect

namespace Sql

variable {text : List Char}

def isNoMarker (c : Char) : Bool :=
  !isQuote c && c != '?' && c != '$'

theorem isNoMarker_of_isInert {c : Char} (h : isInert c) : isNoMarker c := by
  simp only [isInert, Bool.and_eq_true] at h
  simp only [isNoMarker, Bool.and_eq_true]
  obtain ⟨⟨hunmarked, -⟩, -⟩ := h
  exact hunmarked

theorem isQuote_of_isNoMarker {c : Char} (h : isNoMarker c) : isQuote c = false := by
  simp only [isNoMarker, Bool.and_eq_true, Bool.not_eq_true'] at h
  obtain ⟨⟨hquote, -⟩, -⟩ := h
  exact hquote

theorem placeholders_plain (h : text.all isNoMarker) (ts : List Token) :
    placeholders (text.map .char ++ ts) = placeholders ts := by
  refine placeholders_chars (fun c hc => ?_) ts
  have hplain := List.all_eq_true.mp h c hc
  simp only [isNoMarker, Bool.and_eq_true, bne_iff_ne] at hplain
  obtain ⟨⟨-, hmark⟩, hdollar⟩ := hplain
  exact ⟨hmark, hdollar⟩

theorem placeholders_inert (h : text.all isInert) (ts : List Token) :
    placeholders (text.map .char ++ ts) = placeholders ts := by
  refine placeholders_plain (List.all_eq_true.mpr fun c hc => ?_) ts
  exact isNoMarker_of_isInert (List.all_eq_true.mp h c hc)

end Sql

namespace Writer

variable {w : Writer}

theorem leadingDigits_tokens {ps : List Piece} (h : Piece.AreDelimited ps) (count : Nat)
    {ts : List Sql.Token} (hend : Sql.leadingDigits ts = []) :
    Sql.leadingDigits (w.tokens count ps ++ ts) = [] := by
  obtain rfl | ⟨text, behind, c, cs, rfl, hchars, hdelimiter⟩ := h.eq_nil_or_symbol
  · exact hend
  · have hnotDigit : c.isDigit = false := by
      simp only [isDelimiter, Bool.or_eq_true, beq_iff_eq] at hdelimiter
      rcases hdelimiter with ((rfl | rfl) | rfl) | rfl <;> rfl
    simp [tokens, pieceTokens, hchars, Sql.leadingDigits, hnotDigit]

theorem placeholders_placeholderText (count : Nat) {ts : List Sql.Token}
    (hend : Sql.leadingDigits ts = []) :
    Sql.placeholders ((w.placeholderText count).map .char ++ ts) =
      w.placeholderText count :: Sql.placeholders ts := by
  cases hdialect : w.dialect with
  | postgres =>
      simp only [placeholderText, hdialect]
      refine Sql.placeholders_numbered (fun c hc => ?_) hend
      exact Nat.isDigit_of_mem_toDigits (by decide) (by decide) hc
  | _ => simp [placeholderText, hdialect, Sql.placeholders]

theorem placeholders_tokens {ok : Char → Bool} (hok : ∀ c, ok c → Sql.isNoMarker c)
    (hletters : ∀ c, c.isAlpha → ok c) {ps : List Piece} (hps : Phrase ok ps) (count : Nat)
    {ts : List Sql.Token} (hend : Sql.leadingDigits ts = []) :
    Sql.placeholders (w.tokens count ps ++ ts) =
      (List.range' count (Piece.parameters ps).length).map w.placeholderText ++
        Sql.placeholders ts := by
  induction hps generalizing count ts with
  | nil => rfl
  | @word text ps hchars _ ih =>
      have hplain : (text.toList.map w.config.casing.apply).all Sql.isNoMarker := by
        simp only [List.all_map, List.all_eq_true, Function.comp_apply] at hchars ⊢
        exact fun c hc => hok _ (w.config.casing.apply_of_isAlpha hletters (hchars c hc))
      rw [tokens_cons, List.append_assoc, pieceTokens, Sql.placeholders_plain hplain, ih _ hend]
      rfl
  | @symbol text ps hchars _ ih =>
      rw [tokens_cons, List.append_assoc, pieceTokens, Sql.placeholders_inert hchars, ih _ hend]
      rfl
  | @atom p ps hisAtom hdelimited _ ih =>
      have hrest := ih (count + (Piece.parameters [p]).length) hend
      rw [tokens_cons, List.append_assoc]
      cases p with
      | name text =>
          simp only [pieceTokens]
          cases hquoted : w.config.shouldQuote text with
          | true => exact hrest
          | false =>
              have hplain := WriterConfig.all_isInert_of_shouldQuote hquoted
              simp only [Bool.false_eq_true, if_false]
              rw [Sql.placeholders_inert hplain, hrest]
              rfl
      | quoted body => exact hrest
      | placeholder parameter =>
          have hbehind := leadingDigits_tokens (w := w) hdelimited
            (count + (Piece.parameters [.placeholder parameter]).length) hend
          rw [pieceTokens, placeholders_placeholderText count hbehind, hrest]
          rfl
      | _ => contradiction
  | @parens left right inner ps hopens _ hcloses _ ihBody ihRest =>
      have hleft : left.toList.all Sql.isNoMarker := by
        rcases hopens with rfl | rfl <;> rfl
      have hright : right.toList.all Sql.isNoMarker := by
        rcases hcloses with rfl | rfl <;> rfl
      have hclosing : Piece.AreDelimited (.symbol right :: ps) :=
        Piece.areDelimited_cons (by rcases hcloses with rfl | rfl <;> rfl) ps
      have hbehind (n : Nat) : Sql.placeholders (w.tokens n (.symbol right :: ps) ++ ts) =
          (List.range' n (Piece.parameters ps).length).map w.placeholderText ++
            Sql.placeholders ts := by
        rw [tokens_cons, List.append_assoc, pieceTokens, Sql.placeholders_plain hright,
          ihRest _ hend]
        rfl
      have henclosedParameters : Piece.parameters (.symbol left :: (inner ++ .symbol right :: ps)) =
          Piece.parameters inner ++ Piece.parameters ps :=
        Piece.parameters_append inner (.symbol right :: ps)
      rw [tokens_cons, tokens_append, List.append_assoc, List.append_assoc, pieceTokens,
        Sql.placeholders_plain hleft, ihBody _ (leadingDigits_tokens hclosing _ hend), hbehind,
        henclosedParameters, List.length_append, ← List.range'_append_1, List.map_append,
        List.append_assoc]
      rfl

theorem placeholderTexts_eq (n : Nat) :
    (List.range' 0 n).map w.placeholderText = w.dialect.placeholders n := by
  rw [← List.range_eq_range']
  cases hdialect : w.dialect with
  | postgres =>
      apply List.map_congr_left
      intro i _
      simp only [placeholderText, hdialect, Nat.toString_eq_repr, Nat.toList_repr]
  | _ =>
      refine List.eq_replicate_iff.mpr ⟨by simp, fun text htext => ?_⟩
      obtain ⟨i, -, rfl⟩ := List.mem_map.mp htext
      simp only [placeholderText, hdialect]

end Writer

/-- The parameters of a compiled statement are those of its tree from left to right, and its text
has one placeholder for each of them: a question mark, or in one dialect its number. -/
theorem Statement.parameters_and_placeholders_of_compile {w : Writer} {s : Statement}
    {c : CompiledSql} (hquote : w.config.HasNameQuote) (hraw : s.isRaw = false)
    (hwords : ∀ word ∈ s.words, word.toList.all Sql.isNoMarker) (h : w.compile s = .ok c) :
    c.parameters = s.parameters w.dialect ∧
      ∃ ts, Sql.lex c.sql.toList = some ts ∧
        Sql.placeholders ts = w.dialect.placeholders c.parameters.length := by
  have hok : AllowsKeywords Sql.isNoMarker :=
    allowsKeywords_of_isInert fun _ => Sql.isNoMarker_of_isInert
  obtain ⟨ps, hphrase, hrendered, rfl⟩ :=
    Statement.phrase_of_compile hok hquote.quote_ne_empty hraw hwords h
  have hcarried := Statement.carries_render (w := w) hraw
  rw [hrendered] at hcarried
  have hread := Writer.lex_print hquote (fun _ => Sql.isQuote_of_isNoMarker) hok.letters hphrase 0
  have hfound : Sql.placeholders (w.tokens 0 ps ++ []) =
      (List.range' 0 (Piece.parameters ps).length).map w.placeholderText ++ Sql.placeholders [] :=
    Writer.placeholders_tokens (fun _ => id) hok.letters hphrase 0 rfl
  refine ⟨hcarried rfl, w.tokens 0 ps, ?_, ?_⟩
  · rw [String.toList_ofList, hread]
  · simpa [Sql.placeholders, Writer.placeholderTexts_eq] using hfound

def pagedStatement : Statement :=
  let t : TableRef := { name := "t" }
  let named : Expr := .column { table := t, name := "a?b", codec := .ofType .int64 }
  let page : Select := {
    items := [], source := some (.table t []), distinct := false, groupBy := [], having := none,
    filter := some (.binary ⟨named, false⟩ ⟨["="]⟩ ⟨.parameter (.ofRowCount 7), false⟩ none),
    orderBy := [], limit := some 1, offset := none }
  .select {
    items := [⟨.literal (.some (.varchar "it's $9")), some "$1?"⟩],
    source := some (.derived (.select page) "d"), filter := none, distinct := false,
    groupBy := [], having := none, orderBy := [], limit := some 2, offset := some 3 }

theorem parameters_and_placeholders_of_paged :
    ∃ c, Writer.compile ⟨.postgres, {}⟩ pagedStatement = .ok c ∧
      c.parameters = [.ofRowCount 7, .ofRowCount 1, .ofRowCount 2, .ofRowCount 3] ∧
      ∃ ts, Sql.lex c.sql.toList = some ts ∧
        Sql.placeholders ts = [['$', '1'], ['$', '2'], ['$', '3'], ['$', '4']] := by
  refine ⟨_, rfl, ?_⟩
  exact Statement.parameters_and_placeholders_of_compile (w := ⟨.postgres, {}⟩)
    (s := pagedStatement) (.inl rfl) rfl (by decide) rfl

end TypedSql
