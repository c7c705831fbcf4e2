import Mathlib
import TypedSql.Proofs.Writer.HandWritten
import TypedSql.Proofs.Writer.Injection
import TypedSql.Proofs.Writer.Vocabulary

namespace TypedSql

/-! The casing of keywords.  Another casing changes the case of the letters in keywords, operators
and names of functions, and nothing else of what a writer makes of a statement. -/

theorem KeywordCasing.toLower_apply (casing : KeywordCasing) (c : Char) :
    (casing.apply c).toLower = c.toLower := by
  cases casing with
  | upper => exact c.toLower_toUpper_eq_toLower
  | lower => exact c.toLower_toLower_eq_toLower

/-- Tokens that are the same but for the case of a letter outside the regions. -/
inductive Sql.Token.SameButCase : Sql.Token → Sql.Token → Prop
  | char {c d : Char} (h : c.toLower = d.toLower) : SameButCase (.char c) (.char d)
  | region (quote : Char) (body : List Char) :
      SameButCase (.region quote body) (.region quote body)

theorem Sql.Token.SameButCase.refl (t : Sql.Token) : t.SameButCase t := by
  cases t with
  | char c => exact .char rfl
  | region quote body => exact .region quote body

namespace Writer

def withCasing (w : Writer) (casing : KeywordCasing) : Writer :=
  { w with config := { w.config with casing } }

theorem of_withCasing (dialect : Dialect) (config : WriterConfig) (casing : KeywordCasing) :
    (Writer.of dialect config).withCasing casing = Writer.of dialect { config with casing } := by
  unfold Writer.of
  split
  · rfl
  · rfl

variable (w : Writer) (casing : KeywordCasing)

theorem pieceText_withCasing (count : Nat) (p : Piece) :
    (w.withCasing casing).pieceText count p = w.pieceText count p ∨ ∃ text, p = .word text := by
  cases p with
  | word text => exact .inr ⟨text, rfl⟩
  | _ => exact .inl rfl

theorem toLower_pieceText_withCasing (count : Nat) (p : Piece) :
    ((w.withCasing casing).pieceText count p).map Char.toLower =
      (w.pieceText count p).map Char.toLower := by
  obtain hsame | ⟨text, rfl⟩ := w.pieceText_withCasing casing count p
  · rw [hsame]
  · simp [pieceText, KeywordCasing.toLower_apply, Function.comp_def]

theorem toLower_print_withCasing (count : Nat) (ps : List Piece) :
    ((w.withCasing casing).print count ps).map Char.toLower =
      (w.print count ps).map Char.toLower := by
  induction ps generalizing count with
  | nil => rfl
  | cons p ps ih =>
      rw [print_cons, print_cons, List.map_append, List.map_append, ih,
        toLower_pieceText_withCasing]

theorem print_withCasing_of_no_word {ps : List Piece} (h : ∀ text, Piece.word text ∉ ps)
    (count : Nat) : (w.withCasing casing).print count ps = w.print count ps := by
  induction ps generalizing count with
  | nil => rfl
  | cons p ps ih =>
      rw [print_cons, print_cons, ih fun text hmem => h text (List.mem_cons_of_mem p hmem)]
      obtain hsame | ⟨text, rfl⟩ := w.pieceText_withCasing casing count p
      · rw [hsame]
      · exact absurd List.mem_cons_self (h text)

theorem pieceTokens_withCasing (count : Nat) (p : Piece) :
    List.Forall₂ Sql.Token.SameButCase (w.pieceTokens count p)
      ((w.withCasing casing).pieceTokens count p) := by
  cases p with
  | word text =>
      simp only [pieceTokens, List.forall₂_map_left_iff, List.forall₂_map_right_iff,
        List.forall₂_same]
      exact fun c _ => .char (by rw [KeywordCasing.toLower_apply, KeywordCasing.toLower_apply])
  | _ => exact List.forall₂_same.mpr fun t _ => .refl t

theorem tokens_withCasing (count : Nat) (ps : List Piece) :
    List.Forall₂ Sql.Token.SameButCase (w.tokens count ps)
      ((w.withCasing casing).tokens count ps) := by
  induction ps generalizing count with
  | nil => exact .nil
  | cons p ps ih =>
      rw [tokens_cons, tokens_cons]
      exact List.rel_append (w.pieceTokens_withCasing casing count p) (ih _)

theorem alike_withCasing : Alike Eq id w (w.withCasing casing) where
  ofPieces _ := rfl
  fail _ := rfl
  append hfirst hsecond := by rw [hfirst, hsecond]
  comma hfirst hsecond := by
    rw [hfirst, hsecond]
    rfl
  literal _ := rfl
  pagination _ _ := rfl

end Writer

namespace Statement

variable (s : Statement) (w : Writer) (casing : KeywordCasing)

theorem render_withCasing : s.render (w.withCasing casing) {} = s.render w {} := by
  cases hraw : s.isRaw with
  | true =>
      cases s with
      | raw r => rfl
      | _ => contradiction
  | false =>
      have hsame := Statement.alike_render (alike_id w) hraw {}
      exact hsame ▸ (Statement.alike_render (w.alike_withCasing casing) hraw {}).symm

variable {s w}

theorem no_word_of_isRaw {ps : List Piece} (hraw : s.isRaw)
    (hrendered : s.render w {} = .ofPieces ps) (text : String) : Piece.word text ∉ ps := by
  cases s with
  | raw r =>
      have hscanned : r.render.pieces = ps := congrArg Rendering.pieces hrendered
      exact hscanned ▸ Raw.word_not_mem_scan text _ _ _ _
  | _ => contradiction

/-- What the texts of a statement are read as under two casings. -/
theorem lex_print_withCasing {ps : List Piece} (hquote : w.config.HasNameQuote)
    (hraw : s.isRaw = false)
    (hwords : ∀ word ∈ s.words, word.toList.all fun c => !Sql.isQuote c)
    (hrendered : s.render w {} = .ofPieces ps) :
    Sql.lex (w.print 0 ps) = some (w.tokens 0 ps) ∧
      Sql.lex ((w.withCasing casing).print 0 ps) = some ((w.withCasing casing).tokens 0 ps) := by
  have hinert (c : Char) (h : isInert c) : !Sql.isQuote c := by
    rw [Writer.isQuote_eq_false_of_isInert h]
    rfl
  have hok : AllowsKeywords fun c => !Sql.isQuote c := allowsKeywords_of_isInert hinert
  have houtside (c : Char) (h : (!Sql.isQuote c) = true) : Sql.isQuote c = false := by simpa using h
  have hphrase := Statement.isPhrase_render hok hquote.quote_ne_empty hraw hwords
  rw [hrendered] at hphrase
  exact ⟨Writer.lex_print hquote houtside hok.letters (hphrase rfl) 0,
    Writer.lex_print (w := w.withCasing casing) hquote houtside hok.letters (hphrase rfl) 0⟩

/-- Under another casing a statement fails with the same error, or is compiled with the same
parameters into a text that differs in keywords, operators and names of functions alone, and there
in the case of letters alone.  If these hold no quotes, the two texts are read with the same
regions. -/
theorem compile_withCasing (s : Statement) (w : Writer) (casing : KeywordCasing) :
    (∃ e, w.compile s = .error e ∧ (w.withCasing casing).compile s = .error e) ∨
    ∃ ps c c', w.compile s = .ok c ∧ (w.withCasing casing).compile s = .ok c' ∧
      c'.parameters = c.parameters ∧
      (c.sql.toList = w.print 0 ps ∧ c'.sql.toList = (w.withCasing casing).print 0 ps) ∧
      (∀ p ∈ ps, (∃ text, p = .word text ∧ (text ∈ Writer.keywords ∨ text ∈ s.words)) ∨
        ∀ count, (w.withCasing casing).pieceText count p = w.pieceText count p) ∧
      c'.sql.toList.map Char.toLower = c.sql.toList.map Char.toLower ∧
      (w.config.HasNameQuote → (∀ word ∈ s.words, word.toList.all fun c => !Sql.isQuote c) →
        (s.isRaw = false → (Sql.lex c.sql.toList).isSome) ∧
        Option.Rel (List.Forall₂ Sql.Token.SameButCase) (Sql.lex c.sql.toList)
          (Sql.lex c'.sql.toList)) := by
  have hsame := s.render_withCasing w casing
  cases hcompiled : w.compile s with
  | error e =>
      refine .inl ⟨e, rfl, Writer.compile_of_failure ?_⟩
      rw [hsame]
      exact Writer.failure_of_compile hcompiled
  | ok c =>
      obtain ⟨ps, hrendered, rfl⟩ := Writer.pieces_of_compile hcompiled
      refine .inr ⟨ps, _, _, rfl, Writer.compile_of_pieces (hsame.trans hrendered), rfl, ?_⟩
      refine ⟨⟨String.toList_ofList, String.toList_ofList⟩, fun p hmem => ?_, ?_⟩
      · cases p with
        | word text =>
            have hsaid := s.says_render (w := w) text
            rw [hrendered] at hsaid
            exact .inl ⟨text, rfl, hsaid hmem⟩
        | _ => exact .inr fun _ => rfl
      · rw [String.toList_ofList, String.toList_ofList]
        refine ⟨w.toLower_print_withCasing casing 0 ps, fun hquote hwords => ?_⟩
        cases hraw : s.isRaw with
        | true =>
            rw [w.print_withCasing_of_no_word casing (no_word_of_isRaw hraw hrendered)]
            refine ⟨(nomatch ·), ?_⟩
            cases Sql.lex (w.print 0 ps) with
            | none => exact .none
            | some ts => exact .some (List.forall₂_same.mpr fun t _ => .refl t)
        | false =>
            obtain ⟨hread, hread'⟩ := lex_print_withCasing casing hquote hraw hwords hrendered
            rw [hread, hread']
            exact ⟨fun _ => rfl, .some (w.tokens_withCasing casing 0 ps)⟩

/-- A statement with names and literals that look like keywords, under the lower casing. -/
theorem compile_withCasing_of_naming :
    ∃ c c', (Writer.of .mysql {}).compile (namingStatement "') or (Null") = .ok c ∧
      (Writer.of .mysql { casing := .lower }).compile (namingStatement "') or (Null") = .ok c' ∧
      c'.parameters = c.parameters ∧
      c'.sql.toList.map Char.toLower = c.sql.toList.map Char.toLower ∧
      Option.Rel (List.Forall₂ Sql.Token.SameButCase) (Sql.lex c.sql.toList)
        (Sql.lex c'.sql.toList) := by
  rw [← Writer.of_withCasing .mysql {} .lower]
  obtain ⟨e, hfailed, -⟩ | ⟨ps, c, c', hcompiled, hcompiled', hcarried, -, -, hletters, hread⟩ :=
    compile_withCasing (namingStatement "') or (Null") (.of .mysql {}) .lower
  · cases hfailed
  · exact ⟨c, c', hcompiled, hcompiled', hcarried, hletters, (hread (.inr rfl) (by decide)).2⟩

end Statement

end TypedSql
