import Mathlib.Data.List.Count
import TypedSql.Proofs.Writer.Marks
import TypedSql.Proofs.Writer.Placeholders

namespace TypedSql

/-! How often a character stands outside the quoted regions of a text, and from that the number of
placeholders that a store finds in the text of a statement. -/

namespace Sql

/-- How often the character stands outside the regions, of which the last may be left open. -/
def outside (c : Char) (text : List Char) : Nat :=
  (stretches text).count (.plain c)

variable {c q : Char} {body rest text : List Char}

theorem outside_nil : outside c [] = 0 := by
  rw [outside, stretches]
  rfl

theorem outside_plain {a : Char} (h : isQuote a = false) (rest : List Char) :
    outside c (a :: rest) = outside c rest + if a = c then 1 else 0 := by
  rw [outside, stretches, if_neg (by simp [h]), List.count_cons, outside]
  simp

theorem outside_region (hq : isQuote q) (h : q ∉ body) (rest : List Char) :
    outside c (q :: (body ++ q :: rest)) = outside c rest := by
  have hinside : ∀ a ∈ body, decide (a ≠ q) = true := by
    intro a ha
    exact decide_eq_true fun hsame => h (hsame ▸ ha)
  have hbehind : (body ++ q :: rest).dropWhile (· ≠ q) = q :: rest := by
    rw [List.dropWhile_append_of_pos hinside, List.dropWhile_cons_of_neg (by simp)]
  rw [outside, stretches, if_pos hq, if_pos (by simp), hbehind]
  exact List.count_cons_of_ne (by simp)

theorem outside_open (hq : isQuote q) (h : q ∉ body) : outside c (q :: body) = 0 := by
  rw [outside, stretches, if_pos hq, if_neg h]
  exact List.count_cons_of_ne (by simp)

theorem outside_chars (h : ∀ a ∈ text, isQuote a = false) (rest : List Char) :
    outside c (text ++ rest) = text.count c + outside c rest := by
  induction text with
  | nil => simp
  | cons a text ih =>
      obtain ⟨hhere, hlater⟩ := List.forall_mem_cons.mp h
      rw [List.cons_append, outside_plain hhere, ih hlater, List.count_cons]
      simp only [beq_iff_eq]
      omega

theorem outside_inside {a : Char} (hq : isQuote q) (hother : a ≠ q) (rest : List Char) :
    outside c (q :: a :: rest) = outside c (q :: rest) := by
  by_cases hclosed : q ∈ rest
  · have hfresh := not_mem_takeWhile_ne q rest
    have hlonger : q ∉ a :: rest.takeWhile (· ≠ q) :=
      List.not_mem_cons_of_ne_of_not_mem hother.symm hfresh
    rw [split_at_quote hclosed, outside_region hq hfresh, ← List.cons_append,
      outside_region hq hlonger]
  · rw [outside_open hq hclosed,
      outside_open hq (List.not_mem_cons_of_ne_of_not_mem hother.symm hclosed)]

/-- The text that a reader has to go back to for a reader of stretches to be where it stands.  What
has been read of a region does not matter. -/
def LexState.resumed : LexState → List Char → List Char
  | .inside quote _, text => quote :: text
  | .outside, text | .closing _ _, text => text

def LexState.HasQuote : LexState → Prop
  | .outside => True
  | .inside quote _ | .closing quote _ => isQuote quote

theorem outside_of_lexFrom {s : LexState} (hs : s.HasQuote) {ts : List Token}
    (h : lexFrom s text = some ts) : ts.count (.char c) = outside c (s.resumed text) := by
  induction text generalizing s ts with
  | nil =>
      cases s with
      | outside =>
          cases h
          exact outside_nil.symm
      | inside quote body => cases h
      | closing quote body =>
          cases h
          rw [List.count_cons_of_ne (by simp)]
          exact outside_nil.symm
  | cons a text ih =>
      have hnext {ts : List Token}
          (h : (if isQuote a then lexFrom (.inside a []) text
                else (lexFrom .outside text).map (Token.char a :: ·)) = some ts) :
          ts.count (.char c) = outside c (a :: text) := by
        split at h
        next hopens => exact ih (s := .inside a []) hopens h
        next hplain =>
          obtain ⟨rest, hread, rfl⟩ := Option.map_eq_some_iff.mp h
          have hsame := ih (s := .outside) trivial hread
          rw [List.count_cons, hsame, outside_plain (by simpa using hplain)]
          simp [LexState.resumed]
      cases s with
      | outside => exact hnext h
      | inside quote body =>
          simp only [lexFrom] at h
          split at h
          next hcloses =>
            subst hcloses
            rw [ih (s := .closing a body) hs h]
            have hempty : a ∉ ([] : List Char) := List.not_mem_nil
            exact (outside_region hs hempty text).symm
          next hother =>
            rw [ih (s := .inside quote (body ++ [a])) hs h]
            exact (outside_inside hs hother text).symm
      | closing quote body =>
          simp only [lexFrom] at h
          split at h
          next hagain =>
            subst hagain
            exact ih (s := .inside a (body ++ [a])) hs h
          next =>
            obtain ⟨rest, hread, rfl⟩ := Option.map_eq_some_iff.mp h
            rw [List.count_cons_of_ne (by simp)]
            exact hnext hread

/-- Both readers find the same characters outside the regions, though one of them takes a quote that
is written twice for the end of a region and the beginning of another. -/
theorem outside_of_lex {ts : List Token} (h : lex text = some ts) :
    outside c text = ts.count (.char c) :=
  (outside_of_lexFrom (s := .outside) trivial h).symm

end Sql

theorem Sql.count_chars (c : Char) (text : List Char) :
    (text.map Token.char).count (.char c) = text.count c :=
  List.count_map_of_injective text Token.char (fun _ _ h => Token.char.inj h) c

namespace Dialect

/-- The character by which a store knows a placeholder. -/
def marker : Dialect → Char
  | postgres => '$'
  | _ => '?'

/-- Characters that neither begin a placeholder nor a region. -/
def passesOver (d : Dialect) (c : Char) : Bool :=
  !Sql.isQuote c && c != d.marker

variable {d : Dialect}

theorem passesOver_of_isInert {c : Char} (h : isInert c) : d.passesOver c := by
  simp only [isInert, Bool.and_eq_true, bne_iff_ne] at h
  simp only [passesOver, Bool.and_eq_true, bne_iff_ne]
  obtain ⟨⟨⟨⟨hquote, hmark⟩, hdollar⟩, -⟩, -⟩ := h
  refine ⟨hquote, ?_⟩
  cases d with
  | postgres => exact hdollar
  | _ => exact hmark

theorem isQuote_of_passesOver {c : Char} (h : d.passesOver c) : Sql.isQuote c = false := by
  simp only [passesOver, Bool.and_eq_true, Bool.not_eq_true'] at h
  exact h.1

theorem count_marker {text : List Char} (h : text.all d.passesOver) : text.count d.marker = 0 := by
  refine List.count_eq_zero.mpr fun hmem => ?_
  have hpassed := List.all_eq_true.mp h d.marker hmem
  simp [passesOver] at hpassed

end Dialect

namespace Writer

variable {w : Writer}

theorem count_placeholderText (count : Nat) :
    (w.placeholderText count).count w.dialect.marker = 1 := by
  cases hdialect : w.dialect with
  | postgres =>
      have hdigits : '$' ∉ Nat.toDigits 10 (count + 1) := by
        intro hmem
        have hdigit : '$'.isDigit := Nat.isDigit_of_mem_toDigits (by decide) (by decide) hmem
        contradiction
      simp only [placeholderText, hdialect, Dialect.marker, List.count_cons_self,
        List.count_eq_zero.mpr hdigits]
  | _ => simp [placeholderText, hdialect, Dialect.marker]

theorem count_tokens {ps : List Piece} (hps : Phrase w.dialect.passesOver ps) (count : Nat) :
    (w.tokens count ps).count (.char w.dialect.marker) = (Piece.parameters ps).length := by
  have hinert {text : List Char} (h : text.all isInert) : text.count w.dialect.marker = 0 :=
    Dialect.count_marker (List.all_eq_true.mpr fun c hc =>
      Dialect.passesOver_of_isInert (List.all_eq_true.mp h c hc))
  induction hps generalizing count with
  | nil => rfl
  | @word text ps hchars _ ih =>
      have hletters : ∀ c, c.isAlpha → w.dialect.passesOver c :=
        (allowsKeywords_of_isInert fun _ => Dialect.passesOver_of_isInert).letters
      have hpassed : (text.toList.map w.config.casing.apply).all w.dialect.passesOver := by
        simp only [List.all_map, List.all_eq_true, Function.comp_apply] at hchars ⊢
        exact fun c hc => w.config.casing.apply_of_isAlpha hletters (hchars c hc)
      rw [tokens_cons, List.count_append, ih, pieceTokens, Sql.count_chars,
        Dialect.count_marker hpassed]
      exact Nat.zero_add _
  | @symbol text ps hchars _ ih =>
      rw [tokens_cons, List.count_append, ih, pieceTokens, Sql.count_chars, hinert hchars]
      exact Nat.zero_add _
  | @atom p ps hisAtom _ _ ih =>
      have hhere : (w.pieceTokens count p).count (.char w.dialect.marker) =
          (Piece.parameters [p]).length := by
        cases p with
        | name text =>
            simp only [pieceTokens]
            cases hquoted : w.config.shouldQuote text with
            | true => exact List.count_cons_of_ne (by simp)
            | false =>
                rw [if_neg (by simp), Sql.count_chars]
                exact hinert (WriterConfig.all_isInert_of_shouldQuote hquoted)
        | quoted body => exact List.count_cons_of_ne (by simp)
        | placeholder parameter => exact (Sql.count_chars _ _).trans (count_placeholderText count)
        | _ => contradiction
      rw [tokens_cons, List.count_append, ih, hhere, Piece.parameters_cons p ps, List.length_append]
  | @parens left right inner ps hopens _ hcloses _ ihBody ihRest =>
      have hleft : left.toList.count w.dialect.marker = 0 := by
        refine Dialect.count_marker ?_
        rcases hopens with rfl | rfl <;> cases w.dialect <;> rfl
      have hright : right.toList.count w.dialect.marker = 0 := by
        refine Dialect.count_marker ?_
        rcases hcloses with rfl | rfl <;> cases w.dialect <;> rfl
      have henclosed : Piece.parameters (.symbol left :: (inner ++ .symbol right :: ps)) =
          Piece.parameters inner ++ Piece.parameters ps :=
        Piece.parameters_append inner (.symbol right :: ps)
      rw [tokens_cons, tokens_append, tokens_cons, List.count_append, List.count_append,
        List.count_append, ihBody, ihRest, pieceTokens, pieceTokens, Sql.count_chars,
        Sql.count_chars, hleft, hright, henclosed, List.length_append]
      omega

theorem outside_print (hquote : w.config.HasNameQuote) {ps : List Piece}
    (hps : Phrase w.dialect.passesOver ps) :
    Sql.outside w.dialect.marker (w.print 0 ps) = (Piece.parameters ps).length := by
  have hletters : ∀ c, c.isAlpha → w.dialect.passesOver c :=
    (allowsKeywords_of_isInert fun _ => Dialect.passesOver_of_isInert).letters
  rw [Sql.outside_of_lex
    (lex_print hquote (fun _ => Dialect.isQuote_of_passesOver) hletters hps 0), count_tokens hps]

/-- Numbers that take the place of the question marks add to the dollar signs. -/
theorem outside_remarked (h : w.dialect = .postgres) (count : Nat) (text : List Char) :
    Sql.outside '$' (Sql.remarked w.placeholderText count (Sql.stretches text)) =
      Sql.markCount text + Sql.outside '$' text := by
  unfold Sql.markCount
  fun_induction Sql.stretches text generalizing count with
  | case1 => simp [Sql.remarked, Sql.outside_nil]
  | case2 c cs hopens hclosed ih =>
      have hfresh := Sql.not_mem_takeWhile_ne c cs
      have hnoMark : Sql.Stretch.region c (cs.takeWhile (· ≠ c)) ≠ .mark := by
        simp [Sql.Stretch.mark]
      have hwritten (rest : List Char) :
          (Sql.Stretch.region c (cs.takeWhile (· ≠ c))).text ++ rest =
            c :: (cs.takeWhile (· ≠ c) ++ c :: rest) := by
        simp [Sql.Stretch.text]
      have horiginal : Sql.outside '$' (c :: cs) =
          Sql.outside '$' (cs.dropWhile (· ≠ c)).tail := by
        conv_lhs => rw [Sql.split_at_quote hclosed]
        exact Sql.outside_region hopens hfresh _
      rw [Sql.remarked, if_neg hnoMark, hwritten, Sql.outside_region hopens hfresh, ih, horiginal,
        List.count_cons_of_ne hnoMark]
  | case3 c cs hopens hunclosed =>
      have hnoMark : Sql.Stretch.openRegion c cs ≠ .mark := by simp [Sql.Stretch.mark]
      rw [Sql.remarked, if_neg hnoMark, Sql.remarked, List.append_nil, Sql.Stretch.text,
        List.count_cons_of_ne hnoMark, List.count_nil, Nat.zero_add]
  | case4 c cs houtside ih =>
      have hplain : Sql.isQuote c = false := by simpa using houtside
      by_cases hmark : c = '?'
      · subst hmark
        have hnumbered : ∀ a ∈ w.placeholderText count, Sql.isQuote a = false := by
          simpa using all_not_isQuote_placeholderText (w := w) count
        have hone : (w.placeholderText count).count '$' = 1 := by
          simpa [h, Dialect.marker] using count_placeholderText (w := w) count
        have hcounted : (Sql.Stretch.plain '?' :: Sql.stretches cs).count .mark =
            (Sql.stretches cs).count .mark + 1 := List.count_cons_self
        rw [Sql.remarked, if_pos (by rfl), Sql.outside_chars hnumbered, ih, hone, hcounted,
          Sql.outside_plain hplain, if_neg (by decide)]
        omega
      · have hnoMark : Sql.Stretch.plain c ≠ .mark := by simpa [Sql.Stretch.mark] using hmark
        rw [Sql.remarked, if_neg hnoMark, Sql.Stretch.text, List.singleton_append,
          Sql.outside_plain hplain, ih, Sql.outside_plain hplain, List.count_cons_of_ne hnoMark,
          Nat.add_assoc]

end Writer

namespace Statement

/-- Nothing that is copied into the text of the statement is taken for a placeholder or a quote. -/
def IsUnmarked (w : Writer) (s : Statement) : Prop :=
  match s with
  | .raw r => w.dialect = .postgres → Sql.outside '$' r.sql.toList = 0
  | s => w.config.HasNameQuote ∧ ∀ word ∈ s.words, word.toList.all w.dialect.passesOver

variable {w : Writer} {s : Statement} {c : CompiledSql}

theorem outside_of_raw {r : Raw} (hunmarked : (Statement.raw r).IsUnmarked w)
    (h : w.compile (.raw r) = .ok c) :
    Sql.outside w.dialect.marker c.sql.toList = c.parameters.length := by
  obtain ⟨ps, hrendered, rfl⟩ := Writer.pieces_of_compile h
  have hscanned : (Statement.raw r).render w {} = ⟨Raw.piecesOf (Sql.stretches r.sql.toList)
      r.parameters, Raw.countFault? r.parameters.length (Sql.markCount r.sql.toList)
        r.parameters.length⟩ := Raw.scan_eq _ _ _
  obtain ⟨rfl, hnoFault⟩ := Rendering.mk.inj (hscanned.symm.trans hrendered)
  have hmarks : Sql.markCount r.sql.toList = r.parameters.length := by
    unfold Raw.countFault? at hnoFault
    split at hnoFault
    · cases hnoFault
    split at hnoFault
    · cases hnoFault
    omega
  rw [String.toList_ofList, w.print_piecesOf hmarks, Raw.parameters_piecesOf hmarks, ← hmarks]
  by_cases hpostgres : w.dialect = .postgres
  · have hnoDollar : Sql.outside '$' r.sql.toList = 0 := hunmarked hpostgres
    rw [show w.dialect.marker = '$' by rw [hpostgres]; rfl, Writer.outside_remarked hpostgres,
      hnoDollar, Nat.add_zero]
  · have hquestionMark : w.dialect.marker = '?' := by
      cases hdialect : w.dialect with
      | postgres => contradiction
      | _ => rfl
    rw [hquestionMark, w.remarked_stretches, if_neg hpostgres]
    rfl

/-- The text of a statement has as many placeholders outside the regions as there are parameters to
be sent with it. -/
theorem outside_of_compile (hunmarked : s.IsUnmarked w) (h : w.compile s = .ok c) :
    Sql.outside w.dialect.marker c.sql.toList = c.parameters.length := by
  cases hraw : s.isRaw with
  | true =>
      cases s with
      | raw r => exact outside_of_raw hunmarked h
      | _ => cases hraw
  | false =>
      have hbuilt : w.config.HasNameQuote ∧
          ∀ word ∈ s.words, word.toList.all w.dialect.passesOver := by
        cases s with
        | raw r => cases hraw
        | _ => exact hunmarked
      obtain ⟨hquote, hwords⟩ := hbuilt
      have hok : AllowsKeywords w.dialect.passesOver :=
        allowsKeywords_of_isInert fun _ => Dialect.passesOver_of_isInert
      obtain ⟨ps, hphrase, -, rfl⟩ :=
        Statement.phrase_of_compile hok hquote.quote_ne_empty hraw hwords h
      rw [String.toList_ofList]
      exact Writer.outside_print hquote hphrase

end Statement

end TypedSql
