import TypedSql.Proofs.Writer.Listed
import TypedSql.Proofs.Writer.Phrase

namespace TypedSql

/-! The words of a rendering.  They are keywords of the writer, or operators and functions that the
tree brings along; names, literals and text written by hand are never written as words. -/

namespace Rendering

/-- Whether the words of a rendering are keywords of the writer or among the given ones. -/
def Says (words : List String) (r : Rendering) : Prop :=
  ∀ text, Piece.word text ∈ r.pieces → text ∈ Writer.keywords ∨ text ∈ words

variable {words words' : List String} {a b r : Rendering}

theorem Says.mono (h : r.Says words) (hwithin : words ⊆ words') : r.Says words' :=
  fun text hmem => (h text hmem).imp_right fun hsaid => hwithin hsaid

theorem Says.append (ha : a.Says words) (hb : b.Says words') : (a ++ b).Says (words ++ words') :=
  fun text hmem => (mem_pieces_append hmem).elim
    (ha.mono (List.subset_append_left words words') text)
    (hb.mono (List.subset_append_right words words') text)

theorem says_ofPieces {ps : List Piece} (h : ∀ text, Piece.word text ∉ ps) :
    (ofPieces ps).Says words :=
  fun text hmem => absurd hmem (h text)

theorem says_symbol (text : String) : (symbol text).Says words :=
  says_ofPieces (by simp)

theorem says_name (text : String) : (name text).Says words :=
  says_ofPieces (by simp)

theorem says_fail (e : Error) : (fail e).Says words :=
  fun _ hmem => nomatch hmem

theorem says_word {text : String} (h : text ∈ Writer.keywords ∨ text ∈ words) :
    (word text).Says words := by
  intro said hmem
  obtain rfl : said = text := by simpa [word, ofPieces] using hmem
  exact h

theorem says_keyword {text : String} (h : text ∈ Writer.keywords) : (word text).Says words :=
  says_word (.inl h)

end Rendering

open Rendering

section

variable {words : List String}

theorem Operator.says_pieces (op : Operator) : (ofPieces op.pieces).Says op.tokens := by
  intro text hmem
  obtain hblank | ⟨token, hknown, hsame⟩ := Operator.mem_pieces hmem
  · cases hblank
  · cases hsame
    exact .inr hknown

theorem ColumnRef.says_pieces (c : ColumnRef) (s : Scope) : (ofPieces (c.pieces s)).Says words := by
  refine says_ofPieces fun text => ?_
  unfold pieces qualifierPieces
  repeat' split
  all_goals simp

theorem TableRef.says_pieces (t : TableRef) (s : Scope) : (ofPieces (t.pieces s)).Says words := by
  refine says_ofPieces fun text => ?_
  unfold pieces
  repeat' split
  all_goals simp

theorem Binary.says_literalPieces {f : BinaryFormat} (x : Binary f) (d : Dialect) :
    (ofPieces (x.literalPieces d)).Says words := by
  have hcast (name : String) : (ofPieces [.word "cast", .symbol "(", .quoted name, .symbol " ",
      .word "as double precision", .symbol ")"]).Says words := by
    intro text hmem
    obtain rfl | rfl : text = "cast" ∨ text = "as double precision" := by
      simpa [ofPieces] using hmem
    · exact .inl (by decide)
    · exact .inl (by decide)
  unfold literalPieces
  repeat' split
  all_goals first | exact hcast _ | exact says_symbol _

theorem Value.says_literal (v : Value) (d : Dialect) : (v.literal d).Says words := by
  cases v with
  | null => exact says_keyword (by decide)
  | nullOf type => exact says_keyword (by decide)
  | some c =>
      cases c with
      | boolean b => cases b <;> exact says_keyword (by decide)
      | float32 x => exact x.says_literalPieces d
      | float64 x => exact x.says_literalPieces d
      | timestampWithTimezone x =>
          simp only [Value.literal, Content.literal]
          split
          · exact says_ofPieces (by simp)
          · exact says_fail _
      | _ => exact says_ofPieces (by simp)

theorem Dialect.says_paginationIfAny (d : Dialect) (limit offset : Option Nat) :
    (d.paginationIfAny limit offset).Says words := by
  have hcounted {r : Rendering}
      (h : ∀ text, Piece.word text ∈ r.pieces → text = "limit" ∨ text = "offset") :
      r.Says words := by
    intro text hmem
    obtain rfl | rfl := h text hmem
    · exact .inl (by decide)
    · exact .inl (by decide)
  unfold paginationIfAny
  split
  · cases d with
    | generic => exact says_fail _
    | _ =>
        refine hcounted fun text hmem => ?_
        cases limit <;> cases offset <;> simp_all [pagination, ofPieces]
  · exact says_ofPieces (by simp)

end

theorem Collector.words_matches (w : Writer) :
    Collector.words.listing.Matches w fun r words => r.Says words where
  append := Says.append
  empty := says_ofPieces (by simp)
  symbol := fun _ => says_symbol _
  keyword := says_keyword
  name := says_name
  operator := Operator.says_pieces
  call := fun _ => says_word (.inr List.mem_cons_self)
  column := fun s _ c => c.says_pieces s
  parameter := fun _ _ _ => says_ofPieces (by simp)
  literal := fun _ _ v => v.says_literal w.dialect
  table := fun _ _ t _ => t.says_pieces _
  named := fun aliasName =>
    show (ofPieces [.symbol ") ", .name aliasName]).Says [] from says_ofPieces (by simp)
  pagination := w.dialect.says_paginationIfAny
  block := fun _ _ _ hsaid => hsaid
  bare := fun _ _ _ => says_fail _
  target := fun _ t => t.says_pieces _

theorem Raw.word_not_mem_scan (word : String) (total : Nat) (quote : Option Char)
    (parameters : List Parameter) (text : List Char) :
    Piece.word word ∉ (Raw.scan total quote parameters text).pieces := by
  have hbehind {ps : List Piece} {r : Rendering} (hfirst : Piece.word word ∉ ps)
      (hrest : Piece.word word ∉ r.pieces) : Piece.word word ∉ (ofPieces ps ++ r).pieces :=
    fun hmem => (mem_pieces_append hmem).elim hfirst hrest
  fun_induction Raw.scan total quote parameters text with
  | case1 => exact List.not_mem_nil
  | case2 => exact List.not_mem_nil
  | case3 parameters c cs here q ih => exact hbehind (by simp) ih
  | case4 parameters c cs here hopens ih => exact hbehind (by simp) ih
  | case5 cs hhere => exact List.not_mem_nil
  | case6 cs here p hps ih => exact hbehind (by simp) ih
  | case7 parameters c cs here hopens hmark ih => exact hbehind (by simp) ih

/-- The words of a statement as it is written are keywords, its operators and its functions. -/
theorem Statement.says_render {w : Writer} (statement : Statement) :
    (statement.render w {}).Says statement.words := by
  cases statement with
  | raw r => exact fun text hmem => absurd hmem (Raw.word_not_mem_scan text _ _ _ _)
  | _ => exact Statement.matches_render (Collector.words_matches w) rfl

end TypedSql
