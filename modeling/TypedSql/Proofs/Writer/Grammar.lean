import TypedSql.Proofs.Number.Written
import TypedSql.Proofs.Writer.Listed
import TypedSql.Proofs.Writer.Phrase

namespace TypedSql

/-! Every statement that is not written by hand is rendered into a phrase, whatever the dialect. -/

def isKeywordChar (c : Char) : Bool :=
  c.isLower || c == ' '

structure AllowsKeywords (ok : Char → Bool) : Prop where
  letters : ∀ c, c.isAlpha → ok c
  space : ok ' '

def Allows (ok : Char → Bool) (words : List String) : Prop :=
  ∀ text ∈ words, text.toList.all ok

section

variable {ok : Char → Bool}

theorem allows_append {a b : List String} : Allows ok (a ++ b) ↔ Allows ok a ∧ Allows ok b :=
  List.forall_mem_append

theorem allowsKeywords_of_isInert (h : ∀ c, isInert c → ok c) : AllowsKeywords ok where
  letters _ hletter := h _ (isInert_of_isAlphanum (by simp [Char.isAlphanum, hletter]))
  space := h _ rfl

theorem AllowsKeywords.chars (hok : AllowsKeywords ok) {text : String}
    (h : text.toList.all isKeywordChar) : text.toList.all ok := by
  rw [List.all_eq_true] at h ⊢
  intro c hc
  rcases Bool.or_eq_true _ _ ▸ h c hc with hletter | hspace
  · exact hok.letters c ((Bool.or_eq_true _ _).mpr (.inr hletter))
  · rw [eq_of_beq hspace]
    exact hok.space

end

theorem Writer.isKeywordChar_of_mem :
    ∀ text ∈ Writer.keywords, text.toList.all isKeywordChar := by
  decide

namespace Rendering

variable {ok : Char → Bool} {a r : Rendering}

theorem IsPhrase.space_append (hr : r.IsPhrase ok) : (symbol " " ++ r).IsTail ok :=
  (hr.symbol_append (by decide)).isTail_symbol_append (by decide)

theorem isPhrase_empty : empty.IsPhrase ok :=
  isTail_empty.isPhrase

theorem isPhrase_symbol {text : String} (htext : text.toList.all isInert) :
    (symbol text).IsPhrase ok :=
  isPhrase_ofPieces (.symbol htext .nil)

theorem isPhrase_word {text : String} (htext : text.toList.all ok) :
    (word text).IsPhrase ok :=
  isPhrase_ofPieces (.word htext .nil)

theorem isPhrase_name (text : String) : (name text).IsPhrase ok :=
  isPhrase_ofPieces (.single_atom rfl)

theorem IsPhrase.parens_end {left right : String} (hopens : left = "(" ∨ left = " (")
    (hr : r.IsPhrase ok) (hcloses : right = ")" ∨ right = ") ") :
    (symbol left ++ (r ++ symbol right)).IsPhrase ok := by
  simpa using hr.parens hopens hcloses isPhrase_empty

/-- Behind a rendering that prints nothing there may be any phrase. -/
theorem IsPhrase.append_of_not_visible {quote : String} (hquote : quote ≠ "")
    (ha : a.IsPhrase ok) (hvisible : a.isVisible quote = false) (hr : r.IsPhrase ok) :
    (a ++ r).IsPhrase ok := by
  intro h
  obtain ⟨hanone, hrnone⟩ := failure_append_eq_none.mp h
  rw [pieces_append hanone]
  refine (ha hanone).append_of_not_visible hquote ?_ (hr hrnone)
  simpa [isVisible] using hvisible

theorem isPhrase_separate {quote : String} (hquote : quote ≠ "") {rs : List Rendering}
    (h : ∀ r ∈ rs, r.IsPhrase ok) : (separate quote rs).IsPhrase ok := by
  induction rs with
  | nil => exact isPhrase_empty
  | cons r rs ih =>
      have hhere := h r (by simp)
      cases rs with
      | nil => exact hhere
      | cons r' rs =>
          have hrest := ih fun r hr => h r (List.mem_cons_of_mem _ hr)
          rw [separate.eq_3 quote r (r' :: rs) (by simp)]
          cases hvisible : r.isVisible quote with
          | true =>
              exact hhere.append_tail ((hrest.symbol_append (by decide)).isTail_symbol_append
                (by decide))
          | false => simpa using hhere.append_of_not_visible hquote hvisible hrest

end Rendering

namespace Operator

variable {ok : Char → Bool}

theorem phrase_pieces_append {op : Operator} (hop : Allows ok op.tokens) {ps : List Piece}
    (hps : Phrase ok ps) : Phrase ok (op.pieces ++ ps) := by
  obtain ⟨tokens⟩ := op
  simp only [pieces]
  induction tokens with
  | nil => exact hps
  | cons token rest ih =>
      have hhere := hop token (by simp)
      have hthere := ih fun t ht => hop t (by simp [ht])
      cases rest with
      | nil => exact .word hhere hps
      | cons next rest => exact .word hhere (.symbol (by decide) hthere)

theorem isPhrase_append {op : Operator} (hop : Allows ok op.tokens) {r : Rendering}
    (hr : r.IsPhrase ok) : (Rendering.ofPieces op.pieces ++ r).IsPhrase ok := by
  intro h
  rw [Rendering.pieces_append rfl]
  exact phrase_pieces_append hop (hr (Rendering.failure_append_eq_none.mp h).2)

theorem isPhrase {op : Operator} (hop : Allows ok op.tokens) :
    (Rendering.ofPieces op.pieces).IsPhrase ok := by
  simpa using isPhrase_append hop Rendering.isPhrase_empty

end Operator

section

variable {ok : Char → Bool}

private theorem areDelimited_point (ps : List Piece) : Piece.AreDelimited (.symbol "." :: ps) :=
  Piece.areDelimited_cons rfl ps

private theorem areDelimited_comma (ps : List Piece) : Piece.AreDelimited (.symbol ", " :: ps) :=
  Piece.areDelimited_cons rfl ps

private theorem areDelimited_space (ps : List Piece) : Piece.AreDelimited (.symbol " " :: ps) :=
  Piece.areDelimited_cons rfl ps

private theorem phrase_qualified (qualifier : String) {ps : List Piece} (h : Phrase ok ps) :
    Phrase ok (.name qualifier :: .symbol "." :: ps) :=
  .atom rfl (areDelimited_point ps) (.symbol (by decide) h)

theorem ColumnRef.phrase_pieces (c : ColumnRef) (s : Scope) : Phrase ok (c.pieces s) := by
  have hbare : Phrase ok [.name c.name] := .single_atom rfl
  unfold pieces qualifierPieces
  split
  · split
    · exact phrase_qualified _ hbare
    · split
      · split
        · exact phrase_qualified _ (phrase_qualified _ hbare)
        · exact phrase_qualified _ hbare
      · exact hbare
  · exact hbare

theorem TableRef.phrase_pieces (t : TableRef) (s : Scope) : Phrase ok (t.pieces s) := by
  have hbare : Phrase ok [.name t.name] := .single_atom rfl
  have haliased (aliasName : String) : Phrase ok [.name t.name, .symbol " ", .name aliasName] :=
    .atom rfl (areDelimited_space _) (.symbol rfl (.single_atom rfl))
  unfold pieces
  cases t.aliasName with
  | none =>
      cases t.schema with
      | none => exact hbare
      | some schema => exact phrase_qualified schema hbare
  | some aliasName =>
      have hnamed : Phrase ok ([.name t.name] ++
          if s.declaresAlias then [.symbol " ", .name aliasName] else []) := by
        split
        · exact haliased aliasName
        · exact hbare
      cases t.schema with
      | none => exact hnamed
      | some schema => exact phrase_qualified schema hnamed

private theorem isInert_of_isNumeral {c : Char} (h : isNumeral c) : isInert c := by
  simp only [isNumeral, Bool.or_eq_true, beq_iff_eq] at h
  rcases h with (halphanumeric | rfl) | rfl
  · exact isInert_of_isAlphanum halphanumeric
  · rfl
  · rfl

private theorem all_isInert_of_isNumeric {text : List Char} (h : IsNumeric text) :
    text.all isInert := by
  rw [List.all_eq_true]
  exact fun c hc => isInert_of_isNumeral (h.isNumeral_of_mem hc)

variable (hok : AllowsKeywords ok)

include hok

theorem Binary.phrase_literalPieces {f : BinaryFormat} (x : Binary f) (d : Dialect) :
    Phrase ok (x.literalPieces d) := by
  have hcast (name : String) : Phrase ok
      [.word "cast", .symbol "(", .quoted name, .symbol " ", .word "as double precision",
        .symbol ")"] := by
    have hinner : Phrase ok [.quoted name, .symbol " ", .word "as double precision"] :=
      .atom rfl (areDelimited_space _)
        (.symbol (by decide) (.word (hok.chars (by decide)) .nil))
    exact .word (hok.chars (by decide)) (.parens (.inl rfl) hinner (.inl rfl) .nil)
  unfold literalPieces
  split
  · split
    · exact .symbol (by split <;> decide) .nil
    · exact hcast _
  · split
    · exact hcast _
    · refine .symbol ?_ .nil
      rw [String.toList_ofList]
      exact all_isInert_of_isNumeric (BinaryLayout.isNumeric_write _ x)

theorem Content.isPhrase_literal (c : Content) (d : Dialect) : (c.literal d).IsPhrase ok := by
  have hquoted (body : String) : (Rendering.ofPieces [.quoted body]).IsPhrase ok :=
    Rendering.isPhrase_ofPieces (.single_atom rfl)
  cases c with
  | boolean b => cases b <;> exact Rendering.isPhrase_word (hok.chars (by decide))
  | integer kind n =>
      exact Rendering.isPhrase_symbol (all_isInert_of_isNumeric (IsNumeric.toString_int n.val))
  | float32 x => exact Rendering.isPhrase_ofPieces (x.phrase_literalPieces hok d)
  | float64 x => exact Rendering.isPhrase_ofPieces (x.phrase_literalPieces hok d)
  | decimal x =>
      refine Rendering.isPhrase_symbol ?_
      rw [String.toList_ofList]
      exact all_isInert_of_isNumeric x.isNumeric_write
  | blob bytes => exact Rendering.isPhrase_ofPieces (.symbol (by decide) (.single_atom rfl))
  | timestampWithTimezone x =>
      simp only [literal]
      split
      · exact hquoted _
      · exact Rendering.isPhrase_fail _
  | _ => exact hquoted _

theorem Value.isPhrase_literal (v : Value) (d : Dialect) : (v.literal d).IsPhrase ok := by
  cases v with
  | some c => exact c.isPhrase_literal hok d
  | _ => exact Rendering.isPhrase_word (hok.chars (by decide))

private theorem phrase_rowClause {keyword : String} (hkeyword : keyword.toList.all isKeywordChar)
    {ps : List Piece} (hps : Phrase ok ps) :
    Phrase ok (.symbol " " :: .word keyword :: .symbol " " :: ps) :=
  .symbol rfl (.word (hok.chars hkeyword) (.symbol rfl hps))

theorem Dialect.isTail_paginationIfAny (d : Dialect) (limit offset : Option Nat) :
    (d.paginationIfAny limit offset).IsTail ok := by
  have hcounted (n : Nat) : Phrase ok [.placeholder (.ofRowCount n)] := .single_atom rfl
  have hskipped (n : Nat) : Phrase ok
      [.symbol " ", .word "offset", .symbol " ", .placeholder (.ofRowCount n)] :=
    phrase_rowClause hok rfl (hcounted n)
  unfold paginationIfAny
  split
  · cases d with
    | generic => exact Rendering.isTail_fail _
    | postgres =>
        refine ⟨Rendering.isPhrase_ofPieces ?_, fun _ => ?_⟩
        · cases limit with
          | none =>
              cases offset with
              | none => exact .nil
              | some n => exact hskipped n
          | some m =>
              cases offset with
              | none => exact phrase_rowClause hok rfl (hcounted m)
              | some n =>
                  exact phrase_rowClause hok rfl (.atom rfl (areDelimited_space _) (hskipped n))
        · cases limit with
          | none =>
              cases offset with
              | none => exact Piece.areDelimited_nil
              | some n => exact areDelimited_space _
          | some m => exact areDelimited_space _
    | mysql =>
        refine ⟨Rendering.isPhrase_ofPieces ?_, fun _ => areDelimited_space _⟩
        cases offset with
        | none => exact phrase_rowClause hok rfl (hcounted _)
        | some n =>
            exact phrase_rowClause hok rfl
              (.atom rfl (areDelimited_comma _) (.symbol rfl (hcounted _)))
    | sqlite =>
        refine ⟨Rendering.isPhrase_ofPieces ?_, fun _ => areDelimited_space _⟩
        cases limit with
        | none =>
            cases offset with
            | none => exact phrase_rowClause hok rfl (.symbol rfl .nil)
            | some n => exact phrase_rowClause hok rfl (.symbol rfl (hskipped n))
        | some m =>
            cases offset with
            | none => exact phrase_rowClause hok rfl (hcounted m)
            | some n =>
                exact phrase_rowClause hok rfl (.atom rfl (areDelimited_space _) (hskipped n))
  · exact Rendering.isTail_empty

end

section

variable {ok : Char → Bool} {w : Writer}

open Rendering

/-- Phrases and tails are kept by all that renderings are put together with. -/
theorem Rendering.isPhrase_conforms (hok : AllowsKeywords ok) (hquote : w.config.quote ≠ "") :
    Listing.nothing.Conforms w (fun text => text.toList.all ok) (fun r _ => r.IsPhrase ok)
      (fun r _ => r.IsTail ok) where
  weaken h := h.isPhrase
  append := IsPhrase.append_tail
  tails := IsTail.append
  empty := isTail_empty
  space := IsPhrase.space_append
  keyword hkeyword _ _ h := h.word_append (hok.chars (Writer.isKeywordChar_of_mem _ hkeyword))
  parens hleft hright _ _ _ _ hinner hbehind := hinner.parens hleft hright hbehind
  tail_parens h := h.isTail_symbol_append rfl
  separate h := isPhrase_separate hquote h.forall_mem
  asterisk := isPhrase_symbol rfl
  name := isPhrase_name
  assigned text _ _ h :=
    (isPhrase_name text).append_tail ((h.symbol_append rfl).isTail_symbol_append rfl)
  operator hknown := Operator.isPhrase hknown
  prefixed hknown _ _ _ _ h := by
    refine Operator.isPhrase_append hknown ?_
    split
    · exact h.space_append.isPhrase
    · rwa [empty_append]
  call := isPhrase_word
  callWith hknown _ _ h := (h.parens_end (.inl rfl) (.inl rfl)).word_append hknown
  node _ _ _ h := h
  column s _ c := isPhrase_ofPieces (c.phrase_pieces s)
  parameter _ _ _ := isPhrase_ofPieces (.single_atom rfl)
  literal _ _ v := v.isPhrase_literal hok w.dialect
  table _ _ t _ := isPhrase_ofPieces (t.phrase_pieces _)
  derived aliasName _ _ h := h.parens (.inl rfl) (.inr rfl) (isPhrase_name aliasName)
  pagination := w.dialect.isTail_paginationIfAny hok
  block _ _ _ h := h
  bare _ _ _ := isPhrase_fail _
  target _ t := isPhrase_ofPieces (t.phrase_pieces _)

variable (hok : AllowsKeywords ok) (hquote : w.config.quote ≠ "")

include hok hquote

theorem Expr.isPhrase_render (e : Expr) (hwords : Allows ok (e.collect .words)) (s : Scope) :
    (e.render w s).IsPhrase ok :=
  Expr.of_hereditary (isPhrase_conforms hok hquote).hereditary e hwords s ()

theorem Operand.isPhrase_render (operand : Operand) (hwords : Allows ok (operand.collect .words))
    (s : Scope) : (operand.render w s).IsPhrase ok :=
  Operand.of_hereditary (isPhrase_conforms hok hquote).hereditary operand hwords s ()

theorem Select.isPhrase_render (query : Select) (hwords : Allows ok (query.collect .words))
    (s : Scope) : (query.render w s).IsPhrase ok :=
  Select.of_hereditary (isPhrase_conforms hok hquote).hereditary query hwords s ()

theorem Expr.isPhrase_renderAll (es : List Expr) (hwords : Allows ok (Expr.collectAll .words es))
    (s : Scope) : ∀ r ∈ Expr.renderAll w s es, r.IsPhrase ok := by
  rw [Collector.collectAll_eq_flatMap] at hwords
  exact ((isPhrase_conforms hok hquote).exprs hwords s).forall_mem

theorem Expr.isPhrase_renderArgs (es : List Expr) (hwords : Allows ok (Expr.collectAll .words es))
    (s : Scope) : ∀ r ∈ Expr.renderArgs w s es, r.IsPhrase ok := by
  rw [Collector.collectAll_eq_flatMap] at hwords
  have hword := List.forall_mem_flatMap.mp hwords
  have hconforms := isPhrase_conforms hok hquote
  exact (hconforms.args (s := s) (x := ())
    (fun e he => Expr.isPhrase_render hok hquote e (hword e he) s)
    fun query hquery => Select.isPhrase_render hok hquote query (hword _ hquery) s).forall_mem

/-- A statement that is not written by hand is rendered into a phrase. -/
theorem Statement.isPhrase_render {statement : Statement} (hraw : statement.isRaw = false)
    (hwords : Allows ok statement.words) : (statement.render w {}).IsPhrase ok :=
  (isPhrase_conforms hok hquote).statement hraw hwords

theorem Statement.phrase_of_compile {statement : Statement} (hraw : statement.isRaw = false)
    (hwords : Allows ok statement.words) {c : CompiledSql} (h : w.compile statement = .ok c) :
    ∃ ps, Phrase ok ps ∧ statement.render w {} = .ofPieces ps ∧
      c = ⟨String.ofList (w.print 0 ps), Piece.parameters ps⟩ := by
  obtain ⟨ps, hrendered, rfl⟩ := Writer.pieces_of_compile h
  have hphrase := Statement.isPhrase_render hok hquote hraw hwords
  rw [hrendered] at hphrase
  exact ⟨ps, hphrase rfl, hrendered, rfl⟩

end

end TypedSql
