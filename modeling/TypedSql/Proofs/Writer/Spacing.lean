import TypedSql.Proofs.Writer.Collisions

namespace TypedSql

/-! Comments in compiled statements.  Spaces, parentheses and separators keep apart what is written
side by side, but for an operator of symbols in front of its operand. -/

open Rendering

def Uncommented (words : List String) : Prop :=
  ∀ text ∈ words, ¬Sql.HasComment (text.toList.map .char)

namespace Operator

variable {w : Writer} {op : Operator} {ns : List Expr}

theorem comments_pieces (hclean : Uncommented op.tokens) : (ofPieces op.pieces).Comments w [] := by
  intro _ count
  have hfront : (ofPieces op.pieces).pieces = op.pieces := rfl
  rw [hfront, op.tokens_pieces, w.config.casing.hasComment_apply_iff]
  simpa using not_hasComment_text hclean

/-- The end of an operator opens a comment with what is behind it as it would without casing. -/
theorem joins_tokens_iff (count : Nat) {ts : List Sql.Token} :
    Sql.Joins (w.tokens count op.pieces) ts ↔ ∃ first second, op.text.getLast? = some first ∧
      ts.head? = some (.char second) ∧ Sql.OpensComment first second := by
  rw [op.tokens_pieces]
  constructor
  · rintro ⟨first, second, hlast, hhead, hopens⟩
    simp only [List.getLast?_map, Option.map_eq_some_iff, Sql.Token.char.injEq] at hlast
    obtain ⟨_, ⟨first', hlast, rfl⟩, rfl⟩ := hlast
    have hsame := (w.config.casing.apply_eq_iff hopens.isClear_left).mp rfl
    exact ⟨_, second, hsame ▸ hlast, hhead, hopens⟩
  · rintro ⟨first, second, hlast, hhead, hopens⟩
    have hkept := w.config.casing.apply_of_not_isClear hopens.isClear_left
    exact ⟨first, second, by simp [hlast, hkept], hhead, hopens⟩

/-- An operator in front of its operand opens a comment if one stands in the operand already, or
if the two collide. -/
theorem comments_prefix (hclean : Uncommented op.tokens) {operand : Operand} {s : Scope}
    {type : Option WireType} (h : (operand.render w s).Comments w ns) :
    (ofPieces op.pieces ++ ((if !operand.parenthesized && !op.isSymbolic then symbol " " else
      empty) ++ operand.render w s)).Comments w (.unary op operand false type :: ns) := by
  intro hnone count
  obtain ⟨e, parenthesized⟩ := operand
  have hfront : (ofPieces op.pieces).pieces = op.pieces := rfl
  have hbehind := (failure_append_eq_none.mp hnone).2
  have hinner : ((if !parenthesized && !op.isSymbolic then symbol " " else empty) ++
      Operand.render w s ⟨e, parenthesized⟩).Comments w ns := by
    split
    · exact h.space.comments
    · rwa [empty_append]
  have hfirst : ¬Sql.HasComment (w.tokens count op.pieces) := by
    simpa [hfront] using comments_pieces hclean rfl count
  rw [pieces_append rfl, hfront, Writer.tokens_append, Sql.hasComment_append, or_iff_right hfirst,
    hinner hbehind, joins_tokens_iff, List.exists_mem_cons_iff, or_comm]
  refine or_congr ⟨?joined, ?collided⟩ Iff.rfl
  case joined =>
    rintro ⟨c, d, hlast, hhead, hopens⟩
    have hmark := hopens.isClear_right
    obtain ⟨hsymbolic, hbegun⟩ :=
      (op.begins_behind hmark (Expr.begins_render hmark e s) hbehind _).mp hhead
    exact ⟨hsymbolic, c, d, hlast, hbegun, hopens⟩
  case collided =>
    rintro ⟨hsymbolic, c, d, hlast, hbegun, hopens⟩
    have hmark := hopens.isClear_right
    exact ⟨c, d, hlast, (op.begins_behind hmark (Expr.begins_render hmark e s) hbehind _).mpr
      ⟨hsymbolic, hbegun⟩, hopens⟩

end Operator

theorem TableRef.comments_pieces {w : Writer} (t : TableRef) (s : Scope) :
    (ofPieces (t.pieces s)).Comments w [] :=
  (commentsBehind_clear (t.isClear_pieces s)).comments

theorem Dialect.commentsBehind_paginationIfAny {w : Writer} (d : Dialect)
    (limit offset : Option Nat) : (d.paginationIfAny limit offset).CommentsBehind w [] := by
  have hsymbols : " ".toList.all Sql.isClear ∧ ", ".toList.all Sql.isClear := ⟨rfl, rfl⟩
  have hwords : "limit".toList.all Sql.isClear ∧ "offset".toList.all Sql.isClear := ⟨rfl, rfl⟩
  unfold paginationIfAny
  split
  · cases d with
    | generic => exact commentsBehind_fail _
    | postgres =>
        refine commentsBehind_clear ?_
        cases limit <;> cases offset <;>
          simp only [List.forall_mem_append, List.forall_mem_cons, List.not_mem_nil, false_implies,
            implies_true, Piece.IsClear, hsymbols, hwords, and_self]
    | mysql =>
        refine commentsBehind_clear ?_
        cases offset <;>
          simp only [List.forall_mem_append, List.forall_mem_cons, List.not_mem_nil, false_implies,
            implies_true, Piece.IsClear, hsymbols, hwords, and_self]
    | sqlite =>
        cases limit with
        | some n =>
            refine commentsBehind_clear ?_
            cases offset <;>
              simp only [List.forall_mem_append, List.forall_mem_cons, List.not_mem_nil,
                false_implies, implies_true, Piece.IsClear, hsymbols, hwords, and_self]
        | none =>
            have hnumber : (symbol "-1").IsLiteral true :=
              .number (.signed rfl (Sql.isClear_chars rfl).not_hasComment)
            have hunlimited {ps : List Piece} (hclear : ∀ p ∈ ps, p.IsClear) :
                (symbol " " ++ (word "limit" ++ (symbol " " ++ (symbol "-1" ++ ofPieces
                  ps)))).CommentsBehind w [] :=
              ((hnumber.comments.append (commentsBehind_clear hclear)).space.comments.behind_word
                rfl).space
            refine hunlimited ?_
            cases offset <;>
              simp only [List.forall_mem_cons, List.not_mem_nil, false_implies, implies_true,
                Piece.IsClear, hsymbols, hwords, and_self]
  · exact commentsBehind_empty

theorem Writer.isClear_of_mem : ∀ text ∈ Writer.keywords, text.toList.all Sql.isClear := by
  decide

theorem Expr.not_collides_of_not_isPrefixed {e : Expr} {d : Dialect} (h : e.isPrefixed = false) :
    ¬e.Collides d := by
  cases e with
  | unary op operand postfixed type =>
      cases postfixed with
      | true => exact id
      | false => cases h
  | _ => exact id

/-- What opens comments, and where, is kept by all that renderings are put together with. -/
theorem Rendering.comments_conforms {w : Writer} (hquote : w.config.quote ≠ "") :
    Expr.nodeListing.Conforms w (fun text => ¬Sql.HasComment (text.toList.map .char))
      (fun r ns => r.Comments w ns) (fun r ns => r.CommentsBehind w ns) where
  weaken h := h.comments
  append := Comments.append
  tails := CommentsBehind.append
  empty := commentsBehind_empty
  space := Comments.space
  keyword hkeyword _ _ h := h.behind_word (Writer.isClear_of_mem _ hkeyword)
  parens hleft hright _ _ _ _ hinner hbehind := by
    refine ((hinner.append (hbehind.behind_symbol ?_ ?_)).behind_symbol ?_ ?_).comments
    · rcases hright with rfl | rfl <;> decide
    · rcases hright with rfl | rfl <;> decide
    · rcases hleft with rfl | rfl <;> decide
    · rcases hleft with rfl | rfl <;> decide
  tail_parens h := ⟨h, beginsClear_symbol rfl (by decide) _⟩
  separate := comments_separate hquote
  asterisk := comments_asterisk
  name := comments_name
  assigned text _ _ h := (comments_name text).append (h.behind_symbol rfl (by decide))
  operator hknown := Operator.comments_pieces hknown
  prefixed hknown _ _ _ _ h := Operator.comments_prefix hknown h
  call := comments_word_of_not_hasComment
  callWith hknown _ _ h := (comments_word_of_not_hasComment hknown).append (h.parens (.inl rfl))
  node hplain _ _ h := h.cons (Expr.not_collides_of_not_isPrefixed hplain)
  column s _ c := (commentsBehind_clear (c.isClear_pieces s)).comments.cons id
  parameter _ _ p := (commentsBehind_clear (by simp [Piece.IsClear])).comments.cons id
  literal _ _ v := (v.isLiteral_literal w.dialect).comments.cons id
  table _ _ t _ := t.comments_pieces _
  derived aliasName _ _ h :=
    ((h.append ((comments_name aliasName).behind_symbol rfl (by decide))).behind_symbol rfl
      (by decide)).comments
  pagination := w.dialect.commentsBehind_paginationIfAny
  block _ _ _ h := h
  bare _ _ _ := comments_fail _
  target _ t := t.comments_pieces _

/-- A compiled statement opens a comment outside of the quoted regions exactly where an operator of
symbols collides with the operand behind it: the operator's last character and the operand's first
one are then two dashes, or a slash and an asterisk. -/
theorem Statement.comment_iff_collides {w : Writer} (hquote : w.config.HasNameQuote)
    {statement : Statement} (hraw : statement.isRaw = false)
    (hunquoted : ∀ word ∈ statement.words, word.toList.all fun c => !Sql.isQuote c)
    (hclean : Uncommented statement.words) {c : CompiledSql}
    (hcompiled : w.compile statement = .ok c) :
    ∃ ts, Sql.lex c.sql.toList = some ts ∧
      (Sql.HasComment ts ↔ ∃ n ∈ statement.nodes, n.Collides w.dialect) := by
  have hok : AllowsKeywords fun c => !Sql.isQuote c :=
    allowsKeywords_of_isInert fun c hinert => by simp [Writer.isQuote_eq_false_of_isInert hinert]
  obtain ⟨ps, hphrase, hrendered, rfl⟩ :=
    Statement.phrase_of_compile hok hquote.quote_ne_empty hraw hunquoted hcompiled
  have hcomments := (comments_conforms hquote.quote_ne_empty).statement hraw hclean
  rw [hrendered] at hcomments
  refine ⟨w.tokens 0 ps, ?_, hcomments rfl 0⟩
  rw [String.toList_ofList]
  exact Writer.lex_print hquote (by simp) hok.letters hphrase 0

def negated (n : Integer .int32) : Expr :=
  .unary ⟨["-"]⟩ (.of (.literal (.some (.integer .int32 n)))) false (some .int32)

def negation (n : Integer .int32) : Statement :=
  .select ⟨[⟨negated n, none⟩], none, none, false, [], none, [], none, none⟩

theorem uncommented_negation (n : Integer .int32) : Uncommented (negation n).words := by
  have hwords : (negation n).words = ["-"] := rfl
  rw [hwords]
  exact List.forall_mem_singleton.mpr (Sql.not_hasComment_singleton _)

theorem negation_of_five : ∃ ts, Sql.lex "SELECT -5".toList = some ts ∧ ¬Sql.HasComment ts := by
  have hcompiled : (Writer.of .sqlite {}).compile (negation ⟨5, by decide, by decide⟩) =
      .ok ⟨"SELECT -5", []⟩ := by decide +kernel
  have hunquoted : ∀ word ∈ (negation ⟨5, by decide, by decide⟩).words,
      word.toList.all fun c => !Sql.isQuote c := by decide +kernel
  obtain ⟨ts, hread, hcomment⟩ := Statement.comment_iff_collides (.inl rfl) rfl hunquoted
    (uncommented_negation _) hcompiled
  have hnodes (n : Integer .int32) :
      (negation n).nodes = [negated n, .literal (.some (.integer .int32 n))] := rfl
  refine ⟨ts, hread, hcomment.not.mpr ?_⟩
  simp [hnodes, negated, Operand.of, Expr.Collides, Operand.Opens, Expr.Opens, Value.isMarked]

/-- The minus and the sign of the number open a comment, which takes the number away. -/
theorem negation_of_negative_comments :
    Uncommented (negation ⟨-5, by decide, by decide⟩).words ∧
      (Writer.of .sqlite {}).compile (negation ⟨-5, by decide, by decide⟩) =
        .ok ⟨"SELECT --5", []⟩ ∧
      ∃ ts, Sql.lex "SELECT --5".toList = some ts ∧ Sql.HasComment ts := by
  refine ⟨uncommented_negation _, by decide +kernel, "SELECT --5".toList.map .char,
    by decide +kernel, ?_⟩
  exact ⟨"SELECT ".toList.map .char, '-', '-', ['5'].map .char, rfl, .inl ⟨rfl, rfl⟩⟩

end TypedSql
