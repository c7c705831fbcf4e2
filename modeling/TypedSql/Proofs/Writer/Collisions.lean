import TypedSql.Proofs.Writer.Comments

namespace TypedSql

/-! Operators that collide with their operands.  An operator made of symbols is written right in
front of its operand, and the two can open a comment together; nothing else that a writer puts side
by side does. -/

/-- Whether a minus is written in front of a number. -/
def Binary.isMarked {f : BinaryFormat} (x : Binary f) (d : Dialect) : Bool :=
  x.negative && if x.isInfinite then d = .sqlite else !x.isNaN

/-- Whether a value is written as a number with a minus in front of it. -/
def Value.isMarked (d : Dialect) : Value → Bool
  | some (.integer _ n) => n.val < 0
  | some (.float32 x) => x.isMarked d
  | some (.float64 x) => x.isMarked d
  | some (.decimal x) => x.negative
  | _ => false

mutual

/-- Whether the text of an expression begins with a character, which may be one of those that open
comments. -/
def Expr.Opens (d : Dialect) (c : Char) : Expr → Prop
  | .literal v => c = '-' ∧ v.isMarked d
  | .unary _ operand true _ => operand.Opens d c
  | .unary op operand false _ =>
      op.text.head? = some c ∨ op.text = [] ∧ op.isSymbolic ∧ operand.Opens d c
  | .binary left _ _ _ => left.Opens d c
  | .ternary first _ _ _ _ _ => first.Opens d c
  | .function name _ _ _ => name.toList.head? = some c
  | .inList operand _ _ => operand.Opens d c
  | .inQuery operand _ _ => operand.Opens d c
  | .tuple elements => Expr.OpensTuple d c elements
  | _ => False

def Operand.Opens (d : Dialect) (c : Char) : Operand → Prop
  | ⟨e, parenthesized⟩ => parenthesized = false ∧ e.Opens d c

def Expr.OpensTuple (d : Dialect) (c : Char) : List Expr → Prop
  | [e] => e.Opens d c
  | _ => False

end

/-- An operator before its operand, of which the last character opens a comment with the first one
of the operand. -/
def Expr.Collides (d : Dialect) : Expr → Prop
  | .unary op operand false _ => op.isSymbolic ∧ ∃ first second,
      op.text.getLast? = some first ∧ operand.Opens d second ∧ Sql.OpensComment first second
  | _ => False

namespace Rendering

/-- What is rendered without a failure opens a comment if one of the nodes collides, and only
then. -/
def Comments (w : Writer) (r : Rendering) (ns : List Expr) : Prop :=
  r.failure = none → ∀ count,
    Sql.HasComment (w.tokens count r.pieces) ↔ ∃ n ∈ ns, n.Collides w.dialect

def BeginsClear (w : Writer) (r : Rendering) : Prop :=
  r.failure = none → ∀ count, Sql.BeginsClear (w.tokens count r.pieces)

/-- The same of what can stand behind anything else. -/
structure CommentsBehind (w : Writer) (r : Rendering) (ns : List Expr) : Prop where
  comments : r.Comments w ns
  begins : r.BeginsClear w

variable {w : Writer} {a b r : Rendering} {ns ms : List Expr} {ps : List Piece}

theorem exists_collides_append {d : Dialect} :
    (∃ n ∈ ns ++ ms, n.Collides d) ↔ (∃ n ∈ ns, n.Collides d) ∨ ∃ n ∈ ms, n.Collides d := by
  simp only [List.mem_append, or_and_right, exists_or]

theorem Comments.congr (h : r.Comments w ns) (hsame : ns = ms) : r.Comments w ms :=
  hsame ▸ h

theorem Comments.cons {n : Expr} (h : r.Comments w ns) (hapart : ¬n.Collides w.dialect) :
    r.Comments w (n :: ns) := by
  intro hnone count
  simp [h hnone count, hapart]

theorem comments_fail (e : Error) : (fail e).Comments w ns := by
  intro hnone
  cases hnone

theorem commentsBehind_fail (e : Error) : (fail e).CommentsBehind w ns where
  comments := comments_fail e
  begins := by
    intro hnone
    cases hnone

theorem commentsBehind_clear (hclear : ∀ p ∈ ps, p.IsClear) :
    (ofPieces ps).CommentsBehind w [] where
  comments _ count := by
    have hapart := (Writer.isClear_tokens (w := w) hclear count).not_hasComment
    simp [ofPieces, hapart]
  begins _ count := (Writer.isClear_tokens hclear count).begins

theorem commentsBehind_empty : empty.CommentsBehind w [] :=
  @commentsBehind_clear w [] (by simp)

theorem Comments.behind (h : r.Comments w ns) (hclear : ∀ p ∈ ps, p.IsClear) :
    (ofPieces ps ++ r).Comments w ns := by
  intro hnone count
  have hfront : (ofPieces ps).pieces = ps := rfl
  rw [pieces_append rfl, Writer.tokens_append, hfront,
    (Writer.isClear_tokens hclear count).hasComment_append_iff]
  exact h (failure_append_eq_none.mp hnone).2 _

theorem Comments.append (ha : a.Comments w ns) (hb : b.CommentsBehind w ms) :
    (a ++ b).Comments w (ns ++ ms) := by
  intro hnone count
  obtain ⟨hfirst, hsecond⟩ := failure_append_eq_none.mp hnone
  rw [pieces_append hfirst, Writer.tokens_append, (hb.begins hsecond _).hasComment_append_iff,
    ha hfirst, hb.comments hsecond, exists_collides_append]

theorem CommentsBehind.append (ha : a.CommentsBehind w ns) (hb : b.CommentsBehind w ms) :
    (a ++ b).CommentsBehind w (ns ++ ms) where
  comments := ha.comments.append hb
  begins hnone count := by
    obtain ⟨hfirst, hsecond⟩ := failure_append_eq_none.mp hnone
    rw [pieces_append hfirst, Writer.tokens_append]
    exact (ha.begins hfirst _).append (hb.begins hsecond _)

theorem Comments.behind_word (h : r.Comments w ns) {text : String}
    (hclear : text.toList.all Sql.isClear) : (word text ++ r).Comments w ns := by
  have hclear' : ∀ p ∈ [Piece.word text], p.IsClear := by simpa [Piece.IsClear] using hclear
  exact h.behind hclear'

theorem beginsClear_cons {p : Piece} (hclear : p.IsClear)
    (hsome : ∀ count, w.pieceTokens count p ≠ []) (r : Rendering) :
    (ofPieces [p] ++ r).BeginsClear w := by
  intro _ count
  have hfront : (ofPieces [p]).pieces = [p] := rfl
  rw [pieces_append rfl, hfront, List.singleton_append, Writer.tokens_cons]
  exact (Writer.isClear_pieceTokens hclear count).begins_append (hsome count) _

theorem beginsClear_symbol {text : String} (hclear : text.toList.all Sql.isClear)
    (hsome : text ≠ "") (r : Rendering) : (symbol text ++ r).BeginsClear w :=
  beginsClear_cons (p := .symbol text) hclear (fun _ => by simpa [Writer.pieceTokens] using hsome) r

/-- A separator keeps what is behind it apart from what is in front of it. -/
theorem Comments.behind_symbol (h : r.Comments w ns) {text : String}
    (hclear : text.toList.all Sql.isClear) (hsome : text ≠ "") :
    (symbol text ++ r).CommentsBehind w ns where
  comments := by
    have hclear' : ∀ p ∈ [Piece.symbol text], p.IsClear := by simpa [Piece.IsClear] using hclear
    exact h.behind hclear'
  begins := beginsClear_symbol hclear hsome r

theorem Comments.space (h : r.Comments w ns) : (symbol " " ++ r).CommentsBehind w ns :=
  h.behind_symbol (by decide) (by decide)

theorem commentsBehind_symbol {text : String} (hclear : text.toList.all Sql.isClear) :
    (symbol text).CommentsBehind w [] :=
  commentsBehind_clear (by simpa [Piece.IsClear] using hclear)

/-- A word opens comments as its text does. -/
theorem comments_word_of_not_hasComment {text : String}
    (hapart : ¬Sql.HasComment (text.toList.map .char)) : (word text).Comments w [] := by
  intro _ count
  rw [Writer.tokens_word, w.config.casing.hasComment_apply_iff]
  simpa using hapart

theorem comments_name (text : String) : (name text).Comments w [] :=
  (commentsBehind_clear (by simp [Piece.IsClear])).comments

/-- All the columns of a source. -/
theorem comments_asterisk : (symbol "*").Comments w [] := by
  intro _ count
  simp [symbol, ofPieces, Writer.tokens, Writer.pieceTokens, Sql.not_hasComment_singleton]

theorem Comments.before_symbol (h : r.Comments w ns) {text : String}
    (hclear : text.toList.all Sql.isClear) : (r ++ symbol text).Comments w ns :=
  (h.append (commentsBehind_symbol hclear)).congr (List.append_nil ns)

theorem Comments.parens (h : r.Comments w ns) {left : String} (hopens : left = "(" ∨ left = " (") :
    (symbol left ++ (r ++ symbol ")")).CommentsBehind w ns := by
  refine (h.before_symbol rfl).behind_symbol ?_ ?_ <;> rcases hopens with rfl | rfl <;> decide

theorem comments_separate (hquote : w.config.quote ≠ "") {rs : List Rendering}
    (h : MatchInOrder (fun r ns => r.Comments w ns) rs ns) :
    (separate w.config.quote rs).Comments w ns := by
  induction h with
  | nil => exact commentsBehind_empty.comments
  | @cons r rs ns ms hhere hrest ih =>
      cases rs with
      | nil =>
          cases hrest
          exact hhere.congr (List.append_nil ns).symm
      | cons r' rs =>
          rw [separate.eq_3 w.config.quote r (r' :: rs) (by simp)]
          cases hvisible : r.isVisible w.config.quote with
          | true => exact hhere.append (ih.behind_symbol (by decide) (by decide))
          | false =>
              intro hnone count
              obtain ⟨hfirst, hsecond⟩ := failure_append_eq_none.mp hnone
              have hhidden : ∀ count, w.tokens count r.pieces = [] :=
                Writer.tokens_eq_nil_of_not_visible hquote (by simpa [isVisible] using hvisible)
              have hapart : ¬∃ n ∈ ns, n.Collides w.dialect := by
                rw [← hhere hfirst count, hhidden]
                exact Sql.not_hasComment_nil
              rw [pieces_append hfirst, Writer.tokens_append, hhidden, List.nil_append,
                exists_collides_append, or_iff_right hapart]
              simp only [Bool.false_eq_true, if_false, empty_append] at hsecond ⊢
              exact ih hsecond _

end Rendering

namespace Rendering

/-- Whether what is rendered without a failure begins with a character. -/
def Begins (w : Writer) (c : Char) (r : Rendering) (p : Prop) : Prop :=
  r.failure = none → ∀ count, (w.tokens count r.pieces).head? = some (.char c) ↔ p

variable {w : Writer} {c : Char} {a b r : Rendering} {p : Prop}

theorem BeginsClear.begins (hmark : Sql.isClear c = false) (h : r.BeginsClear w) :
    r.Begins w c False := by
  intro hnone count
  refine iff_of_false (fun hhead => ?_) id
  rw [h hnone count c hhead] at hmark
  cases hmark

theorem beginsClear_clear {ps : List Piece} (hclear : ∀ p ∈ ps, p.IsClear) :
    (ofPieces ps).BeginsClear w :=
  (commentsBehind_clear hclear).begins

theorem beginsClear_word {text : String} (hclear : text.toList.all Sql.isClear) (hsome : text ≠ "")
    (r : Rendering) : (word text ++ r).BeginsClear w :=
  beginsClear_cons (p := .word text) hclear (fun _ => by simpa [Writer.pieceTokens] using hsome) r

/-- Casing leaves the characters that open comments alone. -/
theorem begins_word (text : String) (hmark : Sql.isClear c = false) :
    (word text).Begins w c (text.toList.head? = some c) := by
  intro _ count
  rw [Writer.tokens_word]
  cases text.toList with
  | nil => simp
  | cons first rest => simp [w.config.casing.apply_eq_iff hmark]

theorem Begins.append (ha : a.Begins w c p) (hmark : Sql.isClear c = false)
    (hb : b.BeginsClear w) : (a ++ b).Begins w c p := by
  intro hnone count
  obtain ⟨hfirst, hsecond⟩ := failure_append_eq_none.mp hnone
  rw [pieces_append hfirst, Writer.tokens_append, ← ha hfirst count]
  cases w.tokens count a.pieces with
  | nil =>
      have hother := hb.begins hmark hsecond (count + (Piece.parameters a.pieces).length)
      simp [hother]
  | cons t ts => rfl

theorem beginsClear_enclose (r : Rendering) : (enclose true r).BeginsClear w := by
  have henclosed : enclose true r = symbol "(" ++ (r ++ symbol ")") := append_assoc _ _ _
  rw [henclosed]
  exact beginsClear_symbol (by decide) (by decide) _

end Rendering

open Rendering

theorem ColumnRef.isClear_pieces (c : ColumnRef) (s : Scope) : ∀ p ∈ c.pieces s, p.IsClear := by
  have hpoint : Sql.isClear '.' = true := rfl
  unfold pieces qualifierPieces
  repeat' split
  all_goals simp [Piece.IsClear, hpoint]

theorem TableRef.isClear_pieces (t : TableRef) (s : Scope) : ∀ p ∈ t.pieces s, p.IsClear := by
  have hpoint : Sql.isClear '.' = true := rfl
  have hspace : Sql.isClear ' ' = true := rfl
  simp only [pieces]
  repeat' split
  all_goals simp [Piece.IsClear, hpoint, hspace]

namespace Rendering

/-- What is written of a value: pieces without the characters that open comments, or a number, with
its sign. -/
inductive IsLiteral (negative : Bool) : Rendering → Prop
  | clear {ps : List Piece} (hclear : ∀ p ∈ ps, p.IsClear) (hunsigned : negative = false) :
      IsLiteral negative (ofPieces ps)
  | number {text : String} (hnumber : Sql.IsNumber negative text.toList) :
      IsLiteral negative (symbol text)
  | fail (e : Error) : IsLiteral negative (fail e)

variable {negative : Bool} {w : Writer} {c : Char} {r : Rendering}

theorem IsLiteral.comments (hliteral : r.IsLiteral negative) : r.Comments w [] := by
  cases hliteral with
  | clear hclear => exact (commentsBehind_clear hclear).comments
  | @number text hnumber =>
      intro _ count
      simpa [symbol, ofPieces, Writer.tokens, Writer.pieceTokens] using hnumber.not_hasComment
  | fail e => exact comments_fail e

theorem IsLiteral.begins (hliteral : r.IsLiteral negative) (hmark : Sql.isClear c = false) :
    r.Begins w c (c = '-' ∧ negative) := by
  intro hnone count
  cases hliteral with
  | clear hclear hunsigned =>
      rw [(beginsClear_clear hclear).begins hmark hnone count, hunsigned]
      simp
  | @number text hnumber =>
      rw [← hnumber.head?_eq_some_iff hmark]
      simp [symbol, ofPieces, Writer.tokens, Writer.pieceTokens]
  | fail e => cases hnone

theorem isLiteral_quoted (body : String) : (ofPieces [.quoted body]).IsLiteral false :=
  .clear (by simp [Piece.IsClear]) rfl

theorem isLiteral_word {text : String} (hclear : text.toList.all Sql.isClear) :
    (word text).IsLiteral false :=
  .clear (by simpa [Piece.IsClear] using hclear) rfl

end Rendering

theorem Binary.isLiteral_literalPieces {f : BinaryFormat} (x : Binary f) (d : Dialect) :
    (ofPieces (x.literalPieces d)).IsLiteral (x.isMarked d) := by
  have hcast (name : String) : ∀ p ∈ [Piece.word "cast", .symbol "(", .quoted name, .symbol " ",
      .word "as double precision", .symbol ")"], p.IsClear := by
    simp only [List.forall_mem_cons, List.not_mem_nil, false_implies, implies_true, and_true,
      Piece.IsClear, true_and]
    decide
  unfold literalPieces isMarked
  cases hinfinite : x.isInfinite with
  | true =>
      cases d with
      | sqlite =>
          have hlarge : ¬Sql.HasComment ("1.0e+10000".toList.map .char) :=
            (Sql.isClear_chars rfl).not_hasComment
          cases x.negative with
          | true => exact IsLiteral.number (.signed rfl hlarge)
          | false => exact IsLiteral.number (.signed rfl hlarge)
      | _ => exact .clear (hcast _) (by simp)
  | false =>
      cases hundefined : x.isNaN with
      | true => exact .clear (hcast _) (by simp)
      | false =>
          have hsigned := BinaryLayout.isSigned_write (.value f) hundefined hinfinite
          rw [← String.toList_ofList (l := (BinaryLayout.value f).write x)] at hsigned
          simp only [Bool.not_false, Bool.and_true, if_false, Bool.false_eq_true]
          exact IsLiteral.number (Sql.isNumber_of_isSigned hsigned)

theorem Value.isLiteral_literal (v : Value) (d : Dialect) :
    (v.literal d).IsLiteral (v.isMarked d) := by
  cases v with
  | null | nullOf => exact isLiteral_word (by decide)
  | some c =>
      cases c with
      | boolean b => cases b <;> exact isLiteral_word (by decide)
      | integer kind n => exact .number (Sql.isNumber_of_isSigned (isSigned_toString n.val))
      | float32 x => exact x.isLiteral_literalPieces d
      | float64 x => exact x.isLiteral_literalPieces d
      | decimal x =>
          have hsigned := x.isSigned_write
          rw [← String.toList_ofList (l := x.write)] at hsigned
          exact .number (Sql.isNumber_of_isSigned hsigned)
      | blob bytes =>
          have hletter : Sql.isClear 'X' = true := rfl
          exact .clear (by simp [Piece.IsClear, hletter]) rfl
      | timestampWithTimezone x =>
          simp only [literal, Content.literal]
          split
          · exact isLiteral_quoted _
          · exact .fail _
      | _ => exact isLiteral_quoted _

namespace Operator

variable {w : Writer} {c : Char} {p : Prop} {r : Rendering} (op : Operator)

/-- An operator begins with its own first character, or, if it is written as nothing, with what
stands behind it. -/
theorem begins_append (hmark : Sql.isClear c = false) (h : r.Begins w c p) :
    (Rendering.ofPieces op.pieces ++ r).Begins w c (op.text.head? = some c ∨ op.text = [] ∧ p) := by
  intro hnone count
  have hfront : (Rendering.ofPieces op.pieces).pieces = op.pieces := rfl
  rw [pieces_append rfl, hfront, Writer.tokens_append, op.tokens_pieces]
  cases op.text with
  | nil => simpa using h (failure_append_eq_none.mp hnone).2 _
  | cons first rest => simp [w.config.casing.apply_eq_iff hmark]

/-- Between an operator and its operand there is nothing if the operator ends in symbols; what is
behind other operators begins with a space or a parenthesis. -/
theorem begins_behind (hmark : Sql.isClear c = false) {e : Expr} {parenthesized : Bool} {s : Scope}
    (h : (e.render w s).Begins w c (e.Opens w.dialect c)) :
    ((if !parenthesized && !op.isSymbolic then symbol " " else Rendering.empty) ++
      Operand.render w s ⟨e, parenthesized⟩).Begins w c
        (op.isSymbolic ∧ Operand.Opens w.dialect c ⟨e, parenthesized⟩) := by
  simp only [Operand.render, Operand.Opens]
  cases parenthesized with
  | true => simpa using (beginsClear_enclose (e.render w s)).begins hmark
  | false =>
      cases op.isSymbolic with
      | true => simpa [enclose] using h
      | false =>
          have hspace : (symbol " " ++ e.render w s).BeginsClear w :=
            beginsClear_symbol (by decide) (by decide) _
          simpa [enclose] using hspace.begins hmark

end Operator

section

variable {w : Writer} {c : Char} (hmark : Sql.isClear c = false)

include hmark

theorem Operand.begins_render_of_expression {operand : Operand} {s : Scope}
    (h : (operand.expression.render w s).Begins w c (operand.expression.Opens w.dialect c)) :
    (operand.render w s).Begins w c (operand.Opens w.dialect c) := by
  obtain ⟨e, parenthesized⟩ := operand
  simp only [Operand.render, Operand.Opens]
  cases parenthesized with
  | true => simpa using (beginsClear_enclose (e.render w s)).begins hmark
  | false => simpa [enclose] using h

theorem Expr.begins_hereditary :
    Hereditary (fun e => ∀ s, (e.render w s).Begins w c (e.Opens w.dialect c))
      (fun operand => ∀ s, (operand.expression.render w s).Begins w c
        (operand.expression.Opens w.dialect c))
      (fun _ => True) (fun _ => True) (fun _ => True) (fun _ => True) where
  column column s := by
    simpa only [Expr.render, Expr.Opens] using
      (beginsClear_clear (column.isClear_pieces s)).begins hmark
  parameter p s := by
    have hclear : ∀ q ∈ [Piece.placeholder p], q.IsClear := by simp [Piece.IsClear]
    simpa only [Expr.render, Expr.Opens] using (beginsClear_clear hclear).begins hmark
  literal v s := by
    simpa only [Expr.render, Expr.Opens] using (v.isLiteral_literal w.dialect).begins hmark
  unary op operand postfixed type hoperand s := by
    cases postfixed with
    | true =>
        simp only [Expr.render, if_true, append_assoc, Expr.Opens]
        exact (Operand.begins_render_of_expression hmark (hoperand s)).append hmark
          (beginsClear_symbol (by decide) (by decide) _)
    | false =>
        obtain ⟨inner, parenthesized⟩ := operand
        simp only [Expr.render, Bool.false_eq_true, if_false, append_assoc, Expr.Opens]
        exact op.begins_append hmark (op.begins_behind hmark (hoperand s))
  binary left op right type hleft _ s := by
    simp only [Expr.render, append_assoc, Expr.Opens]
    exact (Operand.begins_render_of_expression hmark (hleft s)).append hmark
      (beginsClear_symbol (by decide) (by decide) _)
  ternary first op second op2 third type hfirst _ _ s := by
    simp only [Expr.render, append_assoc, Expr.Opens]
    exact (Operand.begins_render_of_expression hmark (hfirst s)).append hmark
      (beginsClear_symbol (by decide) (by decide) _)
  function name args emptyParens type _ _ s := by
    have hname := Rendering.begins_word (w := w) name hmark
    simp only [Expr.render, append_assoc, Expr.Opens]
    split
    · exact hname
    · exact hname.append hmark (beginsClear_symbol (by decide) (by decide) _)
  case operand branches otherwise type _ _ _ s := by
    simp only [Expr.render, append_assoc, Expr.Opens]
    exact (beginsClear_word (by decide) (by decide) _).begins hmark
  inList operand values negated hoperand _ s := by
    simp only [Expr.render, append_assoc, Expr.Opens]
    exact (Operand.begins_render_of_expression hmark (hoperand s)).append hmark
      (beginsClear_symbol (by decide) (by decide) _)
  inQuery operand query negated hoperand _ s := by
    simp only [Expr.render, append_assoc, Expr.Opens]
    exact (Operand.begins_render_of_expression hmark (hoperand s)).append hmark
      (beginsClear_symbol (by decide) (by decide) _)
  tuple elements helements s := by
    simp only [Expr.render, Expr.Opens]
    cases elements with
    | nil =>
        simp only [Expr.OpensTuple]
        exact commentsBehind_empty.begins.begins hmark
    | cons first rest =>
        cases rest with
        | nil =>
            simpa [Expr.OpensTuple, Expr.renderAll, separate, enclose] using
              helements first (List.mem_singleton_self first) s
        | cons second rest =>
            have hseveral : decide (1 < (first :: second :: rest).length) = true := by simp
            rw [hseveral]
            simpa only [Expr.OpensTuple] using (beginsClear_enclose _).begins hmark
  subselect query _ s := by
    simp only [Expr.render, Expr.Opens]
    exact (beginsClear_enclose _).begins hmark
  operand e parens he := he

theorem Expr.begins_render (e : Expr) (s : Scope) :
    (e.render w s).Begins w c (e.Opens w.dialect c) :=
  Expr.of_hereditary (Expr.begins_hereditary hmark) e s

end

end TypedSql
