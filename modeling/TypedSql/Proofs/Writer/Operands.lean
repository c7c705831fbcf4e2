import TypedSql.Proofs.Writer.Injection
import TypedSql.Statement.Build

namespace TypedSql

/-! Operands keep to themselves.  Outside of parentheses, quotes and a CASE the text of an operand
has no white space, so that no operator beside it can take a part of it. -/

namespace Sql

/-- No white space stands outside of quotes and parentheses. -/
def IsSolid (ts : List Token) : Prop :=
  ∀ before c after, ts = before ++ .char c :: after → Text.isBlank c →
    depthAfter? 0 before ≠ some 0

theorem isSolid_of_forall {ts : List Token} (h : ∀ c, .char c ∈ ts → Text.isBlank c = false) :
    IsSolid ts := by
  rintro before c after rfl hblank
  rw [h c (by simp)] at hblank
  cases hblank

theorem Token.depth?_succ {t : Token} {depth after : Nat} (h : t.depth? depth = some after) :
    t.depth? (depth + 1) = some (after + 1) := by
  cases t with
  | region quote body =>
      cases h
      rfl
  | char c =>
      simp only [depth?] at h ⊢
      by_cases hopen : c = '('
      · simp only [if_pos hopen] at h ⊢
        cases h
        rfl
      · by_cases hclose : c = ')'
        · cases depth with
          | zero => simp [hclose] at h
          | succ depth =>
              simp only [if_neg hopen, if_pos hclose, if_neg (Nat.succ_ne_zero _)] at h ⊢
              cases h
              rfl
        · simp only [if_neg hopen, if_neg hclose] at h ⊢
          cases h
          rfl

/-- The same text read inside of a parenthesis. -/
theorem depthAfter?_succ {ts : List Token} {depth after : Nat}
    (h : depthAfter? depth ts = some after) : depthAfter? (depth + 1) ts = some (after + 1) := by
  induction ts generalizing depth with
  | nil =>
      cases h
      rfl
  | cons t ts ih =>
      simp only [depthAfter?, List.foldlM_cons, Option.bind_eq_bind, Option.bind_eq_some_iff]
        at h ⊢
      obtain ⟨next, hnext, h⟩ := h
      exact ⟨next + 1, t.depth?_succ hnext, ih h⟩

/-- What stands in parentheses has its white space inside of them. -/
theorem isSolid_enclosed {head body : List Token}
    (hhead : ∀ c, .char c ∈ head → Text.isBlank c = false)
    (hdepth : depthAfter? 0 head = some 0) (hbody : Balanced body) :
    IsSolid (head ++ .char '(' :: (body ++ [.char ')'])) := by
  intro before c after hsplit hblank
  have hnotOpening : c ≠ '(' := by
    rintro rfl
    cases hblank
  have hnotClosing : c ≠ ')' := by
    rintro rfl
    cases hblank
  obtain ⟨between, rfl, hrest⟩ | ⟨between, rfl, hrest⟩ := List.append_eq_append_iff.mp hsplit
  · cases between with
    | nil =>
        cases hrest
        exact absurd rfl hnotOpening
    | cons t between =>
        rw [List.cons_append] at hrest
        obtain ⟨rfl, htail⟩ := List.cons.inj hrest
        obtain ⟨last, hlast, hend⟩ | ⟨last, hlast, hend⟩ := List.append_eq_append_iff.mp htail
        · cases last with
          | nil =>
              cases hend
              exact absurd rfl hnotClosing
          | cons t last =>
              have := congrArg List.length hend
              simp at this
        · rw [hlast, Balanced, depthAfter?_append] at hbody
          obtain ⟨depth, hbetween, -⟩ := Option.bind_eq_some_iff.mp hbody
          have hopened : depthAfter? 0 (.char '(' :: between) = some (depth + 1) :=
            depthAfter?_succ hbetween
          rw [depthAfter?_append, hdepth, Option.bind_some, hopened]
          simp
  · cases between with
    | nil =>
        cases hrest
        exact absurd rfl hnotOpening
    | cons t between =>
        obtain ⟨rfl, -⟩ := List.cons.inj hrest
        rw [hhead c (by simp)] at hblank
        cases hblank

end Sql

def isNarrow (c : Char) : Bool :=
  Sql.isFlat c && !Text.isBlank c

theorem isNarrow_of_isAlphanum {c : Char} (h : c.isAlphanum) : isNarrow c := by
  have hnotBlank : Text.isBlank c = false := by
    change ((decide (65 ≤ c.toNat ∧ c.toNat ≤ 90) ||
      (decide (97 ≤ c.toNat) && decide (c.toNat ≤ 122))) ||
      (decide (48 ≤ c.toNat) && decide (c.toNat ≤ 57))) = true at h
    simp only [Bool.or_eq_true, Bool.and_eq_true, decide_eq_true_eq] at h
    simp only [Text.isBlank, Bool.or_eq_false_iff, Bool.and_eq_false_imp, decide_eq_true_eq,
      decide_eq_false_iff_not, beq_eq_false_iff_ne]
    omega
  rw [isNarrow, hnotBlank, Sql.isFlat_of_isInert (isInert_of_isAlphanum h)]
  rfl

theorem isNarrow_of_isAlpha {c : Char} (h : c.isAlpha) : isNarrow c :=
  isNarrow_of_isAlphanum (by simp [Char.isAlphanum, h])

theorem isNarrow_of_isNumeral {c : Char} (h : isNumeral c) : isNarrow c := by
  simp only [isNumeral, Bool.or_eq_true, beq_iff_eq] at h
  rcases h with (halphanumeric | rfl) | rfl
  · exact isNarrow_of_isAlphanum halphanumeric
  · rfl
  · rfl

namespace Piece

def isNarrow : Piece → Bool
  | word text | symbol text => text.toList.all TypedSql.isNarrow
  | name _ | quoted _ | placeholder _ => true
  | verbatim _ => false

end Piece

/-- Pieces that nothing beside them can take apart: there is no white space in them, or they end
with a pair of parentheses around it, or they are a CASE up to its END. -/
inductive SelfContained (ok : Char → Bool) : List Piece → Prop
  | narrow {ps : List Piece} (hnarrow : ∀ p ∈ ps, p.isNarrow) : SelfContained ok ps
  | enclosed {head inner : List Piece} (hnarrow : ∀ p ∈ head, p.isNarrow)
      (hbody : Phrase ok inner) :
      SelfContained ok (head ++ .symbol "(" :: (inner ++ [.symbol ")"]))
  | case {inner : List Piece} (hbody : Phrase ok inner) :
      SelfContained ok (.word "case" :: (inner ++ [.word "end"]))

namespace SelfContained

variable {ok : Char → Bool} {inner : List Piece}

theorem call {text : String} (h : text.toList.all isNarrow) (hbody : Phrase ok inner) :
    SelfContained ok (.word text :: .symbol "(" :: (inner ++ [.symbol ")"])) := by
  have hnarrow : ∀ p ∈ [Piece.word text], p.isNarrow := by simpa [Piece.isNarrow] using h
  exact .enclosed hnarrow hbody

theorem parens (hbody : Phrase ok inner) :
    SelfContained ok (.symbol "(" :: (inner ++ [.symbol ")"])) := by
  have hnarrow : ∀ p ∈ ([] : List Piece), p.isNarrow := by simp
  exact .enclosed hnarrow hbody

end SelfContained

namespace Writer

variable {w : Writer}

theorem isNarrow_pieceTokens {p : Piece} (hp : p.isNarrow) (count : Nat) :
    ∀ c, .char c ∈ w.pieceTokens count p → isNarrow c := by
  intro c hc
  cases p with
  | word text =>
      simp only [pieceTokens, List.map_map, List.mem_map, Function.comp_apply,
        Sql.Token.char.injEq] at hc
      obtain ⟨c, hc, rfl⟩ := hc
      exact w.config.casing.apply_of_isAlpha (fun _ => isNarrow_of_isAlpha)
        (List.all_eq_true.mp hp c hc)
  | symbol text =>
      simp only [pieceTokens, List.mem_map, Sql.Token.char.injEq, exists_eq_right] at hc
      exact List.all_eq_true.mp hp c hc
  | name text =>
      simp only [pieceTokens] at hc
      cases hquoted : w.config.shouldQuote text with
      | true => simp [hquoted] at hc
      | false =>
          simp only [hquoted, Bool.false_eq_true, if_false, List.mem_map, Sql.Token.char.injEq,
            exists_eq_right] at hc
          have hplain := List.all_eq_true.mp (WriterConfig.all_plain_of_shouldQuote hquoted) c hc
          rcases Bool.or_eq_true _ _ ▸ hplain with halphanumeric | hunderscore
          · exact isNarrow_of_isAlphanum halphanumeric
          · rw [eq_of_beq hunderscore]
            rfl
  | quoted body => simp [pieceTokens] at hc
  | verbatim text => cases hp
  | placeholder parameter =>
      simp only [pieceTokens, List.mem_map, Sql.Token.char.injEq, exists_eq_right] at hc
      cases hdialect : w.dialect with
      | postgres =>
          simp only [placeholderText, hdialect, List.mem_cons] at hc
          obtain rfl | hc := hc
          · rfl
          · have hdigit : c.isDigit := Nat.isDigit_of_mem_toDigits (by decide) (by decide) hc
            exact isNarrow_of_isAlphanum (by simp [Char.isAlphanum, hdigit])
      | _ =>
          simp only [placeholderText, hdialect, List.mem_singleton] at hc
          rw [hc]
          rfl

theorem isNarrow_tokens {ps : List Piece} (h : ∀ p ∈ ps, p.isNarrow) (count : Nat) :
    ∀ c, .char c ∈ w.tokens count ps → isNarrow c := by
  induction ps generalizing count with
  | nil => simp [tokens]
  | cons p ps ih =>
      obtain ⟨hhere, hrest⟩ := List.forall_mem_cons.mp h
      intro c hc
      rw [tokens_cons, List.mem_append] at hc
      exact hc.elim (isNarrow_pieceTokens hhere count c) (ih hrest _ c)

/-- What a keyword is read as. -/
def keywordTokens (w : Writer) (keyword : String) : List Sql.Token :=
  (keyword.toList.map w.config.casing.apply).map .char

/-- A text from CASE to END, with its parentheses in pairs. -/
def IsCase (w : Writer) (ts : List Sql.Token) : Prop :=
  ∃ body, ts = w.keywordTokens "case" ++ body ++ w.keywordTokens "end" ∧ Sql.Balanced body

end Writer

namespace Sql

theorem depthAfter?_of_forall {ts : List Token} (h : ∀ c, .char c ∈ ts → isNarrow c)
    (depth : Nat) : depthAfter? depth ts = some depth := by
  induction ts with
  | nil => rfl
  | cons t ts ih =>
      have hrest := ih fun c hc => h c (List.mem_cons_of_mem t hc)
      cases t with
      | region quote body => exact hrest
      | char c =>
          have hhere := h c List.mem_cons_self
          simp only [isNarrow, isFlat, Bool.and_eq_true, bne_iff_ne] at hhere
          obtain ⟨⟨⟨-, hopening⟩, hclosing⟩, -⟩ := hhere
          simpa [depthAfter?, Token.depth?, hopening, hclosing] using hrest

end Sql

theorem SelfContained.tokens {ok : Char → Bool} (hok : ∀ c, ok c → Sql.isFlat c)
    (hletters : ∀ c, c.isAlpha → ok c) {ps : List Piece} (h : SelfContained ok ps) (w : Writer)
    (count : Nat) : Sql.IsSolid (w.tokens count ps) ∨ w.IsCase (w.tokens count ps) := by
  have hnotBlank {ts : List Sql.Token} (h : ∀ c, .char c ∈ ts → isNarrow c) :
      ∀ c, .char c ∈ ts → Text.isBlank c = false := by
    intro c hc
    have hnarrow := h c hc
    simp only [isNarrow, Bool.and_eq_true, Bool.not_eq_true'] at hnarrow
    exact hnarrow.2
  cases h with
  | narrow hnarrow =>
      exact .inl (Sql.isSolid_of_forall (hnotBlank (Writer.isNarrow_tokens hnarrow _)))
  | @enclosed head inner hnarrow hbody =>
      have hhead := Writer.isNarrow_tokens (w := w) hnarrow count
      rw [Writer.tokens_append, Writer.tokens_cons, Writer.tokens_append]
      exact .inl (Sql.isSolid_enclosed (hnotBlank hhead) (Sql.depthAfter?_of_forall hhead 0)
        (Writer.depthAfter?_tokens hok hletters hbody _ 0))
  | @case inner hbody =>
      rw [Writer.tokens_cons, Writer.tokens_append, ← List.append_assoc]
      exact .inr ⟨_, rfl, Writer.depthAfter?_tokens hok hletters hbody _ 0⟩

namespace Rendering

def IsSelfContained (ok : Char → Bool) (r : Rendering) : Prop :=
  r.failure = none → SelfContained ok r.pieces

variable {ok : Char → Bool}

theorem isSelfContained_fail (e : Error) : (fail e).IsSelfContained ok := by
  intro h
  cases h

theorem isSelfContained_ofPieces {ps : List Piece} (h : SelfContained ok ps) :
    (ofPieces ps).IsSelfContained ok :=
  fun _ => h

theorem isSelfContained_word {text : String} (h : text.toList.all isNarrow) :
    (word text).IsSelfContained ok :=
  fun _ => .narrow (by simpa [word, ofPieces, Piece.isNarrow] using h)

theorem isSelfContained_symbol {text : String} (h : text.toList.all isNarrow) :
    (symbol text).IsSelfContained ok :=
  fun _ => .narrow (by simpa [symbol, ofPieces, Piece.isNarrow] using h)

theorem IsPhrase.isSelfContained_call {r : Rendering} (hr : r.IsPhrase ok) {text : String}
    (h : text.toList.all isNarrow) :
    (word text ++ (symbol "(" ++ (r ++ symbol ")"))).IsSelfContained ok := by
  intro hnone
  obtain ⟨-, -, hnone, -⟩ := by simpa only [failure_append_eq_none] using hnone
  rw [pieces_append rfl, pieces_append rfl, pieces_append hnone]
  exact .call h (hr hnone)

theorem IsPhrase.isSelfContained_case {r : Rendering} (hr : r.IsPhrase ok) :
    (word "case" ++ (r ++ word "end")).IsSelfContained ok := by
  intro hnone
  obtain ⟨-, hnone, -⟩ := by simpa only [failure_append_eq_none] using hnone
  rw [pieces_append rfl, pieces_append hnone]
  exact .case (hr hnone)

theorem IsPhrase.isSelfContained_enclose {r : Rendering} (hr : r.IsPhrase ok) :
    (Rendering.enclose true r).IsSelfContained ok := by
  intro hnone
  simp only [Rendering.enclose, if_true, append_assoc] at hnone ⊢
  obtain ⟨-, hnone, -⟩ := by simpa only [failure_append_eq_none] using hnone
  rw [pieces_append rfl, pieces_append hnone]
  exact .parens (hr hnone)

end Rendering

theorem ColumnRef.isNarrow_pieces (c : ColumnRef) (s : Scope) : ∀ p ∈ c.pieces s, p.isNarrow := by
  have hpoint : TypedSql.isNarrow '.' = true := rfl
  unfold pieces qualifierPieces
  split
  · split
    · simp [Piece.isNarrow, hpoint]
    · split
      · split
        · simp [Piece.isNarrow, hpoint]
        · simp [Piece.isNarrow, hpoint]
      · simp [Piece.isNarrow]
  · simp [Piece.isNarrow]

section

variable {ok : Char → Bool}

open Rendering

private theorem all_isNarrow_of_isNumeric {text : List Char} (h : IsNumeric text) :
    text.all isNarrow := by
  rw [List.all_eq_true]
  exact fun c hc => isNarrow_of_isNumeral (h.isNumeral_of_mem hc)

variable (hok : AllowsKeywords ok)

include hok

theorem Binary.selfContained_literalPieces {f : BinaryFormat} (x : Binary f) (d : Dialect) :
    SelfContained ok (x.literalPieces d) := by
  have hcast (name : String) : SelfContained ok
      [.word "cast", .symbol "(", .quoted name, .symbol " ", .word "as double precision",
        .symbol ")"] := by
    have hinner : Phrase ok [.quoted name, .symbol " ", .word "as double precision"] :=
      .atom rfl (Piece.areDelimited_cons rfl _)
        (.symbol (by decide) (.word (hok.chars (by decide)) .nil))
    exact .call (by decide) hinner
  have hnumber {text : String} (h : text.toList.all isNarrow) :
      SelfContained ok [.symbol text] :=
    .narrow (by simpa [Piece.isNarrow] using h)
  unfold literalPieces
  split
  · split
    · exact hnumber (by split <;> decide)
    · exact hcast _
  · split
    · exact hcast _
    · refine hnumber ?_
      rw [String.toList_ofList]
      exact all_isNarrow_of_isNumeric (BinaryLayout.isNumeric_write _ x)

theorem Value.isSelfContained_literal (v : Value) (d : Dialect) :
    (v.literal d).IsSelfContained ok := by
  have hquoted (body : String) : (Rendering.ofPieces [.quoted body]).IsSelfContained ok :=
    isSelfContained_ofPieces (.narrow (by simp [Piece.isNarrow]))
  cases v with
  | some c =>
      cases c with
      | boolean b => cases b <;> exact isSelfContained_word (by decide)
      | integer kind n =>
          exact isSelfContained_symbol (all_isNarrow_of_isNumeric (IsNumeric.toString_int n.val))
      | float32 x => exact isSelfContained_ofPieces (x.selfContained_literalPieces hok d)
      | float64 x => exact isSelfContained_ofPieces (x.selfContained_literalPieces hok d)
      | decimal x =>
          refine isSelfContained_symbol ?_
          rw [String.toList_ofList]
          exact all_isNarrow_of_isNumeric x.isNumeric_write
      | blob bytes =>
          refine isSelfContained_ofPieces (.narrow ?_)
          have hprefixed : TypedSql.isNarrow 'X' = true := rfl
          simp [Piece.isNarrow, hprefixed]
      | timestampWithTimezone x =>
          simp only [literal, Content.literal]
          split
          · exact hquoted _
          · exact isSelfContained_fail _
      | _ => exact hquoted _
  | _ => exact isSelfContained_word (by decide)

end

mutual

/-- The expression that is written: for a tuple of one element, what is written for the element. -/
def Expr.unwrapped : Expr → Expr
  | .tuple elements => Expr.unwrappedTuple elements
  | e => e

def Expr.unwrappedTuple : List Expr → Expr
  | [e] => e.unwrapped
  | elements => .tuple elements

end

namespace Expr

def callee? : Expr → Option String
  | .function name _ _ _ => some name
  | _ => none

mutual

theorem render_unwrapped (w : Writer) (s : Scope) (e : Expr) :
    e.unwrapped.render w s = e.render w s := by
  cases e with
  | tuple elements =>
      simp only [unwrapped]
      exact render_unwrappedTuple w s elements
  | _ => rfl

theorem render_unwrappedTuple (w : Writer) (s : Scope) (elements : List Expr) :
    (unwrappedTuple elements).render w s = (tuple elements).render w s := by
  match elements with
  | [e] =>
      simp only [unwrappedTuple, render, renderAll]
      exact render_unwrapped w s e
  | [] => rfl
  | _ :: _ :: _ => rfl

end

mutual

theorem collect_unwrapped {β : Type} (k : Collector β) (e : Expr) :
    e.unwrapped.collect k = e.collect k := by
  cases e with
  | tuple elements =>
      simp only [unwrapped]
      exact collect_unwrappedTuple k elements
  | _ => rfl

theorem collect_unwrappedTuple {β : Type} (k : Collector β) (elements : List Expr) :
    (unwrappedTuple elements).collect k = (tuple elements).collect k := by
  match elements with
  | [e] =>
      simp only [unwrappedTuple, collect, collectAll, List.append_nil]
      exact collect_unwrapped k e
  | [] => rfl
  | _ :: _ :: _ => rfl

end

mutual

theorem unwrapped_ne_single (e single : Expr) : e.unwrapped ≠ .tuple [single] := by
  cases e with
  | tuple elements =>
      simp only [unwrapped]
      exact unwrappedTuple_ne_single elements single
  | _ => simp [unwrapped]

theorem unwrappedTuple_ne_single (elements : List Expr) (single : Expr) :
    unwrappedTuple elements ≠ .tuple [single] := by
  match elements with
  | [e] =>
      simp only [unwrappedTuple]
      exact unwrapped_ne_single e single
  | [] => simp [unwrappedTuple]
  | _ :: _ :: _ => simp [unwrappedTuple]

end

section

variable {ok : Char → Bool} (hok : AllowsKeywords ok) (hflat : ∀ c, ok c → Sql.isFlat c)
  {w : Writer} (hquote : w.config.quote ≠ "")

open Rendering

include hok hflat hquote

/-- A leaf contains itself, unless it is a tuple without parentheses. -/
theorem isSelfContained_of_isLeaf {e : Expr} (hleaf : e.isLeaf)
    (hsingle : ∀ single, e ≠ .tuple [single]) (hwords : Allows ok (e.collect .words))
    (hcallee : ∀ name ∈ e.callee?, name.toList.all fun c => !Text.isBlank c) (s : Scope) :
    (e.render w s).IsSelfContained ok := by
  cases e with
  | column c => exact isSelfContained_ofPieces (.narrow (c.isNarrow_pieces s))
  | parameter p => exact isSelfContained_ofPieces (.narrow (by simp [Piece.isNarrow]))
  | literal v => exact v.isSelfContained_literal hok w.dialect
  | function name args emptyParens type =>
      simp only [Expr.collect, allows_append] at hwords
      obtain ⟨hname, hargs⟩ := hwords
      have hchars : name.toList.all isNarrow := by
        have hwords := hname name (by simp [Collector.words])
        have hnotBlank := hcallee name rfl
        rw [List.all_eq_true] at hwords hnotBlank ⊢
        intro c hc
        rw [isNarrow, hflat c (hwords c hc), hnotBlank c hc]
        rfl
      simp only [Expr.render]
      split
      · exact isSelfContained_word hchars
      · simp only [append_assoc]
        exact (isPhrase_separate hquote
          (isPhrase_renderArgs hok hquote args hargs s)).isSelfContained_call hchars
  | case operand branches otherwise type =>
      simp only [Expr.collect, allows_append] at hwords
      obtain ⟨⟨hoperand, hbranches⟩, hotherwise⟩ := hwords
      simp only [Collector.collectOption_eq_flatMap, Collector.collectBranches_eq_flatMap, Allows,
        List.forall_mem_flatMap, List.forall_mem_append, Option.mem_toList]
        at hoperand hbranches hotherwise
      have hconforms := isPhrase_conforms hok hquote
      have hcases := hconforms.branches (s := s) (x := ()) fun branch hbranch =>
        ⟨isPhrase_render hok hquote branch.1 (hbranches branch hbranch).1 s,
          isPhrase_render hok hquote branch.2 (hbranches branch hbranch).2 s⟩
      have hbody := (hconforms.operand (s := s) (x := ()) fun e he =>
          isPhrase_render hok hquote e (hoperand e he) s).append
        (hcases.append ((hconforms.optionClause "else" (by decide) (s := s) (x := ()) fun e he =>
          isPhrase_render hok hquote e (hotherwise e he) s).append (isPhrase_empty.space_append)))
      have hsame : (Expr.case operand branches otherwise type).render w s =
          word "case" ++ ((renderOperand w s operand ++ (renderBranches w s branches ++
            (renderClause w s "else" otherwise ++ symbol " "))) ++ word "end") := by
        simp only [Expr.render, append_assoc]
      rw [append_empty] at hbody
      rw [hsame]
      exact hbody.isPhrase.isSelfContained_case
  | tuple elements =>
      simp only [Expr.collect] at hwords
      simp only [Expr.render]
      cases elements with
      | nil => exact isSelfContained_ofPieces (.narrow (by simp))
      | cons first rest =>
          cases rest with
          | nil => exact absurd rfl (hsingle first)
          | cons second rest =>
              rw [decide_eq_true (by simp)]
              exact (isPhrase_separate hquote
                (isPhrase_renderAll hok hquote _ hwords s)).isSelfContained_enclose
  | select query =>
      simp only [Expr.collect] at hwords
      exact (Select.isPhrase_render hok hquote query hwords s).isSelfContained_enclose
  | _ => cases hleaf

end

end Expr

section

variable {w : Writer} (hquote : w.config.HasNameQuote)

include hquote

/-- An operand is read by itself.  The one exception is a tuple of a single element that is not a
leaf: such a tuple counts as a leaf, but it is written as its element. -/
theorem Operand.solid_or_case_of_render {e : Expr} (hself : e.isLeaf → e.unwrapped.isLeaf)
    (hwords : ∀ word ∈ e.collect .words, word.toList.all Sql.isFlat)
    (hcallee : ∀ name ∈ e.unwrapped.callee?, name.toList.all fun c => !Text.isBlank c) {s : Scope}
    {ps : List Piece} (h : (Operand.of e).render w s = .ofPieces ps) (count : Nat) :
    ∃ ts, Sql.lex (w.print count ps) = some ts ∧ (Sql.IsSolid ts ∨ w.IsCase ts) := by
  have hok : AllowsKeywords Sql.isFlat := allowsKeywords_of_isInert fun _ => Sql.isFlat_of_isInert
  have hphrase : Phrase Sql.isFlat ps := by
    have hphrase := Operand.isPhrase_render hok hquote.quote_ne_empty (Operand.of e) hwords s
    rw [h] at hphrase
    exact hphrase rfl
  have hselfContained : SelfContained Sql.isFlat ps := by
    suffices hcontained : ((Operand.of e).render w s).IsSelfContained Sql.isFlat by
      rw [h] at hcontained
      exact hcontained rfl
    cases hleaf : e.isLeaf with
    | true =>
        have hsame : (Operand.of e).render w s = e.unwrapped.render w s := by
          rw [Expr.render_unwrapped, Operand.of, hleaf]
          rfl
        rw [hsame]
        exact Expr.isSelfContained_of_isLeaf hok (fun _ => id) hquote.quote_ne_empty (hself hleaf)
          e.unwrapped_ne_single (by rw [Expr.collect_unwrapped]; exact hwords) hcallee s
    | false =>
        rw [Operand.of, hleaf]
        exact (Expr.isPhrase_render hok hquote.quote_ne_empty e hwords s).isSelfContained_enclose
  exact ⟨w.tokens count ps,
    Writer.lex_print hquote (fun _ => Sql.isQuote_of_isFlat) hok.letters hphrase count,
    hselfContained.tokens (fun _ => id) hok.letters w count⟩

end

def plainWriter : Writer := ⟨.generic, {}⟩

def truth (b : Bool) : Expr := .literal (.some (.boolean b))

/-- A call with a choice between two values as its argument, alone in a tuple. -/
def wrappedCall : Expr := .tuple [.function "coalesce" [(truth true).or (truth false)] true none]

theorem wrappedCall_solid :
    ∃ ts, Sql.lex "COALESCE(TRUE OR FALSE)".toList = some ts ∧
      (Sql.IsSolid ts ∨ plainWriter.IsCase ts) := by
  have htext : plainWriter.print 0 ((Operand.of wrappedCall).render plainWriter {}).pieces =
      "COALESCE(TRUE OR FALSE)".toList := by decide +kernel
  have hself : wrappedCall.isLeaf → wrappedCall.unwrapped.isLeaf := by decide +kernel
  have hwords : ∀ word ∈ wrappedCall.collect .words, word.toList.all Sql.isFlat := by
    decide +kernel
  have hcallee : ∀ name ∈ wrappedCall.unwrapped.callee?,
      name.toList.all fun c => !Text.isBlank c := by decide +kernel
  rw [← htext]
  exact Operand.solid_or_case_of_render (.inl rfl) hself hwords hcallee (s := {}) rfl 0

def wrappedChoice : Expr := .tuple [(truth true).or (truth false)]

/-- A choice alone in a tuple counts as a leaf.  Beside an AND it stands without parentheses, and
the AND takes its second half. -/
theorem wrappedChoice_not_solid :
    wrappedChoice.isLeaf ∧
      (wrappedChoice.and (truth false)).render plainWriter {} =
        (Expr.binary (.of (truth true)) ⟨["or"]⟩
          ⟨(truth false).and (truth false), false⟩ none).render plainWriter {} ∧
      ∃ ts,
        Sql.lex (plainWriter.print 0 ((Operand.of wrappedChoice).render plainWriter {}).pieces) =
          some ts ∧ ¬ Sql.IsSolid ts ∧ ¬ plainWriter.IsCase ts := by
  refine ⟨rfl, by decide +kernel, "TRUE OR FALSE".toList.map .char, by decide +kernel, ?_, ?_⟩
  · intro hsolid
    exact hsolid ("TRUE".toList.map .char) ' ' ("OR FALSE".toList.map .char) (by decide) rfl rfl
  · rintro ⟨body, hsame, -⟩
    have hbegins : plainWriter.keywordTokens "case" = "CASE".toList.map .char := by decide +kernel
    rw [hbegins] at hsame
    simp at hsame

end TypedSql
