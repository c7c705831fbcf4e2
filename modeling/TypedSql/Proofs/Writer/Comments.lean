import TypedSql.Proofs.Number.Shape
import TypedSql.Proofs.Sql.Comment
import TypedSql.Proofs.Statement.Nodes
import TypedSql.Proofs.Writer.Grammar
import TypedSql.Proofs.Writer.Tokens

namespace TypedSql

/-! Comments in what is written: pieces without the characters that open them, numbers, of which
only the signs are such characters, and the text of operators. -/

namespace Sql

theorem isClear_of_isAlphanum {c : Char} (h : c.isAlphanum) : isClear c := by
  simp only [isClear, Bool.and_eq_true, bne_iff_ne]
  refine ⟨⟨?_, ?_⟩, ?_⟩ <;> rintro rfl <;> cases h

theorem isClear_of_isAlpha {c : Char} (h : c.isAlpha) : isClear c :=
  isClear_of_isAlphanum (by simp [Char.isAlphanum, h])

theorem isClear_of_isDigit {c : Char} (h : c.isDigit) : isClear c :=
  isClear_of_isAlphanum (by simp [Char.isAlphanum, h])

theorem isClear_chars {text : List Char} (h : text.all isClear) :
    IsClear (text.map Token.char) := by
  intro c hmem
  simp only [List.mem_map, Token.char.injEq, exists_eq_right] at hmem
  exact List.all_eq_true.mp h c hmem

theorem isClear_of_isPositional {text : List Char} (hpositional : IsPositional text) :
    IsClear (text.map Token.char) := by
  refine isClear_chars (List.all_eq_true.mpr fun c hmem => ?_)
  obtain hdigit | rfl := hpositional c hmem
  · exact isClear_of_isDigit hdigit
  · rfl

/-- A sign opens no comment in front of what begins with a clear character. -/
theorem hasComment_signText {negative : Bool} {ts : List Token} (hbegins : BeginsClear ts) :
    HasComment ((signText negative).map .char ++ ts) ↔ HasComment ts := by
  rw [hbegins.hasComment_append_iff, or_iff_right]
  cases negative with
  | false => exact not_hasComment_nil
  | true =>
      rw [signText, if_pos rfl]
      exact not_hasComment_singleton _

theorem not_hasComment_of_isMagnitude {text : List Char} (hmagnitude : IsMagnitude text) :
    ¬HasComment (text.map Token.char) := by
  cases hmagnitude with
  | positional hfirst hothers =>
      exact (isClear_of_isPositional (hothers.cons (.inl hfirst))).not_hasComment
  | @scientific c rest hfirst hothers exponent =>
      have hfront : IsClear ((c :: rest ++ ['e']).map Token.char) := by
        rw [List.map_append, isClear_append]
        exact ⟨isClear_of_isPositional (hothers.cons (.inl hfirst)), isClear_chars rfl⟩
      have hdigits : IsClear ((Nat.toDigits 10 exponent.natAbs).map Token.char) :=
        isClear_of_isPositional (.toDigits _)
      have hsplit : (c :: rest ++ 'e' :: (toString exponent).toList).map Token.char =
          (c :: rest ++ ['e']).map .char ++ ((signText (exponent < 0)).map .char ++
            (Nat.toDigits 10 exponent.natAbs).map .char) := by
        rw [toList_toString]
        simp
      rw [hsplit, hfront.hasComment_append_iff, hasComment_signText hdigits.begins]
      exact hdigits.not_hasComment

/-- What is written like a number: a sign, if there is one, and behind it nothing that a sign could
open a comment with. -/
inductive IsNumber (negative : Bool) : List Char → Prop
  | signed {c : Char} {rest : List Char} (hfirst : isClear c)
      (hapart : ¬HasComment ((c :: rest).map Token.char)) :
      IsNumber negative (signText negative ++ c :: rest)

variable {negative : Bool} {text : List Char}

theorem isNumber_of_isSigned (hsigned : IsSigned negative text) : IsNumber negative text := by
  obtain ⟨magnitude, hisMagnitude, rfl⟩ := hsigned
  obtain ⟨c, rest, rfl, hdigit⟩ := hisMagnitude.head_isDigit
  exact .signed (isClear_of_isDigit hdigit) (not_hasComment_of_isMagnitude hisMagnitude)

theorem IsNumber.not_hasComment (hnumber : IsNumber negative text) :
    ¬HasComment (text.map Token.char) := by
  obtain ⟨hfirst, hapart⟩ := hnumber
  next c rest =>
    have hbegins : BeginsClear ((c :: rest).map Token.char) := by
      intro d hhead
      cases hhead
      exact hfirst
    rw [List.map_append, hasComment_signText hbegins]
    exact hapart

/-- Of the characters that open comments, a number begins with a minus at most. -/
theorem IsNumber.head?_eq_some_iff (hnumber : IsNumber negative text) {c : Char}
    (hmark : isClear c = false) : text.head? = some c ↔ c = '-' ∧ negative := by
  obtain ⟨hfirst, -⟩ := hnumber
  next d rest =>
    cases negative with
    | true => simp [signText, eq_comm]
    | false =>
        have hother : d ≠ c := by
          rintro rfl
          rw [hfirst] at hmark
          cases hmark
        simp [signText, hother]

end Sql

namespace KeywordCasing

variable (casing : KeywordCasing) {c d : Char}

theorem apply_of_not_isClear (hmark : Sql.isClear c = false) : casing.apply c = c := by
  have hmarks : c = '-' ∨ c = '/' ∨ c = '*' := by
    simp only [Sql.isClear, Bool.and_eq_false_iff, bne_eq_false_iff_eq] at hmark
    tauto
  rcases hmarks with rfl | rfl | rfl <;> cases casing <;> rfl

theorem apply_eq_iff (hmark : Sql.isClear d = false) : casing.apply c = d ↔ c = d := by
  constructor
  · rintro rfl
    rcases casing.apply_eq_or_isAlpha c with hunchanged | hletter
    · exact hunchanged.symm
    · rw [Sql.isClear_of_isAlpha hletter] at hmark
      cases hmark
  · rintro rfl
    exact casing.apply_of_not_isClear hmark

theorem opensComment_apply_iff :
    Sql.OpensComment (casing.apply c) (casing.apply d) ↔ Sql.OpensComment c d := by
  simp only [Sql.OpensComment, casing.apply_eq_iff (d := '-') rfl,
    casing.apply_eq_iff (d := '/') rfl, casing.apply_eq_iff (d := '*') rfl]

theorem hasComment_apply_iff {text : List Char} :
    Sql.HasComment ((text.map casing.apply).map .char) ↔ Sql.HasComment (text.map .char) := by
  induction text with
  | nil => rfl
  | cons c rest ih =>
      rw [List.map_cons, List.map_cons, List.map_cons, Sql.hasComment_cons, Sql.hasComment_cons, ih]
      cases rest with
      | nil => simp [Sql.Joins]
      | cons d rest => simp [Sql.Joins, casing.opensComment_apply_iff]

end KeywordCasing

namespace Piece

def IsClear : Piece → Prop
  | word text | symbol text => text.toList.all Sql.isClear
  | name _ | quoted _ | placeholder _ => True
  | verbatim _ => False

end Piece

namespace Writer

variable {w : Writer}

theorem isClear_pieceTokens {p : Piece} (hclear : p.IsClear) (count : Nat) :
    Sql.IsClear (w.pieceTokens count p) := by
  cases p with
  | word text =>
      refine Sql.isClear_chars ?_
      rw [List.all_map, List.all_eq_true]
      exact fun c hmem => w.config.casing.apply_of_isAlpha (fun _ => Sql.isClear_of_isAlpha)
        (List.all_eq_true.mp hclear c hmem)
  | symbol text => exact Sql.isClear_chars hclear
  | name text =>
      simp only [pieceTokens]
      split
      · simp [Sql.IsClear]
      next hplain =>
        refine Sql.isClear_chars (List.all_eq_true.mpr fun c hmem => ?_)
        have hplain := WriterConfig.all_plain_of_shouldQuote (Bool.eq_false_of_not_eq_true hplain)
        rcases Bool.or_eq_true _ _ ▸ List.all_eq_true.mp hplain c hmem with
          halphanumeric | hunderscore
        · exact Sql.isClear_of_isAlphanum halphanumeric
        · rw [eq_of_beq hunderscore]
          rfl
  | quoted body => simp [pieceTokens, Sql.IsClear]
  | verbatim text => cases hclear
  | placeholder parameter =>
      refine Sql.isClear_chars (List.all_eq_true.mpr fun c hmem => ?_)
      have hnarrow : w.placeholderText count = ['?'] ∨
          w.placeholderText count = '$' :: Nat.toDigits 10 (count + 1) := by
        unfold placeholderText
        split
        · exact .inr rfl
        · exact .inl rfl
      rcases hnarrow with hmarked | hnumbered
      · rw [hmarked, List.mem_singleton] at hmem
        rw [hmem]
        rfl
      · rw [hnumbered] at hmem
        obtain rfl | hdigit := List.mem_cons.mp hmem
        · rfl
        · exact Sql.isClear_of_isDigit (Nat.isDigit_of_mem_toDigits (by decide) (by decide) hdigit)

theorem isClear_tokens {ps : List Piece} (hclear : ∀ p ∈ ps, p.IsClear) (count : Nat) :
    Sql.IsClear (w.tokens count ps) := by
  induction ps generalizing count with
  | nil => simp [tokens, Sql.IsClear]
  | cons p ps ih =>
      obtain ⟨hhere, hrest⟩ := List.forall_mem_cons.mp hclear
      rw [tokens_cons, Sql.isClear_append]
      exact ⟨isClear_pieceTokens hhere count, ih hrest _⟩

theorem tokens_eq_nil_of_not_visible (hquote : w.config.quote ≠ "") {ps : List Piece}
    (hhidden : ∀ p ∈ ps, p.isVisible w.config.quote = false) (count : Nat) :
    w.tokens count ps = [] := by
  induction ps generalizing count with
  | nil => rfl
  | cons p ps ih =>
      obtain ⟨hhere, hrest⟩ := List.forall_mem_cons.mp hhidden
      rw [tokens_cons, ih hrest, List.append_nil]
      cases p <;> simp_all [Piece.isVisible, pieceTokens]

theorem tokens_word (text : String) (count : Nat) :
    w.tokens count (Rendering.word text).pieces =
      (text.toList.map w.config.casing.apply).map .char := by
  simp [Rendering.word, Rendering.ofPieces, tokens, pieceTokens]

end Writer

namespace Operator

/-- What is written of an operator, before the casing of its letters. -/
def text (op : Operator) : List Char :=
  [' '].intercalate (op.tokens.map String.toList)

theorem text_cons_cons (token next : String) (rest : List String) :
    text ⟨token :: next :: rest⟩ = token.toList ++ ' ' :: text ⟨next :: rest⟩ := by
  simp [text, List.intercalate]

theorem pieces_cons_cons (token next : String) (rest : List String) :
    pieces ⟨token :: next :: rest⟩ = .word token :: .symbol " " :: pieces ⟨next :: rest⟩ :=
  rfl

theorem tokens_pieces (op : Operator) (w : Writer) (count : Nat) :
    w.tokens count op.pieces = (op.text.map w.config.casing.apply).map .char := by
  obtain ⟨tokens⟩ := op
  induction tokens generalizing count with
  | nil => rfl
  | cons token rest ih =>
      cases rest with
      | nil => simp [pieces, text, Writer.tokens, Writer.pieceTokens]
      | cons next rest =>
          have hspace : w.config.casing.apply ' ' = ' ' := by cases w.config.casing <;> rfl
          rw [pieces_cons_cons, text_cons_cons, Writer.tokens_cons, Writer.tokens_cons, ih]
          simp [Writer.pieceTokens, hspace]

theorem not_hasComment_text {op : Operator}
    (hclean : ∀ token ∈ op.tokens, ¬Sql.HasComment (token.toList.map .char)) :
    ¬Sql.HasComment (op.text.map .char) := by
  obtain ⟨tokens⟩ := op
  induction tokens with
  | nil => exact Sql.not_hasComment_nil
  | cons token rest ih =>
      obtain ⟨hhere, hothers⟩ := List.forall_mem_cons.mp hclean
      cases rest with
      | nil => simpa [text] using hhere
      | cons next rest =>
          have hspace : Sql.IsClear ([' '].map .char) := Sql.isClear_chars rfl
          have hbegins : Sql.BeginsClear ([' '].map .char ++ (text ⟨next :: rest⟩).map .char) := by
            intro c hhead
            cases hhead
            rfl
          have hsplit : (text ⟨token :: next :: rest⟩).map Sql.Token.char =
              token.toList.map .char ++ ([' '].map .char ++ (text ⟨next :: rest⟩).map .char) := by
            rw [text_cons_cons, List.map_append]
            rfl
          rw [hsplit, hbegins.hasComment_append_iff, hspace.hasComment_append_iff]
          exact not_or.mpr ⟨hhere, ih hothers⟩

end Operator

end TypedSql
