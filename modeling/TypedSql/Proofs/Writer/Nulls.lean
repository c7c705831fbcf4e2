import TypedSql.Proofs.Number.Shape
import TypedSql.Proofs.Statement.Nodes
import TypedSql.Proofs.Writer.Casing
import TypedSql.Proofs.Writer.Operands
import TypedSql.Proofs.Writer.Parameters

namespace TypedSql

/-! Nulls that are written by themselves.  A column that is not null refuses a null literal and a
parameter of null when an assignment or an insert is made; what gets past the check and is still
written as a null is told here. -/

namespace Sql

/-- The keyword NULL, in letters of any case. -/
def IsNullKeyword (text : List Char) : Prop :=
  text.map Char.toLower = "null".toList

instance (text : List Char) : Decidable (IsNullKeyword text) :=
  inferInstanceAs (Decidable (_ = _))

variable {text : List Char} {c : Char}

theorem not_isNullKeyword_of_mem (hmem : c ∈ text) (hother : c.toLower ∉ "null".toList) :
    ¬IsNullKeyword text :=
  fun hkeyword => hother (hkeyword ▸ List.mem_map_of_mem hmem)

theorem isAlphanumeric_of_toLower_mem (hletter : c.toLower ∈ "null".toList) :
    Text.isAlphanumeric c := by
  have halphanumeric : c.isAlphanum := by
    by_cases hupper : c.isUpper
    · simp [Char.isAlphanum, Char.isAlpha, hupper]
    · rw [Char.toLower_eq_of_not_isUpper hupper] at hletter
      have hletters : "null".toList = ['n', 'u', 'l', 'l'] := rfl
      simp only [hletters, List.mem_cons, List.not_mem_nil, or_false] at hletter
      rcases hletter with rfl | rfl | rfl | rfl <;> rfl
  simp [Text.isAlphanumeric, halphanumeric]

theorem not_isUpper_of_isDigit (hdigit : c.isDigit) : ¬c.isUpper := by
  intro hupper
  have hmost : c.toNat ≤ 57 := (isDigit_iff.mp hdigit).2
  simp only [Char.isUpper, ge_iff_le, decide_eq_true_eq, UInt32.le_iff_toNat_le] at hupper
  have hleast : 65 ≤ c.toNat := hupper.1
  omega

theorem not_isNullKeyword_of_isSigned {negative : Bool} (hsigned : IsSigned negative text) :
    ¬IsNullKeyword text := by
  obtain ⟨magnitude, hisMagnitude, rfl⟩ := hsigned
  obtain ⟨c, rest, rfl, hdigit⟩ := hisMagnitude.head_isDigit
  have hmem : c ∈ signText negative ++ c :: rest := by simp
  refine not_isNullKeyword_of_mem hmem fun hletter => ?_
  have hletters : "null".toList = ['n', 'u', 'l', 'l'] := rfl
  rw [Char.toLower_eq_of_not_isUpper (not_isUpper_of_isDigit hdigit), hletters] at hletter
  simp only [List.mem_cons, List.not_mem_nil, or_false, or_self] at hletter
  rcases hletter with rfl | rfl | rfl <;> cases hdigit

end Sql

namespace Writer

variable {w : Writer} {ps : List Piece} {c : Char} {text : String}

theorem mem_print_of_symbol (hmem : .symbol text ∈ ps) (hc : c ∈ text.toList) (count : Nat) :
    c ∈ w.print count ps := by
  induction ps generalizing count with
  | nil => cases hmem
  | cons p ps ih =>
      rw [print_cons, List.mem_append]
      obtain rfl | hmem := List.mem_cons.mp hmem
      · exact .inl hc
      · exact .inr (ih hmem _)

theorem mem_print_of_word (hmem : .word text ∈ ps) (hc : c ∈ text.toList) (count : Nat) :
    w.config.casing.apply c ∈ w.print count ps := by
  induction ps generalizing count with
  | nil => cases hmem
  | cons p ps ih =>
      rw [print_cons, List.mem_append]
      obtain rfl | hmem := List.mem_cons.mp hmem
      · exact .inl (List.mem_map_of_mem hc)
      · exact .inr (ih hmem _)

/-- A text with a placeholder in it is as long as the first placeholder is. -/
theorem length_placeholderText_le (hsome : Piece.parameters ps ≠ []) (count : Nat) :
    (w.placeholderText count).length ≤ (w.print count ps).length := by
  induction ps generalizing count with
  | nil => exact absurd rfl hsome
  | cons p ps ih =>
      rw [print_cons, List.length_append]
      cases p with
      | placeholder p => exact Nat.le_add_right _ _
      | _ => exact Nat.le_trans (ih hsome count) (Nat.le_add_left _ _)

theorem not_isNullKeyword_placeholderText (w : Writer) (count : Nat) :
    ¬Sql.IsNullKeyword (w.placeholderText count) := by
  unfold placeholderText
  split
  · exact Sql.not_isNullKeyword_of_mem (c := '$') List.mem_cons_self (by decide)
  · exact of_decide_eq_true rfl

end Writer

namespace Rendering

/-- What is written is the keyword NULL and nothing else, or the placeholder of a null and nothing
else. -/
def IsBareNull (w : Writer) (count : Nat) (r : Rendering) : Prop :=
  r.failure = none ∧
    (Sql.IsNullKeyword (w.print count r.pieces) ∨
      ∃ p, p.value.isNull ∧ Piece.parameters r.pieces = [p] ∧
        w.print count r.pieces = w.placeholderText count)

variable {w : Writer} {count : Nat} {a b r : Rendering}

theorem isBareNull_iff_of_no_parameters (hnone : Piece.parameters r.pieces = []) :
    r.IsBareNull w count ↔ r.failure = .none ∧ Sql.IsNullKeyword (w.print count r.pieces) := by
  simp [IsBareNull, hnone]

/-- There is a space or a parenthesis in what is written. -/
def IsParted (r : Rendering) : Prop :=
  r.failure = none → ∃ text c, .symbol text ∈ r.pieces ∧ c ∈ text.toList ∧ (c = ' ' ∨ c = '(')

theorem isParted_symbol {text : String} {c : Char} (hmem : c ∈ text.toList)
    (hmark : c = ' ' ∨ c = '(') : (symbol text).IsParted :=
  fun _ => ⟨text, c, List.mem_singleton_self _, hmem, hmark⟩

theorem isParted_space : (symbol " ").IsParted :=
  isParted_symbol (c := ' ') (by decide) (.inl rfl)

theorem isParted_opening : (symbol "(").IsParted :=
  isParted_symbol (c := '(') (by decide) (.inr rfl)

theorem IsParted.before (hparted : a.IsParted) (b : Rendering) : (a ++ b).IsParted := by
  intro hnone
  obtain ⟨text, c, hmem, hc, hmark⟩ := hparted (failure_append_eq_none.mp hnone).1
  rw [pieces_append (failure_append_eq_none.mp hnone).1]
  exact ⟨text, c, List.mem_append_left _ hmem, hc, hmark⟩

theorem IsParted.after (hparted : b.IsParted) (a : Rendering) : (a ++ b).IsParted := by
  intro hnone
  obtain ⟨text, c, hmem, hc, hmark⟩ := hparted (failure_append_eq_none.mp hnone).2
  rw [pieces_append (failure_append_eq_none.mp hnone).1]
  exact ⟨text, c, List.mem_append_right _ hmem, hc, hmark⟩

theorem isParted_enclose (r : Rendering) : (enclose true r).IsParted :=
  (isParted_opening.before r).before _

/-- Neither a keyword nor a placeholder has a space or a parenthesis in it. -/
theorem IsParted.not_isBareNull (hparted : r.IsParted) : ¬r.IsBareNull w count := by
  rintro ⟨hnone, hbare⟩
  obtain ⟨text, c, hmem, hc, hmark⟩ := hparted hnone
  have hprinted : c ∈ w.print count r.pieces := Writer.mem_print_of_symbol hmem hc count
  rcases hbare with hkeyword | ⟨p, -, -, hplaceholder⟩
  · refine Sql.not_isNullKeyword_of_mem hprinted ?_ hkeyword
    rcases hmark with rfl | rfl <;> decide
  · rw [hplaceholder] at hprinted
    have hnarrow : isNarrow c :=
      Writer.isNarrow_pieceTokens (w := w) (p := .placeholder p) rfl count c
        (List.mem_map_of_mem hprinted)
    rcases hmark with rfl | rfl <;> cases hnarrow

end Rendering

open Rendering

theorem Operator.mem_pieces_of_mem {op : Operator} {token : String} (hmem : token ∈ op.tokens) :
    .word token ∈ op.pieces := by
  obtain ⟨tokens⟩ := op
  induction tokens with
  | nil => cases hmem
  | cons first rest ih =>
      cases rest with
      | nil =>
          rw [List.mem_singleton.mp hmem]
          exact List.mem_singleton_self _
      | cons next rest =>
          obtain rfl | hmem := List.mem_cons.mp hmem
          · exact List.mem_cons_self
          · exact List.mem_cons_of_mem _ (List.mem_cons_of_mem _ (ih hmem))

theorem Binary.not_isNullKeyword_literalPieces {f : BinaryFormat} (x : Binary f) (w : Writer)
    (count : Nat) : ¬Sql.IsNullKeyword (w.print count (x.literalPieces w.dialect)) := by
  have hcast (name : String) : ¬Sql.IsNullKeyword (w.print count
      [.word "cast", .symbol "(", .quoted name, .symbol " ", .word "as double precision",
        .symbol ")"]) := by
    have hopening : Piece.symbol "(" ∈ [.word "cast", .symbol "(", .quoted name, .symbol " ",
        .word "as double precision", .symbol ")"] := by simp
    have hprinted := Writer.mem_print_of_symbol (w := w) (c := '(') hopening (by decide) count
    exact Sql.not_isNullKeyword_of_mem hprinted (by decide)
  unfold literalPieces
  split
  · split
    · split <;> exact of_decide_eq_true rfl
    · exact hcast _
  next hfinite =>
    split
    · exact hcast _
    next hnumber =>
      have hsigned := BinaryLayout.isSigned_write (.value f)
        (Bool.eq_false_of_not_eq_true hnumber) (Bool.eq_false_of_not_eq_true hfinite)
      simpa [Writer.print, Writer.pieceText] using Sql.not_isNullKeyword_of_isSigned hsigned

theorem not_isBareNull_quoted (front : List Piece) (body : String) (w : Writer) (count : Nat)
    (hplain : Piece.parameters front = []) :
    ¬(ofPieces (front ++ [.quoted body])).IsBareNull w count := by
  have hnone : Piece.parameters (front ++ [.quoted body]) = [] := by
    rw [Piece.parameters_append, hplain]
    rfl
  rw [isBareNull_iff_of_no_parameters hnone]
  rintro ⟨-, hkeyword⟩
  refine Sql.not_isNullKeyword_of_mem (c := '\'') ?_ (by decide) hkeyword
  rw [ofPieces, Writer.print_append]
  simp [Writer.print, Writer.pieceText, Writer.quotedText]

theorem not_isBareNull_number {negative : Bool} {text : String}
    (hsigned : IsSigned negative text.toList) (w : Writer) (count : Nat) :
    ¬(symbol text).IsBareNull w count := by
  rw [isBareNull_iff_of_no_parameters rfl]
  rintro ⟨-, hkeyword⟩
  refine Sql.not_isNullKeyword_of_isSigned hsigned ?_
  simpa [symbol, ofPieces, Writer.print, Writer.pieceText] using hkeyword

theorem isBareNull_word_iff {text : String} {w : Writer} {count : Nat} :
    (word text).IsBareNull w count ↔ Sql.IsNullKeyword text.toList := by
  rw [isBareNull_iff_of_no_parameters rfl]
  simp [word, ofPieces, Writer.print, Writer.pieceText, Sql.IsNullKeyword, Function.comp_def,
    KeywordCasing.toLower_apply]

theorem Binary.not_isBareNull_literalPieces {f : BinaryFormat} (x : Binary f) (w : Writer)
    (count : Nat) : ¬(ofPieces (x.literalPieces w.dialect)).IsBareNull w count := by
  rw [isBareNull_iff_of_no_parameters (x.carries_literalPieces w.dialect rfl)]
  exact fun hbare => x.not_isNullKeyword_literalPieces w count hbare.2

theorem Value.isBareNull_literal_iff {v : Value} {w : Writer} {count : Nat} :
    (v.literal w.dialect).IsBareNull w count ↔ v.isNull := by
  cases v with
  | null | nullOf => exact iff_of_true (isBareNull_word_iff.mpr rfl) rfl
  | some c =>
      refine iff_of_false ?_ Bool.false_ne_true
      cases c with
      | boolean b =>
          rw [literal, Content.literal, isBareNull_word_iff]
          cases b <;> decide
      | integer kind n => exact not_isBareNull_number (isSigned_toString n.val) w count
      | float32 x => exact x.not_isBareNull_literalPieces w count
      | float64 x => exact x.not_isBareNull_literalPieces w count
      | decimal x =>
          have hsigned := x.isSigned_write
          rw [← String.toList_ofList (l := x.write)] at hsigned
          exact not_isBareNull_number hsigned w count
      | blob bytes => exact not_isBareNull_quoted [.symbol "X"] _ w count rfl
      | timestampWithTimezone x =>
          simp only [literal, Content.literal]
          split
          · exact not_isBareNull_quoted [] _ w count rfl
          · rintro ⟨hnone, -⟩
            cases hnone
      | _ => exact not_isBareNull_quoted [] _ w count rfl

theorem ColumnRef.qualifierPieces_eq_nil_or (c : ColumnRef) (s : Scope) :
    c.qualifierPieces s = [] ∨ .symbol "." ∈ c.qualifierPieces s := by
  unfold qualifierPieces
  split
  · split
    · exact .inr (by simp)
    · split
      · exact .inr (by simp)
      · exact .inl rfl
  · exact .inl rfl

theorem ColumnRef.isBareNull_pieces_iff {c : ColumnRef} {s : Scope} {w : Writer} {count : Nat} :
    (ofPieces (c.pieces s)).IsBareNull w count ↔
      c.qualifierPieces s = [] ∧ Sql.IsNullKeyword (w.config.nameText c.name) := by
  have hdone : (ofPieces (c.pieces s)).failure = none := rfl
  rw [isBareNull_iff_of_no_parameters (c.carries_pieces s rfl), ofPieces, pieces]
  rcases c.qualifierPieces_eq_nil_or s with hunqualified | hpoint
  · simp [hunqualified, Writer.print, Writer.pieceText]
  · have hqualified : c.qualifierPieces s ≠ [] := List.ne_nil_of_mem hpoint
    refine iff_of_false ?_ fun h => hqualified h.1
    rintro ⟨-, hkeyword⟩
    refine Sql.not_isNullKeyword_of_mem (c := '.') ?_ (by decide) hkeyword
    exact Writer.mem_print_of_symbol (List.mem_append_left _ hpoint) (by decide) count

/-- A symbolic operator keeps the keyword and the placeholder of its operand company. -/
theorem Operator.not_isBareNull_symbolic {op : Operator} (hmade : op.IsMade)
    (hsymbolic : op.isSymbolic)
    (r : Rendering) (w : Writer) (count : Nat) : ¬(ofPieces op.pieces ++ r).IsBareNull w count := by
  obtain ⟨token, hlast, hvisible⟩ := hmade.exists_getLast?
  obtain ⟨c, rest, htoken⟩ := List.exists_cons_of_ne_nil hvisible
  have hmem : c ∈ token.toList := htoken ▸ List.mem_cons_self
  have hother : Text.isAlphanumeric c = false := by
    simp only [isSymbolic, hlast, Bool.not_eq_true', List.any_eq_false,
      Bool.not_eq_true] at hsymbolic
    exact hsymbolic c hmem
  have hprinted (count : Nat) : w.config.casing.apply c ∈ w.print count op.pieces :=
    Writer.mem_print_of_word (mem_pieces_of_mem (List.mem_of_getLast? hlast)) hmem count
  rintro ⟨-, hbare⟩
  rw [pieces_append rfl, Writer.print_append] at hbare
  have hsilent : Piece.parameters op.pieces = [] := op.carries_pieces rfl
  rcases hbare with hkeyword | ⟨p, -, hcarried, hplaceholder⟩
  · refine Sql.not_isNullKeyword_of_mem (List.mem_append_left _ (hprinted count)) ?_ hkeyword
    rw [KeywordCasing.toLower_apply]
    intro hletter
    rw [Sql.isAlphanumeric_of_toLower_mem hletter] at hother
    cases hother
  · rw [Piece.parameters_append] at hcarried
    have hsome : Piece.parameters r.pieces ≠ [] := by
      change Piece.parameters op.pieces ++ _ = _ at hcarried
      rw [hsilent, List.nil_append] at hcarried
      simp [hcarried]
    have hshort := congrArg List.length hplaceholder
    have hnonempty : 0 < (w.print count op.pieces).length := List.length_pos_of_mem (hprinted count)
    have hlong := Writer.length_placeholderText_le (w := w) hsome count
    change (w.print count op.pieces ++ w.print (count + (Piece.parameters op.pieces).length)
      r.pieces).length = _ at hshort
    rw [hsilent, List.length_append] at hshort
    simp only [List.length_nil, Nat.add_zero] at hshort
    omega

namespace Expr

/-- The ways to write a null by itself: a null literal or a parameter of null, a call without
parentheses of what is named like the keyword, and a column whose name is written like it. -/
inductive WritesNull (w : Writer) (s : Scope) : Expr → Prop
  | value {e : Expr} (hnull : e.isNull) : WritesNull w s e
  | call {name : String} {type : Option WireType} (hkeyword : Sql.IsNullKeyword name.toList) :
      WritesNull w s (.function name [] false type)
  | column {c : ColumnRef} (hunqualified : c.qualifierPieces s = [])
      (hkeyword : Sql.IsNullKeyword (w.config.nameText c.name)) : WritesNull w s (.column c)

variable {w : Writer} {s : Scope} {count : Nat} {e : Expr}

/-- Whether there may be no space and no parenthesis in what is written of it. -/
def isPiece : Expr → Bool
  | .column _ | .parameter _ | .literal _ | .function _ [] false _ => true
  | _ => false

theorem not_writesNull (hpiece : e.isPiece = false) : ¬e.WritesNull w s := by
  intro h
  cases h with
  | value hnull =>
      cases e with
      | parameter p => cases hpiece
      | literal v => cases hpiece
      | _ => cases hnull
  | call hkeyword => cases hpiece
  | column hunqualified hkeyword => cases hpiece

theorem isBareNull_render_iff_of_isParted (hpiece : e.isPiece = false)
    (hparted : (e.render w s).IsParted) : (e.render w s).IsBareNull w count ↔ e.WritesNull w s :=
  iff_of_false hparted.not_isBareNull (not_writesNull hpiece)

theorem isBareNull_column_iff {c : ColumnRef} :
    ((Expr.column c).render w s).IsBareNull w count ↔ (Expr.column c).WritesNull w s := by
  rw [render, ColumnRef.isBareNull_pieces_iff]
  constructor
  · rintro ⟨hunqualified, hkeyword⟩
    exact .column hunqualified hkeyword
  · intro h
    cases h with
    | value hnull => cases hnull
    | column hunqualified hkeyword => exact ⟨hunqualified, hkeyword⟩

theorem isBareNull_parameter_iff {p : Parameter} :
    ((Expr.parameter p).render w s).IsBareNull w count ↔ (Expr.parameter p).WritesNull w s := by
  constructor
  · rintro ⟨-, hkeyword | ⟨q, hnull, hcarried, -⟩⟩
    · refine absurd hkeyword ?_
      simpa [render, ofPieces, Writer.print, Writer.pieceText] using
        w.not_isNullKeyword_placeholderText count
    · cases hcarried
      exact .value hnull
  · intro h
    cases h with
    | value hnull => exact ⟨rfl, .inr ⟨p, hnull, rfl, List.append_nil _⟩⟩

theorem isBareNull_literal_iff {v : Value} :
    ((Expr.literal v).render w s).IsBareNull w count ↔ (Expr.literal v).WritesNull w s := by
  rw [render, Value.isBareNull_literal_iff]
  constructor
  · exact fun hnull => .value hnull
  · intro h
    cases h with
    | value hnull => exact hnull

theorem not_isBareNull_unary {op : Operator} (hop : op.IsMade) (operand : Operand)
    (postfixed : Bool) (type : Option WireType) :
    ¬((Expr.unary op operand postfixed type).render w s).IsBareNull w count := by
  obtain ⟨inner, parenthesized⟩ := operand
  cases postfixed with
  | true => exact ((isParted_space.after _).before _).not_isBareNull
  | false =>
      cases parenthesized with
      | true => exact ((isParted_enclose _).after _).not_isBareNull
      | false =>
          cases hsymbolic : op.isSymbolic with
          | true =>
              have hplain :
                  ¬(ofPieces op.pieces ++ empty ++ inner.render w s).IsBareNull w count := by
                rw [append_empty]
                exact op.not_isBareNull_symbolic hop hsymbolic _ w count
              simp only [render, hsymbolic]
              exact hplain
          | false =>
              simp only [render, hsymbolic]
              exact ((isParted_space.after _).before _).not_isBareNull

/-- A call without parentheses is its name. -/
theorem isBareNull_function_iff {name : String} {args : List Expr} {emptyParens : Bool}
    {type : Option WireType} :
    ((Expr.function name args emptyParens type).render w s).IsBareNull w count ↔
      (Expr.function name args emptyParens type).WritesNull w s := by
  have hparens (args : List Expr) (emptyParens : Bool)
      (h : (args.isEmpty && !emptyParens) = false)
      (hpiece : (Expr.function name args emptyParens type).isPiece = false) :
      ((Expr.function name args emptyParens type).render w s).IsBareNull w count ↔
        (Expr.function name args emptyParens type).WritesNull w s := by
    refine isBareNull_render_iff_of_isParted hpiece ?_
    rw [render, h]
    exact ((isParted_opening.after _).before _).before _
  match args, emptyParens with
  | [], false =>
      change (word name).IsBareNull w count ↔ _
      rw [isBareNull_word_iff]
      constructor
      · exact .call
      · intro h
        cases h with
        | value hnull => cases hnull
        | call hkeyword => exact hkeyword
  | [], true => exact hparens [] true rfl rfl
  | first :: rest, emptyParens => exact hparens (first :: rest) emptyParens rfl rfl

theorem isBareNull_tuple_iff {elements : List Expr} (hsingle : ∀ element, elements ≠ [element]) :
    ((Expr.tuple elements).render w s).IsBareNull w count ↔
      (Expr.tuple elements).WritesNull w s := by
  match elements with
  | [] =>
      refine iff_of_false ?_ (not_writesNull rfl)
      rintro ⟨-, hkeyword | ⟨p, -, hcarried, -⟩⟩
      · cases hkeyword
      · cases hcarried
  | [element] => exact absurd rfl (hsingle element)
  | first :: second :: rest =>
      refine isBareNull_render_iff_of_isParted rfl ?_
      rw [render, decide_eq_true (by simp)]
      exact isParted_enclose _

theorem isBareNull_render_iff_of_ne_single (hsingle : ∀ element, e ≠ .tuple [element])
    (hmade : ∀ op ∈ e.collect .operators, op.IsMade) :
    (e.render w s).IsBareNull w count ↔ e.WritesNull w s := by
  cases e with
  | column c => exact isBareNull_column_iff
  | parameter p => exact isBareNull_parameter_iff
  | literal v => exact isBareNull_literal_iff
  | unary op operand postfixed type =>
      have hop : op.IsMade := hmade op (by cases postfixed <;> simp [collect, Collector.operators])
      exact iff_of_false (not_isBareNull_unary hop operand postfixed type) (not_writesNull rfl)
  | binary left op right type =>
      exact isBareNull_render_iff_of_isParted rfl ((isParted_space.after _).before _)
  | ternary first op second op2 third type =>
      exact isBareNull_render_iff_of_isParted rfl ((isParted_space.after _).before _)
  | function name args emptyParens type => exact isBareNull_function_iff
  | case operand branches otherwise type =>
      exact isBareNull_render_iff_of_isParted rfl ((isParted_space.after _).before _)
  | inList operand values negated =>
      exact isBareNull_render_iff_of_isParted rfl
        (((((isParted_space.after _).before _).before _).before _).before _)
  | inQuery operand query negated =>
      exact isBareNull_render_iff_of_isParted rfl
        (((((isParted_space.after _).before _).before _).before _).before _)
  | tuple elements => exact isBareNull_tuple_iff fun element hone => hsingle element (by rw [hone])
  | select query => exact isBareNull_render_iff_of_isParted rfl (isParted_enclose _)

theorem isBareNull_render_iff (hmade : ∀ op ∈ e.collect .operators, op.IsMade) :
    (e.render w s).IsBareNull w count ↔ e.unwrapped.WritesNull w s := by
  rw [← render_unwrapped]
  rw [← collect_unwrapped] at hmade
  exact isBareNull_render_iff_of_ne_single e.unwrapped_ne_single hmade

end Expr

end TypedSql
