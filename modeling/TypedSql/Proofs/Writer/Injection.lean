import TypedSql.Proofs.Writer.Congruence
import TypedSql.Proofs.Writer.Grammar
import TypedSql.Proofs.Writer.Tokens

namespace TypedSql

/-! Nothing that a program passes as a text changes how the text of a statement is read.  All
regions are closed, the parentheses outside them are balanced, and a text literal changes nothing
but the contents of its own region. -/

namespace Sql

variable {text : List Char}

def isFlat (c : Char) : Bool :=
  !isQuote c && c != '(' && c != ')'

theorem isFlat_of_isInert {c : Char} (h : isInert c) : isFlat c := by
  simp only [isInert, Bool.and_eq_true] at h
  simp only [isFlat, Bool.and_eq_true]
  obtain ⟨⟨⟨⟨hquote, -⟩, -⟩, hopening⟩, hclosing⟩ := h
  exact ⟨⟨hquote, hopening⟩, hclosing⟩

theorem isQuote_of_isFlat {c : Char} (h : isFlat c) : isQuote c = false := by
  simp only [isFlat, Bool.and_eq_true, Bool.not_eq_true'] at h
  obtain ⟨⟨hquote, -⟩, -⟩ := h
  exact hquote

theorem depthAfter?_flat (h : text.all isFlat) (depth : Nat) :
    depthAfter? depth (text.map .char) = some depth := by
  refine depthAfter?_chars (fun c hc => ?_) depth
  have hflat := List.all_eq_true.mp h c hc
  simp only [isFlat, Bool.and_eq_true, bne_iff_ne] at hflat
  obtain ⟨⟨-, hopening⟩, hclosing⟩ := hflat
  exact ⟨hopening, hclosing⟩

theorem depthAfter?_inert (h : text.all isInert) (depth : Nat) :
    depthAfter? depth (text.map .char) = some depth := by
  refine depthAfter?_flat (List.all_eq_true.mpr fun c hc => ?_) depth
  exact isFlat_of_isInert (List.all_eq_true.mp h c hc)

theorem depthAfter?_append_of_some {depth after : Nat} {ts : List Token}
    (h : depthAfter? depth ts = some after) (us : List Token) :
    depthAfter? depth (ts ++ us) = depthAfter? after us := by
  rw [depthAfter?_append, h, Option.bind_some]

end Sql

namespace Writer

variable {w : Writer}

theorem depthAfter?_placeholderText (count depth : Nat) :
    Sql.depthAfter? depth ((w.placeholderText count).map .char) = some depth := by
  cases hdialect : w.dialect with
  | postgres =>
      simp only [placeholderText, hdialect]
      refine Sql.depthAfter?_flat ?_ depth
      rw [List.all_cons, Bool.and_eq_true]
      refine ⟨rfl, List.all_eq_true.mpr fun c hc => ?_⟩
      have hdigit : c.isDigit := Nat.isDigit_of_mem_toDigits (by decide) (by decide) hc
      exact Sql.isFlat_of_isInert (isInert_of_isAlphanum (by simp [Char.isAlphanum, hdigit]))
  | _ => simp [placeholderText, hdialect, Sql.depthAfter?, Sql.Token.depth?]

theorem depthAfter?_atom {p : Piece} (hp : p.isAtom) (count depth : Nat) :
    Sql.depthAfter? depth (w.pieceTokens count p) = some depth := by
  cases p with
  | name text =>
      simp only [pieceTokens]
      cases hquoted : w.config.shouldQuote text with
      | true => rfl
      | false => exact Sql.depthAfter?_inert (WriterConfig.all_isInert_of_shouldQuote hquoted) depth
  | quoted body => rfl
  | placeholder parameter => exact depthAfter?_placeholderText count depth
  | _ => contradiction

/-- A phrase ends at the depth where it begins, and does not go below it. -/
theorem depthAfter?_tokens {ok : Char → Bool} (hok : ∀ c, ok c → Sql.isFlat c)
    (hletters : ∀ c, c.isAlpha → ok c) {ps : List Piece} (hps : Phrase ok ps)
    (count depth : Nat) : Sql.depthAfter? depth (w.tokens count ps) = some depth := by
  induction hps generalizing count depth with
  | nil => rfl
  | @word text ps hchars _ ih =>
      have hflat : (text.toList.map w.config.casing.apply).all Sql.isFlat := by
        simp only [List.all_map, List.all_eq_true, Function.comp_apply] at hchars ⊢
        exact fun c hc => hok _ (w.config.casing.apply_of_isAlpha hletters (hchars c hc))
      rw [tokens_cons, pieceTokens,
        Sql.depthAfter?_append_of_some (Sql.depthAfter?_flat hflat depth), ih]
  | @symbol text ps hchars _ ih =>
      rw [tokens_cons, pieceTokens,
        Sql.depthAfter?_append_of_some (Sql.depthAfter?_inert hchars depth), ih]
  | @atom p ps hisAtom _ _ ih =>
      rw [tokens_cons, Sql.depthAfter?_append_of_some (depthAfter?_atom hisAtom count depth), ih]
  | @parens left right inner ps hopens _ hcloses _ ihBody ihRest =>
      have hopened : Sql.depthAfter? depth (w.pieceTokens count (.symbol left)) =
          some (depth + 1) := by
        rcases hopens with rfl | rfl <;> rfl
      have hclosed (count : Nat) :
          Sql.depthAfter? (depth + 1) (w.pieceTokens count (.symbol right)) = some depth := by
        rcases hcloses with rfl | rfl <;> rfl
      rw [tokens_cons, Sql.depthAfter?_append_of_some hopened, tokens_append,
        Sql.depthAfter?_append_of_some (ihBody _ _), tokens_cons,
        Sql.depthAfter?_append_of_some (hclosed _), ihRest]

end Writer

namespace Piece

def emptied : Piece → Piece
  | quoted _ => quoted ""
  | p => p

theorem isVisible_emptied (quote : String) (p : Piece) :
    p.emptied.isVisible quote = p.isVisible quote := by
  cases p <;> rfl

theorem parameter?_emptied (p : Piece) : p.emptied.parameter? = p.parameter? := by
  cases p <;> rfl

theorem parameters_emptied (ps : List Piece) : parameters (ps.map emptied) = parameters ps := by
  simp only [parameters, List.filterMap_map, Function.comp_def, parameter?_emptied]

end Piece

namespace Rendering

def emptied (r : Rendering) : Rendering :=
  ⟨r.pieces.map Piece.emptied, r.failure⟩

theorem emptied_append (a b : Rendering) : (a ++ b).emptied = a.emptied ++ b.emptied := by
  cases h : a.failure with
  | some e =>
      have hemptiedFailure : a.emptied.failure = some e := h
      rw [append_of_failure h, append_of_failure hemptiedFailure]
  | none =>
      have hemptiedFailure : a.emptied.failure = none := h
      rw [append_of_none h, append_of_none hemptiedFailure]
      simp [emptied]

theorem isVisible_emptied (quote : String) (r : Rendering) :
    r.emptied.isVisible quote = r.isVisible quote := by
  simp only [isVisible, emptied, List.any_map, Function.comp_def, Piece.isVisible_emptied]

end Rendering

theorem alike_emptied (w : Writer) :
    Alike (fun a b => a.emptied = b.emptied) Value.blankText w w where
  ofPieces _ := rfl
  fail _ := rfl
  append hfirst hsecond := by
    rw [Rendering.emptied_append, Rendering.emptied_append, hfirst, hsecond]
  comma {a a' b b'} hfirst hsecond := by
    have hvisible : a.isVisible w.config.quote = a'.isVisible w.config.quote := by
      rw [← Rendering.isVisible_emptied, hfirst, Rendering.isVisible_emptied]
    simp only [Rendering.emptied_append, hfirst, hsecond, hvisible]
  literal v := by
    cases v with
    | some c => cases c <;> rfl
    | _ => rfl
  pagination _ _ := rfl

theorem Writer.emptiedText_tokens (w : Writer) (count : Nat) (ps : List Piece) :
    (w.tokens count ps).flatMap Sql.Token.emptiedText =
      (w.tokens count (ps.map Piece.emptied)).flatMap Sql.Token.emptiedText := by
  induction ps generalizing count with
  | nil => rfl
  | cons p ps ih =>
      rw [List.map_cons, tokens, tokens, List.flatMap_append, List.flatMap_append, ih,
        Piece.parameter?_emptied]
      cases p <;> rfl

/-- What is left of a compiled statement when its single-quoted regions are emptied, unless a
region is left open. -/
def CompiledSql.emptied (c : CompiledSql) : Option (List Char) × List Parameter :=
  ((Sql.lex c.sql.toList).map (·.flatMap Sql.Token.emptiedText), c.parameters)

def Writer.emptiedOutcome (w : Writer) (r : Rendering) :
    Except Error (Option (List Char) × List Parameter) :=
  match r.failure with
  | some e => .error e
  | none => .ok (some ((w.tokens 0 r.pieces).flatMap Sql.Token.emptiedText),
      Piece.parameters r.pieces)

theorem Writer.emptiedOutcome_emptied (w : Writer) (r : Rendering) :
    w.emptiedOutcome r.emptied = w.emptiedOutcome r := by
  simp only [emptiedOutcome, Rendering.emptied, Piece.parameters_emptied, ← emptiedText_tokens]

section

variable {w : Writer} (hquote : w.config.HasNameQuote) {s : Statement} (hraw : s.isRaw = false)
  (hwords : ∀ word ∈ s.words, word.toList.all Sql.isFlat)

include hquote hraw hwords

theorem Statement.tokens_of_compile {c : CompiledSql} (h : w.compile s = .ok c) :
    ∃ ps, s.render w {} = .ofPieces ps ∧ c.parameters = Piece.parameters ps ∧
      Sql.lex c.sql.toList = some (w.tokens 0 ps) ∧ Sql.Balanced (w.tokens 0 ps) := by
  have hok : AllowsKeywords Sql.isFlat := allowsKeywords_of_isInert fun _ => Sql.isFlat_of_isInert
  obtain ⟨ps, hphrase, hrendered, rfl⟩ :=
    Statement.phrase_of_compile hok hquote.quote_ne_empty hraw hwords h
  have hread := Writer.lex_print hquote (fun _ => Sql.isQuote_of_isFlat) hok.letters hphrase 0
  refine ⟨ps, hrendered, rfl, ?_, Writer.depthAfter?_tokens (fun _ => id) hok.letters hphrase 0 0⟩
  rw [String.toList_ofList, hread]

theorem Statement.map_emptied_compile :
    (w.compile s).map CompiledSql.emptied = w.emptiedOutcome (s.render w {}) := by
  cases h : w.compile s with
  | error e =>
      have hfailed := Writer.failure_of_compile h
      simp only [Writer.emptiedOutcome, hfailed]
      rfl
  | ok c =>
      obtain ⟨ps, hrendered, hcarried, hread, -⟩ := Statement.tokens_of_compile hquote hraw hwords h
      simp [Except.map, CompiledSql.emptied, Writer.emptiedOutcome, hrendered, hcarried, hread,
        Rendering.ofPieces]

/-- The text of a compiled statement is read to its end with balanced parentheses, and a statement
that differs from it in text literals alone is compiled into a text that differs from it between
single quotes alone. -/
theorem Statement.balanced_and_emptied_of_compile :
    (∀ c, w.compile s = .ok c → ∃ ts, Sql.lex c.sql.toList = some ts ∧ Sql.Balanced ts) ∧
      ∀ s' : Statement, s'.isRaw = false →
        (∀ word ∈ s'.words, word.toList.all Sql.isFlat) → s'.blankTexts = s.blankTexts →
          (w.compile s').map CompiledSql.emptied = (w.compile s).map CompiledSql.emptied := by
  constructor
  · intro c h
    obtain ⟨ps, -, -, hread, hbalanced⟩ := Statement.tokens_of_compile hquote hraw hwords h
    exact ⟨w.tokens 0 ps, hread, hbalanced⟩
  · intro s' hraw' hwords' hsame
    have hblanked : (s.blankTexts.render w {}).emptied = (s.render w {}).emptied :=
      Statement.alike_render (alike_emptied w) hraw {}
    have hblanked' : (s'.blankTexts.render w {}).emptied = (s'.render w {}).emptied :=
      Statement.alike_render (alike_emptied w) hraw' {}
    rw [Statement.map_emptied_compile hquote hraw hwords,
      Statement.map_emptied_compile hquote hraw' hwords', ← w.emptiedOutcome_emptied,
      ← w.emptiedOutcome_emptied (s.render w {}), ← hblanked', hsame, hblanked]

end

def namingStatement (text : String) : Statement :=
  let t : TableRef := { name := "t`)" }
  let named : ColumnRef := { table := t, name := "a\"b", codec := .ofType .varchar }
  .update {
    table := t,
    assignments := [⟨named, .function "lower" [.literal (.some (.varchar text))] true none⟩],
    filter := some (.inList ⟨.column named, false⟩ [.parameter (.ofRowCount 7)] true) }

theorem balanced_and_emptied_of_naming :
    (∃ ts c, (Writer.of .mysql {}).compile (namingStatement "') or (1") = .ok c ∧
        Sql.lex c.sql.toList = some ts ∧ Sql.Balanced ts) ∧
      ((Writer.of .mysql {}).compile (namingStatement "it's")).map CompiledSql.emptied =
        ((Writer.of .mysql {}).compile (namingStatement "') or (1")).map CompiledSql.emptied := by
  have hsafe := Statement.balanced_and_emptied_of_compile (w := .of .mysql {})
    (s := namingStatement "') or (1") (.inr rfl) rfl (by decide)
  refine ⟨?_, hsafe.2 (namingStatement "it's") rfl (by decide) rfl⟩
  obtain ⟨ts, hread, hbalanced⟩ := hsafe.1 _ rfl
  exact ⟨ts, _, rfl, hread, hbalanced⟩

end TypedSql
