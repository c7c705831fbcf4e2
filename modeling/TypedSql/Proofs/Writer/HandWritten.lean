import TypedSql.Proofs.Writer.Congruence
import TypedSql.Proofs.Writer.Grammar
import TypedSql.Proofs.Writer.Tokens

namespace TypedSql

/-! The text of a statement, taken as hand-written SQL, is the statement.  The scanner that finds
the placeholders of hand-written SQL passes over quoted regions exactly as they were written. -/

def isCopied (c : Char) : Bool :=
  !Sql.isQuote c && c != '?'

theorem isCopied_of_isInert {c : Char} (h : isInert c) : isCopied c := by
  simp only [isInert, Bool.and_eq_true] at h
  simp only [isCopied, Bool.and_eq_true]
  obtain ⟨⟨⟨hcopied, -⟩, -⟩, -⟩ := h
  exact hcopied

theorem isQuote_of_isCopied {c : Char} (h : isCopied c) : Sql.isQuote c = false := by
  simp only [isCopied, Bool.and_eq_true, Bool.not_eq_true'] at h
  exact h.1

namespace Piece

def copies (text : List Char) : List Piece :=
  text.map fun c => .verbatim (String.singleton c)

def scanned (w : Writer) : Piece → List Piece
  | placeholder p => [.placeholder p]
  | p => copies (w.pieceText 0 p)

/-- Whether the text of a piece opens no region and looks like no placeholder besides those that
are meant. -/
def IsClean : Piece → Prop
  | word text => text.toList.all isCopied
  | symbol text => text.toList.all isCopied
  | verbatim _ => False
  | _ => True

theorem scanned_of_parameter? (w : Writer) {p : Piece} (h : p.parameter? = none) :
    p.scanned w = copies (w.pieceText 0 p) := by
  cases p with
  | placeholder q => cases h
  | _ => rfl

theorem copies_append (a b : List Char) : copies (a ++ b) = copies a ++ copies b :=
  List.map_append

end Piece

theorem Phrase.isClean {ps : List Piece} (h : Phrase isCopied ps) : ∀ p ∈ ps, p.IsClean := by
  induction h with
  | nil => simp
  | word hchars _ ih => exact List.forall_mem_cons.mpr ⟨hchars, ih⟩
  | symbol hchars _ ih =>
      refine List.forall_mem_cons.mpr ⟨List.all_eq_true.mpr fun c hc => ?_, ih⟩
      exact isCopied_of_isInert (List.all_eq_true.mp hchars c hc)
  | @atom p _ hisAtom _ _ ih =>
      refine List.forall_mem_cons.mpr ⟨?_, ih⟩
      cases p with
      | name text => trivial
      | quoted body => trivial
      | placeholder parameter => trivial
      | _ => contradiction
  | parens hopens _ hcloses _ ihBody ihRest =>
      refine List.forall_mem_cons.mpr ⟨?_, List.forall_mem_append.mpr ⟨ihBody, ?_⟩⟩
      · rcases hopens with rfl | rfl <;> exact rfl
      · refine List.forall_mem_cons.mpr ⟨?_, ihRest⟩
        rcases hcloses with rfl | rfl <;> exact rfl

namespace Raw

theorem opensQuote_iff (c : Char) : (c = '\'' ∨ c = '"' ∨ c.toNat = 96) ↔ Sql.isQuote c := by
  have hbacktick : c.toNat = 96 ↔ c = '\x60' := by
    constructor
    · intro h
      exact Char.ext (UInt32.toNat_inj.mp h)
    · rintro rfl
      rfl
  simp only [Sql.isQuote, Bool.or_eq_true, beq_iff_eq, hbacktick, or_assoc]

variable (total : Nat) (parameters : List Parameter)

theorem scan_outside {c : Char} (h : isCopied c) (cs : List Char) :
    scan total none parameters (c :: cs) =
      .ofPieces (Piece.copies [c]) ++ scan total none parameters cs := by
  have hnoQuote : ¬(c = '\'' ∨ c = '"' ∨ c.toNat = 96) := by
    rw [opensQuote_iff, isQuote_of_isCopied h]
    exact Bool.false_ne_true
  have hnoPlaceholder : c ≠ '?' := by
    simp only [isCopied, Bool.and_eq_true, bne_iff_ne] at h
    exact h.2
  rw [scan.eq_def]
  simp only [if_neg hnoQuote, if_neg hnoPlaceholder]
  rfl

theorem scan_opening {c : Char} (h : Sql.isQuote c) (cs : List Char) :
    scan total none parameters (c :: cs) =
      .ofPieces (Piece.copies [c]) ++ scan total (some c) parameters cs := by
  rw [scan.eq_def]
  simp only [if_pos ((opensQuote_iff c).mpr h)]
  rfl

theorem scan_inside (quote c : Char) (cs : List Char) :
    scan total (some quote) parameters (c :: cs) =
      .ofPieces (Piece.copies [c]) ++
        scan total (if c = quote then none else some quote) parameters cs := by
  rw [scan]
  rfl

theorem scan_placeholder (p : Parameter) (cs : List Char) :
    scan total none (p :: parameters) ('?' :: cs) =
      .ofPieces [.placeholder p] ++ scan total none parameters cs := by
  rw [scan, if_neg (by decide), if_pos rfl]

theorem copies_append_append (a b : List Char) (r : Rendering) :
    Rendering.ofPieces (Piece.copies a) ++ (.ofPieces (Piece.copies b) ++ r) =
      .ofPieces (Piece.copies (a ++ b)) ++ r := by
  rw [← Rendering.append_assoc, Rendering.append_of_none rfl, Piece.copies_append]
  rfl

theorem scan_plain {text : List Char} (h : text.all isCopied) (rest : List Char) :
    scan total none parameters (text ++ rest) =
      .ofPieces (Piece.copies text) ++ scan total none parameters rest := by
  induction text with
  | nil => exact (Rendering.empty_append _).symm
  | cons c cs ih =>
      rw [List.all_cons, Bool.and_eq_true] at h
      rw [List.cons_append, scan_outside total parameters h.1, ih h.2, copies_append_append]
      rfl

/-- A doubled quote closes a region and opens the next one, with nothing in between. -/
theorem scan_doubled {quote : Char} (hquote : Sql.isQuote quote) (body rest : List Char) :
    scan total (some quote) parameters (Sql.doubled quote body ++ quote :: rest) =
      .ofPieces (Piece.copies (Sql.doubled quote body ++ [quote])) ++
        scan total none parameters rest := by
  induction body with
  | nil =>
      simp only [Sql.doubled, List.flatMap_nil, List.nil_append, scan_inside, if_true]
  | cons c cs ih =>
      have hstep : Sql.doubled quote (c :: cs) =
          (if c = quote then [quote, quote] else [c]) ++ Sql.doubled quote cs := by
        simp only [Sql.doubled, List.flatMap_cons]
      rw [hstep]
      by_cases h : c = quote
      · simp only [if_pos h, List.cons_append, List.nil_append]
        rw [scan_inside, if_pos rfl, scan_opening total parameters hquote, ih,
          copies_append_append, copies_append_append]
        rfl
      · simp only [if_neg h, List.cons_append, List.nil_append]
        rw [scan_inside, if_neg h, ih, copies_append_append]
        rfl

theorem scan_enclosed {quote : Char} (hquote : Sql.isQuote quote) (body rest : List Char) :
    scan total none parameters (Sql.enclosed quote body ++ rest) =
      .ofPieces (Piece.copies (Sql.enclosed quote body)) ++ scan total none parameters rest := by
  have hshape : Sql.enclosed quote body ++ rest =
      quote :: (Sql.doubled quote body ++ quote :: rest) := by
    simp [Sql.enclosed]
  rw [hshape, scan_opening total parameters hquote, scan_doubled total parameters hquote,
    copies_append_append]
  rfl

variable {w : Writer} (hquote : w.config.HasNameQuote)

include hquote

theorem scan_piece (hmark : ∀ count, w.placeholderText count = ['?']) {p : Piece} (h : p.IsClean)
    (count : Nat) (rest : List Char) :
    scan total none (Piece.parameters [p] ++ parameters) (w.pieceText count p ++ rest) =
      .ofPieces (p.scanned w) ++ scan total none parameters rest := by
  cases p with
  | word text =>
      refine scan_plain total parameters (List.all_eq_true.mpr fun c hc => ?_) rest
      obtain ⟨d, hd, rfl⟩ := List.mem_map.mp hc
      refine w.config.casing.apply_of_isAlpha (fun c hletter => ?_) (List.all_eq_true.mp h d hd)
      exact isCopied_of_isInert (isInert_of_isAlphanum (by simp [Char.isAlphanum, hletter]))
  | symbol text => exact scan_plain total parameters h rest
  | name text =>
      simp only [Piece.scanned, Writer.pieceText, WriterConfig.nameText]
      cases hquoted : w.config.shouldQuote text with
      | true =>
          simp only [if_true, hquote.quotedName_eq]
          exact scan_enclosed total parameters hquote.isQuote_quoteChar _ rest
      | false =>
          have hplain := WriterConfig.all_isInert_of_shouldQuote hquoted
          simp only [Bool.false_eq_true, if_false]
          refine scan_plain total parameters (List.all_eq_true.mpr fun c hc => ?_) rest
          exact isCopied_of_isInert (List.all_eq_true.mp hplain c hc)
  | quoted body =>
      have henclosed : Writer.quotedText body = Sql.enclosed '\'' body.toList := by
        simp only [Writer.quotedText, Sql.replace_eq_doubled]
        rfl
      simp only [Piece.scanned, Writer.pieceText, henclosed]
      exact scan_enclosed total parameters rfl _ rest
  | verbatim text => contradiction
  | placeholder p =>
      simp only [Writer.pieceText, hmark]
      exact scan_placeholder total parameters p rest

theorem scan_print (hmark : ∀ count, w.placeholderText count = ['?']) {ps : List Piece}
    (h : ∀ p ∈ ps, p.IsClean) (count : Nat) :
    scan total none (Piece.parameters ps) (w.print count ps) =
      .ofPieces (ps.flatMap (Piece.scanned w)) := by
  induction ps generalizing count with
  | nil => rfl
  | cons p ps ih =>
      obtain ⟨hhere, hthere⟩ := List.forall_mem_cons.mp h
      rw [Piece.parameters_cons, Writer.print_cons,
        scan_piece total _ hquote hmark hhere count _, ih hthere]
      rfl

end Raw

namespace Piece

theorem parameters_copies (text : List Char) : parameters (copies text) = [] := by
  induction text with
  | nil => rfl
  | cons c cs ih => exact ih

theorem parameters_scanned (w : Writer) (ps : List Piece) :
    parameters (ps.flatMap (scanned w)) = parameters ps := by
  induction ps with
  | nil => rfl
  | cons p ps ih =>
      rw [List.flatMap_cons, parameters_append, parameters_cons p ps, ih]
      cases p with
      | placeholder q => rfl
      | _ =>
          rw [scanned_of_parameter? w rfl, parameters_copies]
          rfl

end Piece

namespace Writer

variable {w w' : Writer}

theorem print_copies (count : Nat) (text : List Char) (ps : List Piece) :
    w.print count (Piece.copies text ++ ps) = text ++ w.print count ps := by
  induction text with
  | nil => rfl
  | cons c cs ih =>
      have hhere : w.pieceText count (.verbatim (String.singleton c)) = [c] := by
        simp [pieceText]
      rw [Piece.copies, List.map_cons, List.cons_append, print_cons, hhere]
      exact congrArg (c :: ·) ih

theorem pieceText_congr (hconfig : w'.config = w.config) {p : Piece} (hp : p.parameter? = none)
    (count : Nat) : w'.pieceText count p = w.pieceText 0 p := by
  cases p with
  | placeholder q => cases hp
  | _ => simp only [pieceText, hconfig]

theorem print_scanned (hconfig : w'.config = w.config) (ps : List Piece) (count : Nat) :
    w'.print count (ps.flatMap (Piece.scanned w)) = w'.print count ps := by
  induction ps generalizing count with
  | nil => rfl
  | cons p ps ih =>
      rw [List.flatMap_cons, print_cons]
      cases p with
      | placeholder q => exact congrArg (w'.placeholderText count ++ ·) (ih _)
      | _ =>
          rw [Piece.scanned_of_parameter? w rfl, print_copies, ih, pieceText_congr hconfig rfl]
          rfl

/-- Whatever the dialect, the text of clean pieces is compiled into the pieces themselves. -/
theorem compile_scanned {w : Writer} (w' : Writer) (hquote : w.config.HasNameQuote)
    (hconfig : w'.config = w.config) (hmark : ∀ count, w.placeholderText count = ['?'])
    {ps : List Piece} (h : ∀ p ∈ ps, p.IsClean) :
    w'.compile (.raw ⟨String.ofList (w.print 0 ps), Piece.parameters ps⟩) =
      .ok ⟨String.ofList (w'.print 0 ps), Piece.parameters ps⟩ := by
  have hrendered :
      (Statement.raw ⟨String.ofList (w.print 0 ps), Piece.parameters ps⟩).render w' {} =
        .ofPieces (ps.flatMap (Piece.scanned w)) := by
    simp only [Statement.render, Raw.render, String.toList_ofList]
    exact Raw.scan_print _ hquote hmark h 0
  rw [compile_of_pieces hrendered, print_scanned hconfig, Piece.parameters_scanned]

end Writer

theorem Value.literal_generic (v : Value) : v.literal .generic = v.literal .postgres := by
  cases v with
  | some c => cases c <;> rfl
  | _ => rfl

theorem alike_generic_postgres (config : WriterConfig) :
    Alike (fun a b => a.failure = none → a = b) id (Writer.of .generic config)
      (Writer.of .postgres config) where
  ofPieces _ _ := rfl
  fail _ _ := rfl
  append hfirst hsecond h := by
    obtain ⟨ha, hb⟩ := Rendering.failure_append_eq_none.mp h
    rw [hfirst ha, hsecond hb]
  comma hfirst hsecond h := by
    simp only [Rendering.failure_append_eq_none] at h
    obtain ⟨ha, -, hb⟩ := h
    rw [hfirst ha, hsecond hb]
    rfl
  literal v _ := v.literal_generic
  pagination limit offset h := by
    cases limit with
    | none =>
        cases offset with
        | none => rfl
        | some n => cases h
    | some m => cases offset <;> cases h

theorem alike_id (w : Writer) : Alike Eq id w w where
  ofPieces _ := rfl
  fail _ := rfl
  append hfirst hsecond := by rw [hfirst, hsecond]
  comma hfirst hsecond := by rw [hfirst, hsecond]
  literal _ := rfl
  pagination _ _ := rfl

section

variable {config : WriterConfig}

theorem Statement.render_postgres {s : Statement} (hraw : s.isRaw = false)
    (h : (s.render (Writer.of .generic config) {}).failure = none) :
    s.render (Writer.of .postgres config) {} = s.render (Writer.of .generic config) {} := by
  have hsame := Statement.alike_render (alike_id (.of .generic config)) hraw {}
  have hother := Statement.alike_render (alike_generic_postgres config) hraw {}
  rw [hsame] at hother
  exact (hother h).symm

/-- The text and the parameters that the generic writer gives for a statement are hand-written SQL
that means the same: the generic writer gives them back, and the writer with numbered placeholders
makes of them what it makes of the statement. -/
theorem Statement.compile_raw_of_compile {s : Statement} {c : CompiledSql}
    (hquote : config.HasNameQuote) (hraw : s.isRaw = false)
    (hwords : ∀ word ∈ s.words, word.toList.all isCopied)
    (h : (Writer.of .generic config).compile s = .ok c) :
    (Writer.of .generic config).compile (.raw ⟨c.sql, c.parameters⟩) = .ok c ∧
      (Writer.of .postgres config).compile (.raw ⟨c.sql, c.parameters⟩) =
        (Writer.of .postgres config).compile s := by
  have hok : AllowsKeywords isCopied := allowsKeywords_of_isInert fun _ => isCopied_of_isInert
  obtain ⟨ps, hphrase, hrendered, rfl⟩ :=
    Statement.phrase_of_compile hok hquote.quote_ne_empty hraw hwords h
  have hclean := hphrase.isClean
  have hagain := Statement.render_postgres hraw (by rw [hrendered]; rfl)
  rw [hrendered] at hagain
  constructor
  · exact Writer.compile_scanned _ hquote rfl (fun _ => rfl) hclean
  · rw [Writer.compile_of_pieces hagain]
    exact Writer.compile_scanned (w := .of .generic config) (.of .postgres config) hquote rfl
      (fun _ => rfl) hclean

end

def markedStatement : Statement :=
  let t : TableRef := { name := "t\"s" }
  let named : Expr := .column { table := t, name := "a'?", codec := .ofType .varchar }
  let wanted : Expr := .function "coalesce"
    [.parameter (.ofRowCount 7), .literal (.some (.varchar "it's `?\""))] true none
  .select {
    items := [⟨named, some "what?"⟩], source := some (.table t []),
    filter := some (.binary ⟨named, false⟩ ⟨["is", "not"]⟩ ⟨wanted, true⟩ none),
    distinct := true, groupBy := [], having := none, orderBy := [], limit := none,
    offset := none }

theorem compile_raw_of_marked :
    ∃ c, (Writer.of .generic {}).compile markedStatement = .ok c ∧
      (Writer.of .generic {}).compile (.raw ⟨c.sql, c.parameters⟩) = .ok c ∧
      (Writer.of .postgres {}).compile (.raw ⟨c.sql, c.parameters⟩) =
        (Writer.of .postgres {}).compile markedStatement := by
  refine ⟨_, rfl, ?_⟩
  exact Statement.compile_raw_of_compile (s := markedStatement) (.inl rfl) rfl (by decide) rfl

end TypedSql
