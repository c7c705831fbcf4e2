import Mathlib.Data.List.Forall2
import TypedSql.Proofs.Statement.Induction
import TypedSql.Proofs.Writer.Stepwise

namespace TypedSql

/-! What writing does to a page.  Whatever is written goes behind what is there, up to the failure
that ends it; the clause and the qualification of columns are afterwards what they were; and what is
on the page before has no part in what is written, but for the number of its parameters. -/

open Writing

namespace Page

variable {w : Writer} (p : Page)

@[simp] theorem scope_behind (pieces : List Piece) : (p.behind w pieces).scope = p.scope := rfl

@[simp] theorem behind_nil : p.behind w [] = p := by
  simp [behind, Context.after, Piece.parameters, Writer.print]

theorem behind_behind (a b : List Piece) : (p.behind w a).behind w b = p.behind w (a ++ b) := by
  simp only [behind, Context.after, Context.count, Piece.parameters_append, List.length_append,
    Writer.print_append, String.ofList_append, List.append_assoc, String.append_assoc]

end Page

namespace Rendering

def outcome (r : Rendering) : Except Error Unit :=
  match r.failure with
  | some e => .error e
  | none => .ok ()

/-- Renderings in a row behind something, which has printed something or not. -/
def separateFrom (quote : String) (visible : Bool) : List Rendering → Rendering
  | [] => empty
  | r :: rs =>
      (if visible then symbol ", " else empty) ++ (r ++ separateFrom quote (r.isVisible quote) rs)

theorem separateFrom_cons (quote : String) (visible : Bool) (r : Rendering)
    (rs : List Rendering) :
    separateFrom quote visible (r :: rs) =
      (if visible then symbol ", " else empty) ++ separate quote (r :: rs) := by
  induction rs generalizing visible r with
  | nil => simp only [separateFrom, separate, append_empty]
  | cons next rs ih =>
      rw [separateFrom, ih]
      rfl

theorem separate_eq_separateFrom (quote : String) (rs : List Rendering) :
    separate quote rs = separateFrom quote false rs := by
  cases rs with
  | nil => rfl
  | cons r rs => rw [separateFrom_cons, if_neg Bool.false_ne_true, empty_append]

end Rendering

namespace Writer

variable (w : Writer)

/-- Pieces that are printed as nothing are those that are not visible. -/
theorem pieceText_eq_nil_iff (count : Nat) (p : Piece) :
    w.pieceText count p = [] ↔ p.isVisible w.config.quote = false := by
  cases p with
  | word text => simp [pieceText, Piece.isVisible, String.isEmpty_iff]
  | symbol text => simp [pieceText, Piece.isVisible, String.isEmpty_iff]
  | verbatim text => simp [pieceText, Piece.isVisible, String.isEmpty_iff]
  | name text =>
      simp only [pieceText, Piece.isVisible, WriterConfig.nameText, Bool.or_eq_false_iff,
        Bool.not_eq_false', String.isEmpty_iff]
      split
      case isTrue hquoted =>
        simp only [WriterConfig.quotedName, List.append_eq_nil_iff, String.toList_eq_nil_iff]
        constructor
        · rintro ⟨⟨hquote, hbody⟩, -⟩
          refine ⟨?_, hquote⟩
          simpa [hquote, Text.replace] using hbody
        · rintro ⟨rfl, hquote⟩
          simp [hquote, Text.replace]
      case isFalse hplain =>
        have hthere : text ≠ "" := by
          rintro rfl
          exact hplain (by simp [WriterConfig.shouldQuote, isPlainIdentifier])
        simp [hthere]
  | quoted body => simp [pieceText, quotedText, Piece.isVisible]
  | placeholder parameter =>
      simp only [pieceText, placeholderText, Piece.isVisible]
      split <;> simp

theorem print_eq_nil_iff (count : Nat) (ps : List Piece) :
    w.print count ps = [] ↔ ps.any (Piece.isVisible w.config.quote) = false := by
  induction ps generalizing count with
  | nil => simp [print]
  | cons p ps ih =>
      rw [print, List.append_eq_nil_iff, pieceText_eq_nil_iff, ih, List.any_cons,
        Bool.or_eq_false_iff]

variable {w} in
/-- Only the placeholders of PostgreSQL have a number. -/
theorem print_congr (h : w.dialect ≠ .postgres) (n m : Nat) (ps : List Piece) :
    w.print n ps = w.print m ps := by
  induction ps generalizing n m with
  | nil => rfl
  | cons p ps ih =>
      have hsame : w.pieceText n p = w.pieceText m p := by
        cases p with
        | placeholder parameter =>
            cases hd : w.dialect with
            | postgres => exact absurd hd h
            | _ => simp only [pieceText, placeholderText, hd]
        | _ => rfl
      rw [print, print, hsame, ih]

end Writer

/-- A page grows in length just if something visible goes on it. -/
theorem Page.grows_iff (w : Writer) (p : Page) (r : Rendering) :
    decide (p.text.utf8ByteSize < (p.behind w r.pieces).text.utf8ByteSize) =
      r.isVisible w.config.quote := by
  have hwritten := w.print_eq_nil_iff p.context.count r.pieces
  have hsize : (p.behind w r.pieces).text.utf8ByteSize = p.text.utf8ByteSize +
      (String.ofList (w.print p.context.count r.pieces)).utf8ByteSize :=
    String.utf8ByteSize_append
  rw [← String.ofList_eq_empty_iff, ← String.utf8ByteSize_eq_zero_iff] at hwritten
  rw [Rendering.isVisible, hsize]
  cases hvisible : r.pieces.any (Piece.isVisible w.config.quote) with
  | false =>
      have hnone := hwritten.mpr hvisible
      simp [hnone]
  | true =>
      have hsome := mt hwritten.mp (by simp [hvisible])
      simp only [decide_eq_true_eq]
      omega

/-- On every page of the scope, the pieces of the rendering go behind what is there, and the
failure of the rendering is what comes of it. -/
def Writing.Writes (w : Writer) (s : Scope) (x : Writing) (r : Rendering) : Prop :=
  ∀ page : Page, page.scope = s → x page = (r.outcome, page.behind w r.pieces)

namespace Writing

variable {w : Writer} {s : Scope} {x y : Writing} {a b r : Rendering}

theorem Writes.of_eq (h : Writes w s x a) (hsame : a = b) : Writes w s x b :=
  hsame ▸ h

theorem writes_pure : Writes w s (pure ()) .empty := by
  intro page _
  rw [Run.pure_apply, Rendering.empty, Page.behind_nil]
  rfl

theorem writes_throw (e : Error) : Writes w s (throw e) (.fail e) := by
  intro page _
  rw [Run.throw_apply, Rendering.fail, Page.behind_nil]
  rfl

/-- What comes second may depend on the page that the first has written. -/
theorem Writes.bind_apply (hfirst : Writes w s x a) {page : Page} (hs : page.scope = s)
    (hsecond : y (page.behind w a.pieces) =
      (b.outcome, (page.behind w a.pieces).behind w b.pieces)) :
    (x >>= fun _ => y) page = ((a ++ b).outcome, page.behind w (a ++ b).pieces) := by
  have hrun := hfirst page hs
  cases hfailure : a.failure with
  | some e =>
      rw [Rendering.outcome, hfailure] at hrun
      rw [Run.bind_error hrun, Rendering.append_of_failure hfailure, Rendering.outcome, hfailure]
  | none =>
      rw [Rendering.outcome, hfailure] at hrun
      rw [Run.bind_ok hrun, hsecond, Page.behind_behind, Rendering.append_of_none hfailure]
      rfl

theorem Writes.bind (hfirst : Writes w s x a) (hsecond : Writes w s y b) :
    Writes w s (x >>= fun _ => y) (a ++ b) :=
  fun page hs => hfirst.bind_apply hs (hsecond _ ((page.scope_behind _).trans hs))

theorem writes_put (p : Piece) : Writes w s (put w p) (.ofPieces [p]) := by
  intro page _
  rw [put, Run.modify_apply, Rendering.ofPieces]
  simp only [Page.behind, Writer.print, List.append_nil]
  rfl

theorem writes_puts (ps : List Piece) : Writes w s (puts w ps) (.ofPieces ps) := by
  induction ps with
  | nil => exact writes_pure
  | cons p ps ih => exact (writes_put p).bind ih

theorem writes_word (text : String) : Writes w s (word w text) (.word text) :=
  writes_put _

theorem writes_symbol (text : String) : Writes w s (symbol w text) (.symbol text) :=
  writes_put _

theorem writes_name (text : String) : Writes w s (name w text) (.name text) :=
  writes_put _

theorem writes_leaf (r : Rendering) : Writes w s (leaf w r) r := by
  have hended : Writes w s (match r.failure with | some e => throw e | none => pure ())
      ⟨[], r.failure⟩ := by
    cases r.failure with
    | none => exact writes_pure
    | some e => exact writes_throw e
  refine ((writes_puts r.pieces).bind hended).of_eq ?_
  rw [Rendering.append_of_none rfl, Rendering.ofPieces, List.append_nil]

theorem writes_reference (pieces : Scope → List Piece) :
    Writes w s (reference w pieces) (.ofPieces (pieces s)) := by
  intro page hs
  rw [reference, Run.bind_ok (Run.get_apply page), hs]
  exact writes_puts (pieces s) page hs

theorem Writes.enclose (hinner : Writes w s x r) (parens : Bool) :
    Writes w s (enclose w parens x) (.enclose parens r) := by
  cases parens with
  | false => exact hinner
  | true =>
      rw [Rendering.enclose, if_pos rfl, Rendering.append_assoc]
      exact (writes_symbol "(").bind (hinner.bind (writes_symbol ")"))

theorem Writes.clause (hinner : Writes w s x r) (keyword : String) :
    Writes w s (clause w keyword x) (.clause keyword r) := by
  rw [Rendering.clause, Rendering.append_assoc, Rendering.append_assoc]
  exact (writes_symbol " ").bind ((writes_word keyword).bind ((writes_symbol " ").bind hinner))

theorem Writes.whenever (hinner : Writes w s x r) (b : Bool) :
    Writes w s (whenever b x) (if b then r else .empty) := by
  cases b with
  | false => exact writes_pure
  | true => exact hinner

/-- The scope outside comes back, and the parameters go with those outside. -/
theorem Writes.within {fragment : Fragment} (hinner : Writes w (s.enter fragment) x r) :
    Writes w s (within fragment x) r := by
  intro page hs
  have hrun := hinner { page with context := page.context.enter fragment } (by rw [← hs]; rfl)
  rw [Writing.within, hrun]
  rfl

theorem Writes.within_qualifying {fragment : Fragment} {more : Bool}
    (hinner : Writes w ⟨fragment, s.qualify || more⟩ x r) :
    Writes w s (Writing.within fragment (qualifying more x)) r := by
  intro page hs
  subst hs
  have hrun := hinner { page with
    context := { page.context with fragment, qualify := page.context.qualify || more } } rfl
  have hended : (Writing.within fragment (qualifying more x) page).1 = r.outcome :=
    congrArg Prod.fst hrun
  have hleft : (Writing.within fragment (qualifying more x) page).2 = page.behind w r.pieces :=
    congrArg (fun e : Except Error Unit × Page =>
      { e.2 with context := page.context.leave e.2.context }) hrun
  exact Prod.ext hended hleft

section

variable {xs : List Writing} {rs : List Rendering}

theorem separatedFrom_apply (hall : List.Forall₂ (Writes w s) xs rs) {page : Page}
    (hs : page.scope = s) (start : Nat) :
    let visible := decide (start < page.text.utf8ByteSize)
    let r := Rendering.separateFrom w.config.quote visible rs
    separatedFrom w start xs page = (r.outcome, page.behind w r.pieces) := by
  -- Whether a separator is due depends on the text that the part before has added, so the start
  -- of that part goes with the induction.
  induction hall generalizing page start with
  | nil => exact writes_pure page hs
  | @cons x r xs rs hfirst hrest ih =>
      intro visible whole
      have hbehind : Writes w s (do
          let begun := (← get).text.utf8ByteSize
          x
          separatedFrom w begun xs)
          (r ++ Rendering.separateFrom w.config.quote (r.isVisible w.config.quote) rs) := by
        intro page hs
        have hstays : (page.behind w r.pieces).scope = s := hs
        have hothers := ih hstays page.text.utf8ByteSize
        rw [Page.grows_iff] at hothers
        rw [Run.bind_ok (Run.get_apply page)]
        exact hfirst.bind_apply hs hothers
      have hcomma : Writes w s (whenever visible (symbol w ", "))
          (if visible then .symbol ", " else .empty) :=
        (writes_symbol ", ").whenever visible
      rw [separatedFrom, Run.bind_ok (Run.get_apply page)]
      exact hcomma.bind hbehind page hs

theorem Writes.separated (hall : List.Forall₂ (Writes w s) xs rs) :
    Writes w s (separated w xs) (.separate w.config.quote rs) := by
  intro page hs
  have hrun := separatedFrom_apply hall hs page.text.utf8ByteSize
  simp only [Nat.lt_irrefl, decide_false] at hrun
  rw [Writing.separated, Run.bind_ok (Run.get_apply page), Rendering.separate_eq_separateFrom]
  exact hrun

theorem Writes.listClause {fragment : Fragment}
    (hall : List.Forall₂ (Writes w (s.enter fragment)) xs rs) (keyword : String) :
    Writes w s (listClause w keyword fragment xs)
      (.listClause w.config.quote keyword rs) := by
  cases hall with
  | nil => exact writes_pure
  | cons hfirst hrest => exact (Writes.separated (.cons hfirst hrest)).within.clause keyword

end

end Writing

section

variable {w : Writer} {s inner : Scope} {fragment : Fragment} {x : Option Writing}
  {r : Option Rendering}

theorem Writing.within_ifAny (h : Option.Rel (Writes w (s.enter fragment)) x r) :
    Option.Rel (Writes w s) (x.map (within fragment)) r := by
  cases h with
  | none => exact .none
  | some hbody => exact .some hbody.within

theorem Expr.writes_clause {e : Option Expr}
    (h : Option.Rel (Writes w s) x (e.map (Expr.render w inner))) (keyword : String) :
    Writes w s (clauseIfAny w keyword x) (Expr.renderClause w inner keyword e) := by
  cases e with
  | none =>
      cases h
      simp only [Expr.renderClause]
      exact writes_pure
  | some e =>
      cases h with
      | some hbody =>
          simp only [Expr.renderClause]
          exact hbody.clause keyword

theorem Source.writes_from {source : Option Source}
    (h : Option.Rel (Writes w s) x (source.map (Source.render w inner))) :
    Writes w s (clauseIfAny w "from" x) (Source.renderFrom w inner source) := by
  cases source with
  | none =>
      cases h
      simp only [Source.renderFrom]
      exact writes_pure
  | some source =>
      cases h with
      | some hbody =>
          simp only [Source.renderFrom]
          exact hbody.clause "from"

end

section

variable {w : Writer}

theorem Expr.writes_all {es : List Expr}
    (h : ∀ e ∈ es, ∀ s, Writes w s (e.writeOn w) (e.render w s)) (s : Scope) :
    List.Forall₂ (Writes w s) (Expr.writeAll w es) (Expr.renderAll w s es) := by
  induction es with
  | nil =>
      simp only [Expr.writeAll, Expr.renderAll]
      exact .nil
  | cons e es ih =>
      obtain ⟨he, hes⟩ := List.forall_mem_cons.mp h
      simp only [Expr.writeAll, Expr.renderAll]
      exact .cons (he s) (ih hes)

theorem Expr.writes_args {es : List Expr}
    (h : ∀ e ∈ es, ∀ s, Writes w s (e.writeOn w) (e.render w s))
    (hselects : ∀ query, .select query ∈ es → ∀ s, Writes w s (query.writeOn w) (query.render w s))
    (s : Scope) : List.Forall₂ (Writes w s) (Expr.writeArgs w es) (Expr.renderArgs w s es) := by
  induction es with
  | nil =>
      simp only [Expr.writeArgs, Expr.renderArgs]
      exact .nil
  | cons e es ih =>
      obtain ⟨he, hes⟩ := List.forall_mem_cons.mp h
      have hrest := ih hes fun query hquery => hselects query (List.mem_cons_of_mem e hquery)
      cases e with
      | select query =>
          simp only [Expr.writeArgs, Expr.renderArgs]
          exact .cons (hselects query List.mem_cons_self s) hrest
      | _ =>
          simp only [Expr.writeArgs, Expr.renderArgs]
          exact .cons (he s) hrest

theorem Expr.writes_ifAny {e : Option Expr}
    (h : ∀ e' ∈ e, ∀ s, Writes w s (e'.writeOn w) (e'.render w s)) (s : Scope) :
    Option.Rel (Writes w s) (Expr.writeIfAny w e) (e.map (Expr.render w s)) := by
  cases e with
  | none =>
      simp only [Expr.writeIfAny]
      exact .none
  | some e =>
      simp only [Expr.writeIfAny]
      exact .some (h e rfl s)

theorem Expr.writes_operand {e : Option Expr}
    (h : ∀ e' ∈ e, ∀ s, Writes w s (e'.writeOn w) (e'.render w s)) (s : Scope) :
    Writes w s (Expr.writeOperand w e) (Expr.renderOperand w s e) := by
  cases e with
  | none =>
      simp only [Expr.writeOperand, Expr.renderOperand]
      exact writes_pure
  | some e =>
      simp only [Expr.writeOperand, Expr.renderOperand]
      exact (writes_symbol " ").bind (h e rfl s)

theorem Expr.writes_branches {branches : List (Expr × Expr)}
    (h : ∀ branch ∈ branches, (∀ s, Writes w s (branch.1.writeOn w) (branch.1.render w s)) ∧
      ∀ s, Writes w s (branch.2.writeOn w) (branch.2.render w s)) (s : Scope) :
    Writes w s (Expr.writeBranches w branches) (Expr.renderBranches w s branches) := by
  induction branches with
  | nil =>
      simp only [Expr.writeBranches, Expr.renderBranches]
      exact writes_pure
  | cons branch rest ih =>
      obtain ⟨⟨hcondition, hresult⟩, hrest⟩ := List.forall_mem_cons.mp h
      obtain ⟨condition, result⟩ := branch
      simp only [Expr.writeBranches, Expr.renderBranches, Rendering.append_assoc]
      exact ((hcondition s).clause "when").bind (((hresult s).clause "then").bind (ih hrest))

theorem SelectItem.writes_all {items : List SelectItem}
    (h : ∀ item ∈ items, ∀ s,
      Writes w s (item.expression.writeOn w) (item.expression.render w s)) (s : Scope) :
    List.Forall₂ (Writes w s) (SelectItem.writeAll w items) (SelectItem.renderAll w s items) := by
  induction items with
  | nil =>
      simp only [SelectItem.writeAll, SelectItem.renderAll]
      exact .nil
  | cons item rest ih =>
      obtain ⟨hitem, hrest⟩ := List.forall_mem_cons.mp h
      obtain ⟨e, label⟩ := item
      simp only [SelectItem.writeAll, SelectItem.renderAll]
      refine .cons ((hitem s).bind ?_) (ih hrest)
      cases label with
      | none => exact writes_pure
      | some label => exact (writes_name label).clause "as"

theorem SelectItem.writes_columns {items : List SelectItem}
    (h : ∀ item ∈ items, ∀ s,
      Writes w s (item.expression.writeOn w) (item.expression.render w s)) (s : Scope) :
    Writes w s (if items.isEmpty then symbol w "*" else separated w (SelectItem.writeAll w items))
      (if items.isEmpty then .symbol "*"
        else .separate w.config.quote (SelectItem.renderAll w s items)) := by
  split
  · exact writes_symbol "*"
  · exact Writes.separated (SelectItem.writes_all h s)

theorem OrderBy.writes_all {keys : List OrderBy}
    (h : ∀ key ∈ keys, ∀ s, Writes w s (key.expression.writeOn w) (key.expression.render w s))
    (s : Scope) :
    List.Forall₂ (Writes w s) (OrderBy.writeAll w keys) (OrderBy.renderAll w s keys) := by
  induction keys with
  | nil =>
      simp only [OrderBy.writeAll, OrderBy.renderAll]
      exact .nil
  | cons key rest ih =>
      obtain ⟨hkey, hrest⟩ := List.forall_mem_cons.mp h
      obtain ⟨e, descending⟩ := key
      have hdown := ((writes_symbol (w := w) (s := s) " ").bind (writes_word "desc")).whenever
        descending
      simp only [OrderBy.writeAll, OrderBy.renderAll]
      exact .cons ((hkey s).bind hdown) (ih hrest)

theorem Source.writes_ifAny {source : Option Source}
    (h : ∀ f ∈ source, ∀ s, Writes w s (f.writeOn w) (f.render w s)) (s : Scope) :
    Option.Rel (Writes w s) (Source.writeIfAny w source) (source.map (Source.render w s)) := by
  cases source with
  | none =>
      simp only [Source.writeIfAny]
      exact .none
  | some source =>
      simp only [Source.writeIfAny]
      exact .some (h source rfl s)

/-- Each node is written as it is rendered in the scope of the page, and the nodes inside it in the
scopes that it sets for them. -/
theorem Writing.writes_hereditary :
    Hereditary (fun e => ∀ s, Writes w s (e.writeOn w) (e.render w s))
      (fun operand => ∀ s, Writes w s (operand.writeOn w) (operand.render w s))
      (fun query => ∀ s, Writes w s (query.writeOn w) (query.render w s))
      (fun source => ∀ s, Writes w s (source.writeOn w) (source.render w s))
      (fun query => ∀ s, Writes w s (query.writeOn w) (query.render w s))
      (fun query => ∀ s, Writes w s (query.writeOn w) (query.render w s)) where
  column c s := by
    simp only [Expr.writeOn, Expr.render]
    exact writes_reference c.pieces
  parameter p s := by
    simp only [Expr.writeOn, Expr.render]
    exact writes_put _
  literal v s := by
    simp only [Expr.writeOn, Expr.render]
    exact writes_leaf _
  unary op operand postfixed type hoperand s := by
    simp only [Expr.writeOn, Expr.render]
    split
    · rw [Rendering.append_assoc]
      exact (hoperand s).bind ((writes_symbol " ").bind (writes_puts op.pieces))
    · rw [Rendering.append_assoc]
      exact (writes_puts op.pieces).bind (((writes_symbol " ").whenever _).bind (hoperand s))
  binary left op right type hleft hright s := by
    simp only [Expr.writeOn, Expr.render, Rendering.append_assoc]
    exact (hleft s).bind ((writes_symbol " ").bind ((writes_puts op.pieces).bind
      ((writes_symbol " ").bind (hright s))))
  ternary first op second op2 third type hfirst hsecond hthird s := by
    have hending := (writes_symbol " ").bind (hthird s)
    have hmiddle := (writes_symbol " ").bind ((hsecond s).bind
      ((writes_symbol " ").bind ((writes_puts op2.pieces).bind hending)))
    simp only [Expr.writeOn, Expr.render, Rendering.append_assoc]
    exact (hfirst s).bind ((writes_symbol " ").bind ((writes_puts op.pieces).bind hmiddle))
  function name args emptyParens type hargs hselects s := by
    simp only [Expr.writeOn, Expr.render]
    split
    · exact writes_word name
    · simp only [Rendering.append_assoc]
      exact (writes_word name).bind ((writes_symbol "(").bind
        ((Writes.separated (Expr.writes_args hargs hselects s)).bind (writes_symbol ")")))
  case operand branches otherwise type hoperand hbranches hotherwise s := by
    have hending := (writes_symbol (w := w) (s := s) " ").bind (writes_word "end")
    have hlast := Expr.writes_clause (Expr.writes_ifAny hotherwise s) "else"
    simp only [Expr.writeOn, Expr.render, Rendering.append_assoc]
    exact (writes_word "case").bind ((Expr.writes_operand hoperand s).bind
      ((Expr.writes_branches hbranches s).bind (hlast.bind hending)))
  inList operand values negated hoperand hvalues s := by
    have hlisted := (Writes.separated (Expr.writes_all hvalues s)).bind (writes_symbol ")")
    simp only [Expr.writeOn, Expr.render, Rendering.append_assoc]
    exact (hoperand s).bind ((writes_symbol " ").bind ((writes_word _).bind
      ((writes_symbol " (").bind hlisted)))
  inQuery operand query negated hoperand hquery s := by
    have hselected := (hquery s).bind (writes_symbol ")")
    simp only [Expr.writeOn, Expr.render, Rendering.append_assoc]
    exact (hoperand s).bind ((writes_symbol " ").bind ((writes_word _).bind
      ((writes_symbol " (").bind hselected)))
  tuple elements helements s := by
    simp only [Expr.writeOn, Expr.render]
    exact (Writes.separated (Expr.writes_all helements s)).enclose _
  subselect query hquery s := by
    simp only [Expr.writeOn, Expr.render]
    exact (hquery s).enclose true
  operand e parens he s := by
    simp only [Operand.writeOn, Operand.render]
    exact (he s).enclose parens
  select items source filter distinct groupBy having orderBy limit offset hitems hsource hfilter
      hgroupBy hhaving horderBy s := by
    simp only [Select.writeOn, Select.render]
    split
    · exact writes_throw _
    · generalize hinner : (⟨.select, s.qualify || source.any Source.isJoin⟩ : Scope) = inner
      have hdistinct : Writes w inner
          (whenever distinct do
            word w "distinct"
            symbol w " ")
          (if distinct then .word "distinct" ++ .symbol " " else .empty) :=
        ((writes_word "distinct").bind (writes_symbol " ")).whenever distinct
      have hgroups := Writes.listClause (Expr.writes_all hgroupBy (inner.enter .selectGroupBy))
        "group by"
      have hkeys := Writes.listClause (OrderBy.writes_all horderBy (inner.enter .selectOrderBy))
        "order by"
      have hhavings := Expr.writes_clause (within_ifAny
        (Expr.writes_ifAny hhaving (inner.enter .selectHaving))) "having"
      have hfrom := Source.writes_from (within_ifAny
        (Source.writes_ifAny hsource (inner.enter .selectFrom)))
      have hcondition := Expr.writes_clause (within_ifAny
        (Expr.writes_ifAny hfilter (inner.enter .selectWhere))) "where"
      have htail := hgroups.bind (hhavings.bind (hkeys.bind
        (writes_leaf (w.dialect.paginationIfAny limit offset))))
      have hbody := (SelectItem.writes_columns hitems inner).bind
        (hfrom.bind (hcondition.bind htail))
      have hwhole := (writes_word "select").bind ((writes_symbol " ").bind (hdistinct.bind hbody))
      simp only [Rendering.append_assoc]
      exact Writes.within_qualifying (hinner ▸ hwhole)
  table t columns s := by
    simp only [Source.writeOn, Source.render]
    exact writes_reference t.pieces
  join kind left right on hleft hright hon s := by
    simp only [Source.writeOn, Source.render]
    refine Writes.within_qualifying ?_
    rw [Bool.or_true]
    have hcondition := Expr.writes_clause (Expr.writes_ifAny hon ⟨.join, true⟩) "on"
    simp only [Rendering.append_assoc]
    exact (hleft _).bind ((writes_symbol " ").bind ((writes_word _).bind
      ((writes_symbol " ").bind ((hright _).bind hcondition))))
  derived query aliasName hquery s := by
    simp only [Source.writeOn, Source.render, Rendering.append_assoc]
    exact (writes_symbol "(").bind ((hquery s).bind ((writes_symbol ") ").bind
      (writes_name aliasName)))
  querySelect query hquery s := by
    simp only [Query.writeOn, Query.render]
    exact hquery s
  queryUnion query hquery s := by
    simp only [Query.writeOn, Query.render]
    exact hquery s
  union left right all parens orderBy limit offset hleft hright horderBy s := by
    have hkeys := Writes.listClause (OrderBy.writes_all horderBy (s.enter .unionOrderBy)) "order by"
    have hending := ((hright s).enclose parens).bind (hkeys.bind
      (writes_leaf (w.dialect.paginationIfAny limit offset)))
    simp only [Union.writeOn, Union.render, Rendering.append_assoc]
    exact ((hleft s).enclose parens).bind ((writes_symbol " ").bind
      ((writes_word _).bind ((writes_symbol " ").bind hending)))

theorem Expr.writes (e : Expr) : ∀ s, Writes w s (e.writeOn w) (e.render w s) :=
  Expr.of_hereditary writes_hereditary e

theorem Select.writes (query : Select) : ∀ s, Writes w s (query.writeOn w) (query.render w s) :=
  Select.of_hereditary writes_hereditary query

theorem Insert.writes (i : Insert) (s : Scope) : Writes w s (i.writeOn w) (i.render w s) := by
  have hcolumns : Writes w (s.enter .insertInto)
      (separated w (i.columns.map fun c => name w c.name))
      (.separate w.config.quote (i.columns.map fun c => .name c.name)) := by
    refine Writes.separated ?_
    rw [List.forall₂_map_left_iff, List.forall₂_map_right_iff, List.forall₂_same]
    exact fun c _ => writes_name c.name
  have hrowWrites (row : List Expr) : Writes w ((s.enter .insertInto).enter .insertIntoValues)
      (enclose w true (separated w (Expr.writeAll w row)))
      (.enclose true (.separate w.config.quote
        (Expr.renderAll w (s.enter .insertIntoValues) row))) :=
    (Writes.separated (Expr.writes_all (fun e _ => e.writes) _)).enclose true
  simp only [Insert.writeOn, Insert.render, Rendering.append_assoc]
  refine Writes.within ((writes_word "insert into").bind ((writes_symbol " ").bind
    ((writes_reference i.table.pieces).bind ((writes_symbol " (").bind (hcolumns.bind
      ((writes_symbol ") ").bind ?_))))))
  cases i.source with
  | query query => exact Select.writes query _
  | rows rows =>
      refine (writes_word "values").bind ((writes_symbol " ").bind (Writes.separated ?_).within)
      rw [List.forall₂_map_left_iff, List.forall₂_map_right_iff, List.forall₂_same]
      exact fun row _ => hrowWrites row

theorem Update.writes (u : Update) (s : Scope) : Writes w s (u.writeOn w) (u.render w s) := by
  have hassignments : Writes w ((s.enter .update).enter .updateSet)
      (separated w (u.assignments.map fun a => do
        name w a.column.name
        symbol w " = "
        a.value.writeOn w))
      (.separate w.config.quote (u.assignments.map fun a =>
        .name a.column.name ++ .symbol " = " ++ a.value.render w (s.enter .updateSet))) := by
    refine Writes.separated ?_
    rw [List.forall₂_map_left_iff, List.forall₂_map_right_iff, List.forall₂_same]
    intro a _
    rw [Rendering.append_assoc]
    exact (writes_name a.column.name).bind ((writes_symbol " = ").bind (Expr.writes a.value _))
  have hcondition : Writes w (s.enter .update)
      (clauseIfAny w "where" ((Expr.writeIfAny w u.filter).map (within .updateWhere)))
      (Expr.renderClause w (s.enter .updateWhere) "where" u.filter) :=
    Expr.writes_clause (within_ifAny (Expr.writes_ifAny (fun e _ => e.writes) _)) "where"
  rw [Update.writeOn, Update.render]
  simp only [Rendering.append_assoc]
  exact Writes.within ((writes_word "update").bind ((writes_symbol " ").bind
    ((writes_reference u.table.pieces).bind ((hassignments.within.clause "set").bind hcondition))))

theorem Delete.writes (d : Delete) (s : Scope) : Writes w s (d.writeOn w) (d.render w s) := by
  have hcondition : Writes w (s.enter .deleteFrom)
      (clauseIfAny w "where" ((Expr.writeIfAny w d.filter).map (within .deleteFromWhere)))
      (Expr.renderClause w (s.enter .deleteFromWhere) "where" d.filter) :=
    Expr.writes_clause (within_ifAny (Expr.writes_ifAny (fun e _ => e.writes) _)) "where"
  rw [Delete.writeOn, Delete.render]
  simp only [Rendering.append_assoc]
  exact Writes.within ((writes_word "delete from").bind ((writes_symbol " ").bind
    ((writes_reference d.table.pieces).bind hcondition)))

end

/-- Whatever has a writer of its own. -/
inductive Writable where
  | expression (e : Expr)
  | operand (o : Operand)
  | source (f : Source)
  | select (q : Select)
  | union (q : Union)
  | query (q : Query)
  | insert (i : Insert)
  | update (u : Update)
  | delete (d : Delete)

namespace Writable

def writeOn (w : Writer) : Writable → Writing
  | .expression e => e.writeOn w
  | .operand o => o.writeOn w
  | .source f => f.writeOn w
  | .select q => q.writeOn w
  | .union q => q.writeOn w
  | .query q => q.writeOn w
  | .insert i => i.writeOn w
  | .update u => u.writeOn w
  | .delete d => d.writeOn w

def render (w : Writer) (s : Scope) : Writable → Rendering
  | .expression e => e.render w s
  | .operand o => o.render w s
  | .source f => f.render w s
  | .select q => q.render w s
  | .union q => q.render w s
  | .query q => q.render w s
  | .insert i => i.render w s
  | .update u => u.render w s
  | .delete d => d.render w s

theorem writes (x : Writable) (w : Writer) (s : Scope) :
    Writes w s (x.writeOn w) (x.render w s) := by
  cases x with
  | expression e => exact e.writes s
  | operand o => exact Operand.of_hereditary writes_hereditary o s
  | source f => exact Source.of_hereditary writes_hereditary f s
  | select q => exact q.writes s
  | union q => exact Union.of_hereditary writes_hereditary q s
  | query q => exact Query.of_hereditary writes_hereditary q s
  | insert i => exact i.writes s
  | update u => exact u.writes s
  | delete d => exact d.writes s

/-- Writing anything, with success or up to a failure at any depth, leaves the clause and the
qualification of columns as they were, and puts parameters and text behind those that were there.
What comes of it and what is put there are the same on all pages of a scope, whatever stands on
them; only the placeholders of PostgreSQL follow the number of the parameters before them.  Written
step by step, it is what the pieces of the whole are printed as. -/
theorem frame (x : Writable) (w : Writer) (s : Scope) :
    let r := x.render w s
    (w.dialect ≠ .postgres → ∀ n m, w.print n r.pieces = w.print m r.pieces) ∧
    ∀ page : Page, page.scope = s → ∃ after : Page,
      x.writeOn w page = (r.outcome, after) ∧
      after.context.fragment = page.context.fragment ∧
      after.context.qualify = page.context.qualify ∧
      after.context.parameters = page.context.parameters ++ Piece.parameters r.pieces ∧
      after.text = page.text ++ String.ofList (w.print page.context.count r.pieces) ∧
      w.write page.context page.text r = (after.context, after.text, r.failure) := by
  intro r
  refine ⟨fun h n m => w.print_congr h n m r.pieces, fun page hs => ?_⟩
  exact ⟨page.behind w r.pieces, x.writes w s page hs, rfl, rfl, rfl, rfl, rfl⟩

/-- A join whose condition ends in a select that cannot be written. -/
private def halfWritten : Writable :=
  let key (table : String) : Expr :=
    .column { table := { name := table }, name := "id", codec := .ofType .int64 }
  let nowhere : Select := {
    items := [], source := none, filter := none, distinct := false, groupBy := [],
    having := none, orderBy := [], limit := none, offset := none }
  .select {
    items := [⟨key "book", none⟩]
    source := some (.join .left (.table { name := "book" } []) (.table { name := "author" } [])
      (some (.ternary ⟨key "author", false⟩ ⟨["between"]⟩ ⟨.parameter (.ofRowCount 7), false⟩
        ⟨["and"]⟩ ⟨.select nowhere, false⟩ none)))
    filter := none, distinct := false, groupBy := [], having := none, orderBy := []
    limit := none, offset := none }

private def assigning : Page where
  context := { fragment := .updateSet, parameters := [.ofRowCount 1] }
  text := "UPDATE shelf SET place = "

theorem frame_of_half_written :
    ∃ after : Page,
      halfWritten.writeOn ⟨.postgres, {}⟩ assigning =
        (.error (.construction .selectWithoutColumns), after) ∧
      after.context.fragment = .updateSet ∧ after.context.qualify = false ∧
      after.context.parameters = [.ofRowCount 1, .ofRowCount 7] ∧
      after.text = "UPDATE shelf SET place = " ++
        "SELECT book.id FROM book LEFT JOIN author ON author.id BETWEEN $2 AND (" := by
  obtain ⟨after, hrun, hfragment, hqualify, hparameters, htext, -⟩ :=
    (frame halfWritten ⟨.postgres, {}⟩ ⟨.updateSet, false⟩).2 assigning rfl
  exact ⟨after, hrun, hfragment, hqualify, hparameters, htext.trans (by decide)⟩

end Writable

end TypedSql
