import TypedSql.Proofs.Writer.Listed
import TypedSql.Proofs.Writer.Phrase
import TypedSql.Statement.Build

namespace TypedSql

/-! The aliases of a text: where it declares them and where it qualifies columns with them.  Both
are decided by the clause that is written.  The sources of a select declare their aliases; what is
written inside the select, at any depth, may qualify with them. -/

/-- What the outline of a text is made of.  A select is a block of its own. -/
inductive Mark where
  | column (column : ColumnRef) (scope : Scope)
  /-- A table that a select is made from, with its alias declared. -/
  | table (table : TableRef)
  /-- The alias behind a query that a select is made from. -/
  | derived (aliasName : String)
  /-- The table that is modified, whose alias is not declared. -/
  | target (table : TableRef)
  | select (block : List Mark)

mutual

def Expr.outline (s : Scope) : Expr → List Mark
  | .column c => [.column c s]
  | .parameter _ => []
  | .literal _ => []
  | .unary _ operand _ _ => operand.outline s
  | .binary left _ right _ => left.outline s ++ right.outline s
  | .ternary first _ second _ third _ => first.outline s ++ second.outline s ++ third.outline s
  | .function _ args _ _ => Expr.outlineAll s args
  | .case operand branches otherwise _ =>
      Expr.outlineOption s operand ++ Expr.outlineBranches s branches ++
        Expr.outlineOption s otherwise
  | .inList operand values _ => operand.outline s ++ Expr.outlineAll s values
  | .inQuery operand query _ => operand.outline s ++ query.outline s
  | .tuple elements => Expr.outlineAll s elements
  | .select query => query.outline s

def Operand.outline (s : Scope) : Operand → List Mark
  | ⟨e, _⟩ => e.outline s

def Expr.outlineAll (s : Scope) : List Expr → List Mark
  | [] => []
  | e :: es => e.outline s ++ Expr.outlineAll s es

def Expr.outlineOption (s : Scope) : Option Expr → List Mark
  | none => []
  | some e => e.outline s

def Expr.outlineBranches (s : Scope) : List (Expr × Expr) → List Mark
  | [] => []
  | (condition, result) :: rest =>
      condition.outline s ++ result.outline s ++ Expr.outlineBranches s rest

def Select.outline (s : Scope) : Select → List Mark
  | ⟨items, source, filter, _, groupBy, having, orderBy, _, _⟩ =>
      let inner : Scope := ⟨.select, s.qualify || source.any Source.isJoin⟩
      [.select (SelectItem.outlineAll inner items ++
        Source.outlineOption (inner.enter .selectFrom) source ++
        Expr.outlineOption (inner.enter .selectWhere) filter ++
        Expr.outlineAll (inner.enter .selectGroupBy) groupBy ++
        Expr.outlineOption (inner.enter .selectHaving) having ++
        OrderBy.outlineAll (inner.enter .selectOrderBy) orderBy)]

def SelectItem.outlineAll (s : Scope) : List SelectItem → List Mark
  | [] => []
  | ⟨e, _⟩ :: rest => e.outline s ++ SelectItem.outlineAll s rest

def OrderBy.outlineAll (s : Scope) : List OrderBy → List Mark
  | [] => []
  | ⟨e, _⟩ :: rest => e.outline s ++ OrderBy.outlineAll s rest

def Source.outlineOption (s : Scope) : Option Source → List Mark
  | none => []
  | some source => source.outline s

def Source.outline (s : Scope) : Source → List Mark
  | .table t _ => [.table t]
  | .join _ left right on =>
      let inner : Scope := ⟨.join, true⟩
      left.outline inner ++ right.outline inner ++ Expr.outlineOption inner on
  | .derived query aliasName => query.outline s ++ [.derived aliasName]

def Query.outline (s : Scope) : Query → List Mark
  | .select query => query.outline s
  | .union query => query.outline s

def Union.outline (s : Scope) : Union → List Mark
  | ⟨left, right, _, _, orderBy, _, _⟩ =>
      left.outline s ++ right.outline s ++ OrderBy.outlineAll (s.enter .unionOrderBy) orderBy

end

def InsertSource.outline (s : Scope) : InsertSource → List Mark
  | .rows values => values.flatMap (Expr.outlineAll (s.enter .insertIntoValues))
  | .query select => select.outline (s.enter .insertInto)

namespace Statement

def outline : Statement → List Mark
  | .select query => query.outline {}
  | .union query => query.outline {}
  | .insert i => .target i.table :: i.source.outline {}
  | .update u =>
      .target u.table :: (u.assignments.flatMap (fun a => a.value.outline ⟨.updateSet, false⟩) ++
        Expr.outlineOption ⟨.updateWhere, false⟩ u.filter)
  | .delete d => .target d.table :: Expr.outlineOption ⟨.deleteFromWhere, false⟩ d.filter
  | .raw _ => []

def modified? : Statement → Option TableRef
  | .insert i => some i.table
  | .update u => some u.table
  | .delete d => some d.table
  | _ => none

end Statement

/-- The alias that a column is qualified with in a clause. -/
def ColumnRef.alias? (c : ColumnRef) (s : Scope) : Option String :=
  if s.allowsQualifiedColumns then c.table.aliasName else none

def TableRef.namePieces (t : TableRef) : List Piece :=
  (t.schema.elim [] fun schema => [.name schema, .symbol "."]) ++ [.name t.name]

/-- Pieces that follow an outline.  Every point between two names belongs to a column or a table
of the outline.  A table among the sources of a select has its alias behind it, and so has a query;
a table that is modified has none. -/
inductive Piece.Outlined : List Piece → List Mark → Prop
  | nil : Outlined [] []
  | plain {ps : List Piece} {ms : List Mark} (p : Piece) (h : p ≠ .symbol ".")
      (hrest : Outlined ps ms) : Outlined (p :: ps) ms
  | literal {ps : List Piece} {ms : List Mark} (v : Value) (d : Dialect) (hrest : Outlined ps ms) :
      Outlined ((v.literal d).pieces ++ ps) ms
  | qualified {ps : List Piece} {ms : List Mark} {c : ColumnRef} {s : Scope} {aliasName : String}
      (h : c.alias? s = some aliasName) (hrest : Outlined ps ms) :
      Outlined (.name aliasName :: .symbol "." :: .name c.name :: ps) (.column c s :: ms)
  | named {ps : List Piece} {ms : List Mark} {c : ColumnRef} {s : Scope} (h : c.alias? s = none)
      (hrest : Outlined ps ms) :
      Outlined (c.table.namePieces ++ .symbol "." :: .name c.name :: ps) (.column c s :: ms)
  | bare {ps : List Piece} {ms : List Mark} {c : ColumnRef} {s : Scope} (h : c.alias? s = none)
      (hrest : Outlined ps ms) : Outlined (.name c.name :: ps) (.column c s :: ms)
  | table {ps : List Piece} {ms : List Mark} (t : TableRef) (hrest : Outlined ps ms) :
      Outlined (t.namePieces ++ (t.aliasName.elim [] fun aliasName =>
        [.symbol " ", .name aliasName]) ++ ps) (.table t :: ms)
  | derived {ps : List Piece} {ms : List Mark} (aliasName : String) (hrest : Outlined ps ms) :
      Outlined (.symbol ") " :: .name aliasName :: ps) (.derived aliasName :: ms)
  | target {ps : List Piece} {ms : List Mark} (t : TableRef) (hrest : Outlined ps ms) :
      Outlined (t.namePieces ++ ps) (.target t :: ms)
  | select {block ps : List Piece} {inner ms : List Mark} (hbody : Outlined block inner)
      (hrest : Outlined ps ms) : Outlined (block ++ ps) (.select inner :: ms)

theorem Piece.Outlined.append {ps qs : List Piece} {ms ns : List Mark} (hp : Outlined ps ms)
    (hq : Outlined qs ns) : Outlined (ps ++ qs) (ms ++ ns) := by
  induction hp with
  | nil => exact hq
  | plain p h hrest ih => exact .plain p h ih
  | literal v d hrest ih => exact List.append_assoc .. ▸ .literal v d ih
  | qualified h hrest ih => exact .qualified h ih
  | named h hrest ih => exact List.append_assoc .. ▸ .named h ih
  | bare h hrest ih => exact .bare h ih
  | table t hrest ih => exact List.append_assoc .. ▸ .table t ih
  | derived aliasName hrest ih => exact .derived aliasName ih
  | target t hrest ih => exact List.append_assoc .. ▸ .target t ih
  | select hbody hrest _ ih => exact List.append_assoc .. ▸ .select hbody ih

theorem Piece.Outlined.of_plain {ps : List Piece} (h : ∀ p ∈ ps, p ≠ .symbol ".") :
    Outlined ps [] := by
  induction ps with
  | nil => exact .nil
  | cons p ps ih =>
      exact .plain p (h p List.mem_cons_self) (ih fun q hq => h q (List.mem_cons_of_mem p hq))

/-- Whether a stretch of the pieces follows a block. -/
def Piece.Holds (block : List Mark) (ps : List Piece) : Prop :=
  ∃ qs, qs <:+: ps ∧ Piece.Outlined qs block

theorem Piece.Holds.behind {block : List Mark} {ps : List Piece} (first : List Piece)
    (h : Holds block ps) : Holds block (first ++ ps) :=
  h.imp fun _ ⟨hpart, houtlined⟩ =>
    ⟨hpart.trans (List.suffix_append first ps).isInfix, houtlined⟩

/-- Whether pieces declare an alias, behind the name of a table or behind a query. -/
def Piece.Declares (aliasName : String) (ps : List Piece) : Prop :=
  (∃ tableName, [.name tableName, .symbol " ", .name aliasName] <:+: ps) ∨
    [.symbol ") ", .name aliasName] <:+: ps

theorem Piece.Declares.mono {aliasName : String} {ps qs : List Piece} (h : Declares aliasName ps)
    (hpart : ps <:+: qs) : Declares aliasName qs :=
  h.imp (fun ⟨tableName, htable⟩ => ⟨tableName, htable.trans hpart⟩) fun hquery =>
    hquery.trans hpart

theorem TableRef.declares {t : TableRef} {aliasName : String} (h : t.aliasName = some aliasName)
    (ps : List Piece) : Piece.Declares aliasName
      (t.namePieces ++ (t.aliasName.elim [] fun aliasName =>
        [.symbol " ", .name aliasName]) ++ ps) := by
  refine .inl ⟨t.name, t.schema.elim [] fun schema => [.name schema, .symbol "."], ps, ?_⟩
  simp [namePieces, h]

namespace Rendering

/-- Whether nothing in a rendering qualifies anything. -/
def IsPlain (r : Rendering) : Prop :=
  ∀ p ∈ r.pieces, p ≠ .symbol "."

def Outlined (r : Rendering) (ms : List Mark) : Prop :=
  r.failure = none → Piece.Outlined r.pieces ms

variable {a b r : Rendering} {ms ns : List Mark}

theorem isPlain_empty : empty.IsPlain :=
  fun _ hmem => nomatch hmem

theorem isPlain_word (text : String) : (word text).IsPlain := by
  simp [IsPlain, word, ofPieces]

theorem isPlain_name (text : String) : (name text).IsPlain := by
  simp [IsPlain, name, ofPieces]

theorem isPlain_symbol {text : String} (h : text ≠ ".") : (symbol text).IsPlain := by
  simpa [IsPlain, symbol, ofPieces] using h

theorem outlined_fail (e : Error) : (fail e).Outlined ms :=
  fun h => nomatch h

theorem IsPlain.outlined (h : r.IsPlain) : r.Outlined [] :=
  fun _ => .of_plain h

theorem Outlined.append (ha : a.Outlined ms) (hb : b.Outlined ns) :
    (a ++ b).Outlined (ms ++ ns) := by
  intro h
  obtain ⟨hanone, hbnone⟩ := failure_append_eq_none.mp h
  rw [pieces_append hanone]
  exact (ha hanone).append (hb hbnone)

theorem Outlined.select (h : r.Outlined ms) : r.Outlined [.select ms] := by
  intro hcomplete
  have hblock := Piece.Outlined.select (h hcomplete) .nil
  rwa [List.append_nil] at hblock

end Rendering

open Rendering

theorem Operator.isPlain_pieces (op : Operator) : (ofPieces op.pieces).IsPlain := by
  intro p hmem
  obtain rfl | ⟨token, -, rfl⟩ := Operator.mem_pieces hmem
  · decide
  · exact Piece.noConfusion

theorem ColumnRef.alias?_eq_some_iff {c : ColumnRef} {s : Scope} {aliasName : String} :
    c.alias? s = some aliasName ↔
      s.allowsQualifiedColumns ∧ c.table.aliasName = some aliasName := by
  unfold alias?
  split <;> simp [*]

theorem ColumnRef.pieces_of_alias? {c : ColumnRef} {s : Scope} {aliasName : String}
    (h : c.alias? s = some aliasName) :
    c.pieces s = [.name aliasName, .symbol ".", .name c.name] := by
  obtain ⟨hallowed, halias⟩ := alias?_eq_some_iff.mp h
  simp [pieces, qualifierPieces, hallowed, halias]

theorem ColumnRef.pieces_of_not_alias? {c : ColumnRef} {s : Scope} (h : c.alias? s = none) :
    c.pieces s = c.table.namePieces ++ [.symbol ".", .name c.name] ∨
      c.pieces s = [.name c.name] := by
  unfold alias? at h
  unfold pieces qualifierPieces
  split
  next hallowed =>
    rw [if_pos hallowed] at h
    rw [h]
    cases s.qualify with
    | false => exact .inr rfl
    | true =>
        left
        cases hschema : c.table.schema <;> simp [TableRef.namePieces, hschema]
  next => exact .inr rfl

theorem ColumnRef.outlined_pieces (c : ColumnRef) (s : Scope) :
    (ofPieces (c.pieces s)).Outlined [.column c s] := by
  intro _
  show Piece.Outlined (c.pieces s) [.column c s]
  cases halias : c.alias? s with
  | some aliasName =>
      rw [pieces_of_alias? halias]
      exact .qualified halias .nil
  | none =>
      obtain hnamed | hbare := pieces_of_not_alias? halias
      · rw [hnamed]
        exact .named halias .nil
      · rw [hbare]
        exact .bare halias .nil

theorem TableRef.pieces_eq (t : TableRef) (s : Scope) :
    t.pieces s = t.namePieces ++ if s.declaresAlias then
      t.aliasName.elim [] fun aliasName => [.symbol " ", .name aliasName] else [] := by
  unfold pieces namePieces
  cases t.schema <;> cases t.aliasName <;> cases s.declaresAlias <;> rfl

theorem TableRef.outlined_pieces (t : TableRef) {s : Scope} (hdeclares : s.declaresAlias) :
    (ofPieces (t.pieces s)).Outlined [.table t] := by
  intro _
  have hwritten := Piece.Outlined.table t .nil
  rw [List.append_nil] at hwritten
  rw [pieces_eq, if_pos hdeclares]
  exact hwritten

theorem TableRef.outlined_target (t : TableRef) {s : Scope} (hsilent : s.declaresAlias = false) :
    (ofPieces (t.pieces s)).Outlined [.target t] := by
  intro _
  have hwritten := Piece.Outlined.target t .nil
  rw [pieces_eq, hsilent]
  exact hwritten

theorem Value.outlined_literal (v : Value) (d : Dialect) : (v.literal d).Outlined [] := by
  intro _
  have hwritten := Piece.Outlined.literal v d .nil
  rwa [List.append_nil] at hwritten

theorem Dialect.isPlain_paginationIfAny (d : Dialect) (limit offset : Option Nat) :
    (d.paginationIfAny limit offset).IsPlain := by
  unfold paginationIfAny
  split
  · cases d with
    | generic => exact fun _ hmem => nomatch hmem
    | _ => cases limit <;> cases offset <;> simp [IsPlain, pagination, ofPieces]
  · exact isPlain_empty

/-- The outlines of trees, which see no more of their surroundings than the clause. -/
def Mark.listing : StatementListing Mark where
  inside := fun _ _ => ()
  among := fun _ _ => ()
  condition := id
  derived := id
  ordered := id
  named := fun aliasName => [.derived aliasName]
  block := fun _ clauses => [.select clauses]
  target := fun t => [.target t]
  expr := fun s _ => Expr.outline s
  operand := fun s _ => Operand.outline s
  exprs := fun s _ => Expr.outlineAll s
  exprOption := fun s _ => Expr.outlineOption s
  branches := fun s _ => Expr.outlineBranches s
  select := fun s _ => Select.outline s
  items := fun s _ => SelectItem.outlineAll s
  orders := fun s _ => OrderBy.outlineAll s
  source := fun s _ => Source.outline s
  sourceOption := fun s _ => Source.outlineOption s
  query := fun s _ => Query.outline s
  union := fun s _ => Union.outline s
  insertSource := InsertSource.outline {}
  statement := Statement.outline
  expr_postfix := by simp [Expr.outline]
  expr_binary := by simp [Expr.outline]
  expr_ternary := by simp [Expr.outline]
  select_mk := by simp [Select.outline]
  union_mk := by simp [Union.outline]

theorem Mark.listing_matches (w : Writer) : Mark.listing.Matches w Outlined where
  append := Outlined.append
  empty := isPlain_empty.outlined
  symbol := fun hapart => (isPlain_symbol hapart).outlined
  keyword := fun _ => (isPlain_word _).outlined
  name := fun text => (isPlain_name text).outlined
  operator := fun op => op.isPlain_pieces.outlined
  call := fun name => (isPlain_word name).outlined
  column := fun s _ c => c.outlined_pieces s
  parameter := fun _ _ p => IsPlain.outlined (by simp [IsPlain, ofPieces])
  literal := fun _ _ v => v.outlined_literal w.dialect
  table := fun hdeclares _ t _ => t.outlined_pieces hdeclares
  named := fun aliasName _ => .derived aliasName .nil
  pagination := fun limit offset => (w.dialect.isPlain_paginationIfAny limit offset).outlined
  block := fun _ _ _ houtlined => houtlined.select
  bare := fun _ _ _ => outlined_fail _
  target := fun hsilent t => t.outlined_target hsilent

theorem Statement.outlined_render {w : Writer} {s : Statement} (hraw : s.isRaw = false) :
    (s.render w {}).Outlined s.outline :=
  Statement.matches_render (Mark.listing_matches w) hraw

/-- A column that is written, with the blocks around it from the inside out. -/
structure Use where
  column : ColumnRef
  scope : Scope
  blocks : List (List Mark)

namespace Use

def alias? (u : Use) : Option String :=
  u.column.alias? u.scope

end Use

namespace Mark

def table? : Mark → Option TableRef
  | table t => some t
  | derived aliasName => some ((TableRef.mk aliasName none none).aliased aliasName)
  | _ => none

def alias? : Mark → Option String
  | table t => t.aliasName
  | derived aliasName => some aliasName
  | _ => none

theorem alias?_of_table? {m : Mark} {t : TableRef} (h : m.table? = some t) :
    m.alias? = t.aliasName := by
  cases m with
  | table t' =>
      cases h
      rfl
  | derived aliasName =>
      cases h
      rfl
  | _ => cases h

/-- Whether it is no column, or one that is written without a qualifier. -/
def IsBare : Mark → Prop
  | column _ s => s.allowsQualifiedColumns = false
  | _ => True

/-- Whether the columns that stand in no block of their own are written without a qualifier. -/
def Bare (ms : List Mark) : Prop :=
  ∀ m ∈ ms, m.IsBare

theorem bare_target {t : TableRef} {ms : List Mark} (h : Bare ms) : Bare (.target t :: ms) :=
  List.forall_mem_cons.mpr ⟨trivial, h⟩

mutual

def uses (blocks : List (List Mark)) : Mark → List Use
  | column c s => [⟨c, s, blocks⟩]
  | select block => usesAll (block :: blocks) block
  | table _ => []
  | derived _ => []
  | target _ => []

def usesAll (blocks : List (List Mark)) : List Mark → List Use
  | [] => []
  | m :: ms => m.uses blocks ++ usesAll blocks ms

end

mutual

theorem length_le_of_mem_uses (m : Mark) (blocks : List (List Mark)) {u : Use}
    (h : u ∈ m.uses blocks) : blocks.length ≤ u.blocks.length := by
  cases m with
  | column c s =>
      simp only [uses, List.mem_singleton] at h
      exact Nat.le_of_eq (by rw [h])
  | select block =>
      simp only [uses] at h
      exact Nat.le_of_succ_le (length_le_of_mem_usesAll block (block :: blocks) h)
  | _ => simp [uses] at h

theorem length_le_of_mem_usesAll (ms : List Mark) (blocks : List (List Mark)) {u : Use}
    (h : u ∈ usesAll blocks ms) : blocks.length ≤ u.blocks.length := by
  cases ms with
  | nil => simp [usesAll] at h
  | cons m ms =>
      simp only [usesAll, List.mem_append] at h
      exact h.elim (length_le_of_mem_uses m blocks) (length_le_of_mem_usesAll ms blocks)

end

theorem declares_of_outlined {ps : List Piece} {ms : List Mark} (h : Piece.Outlined ps ms)
    {m : Mark} (hmem : m ∈ ms) {aliasName : String} (halias : m.alias? = some aliasName) :
    Piece.Declares aliasName ps := by
  have hbehind (first : List Piece) {behind : List Piece} (h : Piece.Declares aliasName behind) :
      Piece.Declares aliasName (first ++ behind) :=
    h.mono (List.suffix_append first behind).isInfix
  have hlater {other : Mark} {ms : List Mark} (hmem : m ∈ other :: ms)
      (hfree : other.alias? = none) : m ∈ ms := by
    rcases List.mem_cons.mp hmem with rfl | hmem
    · rw [hfree] at halias
      cases halias
    · exact hmem
  induction h with
  | nil => cases hmem
  | plain p _ _ ih => exact hbehind [p] (ih hmem)
  | literal v d _ ih => exact hbehind _ (ih hmem)
  | qualified _ _ ih => exact hbehind [_, _, _] (ih (hlater hmem rfl))
  | named _ _ ih => exact hbehind _ (hbehind [_, _] (ih (hlater hmem rfl)))
  | bare _ _ ih => exact hbehind [_] (ih (hlater hmem rfl))
  | table t _ ih =>
      rcases List.mem_cons.mp hmem with rfl | hmem
      · exact t.declares halias _
      · exact hbehind _ (ih hmem)
  | derived other _ ih =>
      rcases List.mem_cons.mp hmem with rfl | hmem
      · cases halias
        exact .inr (List.prefix_append [Piece.symbol ") ", _] _).isInfix
      · exact hbehind [_, _] (ih hmem)
  | target t _ ih => exact hbehind _ (ih (hlater hmem rfl))
  | select _ _ _ ih => exact hbehind _ (ih (hlater hmem rfl))

theorem blocks_or_mem_of_mem_usesAll {c : ColumnRef} {s : Scope} {ms : List Mark}
    {blocks : List (List Mark)} {u : Use} (h : u ∈ usesAll blocks (column c s :: ms)) :
    u.blocks = blocks ∨ u ∈ usesAll blocks ms := by
  simp only [usesAll, uses, List.singleton_append, List.mem_cons] at h
  exact h.imp_left fun heq => by rw [heq]

/-- Every block around a column is followed by a stretch of the pieces. -/
theorem exists_outlined_of_mem_blocks {ps : List Piece} {ms : List Mark} (h : Piece.Outlined ps ms)
    {blocks : List (List Mark)} {u : Use} (hmem : u ∈ usesAll blocks ms) {block : List Mark}
    (hblock : block ∈ u.blocks) : block ∈ blocks ∨ Piece.Holds block ps := by
  induction h generalizing blocks with
  | nil => simp [usesAll] at hmem
  | plain p _ _ ih => exact (ih hmem).imp_right (.behind [p])
  | literal v d _ ih => exact (ih hmem).imp_right (.behind _)
  | qualified _ _ ih =>
      obtain heq | hmem := blocks_or_mem_of_mem_usesAll hmem
      · exact .inl (heq ▸ hblock)
      · exact (ih hmem).imp_right (.behind [_, _, _])
  | named _ _ ih =>
      obtain heq | hmem := blocks_or_mem_of_mem_usesAll hmem
      · exact .inl (heq ▸ hblock)
      · exact (ih hmem).imp_right fun h => .behind _ (h.behind [_, _])
  | bare _ _ ih =>
      obtain heq | hmem := blocks_or_mem_of_mem_usesAll hmem
      · exact .inl (heq ▸ hblock)
      · exact (ih hmem).imp_right (.behind [_])
  | table t _ ih => exact (ih hmem).imp_right (.behind _)
  | derived aliasName _ ih => exact (ih hmem).imp_right (.behind [_, _])
  | target t _ ih => exact (ih hmem).imp_right (.behind _)
  | @select inner ps _ _ hbody _ ihBody ih =>
      simp only [usesAll, uses, List.mem_append] at hmem
      rcases hmem with hmem | hmem
      · have hinner := (List.prefix_append inner ps).isInfix
        obtain hblock | ⟨qs, hpart, houtlined⟩ := ihBody hmem
        · rcases List.mem_cons.mp hblock with rfl | hblock
          · exact .inr ⟨inner, hinner, hbody⟩
          · exact .inl hblock
        · exact .inr ⟨qs, hpart.trans hinner, houtlined⟩
      · exact (ih hmem).imp_right (.behind _)

/-- A column that is written stands among the marks themselves or in an inner block. -/
theorem mem_or_inner_of_mem_usesAll {ms : List Mark} {blocks : List (List Mark)} {u : Use}
    (h : u ∈ usesAll blocks ms) :
    column u.column u.scope ∈ ms ∨ blocks.length < u.blocks.length := by
  induction ms with
  | nil => simp [usesAll] at h
  | cons m ms ih =>
      simp only [usesAll, List.mem_append] at h
      obtain hhere | hthere := h
      · cases m with
        | column c s =>
            simp only [uses, List.mem_singleton] at hhere
            rw [hhere]
            exact .inl List.mem_cons_self
        | select block =>
            simp only [uses] at hhere
            exact .inr (length_le_of_mem_usesAll block (block :: blocks) hhere)
        | _ => simp [uses] at hhere
      · exact (ih hthere).imp_left (List.mem_cons_of_mem m)

end Mark

open Mark

/-- A select is a block, and a union is ordered where there are no qualifiers. -/
theorem Mark.bare_hereditary :
    Hereditary (fun e => ∀ s, s.allowsQualifiedColumns = false → Bare (e.outline s))
      (fun operand => ∀ s, s.allowsQualifiedColumns = false → Bare (operand.outline s))
      (fun query => ∀ s, Bare (query.outline s)) (fun _ => True)
      (fun query => ∀ s, Bare (query.outline s)) (fun query => ∀ s, Bare (query.outline s)) where
  column c s h := List.forall_mem_singleton.mpr h
  parameter p s h := List.forall_mem_nil _
  literal v s h := List.forall_mem_nil _
  unary op operand postfixed type hoperand s h := by
    simp only [Expr.outline]
    exact hoperand s h
  binary left op right type hleft hright s h := by
    simp only [Expr.outline, Bare, List.forall_mem_append]
    exact ⟨hleft s h, hright s h⟩
  ternary first op second op2 third type hfirst hsecond hthird s h := by
    simp only [Expr.outline, Bare, List.forall_mem_append]
    exact ⟨⟨hfirst s h, hsecond s h⟩, hthird s h⟩
  function name args emptyParens type hargs _ s h := by
    simp only [Expr.outline]
    exact listing.forall_mem_exprs (x := ()) fun e he => hargs e he s h
  case operand branches otherwise type hoperand hbranches hotherwise s h := by
    simp only [Expr.outline, Bare, List.forall_mem_append]
    refine ⟨⟨?_, ?_⟩, ?_⟩
    · exact listing.forall_mem_exprOption (x := ()) fun e he => hoperand e he s h
    · exact listing.forall_mem_branches (x := ()) fun branch hbranch =>
        ⟨(hbranches branch hbranch).1 s h, (hbranches branch hbranch).2 s h⟩
    · exact listing.forall_mem_exprOption (x := ()) fun e he => hotherwise e he s h
  inList operand values negated hoperand hvalues s h := by
    simp only [Expr.outline, Bare, List.forall_mem_append]
    exact ⟨hoperand s h, listing.forall_mem_exprs (x := ()) fun e he => hvalues e he s h⟩
  inQuery operand query negated hoperand hquery s h := by
    simp only [Expr.outline, Bare, List.forall_mem_append]
    exact ⟨hoperand s h, hquery s⟩
  tuple elements helements s h := by
    simp only [Expr.outline]
    exact listing.forall_mem_exprs (x := ()) fun e he => helements e he s h
  subselect query hquery s h := by
    simp only [Expr.outline]
    exact hquery s
  operand e parens he s h := by
    simp only [Operand.outline]
    exact he s h
  select items source filter distinct groupBy having orderBy limit offset _ _ _ _ _ _ s := by
    simp only [Select.outline]
    exact List.forall_mem_singleton.mpr trivial
  querySelect query hquery s := by
    simp only [Query.outline]
    exact hquery s
  queryUnion query hquery s := by
    simp only [Query.outline]
    exact hquery s
  union left right all parens orderBy limit offset hleft hright horderBy s := by
    simp only [Union.outline, Bare, List.forall_mem_append]
    exact ⟨⟨hleft s, hright s⟩, listing.forall_mem_orders (x := ()) fun key hkey =>
      horderBy key hkey (s.enter .unionOrderBy) rfl⟩

theorem Statement.bare_outline (s : Statement) : Bare s.outline := by
  have hexpr (e : Expr) {s : Scope} (h : s.allowsQualifiedColumns = false) : Bare (e.outline s) :=
    Expr.of_hereditary bare_hereditary e s h
  have hselect (query : Select) (s : Scope) : Bare (query.outline s) :=
    Select.of_hereditary bare_hereditary query s
  cases s with
  | select query => exact hselect query {}
  | union query => exact Union.of_hereditary bare_hereditary query {}
  | insert i =>
      refine bare_target ?_
      cases i.source with
      | query query => exact hselect query _
      | rows rows =>
          exact List.forall_mem_flatMap.mpr fun row _ =>
            listing.forall_mem_exprs (x := ()) fun e _ => hexpr e rfl
  | update u =>
      exact bare_target (List.forall_mem_append.mpr
        ⟨List.forall_mem_flatMap.mpr fun a _ => hexpr a.value rfl,
          listing.forall_mem_exprOption (x := ()) fun e _ => hexpr e rfl⟩)
  | delete d => exact bare_target (listing.forall_mem_exprOption (x := ()) fun e _ => hexpr e rfl)
  | raw r => exact List.forall_mem_nil _

namespace Use

/-- Whether the column has the table of a source of a select around it. -/
def IsCarried (u : Use) : Prop :=
  ∃ block ∈ u.blocks, ∃ m ∈ block, m.table? = some u.column.table

/-- Whether a source of a select around the column declares the alias. -/
def Sees (u : Use) (aliasName : String) : Prop :=
  ∃ block ∈ u.blocks, ∃ m ∈ block, m.alias? = some aliasName

/-- Whether the text of a select around the column declares the alias for one of its sources. -/
def IsDeclared (u : Use) (aliasName : String) (ps : List Piece) : Prop :=
  ∃ block ∈ u.blocks, (∃ m ∈ block, m.alias? = some aliasName) ∧
    ∃ qs, qs <:+: ps ∧ Piece.Outlined qs block ∧ Piece.Declares aliasName qs

instance (u : Use) : Decidable u.IsCarried :=
  inferInstanceAs (Decidable (∃ block ∈ u.blocks, ∃ m ∈ block, m.table? = some u.column.table))

instance (u : Use) (aliasName : String) : Decidable (u.Sees aliasName) :=
  inferInstanceAs (Decidable (∃ block ∈ u.blocks, ∃ m ∈ block, m.alias? = some aliasName))

theorem IsCarried.sees {u : Use} (h : u.IsCarried) {aliasName : String}
    (hqualified : u.alias? = some aliasName) : u.Sees aliasName := by
  obtain ⟨block, hblock, m, hm, hcarried⟩ := h
  refine ⟨block, hblock, m, hm, ?_⟩
  rw [Mark.alias?_of_table? hcarried]
  exact (ColumnRef.alias?_eq_some_iff.mp hqualified).2

end Use

def Statement.uses (s : Statement) : List Use :=
  Mark.usesAll [] s.outline

/-- Nothing is qualified outside of the selects of a statement. -/
theorem Statement.blocks_ne_nil_of_alias? {s : Statement} {u : Use} (hmem : u ∈ s.uses)
    {aliasName : String} (hqualified : u.alias? = some aliasName) : u.blocks ≠ [] := by
  obtain hdirect | hinner := Mark.mem_or_inner_of_mem_usesAll hmem
  · have hbare : u.scope.allowsQualifiedColumns = false := s.bare_outline _ hdirect
    rw [(ColumnRef.alias?_eq_some_iff.mp hqualified).1] at hbare
    contradiction
  · exact List.ne_nil_of_length_pos hinner

theorem Use.Sees.isDeclared {s : Statement} {u : Use} (hmem : u ∈ s.uses) {aliasName : String}
    (h : u.Sees aliasName) {ps : List Piece} (houtlined : Piece.Outlined ps s.outline) :
    u.IsDeclared aliasName ps := by
  obtain ⟨block, hblock, m, hm, halias⟩ := h
  obtain hnone | ⟨qs, hpart, hqs⟩ := Mark.exists_outlined_of_mem_blocks houtlined hmem hblock
  · cases hnone
  · exact ⟨block, hblock, ⟨m, hm, halias⟩, qs, hpart, hqs, declares_of_outlined hqs hm halias⟩

/-- The text of a compiled statement follows its outline, and an alias that qualifies a column in it
is declared there for a source of a select around the column, in the text of that select, unless the
column stands in a select inside a modification and has the table that is modified. -/
theorem Statement.alias_declared_or_modified {s : Statement} {w : Writer} {c : CompiledSql}
    (hraw : s.isRaw = false) (hcompiled : w.compile s = .ok c)
    (hscope : ∀ u ∈ s.uses, u.scope.allowsQualifiedColumns →
      u.IsCarried ∨ s.modified? = some u.column.table) :
    ∃ ps, c.sql = String.ofList (w.print 0 ps) ∧ Piece.Outlined ps s.outline ∧
      ∀ u ∈ s.uses, ∀ aliasName, u.alias? = some aliasName →
        u.column.pieces u.scope = [.name aliasName, .symbol ".", .name u.column.name] ∧
          (u.IsDeclared aliasName ps ∨ u.blocks ≠ [] ∧ s.modified? = some u.column.table) := by
  obtain ⟨ps, hrendered, rfl⟩ := Writer.pieces_of_compile hcompiled
  have houtlined := Statement.outlined_render (w := w) hraw
  rw [hrendered] at houtlined
  refine ⟨ps, rfl, houtlined rfl, ?_⟩
  intro u hmem aliasName hqualified
  refine ⟨ColumnRef.pieces_of_alias? hqualified, ?_⟩
  have hallowed := (ColumnRef.alias?_eq_some_iff.mp hqualified).1
  obtain hcarried | hmodified := hscope u hmem hallowed
  · exact .inl ((hcarried.sees hqualified).isDeclared hmem (houtlined rfl))
  · exact .inr ⟨Statement.blocks_ne_nil_of_alias? hmem hqualified, hmodified⟩

namespace OrderBook

def orders : TableRef := { name := "orders", aliasName := some "o" }

def orderColumn (name : String) : ColumnRef :=
  { table := orders, name, codec := .ofType .int64 }

def items : TableRef := { name := "items" }

def itemColumn (name : String) : ColumnRef :=
  { table := items, name, codec := .ofType .int64 }

def itemsOfOrder : Select :=
  { Select.ofSource (some (.table items [])) with
    items := [⟨.column (itemColumn "price"), none⟩]
    filter := some ((Expr.column (itemColumn "order_id")).eq (.column (orderColumn "id"))) }

/-- Orders that have items, joined with a derived source of all orders. -/
def served : Statement :=
  let every : Select :=
    { Select.ofSource (some (.table orders [])) with
      items := [⟨.column (orderColumn "id"), none⟩] }
  let big : TableRef := { name := "big", aliasName := some "big" }
  let same : Expr :=
    (Expr.column (orderColumn "id")).eq (.column { orderColumn "id" with table := big })
  .select
    { Select.ofSource (some (.join .inner (.table orders []) (.derived (.select every) "big")
        (some same))) with
      items := [⟨.column (orderColumn "total"), none⟩]
      filter := some (.existsIn itemsOfOrder) }

theorem served_declares : ∃ c ps, (Writer.of .generic {}).compile served = .ok c ∧
    c.sql = "SELECT o.total FROM orders o INNER JOIN (SELECT o.id FROM orders o) big " ++
      "ON o.id = big.id WHERE EXISTS(SELECT items.price FROM items WHERE items.order_id = o.id)" ∧
    c.sql = String.ofList ((Writer.of .generic {}).print 0 ps) ∧
    Piece.Outlined ps served.outline ∧
    ∀ u ∈ served.uses, ∀ aliasName, u.alias? = some aliasName → u.IsDeclared aliasName ps := by
  obtain ⟨ps, hsql, houtlined, hqualified⟩ := Statement.alias_declared_or_modified (s := served)
    (w := .of .generic {}) rfl rfl (by decide)
  refine ⟨_, ps, rfl, by decide +kernel, hsql, houtlined, ?_⟩
  intro u hmem aliasName hused
  obtain ⟨-, hdeclared | ⟨-, hmodified⟩⟩ := hqualified u hmem aliasName hused
  · exact hdeclared
  · cases hmodified

/-- Orders that have items become free. -/
def freeServed : Statement :=
  .update
    { table := orders
      assignments := [⟨orderColumn "total", .parameter (.ofRowCount 0)⟩]
      filter := some (.existsIn itemsOfOrder) }

/-- In a select inside a modification the alias of the modified table is used, and nothing in the
text declares it. -/
theorem freeServed_undeclared :
    (∀ u ∈ freeServed.uses, u.scope.allowsQualifiedColumns →
        u.IsCarried ∨ freeServed.modified? = some u.column.table) ∧
      (Writer.of .generic {}).compile freeServed = .ok ⟨
        "UPDATE orders SET total = ? WHERE EXISTS(SELECT price FROM items WHERE order_id = o.id)",
        [.ofRowCount 0]⟩ ∧
      ∃ u ∈ freeServed.uses, u.alias? = some "o" ∧ ¬u.Sees "o" :=
  ⟨by decide, rfl, by decide⟩

end OrderBook

end TypedSql
