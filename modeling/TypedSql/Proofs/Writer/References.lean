import TypedSql.Proofs.Writer.Listed
import TypedSql.Proofs.Writer.Phrase

namespace TypedSql

/-! The columns that a query refers to, with what is in sight where they are written.  A select puts
its sources in sight of its own clauses and of all that is nested there; queries that are sources
themselves see what is in sight around the select. -/

/-- A source in sight: its table as references to it have it, and the names of its columns. -/
structure Exposed where
  table : TableRef
  columns : List String
deriving DecidableEq, Repr

/-- The sources of a select. -/
abbrev Frame := List Exposed

def Source.frame : Source → Frame
  | .table t columns => [⟨t, columns.map ColumnRef.name⟩]
  | .join _ left right _ => left.frame ++ right.frame
  | .derived query aliasName =>
      [⟨(TableRef.mk aliasName none none).aliased aliasName,
        (Source.columns (.derived query aliasName)).map ColumnRef.name⟩]

def Source.frameOption : Option Source → Frame
  | none => []
  | some source => source.frame

/-- A column that is referred to, where it is written, and what is in sight there from the inside
out. -/
structure Reference where
  column : ColumnRef
  scope : Scope
  sight : List Frame
deriving DecidableEq, Repr

def Reference.pieces (r : Reference) : List Piece :=
  r.column.pieces r.scope

mutual

def Expr.references (s : Scope) (sight : List Frame) : Expr → List Reference
  | .column c => [⟨c, s, sight⟩]
  | .parameter _ => []
  | .literal _ => []
  | .unary _ operand _ _ => operand.references s sight
  | .binary left _ right _ => left.references s sight ++ right.references s sight
  | .ternary first _ second _ third _ =>
      first.references s sight ++ second.references s sight ++ third.references s sight
  | .function _ args _ _ => Expr.referencesAll s sight args
  | .case operand branches otherwise _ =>
      Expr.referencesOption s sight operand ++ Expr.referencesBranches s sight branches ++
        Expr.referencesOption s sight otherwise
  | .inList operand values _ => operand.references s sight ++ Expr.referencesAll s sight values
  | .inQuery operand query _ => operand.references s sight ++ query.references s sight
  | .tuple elements => Expr.referencesAll s sight elements
  | .select query => query.references s sight

def Operand.references (s : Scope) (sight : List Frame) : Operand → List Reference
  | ⟨e, _⟩ => e.references s sight

def Expr.referencesAll (s : Scope) (sight : List Frame) : List Expr → List Reference
  | [] => []
  | e :: es => e.references s sight ++ Expr.referencesAll s sight es

def Expr.referencesOption (s : Scope) (sight : List Frame) : Option Expr → List Reference
  | none => []
  | some e => e.references s sight

def Expr.referencesBranches (s : Scope) (sight : List Frame) :
    List (Expr × Expr) → List Reference
  | [] => []
  | (condition, result) :: rest =>
      condition.references s sight ++ result.references s sight ++
        Expr.referencesBranches s sight rest

def Select.references (s : Scope) (sight : List Frame) : Select → List Reference
  | ⟨items, source, filter, _, groupBy, having, orderBy, _, _⟩ =>
      let inner : Scope := ⟨.select, s.qualify || source.any Source.isJoin⟩
      let own := Source.frameOption source :: sight
      SelectItem.referencesAll inner own items ++
        Source.referencesOption (inner.enter .selectFrom) own sight source ++
        Expr.referencesOption (inner.enter .selectWhere) own filter ++
        Expr.referencesAll (inner.enter .selectGroupBy) own groupBy ++
        Expr.referencesOption (inner.enter .selectHaving) own having ++
        OrderBy.referencesAll (inner.enter .selectOrderBy) own orderBy

def SelectItem.referencesAll (s : Scope) (sight : List Frame) : List SelectItem → List Reference
  | [] => []
  | ⟨e, _⟩ :: rest => e.references s sight ++ SelectItem.referencesAll s sight rest

def OrderBy.referencesAll (s : Scope) (sight : List Frame) : List OrderBy → List Reference
  | [] => []
  | ⟨e, _⟩ :: rest => e.references s sight ++ OrderBy.referencesAll s sight rest

def Source.referencesOption (s : Scope) (own sight : List Frame) :
    Option Source → List Reference
  | none => []
  | some source => source.references s own sight

/-- References of a source.  The conditions of its joins see the select that it belongs to. -/
def Source.references (s : Scope) (own sight : List Frame) : Source → List Reference
  | .table _ _ => []
  | .join _ left right on =>
      let inner : Scope := ⟨.join, true⟩
      left.references inner own sight ++ right.references inner own sight ++
        Expr.referencesOption inner own on
  | .derived query _ => query.references s sight

def Query.references (s : Scope) (sight : List Frame) : Query → List Reference
  | .select query => query.references s sight
  | .union query => query.references s sight

/-- References of a union.  It is ordered by its own fields, where no source is in sight. -/
def Union.references (s : Scope) (sight : List Frame) : Union → List Reference
  | ⟨left, right, _, _, orderBy, _, _⟩ =>
      left.references s sight ++ right.references s sight ++
        OrderBy.referencesAll (s.enter .unionOrderBy) [] orderBy

end

/-- Pieces among which some references are written, one after the other. -/
inductive Piece.Mention : List Piece → List Reference → Prop
  | nil : Mention [] []
  | other {ps : List Piece} {rs : List Reference} (p : Piece) (hrest : Mention ps rs) :
      Mention (p :: ps) rs
  | here {ps : List Piece} {rs : List Reference} (r : Reference) (hrest : Mention ps rs) :
      Mention (r.pieces ++ ps) (r :: rs)

namespace Piece.Mention

theorem nothing (ps : List Piece) : Mention ps [] := by
  induction ps with
  | nil => exact .nil
  | cons p ps ih => exact .other p ih

theorem append {ps qs : List Piece} {rs rs' : List Reference} (hp : Mention ps rs)
    (hq : Mention qs rs') : Mention (ps ++ qs) (rs ++ rs') := by
  induction hp with
  | nil => exact hq
  | other p hrest ih => exact .other p ih
  | here r hrest ih =>
      rw [List.append_assoc]
      exact .here r ih

end Piece.Mention

namespace Rendering

def Mentions (r : Rendering) (references : List Reference) : Prop :=
  r.failure = none → Piece.Mention r.pieces references

variable {a b : Rendering} {refs refs' : List Reference}

theorem mentions_nothing (r : Rendering) : r.Mentions [] :=
  fun _ => .nothing r.pieces

theorem mentions_fail (e : Error) : (fail e).Mentions refs := by
  intro h
  cases h

theorem Mentions.append (ha : a.Mentions refs) (hb : b.Mentions refs') :
    (a ++ b).Mentions (refs ++ refs') := by
  intro h
  obtain ⟨hanone, hbnone⟩ := failure_append_eq_none.mp h
  rw [pieces_append hanone]
  exact (ha hanone).append (hb hbnone)

end Rendering

open Rendering

/-- The references of trees.  What is known among the sources of a select is what its own clauses
see, and what is in sight around it. -/
def Reference.listing : Listing (List Frame) (List Frame × List Frame) Reference where
  inside := fun sight query => Source.frameOption query.source :: sight
  among := fun sight query => (Source.frameOption query.source :: sight, sight)
  condition := Prod.fst
  derived := Prod.snd
  ordered := fun _ => []
  expr := Expr.references
  operand := Operand.references
  exprs := Expr.referencesAll
  exprOption := Expr.referencesOption
  branches := Expr.referencesBranches
  select := Select.references
  items := SelectItem.referencesAll
  orders := OrderBy.referencesAll
  source := fun s sights => Source.references s sights.1 sights.2
  sourceOption := fun s sights => Source.referencesOption s sights.1 sights.2
  query := Query.references
  union := Union.references
  expr_postfix := by simp [Expr.references]
  expr_binary := by simp [Expr.references]
  expr_ternary := by simp [Expr.references]
  select_mk := by simp [Select.references]
  source_derived := by simp [Source.references]
  union_mk := by simp [Union.references]

theorem ColumnRef.mentions_pieces (c : ColumnRef) (s : Scope) (sight : List Frame) :
    (ofPieces (c.pieces s)).Mentions [⟨c, s, sight⟩] := by
  intro _
  have hwritten := Piece.Mention.here ⟨c, s, sight⟩ .nil
  rwa [List.append_nil] at hwritten

theorem Reference.listing_matches (w : Writer) : Reference.listing.Matches w Mentions where
  append := Mentions.append
  empty := mentions_nothing _
  symbol := fun _ => mentions_nothing _
  keyword := fun _ => mentions_nothing _
  name := fun _ => mentions_nothing _
  operator := fun _ => mentions_nothing _
  call := fun _ => mentions_nothing _
  column := fun s sight c => c.mentions_pieces s sight
  parameter := fun _ _ _ => mentions_nothing _
  literal := fun _ _ _ => mentions_nothing _
  table := fun _ _ _ _ => mentions_nothing _
  named := fun _ => mentions_nothing _
  pagination := fun _ _ => mentions_nothing _
  block := fun _ _ _ hmentioned => hmentioned
  bare := fun _ _ _ => mentions_fail _

theorem Select.mentions_render {w : Writer} (query : Select) (s : Scope) (sight : List Frame) :
    (query.render w s).Mentions (query.references s sight) :=
  Select.matches_render (Reference.listing_matches w) query s sight

end TypedSql
