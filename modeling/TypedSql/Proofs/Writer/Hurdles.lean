import TypedSql.Proofs.Writer.Listed
import TypedSql.Proofs.Writer.Phrase

namespace TypedSql

/-! What can keep a statement from being written.  The renderer reaches the hurdles of a tree one
after the other and stops at the first that it cannot take. -/

/-- A place in a tree that some writers cannot write. -/
inductive Hurdle where
  /-- Where a select begins. -/
  | select (query : Select)
  /-- Where a select or a union ends. -/
  | pagination (limit offset : Option Nat)
  /-- A point in time that is written in universal time. -/
  | moment (t : ZonedTimestamp)

namespace Hurdle

/-- The failure of a writer that cannot take the hurdle. -/
def failure? (d : Dialect) : Hurdle → Option Error
  | select query =>
      if query.items.isEmpty && query.source.isNone then
        some (.construction .selectWithoutColumns)
      else none
  | pagination limit offset =>
      if (limit.isSome || offset.isSome) && d = .generic then
        some (.failure (.unsupported "generic" "pagination"))
      else none
  | moment t =>
      match t.toUtc? with
      | some _ => none
      | none => some (.panic ConversionFault.leavesCalendar.message)

/-- What a writer that takes the hurdle leaves of it in the text. -/
def written (d : Dialect) : Hurdle → List Piece
  | pagination limit offset => (d.paginationIfAny limit offset).pieces
  | _ => []

def isMoment : Hurdle → Bool
  | moment _ => true
  | _ => false

end Hurdle

def Value.hurdles : Value → List Hurdle
  | .some (.timestampWithTimezone t) => [.moment t]
  | _ => []

mutual

def Expr.hurdles : Expr → List Hurdle
  | .column _ => []
  | .parameter _ => []
  | .literal v => v.hurdles
  | .unary _ operand _ _ => operand.hurdles
  | .binary left _ right _ => left.hurdles ++ right.hurdles
  | .ternary first _ second _ third _ => first.hurdles ++ second.hurdles ++ third.hurdles
  | .function _ args _ _ => Expr.hurdlesAll args
  | .case operand branches otherwise _ =>
      Expr.hurdlesOption operand ++ Expr.hurdlesBranches branches ++ Expr.hurdlesOption otherwise
  | .inList operand values _ => operand.hurdles ++ Expr.hurdlesAll values
  | .inQuery operand query _ => operand.hurdles ++ query.hurdles
  | .tuple elements => Expr.hurdlesAll elements
  | .select query => query.hurdles

def Operand.hurdles : Operand → List Hurdle
  | ⟨e, _⟩ => e.hurdles

def Expr.hurdlesAll : List Expr → List Hurdle
  | [] => []
  | e :: es => e.hurdles ++ Expr.hurdlesAll es

def Expr.hurdlesOption : Option Expr → List Hurdle
  | none => []
  | some e => e.hurdles

def Expr.hurdlesBranches : List (Expr × Expr) → List Hurdle
  | [] => []
  | (condition, result) :: rest =>
      condition.hurdles ++ result.hurdles ++ Expr.hurdlesBranches rest

def Select.hurdles : Select → List Hurdle
  | ⟨items, source, filter, distinct, groupBy, having, orderBy, limit, offset⟩ =>
      .select ⟨items, source, filter, distinct, groupBy, having, orderBy, limit, offset⟩ ::
        (SelectItem.hurdlesAll items ++ Source.hurdlesOption source ++ Expr.hurdlesOption filter ++
          Expr.hurdlesAll groupBy ++ Expr.hurdlesOption having ++ OrderBy.hurdlesAll orderBy ++
          [.pagination limit offset])

def SelectItem.hurdlesAll : List SelectItem → List Hurdle
  | [] => []
  | ⟨e, _⟩ :: rest => e.hurdles ++ SelectItem.hurdlesAll rest

def OrderBy.hurdlesAll : List OrderBy → List Hurdle
  | [] => []
  | ⟨e, _⟩ :: rest => e.hurdles ++ OrderBy.hurdlesAll rest

def Source.hurdlesOption : Option Source → List Hurdle
  | none => []
  | some source => source.hurdles

def Source.hurdles : Source → List Hurdle
  | .table _ _ => []
  | .join _ left right on => left.hurdles ++ right.hurdles ++ Expr.hurdlesOption on
  | .derived query _ => query.hurdles

def Query.hurdles : Query → List Hurdle
  | .select query => query.hurdles
  | .union query => query.hurdles

def Union.hurdles : Union → List Hurdle
  | ⟨left, right, _, _, orderBy, limit, offset⟩ =>
      left.hurdles ++ right.hurdles ++ OrderBy.hurdlesAll orderBy ++ [.pagination limit offset]

end

def InsertSource.hurdles : InsertSource → List Hurdle
  | .rows values => values.flatMap Expr.hurdlesAll
  | .query select => select.hurdles

namespace Statement

/-- The hurdles of a statement in the order of its text.  SQL written by hand is copied, and has
none. -/
def hurdles : Statement → List Hurdle
  | .select query => query.hurdles
  | .union query => query.hurdles
  | .insert i => i.source.hurdles
  | .update u => u.assignments.flatMap (fun a => a.value.hurdles) ++ Expr.hurdlesOption u.filter
  | .delete d => Expr.hurdlesOption d.filter
  | .raw _ => []

end Statement

/-- Pieces among which all that is written of some hurdles stands, one after the other. -/
inductive Piece.Clears (d : Dialect) : List Piece → List Hurdle → Prop
  | nil : Clears d [] []
  | other {ps : List Piece} {hs : List Hurdle} (p : Piece) (hrest : Clears d ps hs) :
      Clears d (p :: ps) hs
  | here {ps : List Piece} {hs : List Hurdle} (h : Hurdle) (hrest : Clears d ps hs) :
      Clears d (h.written d ++ ps) (h :: hs)

namespace Piece.Clears

variable {d : Dialect} {ps qs : List Piece} {hs hs' : List Hurdle}

theorem nothing (ps : List Piece) : Clears d ps [] := by
  induction ps with
  | nil => exact .nil
  | cons p ps ih => exact .other p ih

theorem append (hp : Clears d ps hs) (hq : Clears d qs hs') :
    Clears d (ps ++ qs) (hs ++ hs') := by
  induction hp with
  | nil => exact hq
  | other p hrest ih => exact .other p ih
  | here h hrest ih =>
      rw [List.append_assoc]
      exact .here h ih

theorem infix_written (hp : Clears d ps hs) {h : Hurdle} (hmem : h ∈ hs) :
    h.written d <:+: ps := by
  induction hp with
  | nil => cases hmem
  | other p hrest ih => exact (ih hmem).trans (List.suffix_cons p _).isInfix
  | @here ps _ h' hrest ih =>
      rcases List.mem_cons.mp hmem with rfl | hmem
      · exact (List.prefix_append _ _).isInfix
      · exact (ih hmem).trans (List.suffix_append _ _).isInfix

end Piece.Clears

namespace Rendering

/-- A rendering that takes the hurdles in this order: it fails as the first does that cannot be
taken, and leaves all of them in the text if there is none. -/
structure Takes (d : Dialect) (r : Rendering) (hs : List Hurdle) : Prop where
  failure : r.failure = hs.findSome? (Hurdle.failure? d)
  clears : r.failure = none → Piece.Clears d r.pieces hs

variable {d : Dialect} {a b r : Rendering} {hs hs' : List Hurdle}

theorem takes_nothing (ps : List Piece) : (ofPieces ps).Takes d [] where
  failure := rfl
  clears _ := .nothing ps

theorem Takes.append (ha : a.Takes d hs) (hb : b.Takes d hs') : (a ++ b).Takes d (hs ++ hs') where
  failure := by
    rw [List.findSome?_append, ← ha.failure, ← hb.failure]
    cases hfailure : a.failure with
    | some e => rw [append_of_failure hfailure, hfailure, Option.some_or]
    | none => rw [append_of_none hfailure, Option.none_or]
  clears h := by
    obtain ⟨hanone, hbnone⟩ := failure_append_eq_none.mp h
    rw [pieces_append hanone]
    exact (ha.clears hanone).append (hb.clears hbnone)

theorem Takes.cons {hurdle : Hurdle} (hfree : hurdle.failure? d = none)
    (hwritten : hurdle.written d = []) (h : r.Takes d hs) : r.Takes d (hurdle :: hs) where
  failure := by
    rw [List.findSome?_cons_of_isNone (by simp [hfree])]
    exact h.failure
  clears hnone := by
    have hrest := Piece.Clears.here hurdle (h.clears hnone)
    rw [hwritten] at hrest
    exact hrest

end Rendering

open Rendering

theorem Value.takes_literal (v : Value) (d : Dialect) : (v.literal d).Takes d v.hurdles := by
  cases v with
  | some c =>
      cases c with
      | timestampWithTimezone t =>
          cases hutc : t.toUtc? with
          | some utc =>
              refine ⟨?_, fun _ => .here (.moment t) (.nothing _)⟩
              simp [literal, Content.literal, hurdles, Hurdle.failure?, hutc, ofPieces]
          | none =>
              constructor <;>
                simp [literal, Content.literal, hurdles, Hurdle.failure?, hutc, fail]
      | _ => exact takes_nothing _
  | _ => exact takes_nothing _

theorem Dialect.takes_paginationIfAny (d : Dialect) (limit offset : Option Nat) :
    (d.paginationIfAny limit offset).Takes d [.pagination limit offset] where
  failure := by
    cases d <;> cases limit <;> cases offset <;> rfl
  clears _ := by
    have hwritten := Piece.Clears.here (d := d) (.pagination limit offset) .nil
    rw [List.append_nil] at hwritten
    exact hwritten

theorem Select.takes_bare {d : Dialect} {query : Select}
    (hnothing : (query.items.isEmpty && query.source.isNone) = true) :
    (fail (.construction .selectWithoutColumns)).Takes d query.hurdles where
  failure := by
    cases query
    simp [hurdles, Hurdle.failure?, hnothing, fail]
  clears := nofun

theorem Hurdle.placeholder_mem_written {d : Dialect} {limit offset : Option Nat}
    (htaken : (Hurdle.pagination limit offset).failure? d = none) {n : Nat}
    (hn : limit = some n ∨ offset = some n) :
    .placeholder (.ofRowCount n) ∈ (Hurdle.pagination limit offset).written d := by
  rcases hn with rfl | rfl
  · cases offset <;> cases d <;>
      simp_all [failure?, written, Dialect.paginationIfAny, Dialect.pagination, ofPieces]
  · cases limit <;> cases d <;>
      simp_all [failure?, written, Dialect.paginationIfAny, Dialect.pagination, ofPieces]

/-- The hurdles of trees, whatever is around them. -/
def Hurdle.listing : StatementListing Hurdle where
  inside := fun _ _ => ()
  among := fun _ _ => ()
  condition := id
  derived := id
  ordered := id
  pagination := fun limit offset => [.pagination limit offset]
  block := fun query clauses => .select query :: clauses
  expr := fun _ _ => Expr.hurdles
  operand := fun _ _ => Operand.hurdles
  exprs := fun _ _ => Expr.hurdlesAll
  exprOption := fun _ _ => Expr.hurdlesOption
  branches := fun _ _ => Expr.hurdlesBranches
  select := fun _ _ => Select.hurdles
  items := fun _ _ => SelectItem.hurdlesAll
  orders := fun _ _ => OrderBy.hurdlesAll
  source := fun _ _ => Source.hurdles
  sourceOption := fun _ _ => Source.hurdlesOption
  query := fun _ _ => Query.hurdles
  union := fun _ _ => Union.hurdles
  insertSource := InsertSource.hurdles
  statement := Statement.hurdles
  expr_postfix := by simp [Expr.hurdles]
  expr_binary := by simp [Expr.hurdles]
  expr_ternary := by simp [Expr.hurdles]
  source_derived := by simp [Source.hurdles]

theorem Hurdle.listing_matches (w : Writer) : Hurdle.listing.Matches w (Takes w.dialect) where
  append := Takes.append
  empty := takes_nothing []
  symbol := fun _ => takes_nothing _
  keyword := fun _ => takes_nothing _
  name := fun _ => takes_nothing _
  operator := fun _ => takes_nothing _
  call := fun _ => takes_nothing _
  column := fun _ _ _ => takes_nothing _
  parameter := fun _ _ _ => takes_nothing _
  literal := fun _ _ v => v.takes_literal w.dialect
  table := fun _ _ _ _ => takes_nothing _
  named := fun aliasName => takes_nothing [.symbol ") ", .name aliasName]
  pagination := w.dialect.takes_paginationIfAny
  block := fun hwritten _ _ htaken => htaken.cons (by simp [Hurdle.failure?, hwritten]) rfl
  bare := fun hnothing _ _ => Select.takes_bare hnothing
  target := fun _ _ => takes_nothing _

theorem Statement.takes_render {w : Writer} {statement : Statement}
    (hraw : statement.isRaw = false) :
    (statement.render w {}).Takes w.dialect statement.hurdles :=
  Statement.matches_render (Hurdle.listing_matches w) hraw

/-- A statement is refused exactly if the writer cannot take one of its hurdles, with the failure
of the first of these.  Of a statement that is not refused, every select and union has its limit
and its offset in the text. -/
theorem Statement.refused_iff_hurdle {statement : Statement} (hraw : statement.isRaw = false)
    (w : Writer) :
    (∀ e, w.compile statement = .error e ↔
      ∃ passed hurdle ahead, statement.hurdles = passed ++ hurdle :: ahead ∧
        (∀ h ∈ passed, h.failure? w.dialect = none) ∧ hurdle.failure? w.dialect = some e) ∧
    ∀ c, w.compile statement = .ok c →
      ∃ ps, c = ⟨String.ofList (w.print 0 ps), Piece.parameters ps⟩ ∧
        Piece.Clears w.dialect ps statement.hurdles ∧
        ∀ limit offset, .pagination limit offset ∈ statement.hurdles →
          (Hurdle.pagination limit offset).written w.dialect <:+: ps ∧
            ∀ n, limit = some n ∨ offset = some n →
              .placeholder (.ofRowCount n) ∈
                (Hurdle.pagination limit offset).written w.dialect := by
  have htakes := Statement.takes_render (w := w) hraw
  constructor
  · intro e
    have hrefused : w.compile statement = .error e ↔
        statement.hurdles.findSome? (Hurdle.failure? w.dialect) = some e := by
      rw [← htakes.failure]
      exact ⟨Writer.failure_of_compile, Writer.compile_of_failure⟩
    rw [hrefused, List.findSome?_eq_some_iff]
    constructor
    · rintro ⟨passed, hurdle, ahead, hsplit, hfails, hpassed⟩
      exact ⟨passed, hurdle, ahead, hsplit, hpassed, hfails⟩
    · rintro ⟨passed, hurdle, ahead, hsplit, hpassed, hfails⟩
      exact ⟨passed, hurdle, ahead, hsplit, hfails, hpassed⟩
  · intro c hc
    obtain ⟨ps, hrender, rfl⟩ := Writer.pieces_of_compile hc
    rw [hrender] at htakes
    have htaken := List.findSome?_eq_none_iff.mp htakes.failure.symm
    refine ⟨ps, rfl, htakes.clears rfl, ?_⟩
    intro limit offset hmem
    refine ⟨(htakes.clears rfl).infix_written hmem, ?_⟩
    intro n hn
    exact Hurdle.placeholder_mem_written (htaken _ hmem) hn

def pageOf (item : Expr) : Select :=
  { Select.ofSource (some (.table { name := "t" } [])) with
    items := [⟨item, none⟩]
    limit := some 1 }

/-- A list of values from a page, inside a select that is none itself. -/
def pageInside : Statement :=
  .select { Select.ofSource (some (.table { name := "u" } [])) with
    filter := some (.inQuery (.of .countAll) (pageOf .countAll) false) }

theorem pageInside_refused :
    Writer.compile ⟨.generic, {}⟩ pageInside =
        .error (.failure (.unsupported "generic" "pagination")) ∧
      ∃ ps, Writer.compile ⟨.sqlite, {}⟩ pageInside =
          .ok ⟨String.ofList (Writer.print ⟨.sqlite, {}⟩ 0 ps), Piece.parameters ps⟩ ∧
        Piece.Clears .sqlite ps pageInside.hurdles := by
  constructor
  · refine ((Statement.refused_iff_hurdle (rfl : pageInside.isRaw = false) ⟨.generic, {}⟩).1
      _).mpr ?_
    refine ⟨[.select _, .select _], .pagination (some 1) none, [.pagination none none], rfl, ?_,
      rfl⟩
    intro h hmem
    simp only [List.mem_cons, List.not_mem_nil, or_false] at hmem
    rcases hmem with rfl | rfl <;> rfl
  · obtain ⟨ps, hps, hclears, -⟩ :=
      (Statement.refused_iff_hurdle (rfl : pageInside.isRaw = false) ⟨.sqlite, {}⟩).2 _ rfl
    exact ⟨ps, congrArg Except.ok hps, hclears⟩

/-- The last hour of the calendar, in a zone that is behind universal time. -/
def lastHour : ZonedTimestamp :=
  (ZonedTimestamp.ofParts? ⟨(Date.ofParts? 9999 12 31).get rfl,
    (TimeOfDay.ofParts? 23 59 59 0).get rfl⟩ (-3600)).get rfl

/-- Among the selects and paginations it is the limit that the generic writer cannot take, but
writing the timestamp panics before that. -/
theorem lastHour_hides_pagination :
    ((Statement.select (pageOf (.literal (.some (.timestampWithTimezone lastHour))))).hurdles.filter
        (!·.isMoment)).findSome? (Hurdle.failure? .generic) =
          some (.failure (.unsupported "generic" "pagination")) ∧
      Writer.compile ⟨.generic, {}⟩
          (.select (pageOf (.literal (.some (.timestampWithTimezone lastHour))))) =
        .error (.panic ConversionFault.leavesCalendar.message) := by
  constructor <;> rfl

end TypedSql
