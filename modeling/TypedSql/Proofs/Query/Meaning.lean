import Mathlib.Data.List.Sort
import TypedSql.Statement.Build

namespace TypedSql

/-! What queries mean: the rows that a store of standard SQL answers them with.  A cell of a row is
null if it is `none`. -/

structure Field where
  table : Option TableRef
  name : Option String
deriving DecidableEq, Repr

namespace Field

def ofColumn (c : ColumnRef) : Field := ⟨some c.table, some c.name⟩

/-- Whether the column refers to the field.  A field of no table goes by its name alone. -/
def isNamedBy (c : ColumnRef) (f : Field) : Bool :=
  f.name == some c.name && (f.table.isNone || f.table == some c.table)

end Field

inductive Given (V : Type) where
  | cell (cell : Option V)
  | rows (rows : List (List (Option V)))

/-- What a store brings along: the contents of its tables, and all that is computed from cells. -/
structure Meaning (V : Type) where
  rows : (schema : Option String) → (name : String) → List (String → Option V)
  content : Content → V
  count : Nat → V
  isTrue : Option V → Bool
  /-- Whether a cell may stand before another one in ascending order. -/
  precedes : Option V → Option V → Bool
  unary : Operator → (postfixed : Bool) → Option V → Option V
  binary : Operator → Option V → Option V → Option V
  ternary : Operator → Operator → Option V → Option V → Option V → Option V
  call : String → List (Given V) → Option V
  /-- A sum, an average, a minimum or a maximum over the arguments from each row. -/
  fold : String → List (List (Option V)) → Option V
  membership : (negated : Bool) → Option V → List (List (Option V)) → Option V
  tuple : List (Option V) → Option V

namespace Meaning

variable {V : Type}

def value (m : Meaning V) : Value → Option V
  | .some c => some (m.content c)
  | _ => none

def equal (m : Meaning V) (a b : Option V) : Bool :=
  m.isTrue (m.binary ⟨["="]⟩ a b)

end Meaning

abbrev Fields (V : Type) := List (Field × Option V)

/-- The rows that an expression can refer to, from the inside out. -/
abbrev Sight (V : Type) := List (Fields V)

/-- Where an expression is evaluated: at a row, and at the rows that aggregates range over. -/
structure Moment (V : Type) where
  sight : Sight V
  group : List (Sight V)

namespace Moment

variable {V : Type}

def ofSight (sight : Sight V) : Moment V := ⟨sight, [sight]⟩

/-- The cell of the first field, from the inside out, that the column refers to. -/
def cell (mo : Moment V) (c : ColumnRef) : Option V :=
  (mo.sight.findSome? fun fields => fields.find? fun f => f.1.isNamedBy c).bind Prod.snd

def cells (mo : Moment V) : List (Option V) :=
  (mo.sight.headD []).map Prod.snd

end Moment

namespace Expr

def isAggregateName (name : String) : Bool :=
  ["count", "sum", "avg", "min", "max"].contains (Text.asciiLowercase name)

end Expr

mutual

/-- Whether an aggregate is called in an expression.  Those of a nested select are its own. -/
def Expr.aggregates : Expr → Bool
  | .column _ => false
  | .parameter _ => false
  | .literal _ => false
  | .unary _ operand _ _ => operand.aggregates
  | .binary left _ right _ => left.aggregates || right.aggregates
  | .ternary first _ second _ third _ =>
      first.aggregates || second.aggregates || third.aggregates
  | .function name args _ _ => Expr.isAggregateName name || Expr.aggregatesAny args
  | .case operand branches otherwise _ =>
      Expr.aggregatesOption operand || Expr.aggregatesBranches branches ||
        Expr.aggregatesOption otherwise
  | .inList operand values _ => operand.aggregates || Expr.aggregatesAny values
  | .inQuery operand _ _ => operand.aggregates
  | .tuple elements => Expr.aggregatesAny elements
  | .select _ => false

def Operand.aggregates : Operand → Bool
  | ⟨e, _⟩ => e.aggregates

def Expr.aggregatesAny : List Expr → Bool
  | [] => false
  | e :: es => e.aggregates || Expr.aggregatesAny es

def Expr.aggregatesOption : Option Expr → Bool
  | none => false
  | some e => e.aggregates

def Expr.aggregatesBranches : List (Expr × Expr) → Bool
  | [] => false
  | (condition, result) :: rest =>
      condition.aggregates || result.aggregates || Expr.aggregatesBranches rest

end

def SelectItem.name? (item : SelectItem) : Option String :=
  item.label.or
    (match item.expression with
    | .column c => some c.name
    | _ => none)

def TableRef.ofAlias (aliasName : String) : TableRef :=
  (TableRef.mk aliasName none none).aliased aliasName

mutual

def Source.fields : Source → List Field
  | .table _ cs => cs.map .ofColumn
  | .join _ left right _ => left.fields ++ right.fields
  | .derived q aliasName => q.names.map fun name => ⟨some (.ofAlias aliasName), name⟩

def Source.optionFields : Option Source → List Field
  | none => []
  | some source => source.fields

def Select.names : Select → List (Option String)
  | ⟨items, source, _, _, _, _, _, _, _⟩ =>
      if items.isEmpty then (Source.optionFields source).map Field.name
      else items.map SelectItem.name?

def Query.names : Query → List (Option String)
  | .select query => query.names
  | .union query => query.names

def Union.names : Union → List (Option String)
  | ⟨left, _, _, _, _, _, _⟩ => left.names

end

section

variable {α β V : Type}

/-- The elements at which `f` takes a value for the first time. -/
def firstsBy [DecidableEq β] (f : α → β) : List α → List α
  | [] => []
  | a :: as => a :: (firstsBy f as).filter fun b => f b ≠ f a

def page (limit offset : Option Nat) (rows : List α) : List α :=
  let rest := rows.drop (offset.getD 0)
  match limit with
  | some n => rest.take n
  | none => rest

namespace JoinKind

/-- Pairs of rows that `on` lets pass; an outer join keeps rows that are in no pair. -/
def rows (kind : JoinKind) (on : List α → Bool) (nullsLeft nullsRight : List α)
    (left right : List (List α)) : List (List α) :=
  let pairs := left.flatMap fun l => (right.map (l ++ ·)).filter on
  let unpairedLeft := (left.filter fun l => right.all fun r => !on (l ++ r)).map (· ++ nullsRight)
  let unpairedRight := (right.filter fun r => left.all fun l => !on (l ++ r)).map (nullsLeft ++ ·)
  match kind with
  | .inner | .cross => pairs
  | .left => pairs ++ unpairedLeft
  | .right => pairs ++ unpairedRight
  | .full => pairs ++ unpairedLeft ++ unpairedRight

end JoinKind

/-- A select whose expressions have got their meaning. -/
structure Selection (V : Type) where
  sights : List (Sight V)
  nulls : Sight V
  filter : Moment V → Bool
  keys : Option (Moment V → List (Option V))
  /-- Whether all rows are one group where they are not grouped by anything. -/
  isFolded : Bool
  having : Moment V → Bool
  project : Moment V → List (Option V)
  distinct : Bool
  precedes : Moment V → Moment V → Bool
  limit : Option Nat
  offset : Option Nat

namespace Selection

def kept (p : Selection V) : List (Sight V) :=
  p.sights.filter fun sight => p.filter (.ofSight sight)

/-- The moments at which rows are made, in the order of the source. -/
def moments [DecidableEq V] (p : Selection V) : List (Moment V) :=
  let groups : List (Moment V) :=
    match p.keys with
    | some keys =>
        let key (sight : Sight V) := keys (.ofSight sight)
        (firstsBy key p.kept).map fun first => ⟨first, p.kept.filter fun s => key s = key first⟩
    | none => if p.isFolded then [⟨p.kept.headD p.nulls, p.kept⟩] else p.kept.map .ofSight
  groups.filter p.having

def rows [DecidableEq V] (p : Selection V) : List (List (Option V)) :=
  let shown := if p.distinct then firstsBy p.project p.moments else p.moments
  page p.limit p.offset ((shown.insertionSort fun a b => p.precedes a b).map p.project)

end Selection

variable [DecidableEq V]

mutual

def Expr.value (m : Meaning V) : Expr → Moment V → Option V
  | .column c, mo => mo.cell c
  | .parameter p, _ => m.value p.value
  | .literal v, _ => m.value v
  | .unary op operand postfixed _, mo => m.unary op postfixed (operand.value m mo)
  | .binary left op right _, mo => m.binary op (left.value m mo) (right.value m mo)
  | .ternary first op second op2 third _, mo =>
      m.ternary op op2 (first.value m mo) (second.value m mo) (third.value m mo)
  | .function name args _ _, mo =>
      if Expr.isAggregateName name then
        let rows := mo.group.map fun sight => Expr.values m args (.ofSight sight)
        if Text.asciiLowercase name = "count" then
          some (m.count (rows.countP fun row => row.all Option.isSome))
        else m.fold (Text.asciiLowercase name) rows
      else m.call name (Expr.given m args mo)
  | .case operand branches otherwise _, mo =>
      let test := match operand with
        | none => m.isTrue
        | some e => m.equal (e.value m mo)
      (Expr.chosen m branches test mo).getD (Expr.optionValue m otherwise mo)
  | .inList operand values negated, mo =>
      m.membership negated (operand.value m mo) ((Expr.values m values mo).map fun cell => [cell])
  | .inQuery operand query negated, mo =>
      m.membership negated (operand.value m mo) (query.rows m mo.sight)
  | .tuple elements, mo =>
      match Expr.values m elements mo with
      | [cell] => cell
      | cells => m.tuple cells
  | .select query, mo => ((query.rows m mo.sight).headD []).headD none

def Operand.value (m : Meaning V) : Operand → Moment V → Option V
  | ⟨e, _⟩, mo => e.value m mo

def Expr.values (m : Meaning V) : List Expr → Moment V → List (Option V)
  | [], _ => []
  | e :: es, mo => e.value m mo :: Expr.values m es mo

def Expr.given (m : Meaning V) : List Expr → Moment V → List (Given V)
  | [], _ => []
  | .select query :: es, mo => .rows (query.rows m mo.sight) :: Expr.given m es mo
  | e :: es, mo => .cell (e.value m mo) :: Expr.given m es mo

def Expr.optionValue (m : Meaning V) : Option Expr → Moment V → Option V
  | none, _ => none
  | some e, mo => e.value m mo

def Expr.holds (m : Meaning V) : Option Expr → Moment V → Bool
  | none, _ => true
  | some e, mo => m.isTrue (e.value m mo)

def Expr.chosen (m : Meaning V) : List (Expr × Expr) → (Option V → Bool) → Moment V →
    Option (Option V)
  | [], _, _ => none
  | (condition, result) :: rest, test, mo =>
      if test (condition.value m mo) then some (result.value m mo) else Expr.chosen m rest test mo

def SelectItem.values (m : Meaning V) : List SelectItem → Moment V → List (Option V)
  | [], _ => []
  | ⟨e, _⟩ :: rest, mo => e.value m mo :: SelectItem.values m rest mo

def OrderBy.precedes (m : Meaning V) : List OrderBy → Moment V → Moment V → Bool
  | [], _, _ => true
  | ⟨e, descending⟩ :: rest, a, b =>
      let before := if descending then m.precedes (e.value m b) (e.value m a)
        else m.precedes (e.value m a) (e.value m b)
      let after := if descending then m.precedes (e.value m a) (e.value m b)
        else m.precedes (e.value m b) (e.value m a)
      before && (!after || OrderBy.precedes m rest a b)

def Select.rows (m : Meaning V) : Select → Sight V → List (List (Option V))
  | ⟨items, source, filter, distinct, groupBy, having, orderBy, limit, offset⟩, outer =>
      let fields := Source.optionFields source
      Selection.rows {
        sights := (Source.optionRows m source outer).map fun row => fields.zip row :: outer
        nulls := fields.map (·, none) :: outer
        filter := Expr.holds m filter
        keys := if groupBy.isEmpty then none else some (Expr.values m groupBy)
        isFolded := having.isSome || items.any (·.expression.aggregates) ||
          orderBy.any (·.expression.aggregates)
        having := Expr.holds m having
        project := if items.isEmpty then Moment.cells else SelectItem.values m items
        distinct, precedes := OrderBy.precedes m orderBy, limit, offset }

/-- Without a source there is one row, which has no fields. -/
def Source.optionRows (m : Meaning V) : Option Source → Sight V → List (List (Option V))
  | none, _ => [[]]
  | some source, outer => source.rows m outer

def Source.rows (m : Meaning V) : Source → Sight V → List (List (Option V))
  | .table t cs, _ => (m.rows t.schema t.name).map fun row => cs.map fun c => row c.name
  | .join kind left right on, outer =>
      let fields := left.fields ++ right.fields
      kind.rows (fun row => Expr.holds m on (.ofSight (fields.zip row :: outer)))
        (left.fields.map fun _ => none) (right.fields.map fun _ => none)
        (left.rows m outer) (right.rows m outer)
  | .derived query _, outer => query.rows m outer

def Query.rows (m : Meaning V) : Query → Sight V → List (List (Option V))
  | .select query, outer => query.rows m outer
  | .union query, outer => query.rows m outer

/-- The rows of a union.  It is ordered by its own fields, which go by their names. -/
def Union.rows (m : Meaning V) : Union → Sight V → List (List (Option V))
  | ⟨left, right, all, _, orderBy, limit, offset⟩, outer =>
      let both := left.rows m outer ++ right.rows m outer
      let rows := if all then both else firstsBy id both
      let fields := left.names.map (Field.mk none)
      let moment (row : List (Option V)) := Moment.ofSight [fields.zip row]
      page limit offset
        (rows.insertionSort fun a b => OrderBy.precedes m orderBy (moment a) (moment b))

end

namespace Select

def selection (m : Meaning V) (s : Select) (outer : Sight V) : Selection V where
  sights := (Source.optionRows m s.source outer).map fun row =>
    (Source.optionFields s.source).zip row :: outer
  nulls := (Source.optionFields s.source).map (·, none) :: outer
  filter := Expr.holds m s.filter
  keys := if s.groupBy.isEmpty then none else some (Expr.values m s.groupBy)
  isFolded := s.having.isSome || s.items.any (·.expression.aggregates) ||
    s.orderBy.any (·.expression.aggregates)
  having := Expr.holds m s.having
  project := if s.items.isEmpty then Moment.cells else SelectItem.values m s.items
  distinct := s.distinct
  precedes := OrderBy.precedes m s.orderBy
  limit := s.limit
  offset := s.offset

theorem rows_eq (m : Meaning V) (s : Select) (outer : Sight V) :
    s.rows m outer = (s.selection m outer).rows := by
  cases s
  rw [Select.rows]
  rfl

theorem project_of_star {m : Meaning V} {s : Select} {outer : Sight V}
    (h : s.items.isEmpty = true) : (s.selection m outer).project = Moment.cells :=
  if_pos h

theorem project_of_items {m : Meaning V} {s : Select} {outer : Sight V}
    (h : s.items.isEmpty = false) :
    (s.selection m outer).project = SelectItem.values m s.items :=
  if_neg (by simp [h])

end Select

@[simp] theorem page_none (rows : List α) : page none none rows = rows := by
  simp [page]

theorem Expr.value_countAll (m : Meaning V) (mo : Moment V) :
    Expr.countAll.value m mo = some (m.count mo.group.length) := by
  have hlower : Text.asciiLowercase "count" = "count" := by decide
  simp only [Expr.countAll, Expr.call, Expr.value, Expr.isAggregateName, hlower, Expr.values]
  simp [Meaning.value, List.countP_replicate]

end

def guest : ColumnRef where
  table := { name := "stays" }
  name := "guest"
  codec := .ofType (.integer .int64)

/-- A store of three stays, two of them of one guest.  Cells are told apart by numbers. -/
def threeStays : Meaning Nat where
  rows _ _ := [fun _ => some 1, fun _ => some 1, fun _ => some 2]
  content _ := 0
  count n := n
  isTrue cell := cell == some 1
  precedes a b := a.getD 0 ≤ b.getD 0
  unary _ _ cell := cell
  binary _ a b := if a = b then some 1 else none
  ternary _ _ _ _ _ := none
  call _ _ := none
  fold _ _ := none
  membership _ cell rows := if [cell] ∈ rows then some 1 else none
  tuple _ := none

end TypedSql
